import LspHost.Proofs.Reading
import LspHost.Proofs.Writing

/-!
# Releasing a process

A lifecycle operation makes a process exit and lets go of it. Once its input is closed nothing more is
written to it, and a process that can be killed has exited when `dismiss` ends (`wp_dismiss`). Letting go
fails only if the task that empties the error output had failed before, with a line that is too long
(`wp_disconnect`, `wp_kill`).
-/

namespace LspHost

open Discipline

variable {α : Type} {σ : Setting} {t i j : Nat} {γ γ' : Ghost} {s s' : World}

/-! ## Closing the input -/

namespace Server

/-- Nothing that a process does opens its input again. -/
theorem inputClosed_act (trigger : Trigger) (a : Action) (x : Living) :
    (act trigger a x).2.inputClosed = x.2.inputClosed := by
  obtain ⟨l, p⟩ := x
  cases a <;> rfl

theorem inputClosed_perform (id : Nat) (trigger : Trigger) (actions : List Action) (x : Living) :
    (perform id trigger actions x).2.inputClosed = x.2.inputClosed := by
  induction actions generalizing x with
  | nil => rfl
  | cons a rest ih =>
    obtain ⟨l, p⟩ := x
    have goesOn (h : perform id trigger (a :: rest) (l, p) =
        if p.isAlive then perform id trigger rest (act trigger a (l, p)) else (l, p)) :
        (perform id trigger (a :: rest) (l, p)).2.inputClosed = p.inputClosed := by
      rw [h]
      split
      · rw [ih, inputClosed_act]
      · rfl
    cases a with
    | delay time =>
      simp only [perform]
      split <;> rfl
    | _ => exact goesOn rfl

theorem deaf_closeInput (id : Nat) (x : Living) : (closeInput id x).2.isListening = false := by
  obtain ⟨l, p⟩ := x
  have closed : (closeInput id (l, p)).2.inputClosed = true := by
    simp only [closeInput]
    split
    · next closed => exact closed
    · rw [inputClosed_perform]
  simp [isListening, closed]

end Server

/-- A lifecycle operation is about to release the process of a transport; it may have written the exit. -/
structure Departs (σ : Setting) (t i : Nat) (γ : Ghost) (s : World) : Prop where
  inv : Inv σ (some t) γ s
  tongue : γ.tongue = fun _ => []
  newborn : γ.newborn = none
  parting : γ.parting = none ∨ γ.parting = some i ∧ s.overview.serverOf? i ≠ none

theorem Poised.departs (h : Poised σ t γ s) : Departs σ t i γ s :=
  ⟨h.inv, h.ease.tongue, h.ease.newborn, .inl h.ease.parting⟩

/-- Once nothing can be written any more the parting is over. -/
theorem Departs.done (h : Departs σ t i γ s) (deaf : ¬ s.overview.Listening i) :
    Poised σ t { γ with parting := none } s := by
  refine ⟨?_, h.tongue, h.newborn, rfl⟩
  have aside : Aside (γ, s) ({ γ with parting := none }, s) :=
    ⟨rfl, rfl, rfl, fun _ => rfl, rfl, rfl, rfl, rfl⟩
  refine aside.inv h.inv h.inv.tickets.pending { h.inv.life with } h.inv.order { h.inv.mirror with } ?_
  intro n k q _ hn hq listens ended
  by_cases e : n = i
  · subst e; exact absurd ⟨k, q, hn, hq, listens⟩ deaf
  · refine h.inv.closed n k q (fun apart => ?_) hn hq listens ended
    rcases h.parting with none | ⟨some, -⟩
    · rw [none] at apart; cases apart
    · rw [some] at apart; exact e (Option.some.inj apart).symm

/-- Nobody minds when a parting is over. -/
theorem rely_parting (u : Nat) (γ : Ghost) (s : World) :
    Rely u (γ, s) ({ γ with parting := none }, s) := { Rely.refl u (γ, s) with }

theorem World.withServer_live {p : Server} (f : Living → Living) (found : s.servers[j]? = some p) :
    s.withServer j f = s.live j (f (s.loop, p)) := by
  simp only [World.withServer, found]
  rfl

/-- After the input is closed nothing is written any more. -/
theorem wp_closeInput (h : Departs σ t i γ s) :
    (discipline σ).wp t (Transport.closeInput i)
      (fun r γ' s' => r = .ok () ∧ Poised σ t γ' s' ∧ Rely t (γ, s) (γ', s') ∧
        ¬ s'.overview.Listening i) γ s := by
  refine Wp.look ?_
  rcases server : s.serverOf? i with _ | j
  · have unheld : s.overview.serverOf? i = none := by rw [World.overview_serverOf?, server]
    have parting : γ.parting = none := h.parting.elim (fun e => e) fun e => absurd unheld e.2
    refine ⟨rfl, ⟨h.inv, h.tongue, h.newborn, parting⟩, .refl t _, ?_⟩
    rintro ⟨k, q, hk, -⟩
    rw [unheld] at hk
    cases hk
  · have held : s.overview.serverOf? i = some j := by rw [World.overview_serverOf?, server]
    have bound : j < s.servers.length := by
      simpa [World.overview] using h.inv.life.owned i j held
    have found : s.servers[j]? = some s.servers[j] := List.getElem?_eq_getElem bound
    generalize s.servers[j] = p at found
    have quiet := quiet_withServer (j := j) h.inv (quiet_closeInput j)
    have deaf : ¬ (s.withServer j (Server.closeInput j)).overview.Listening i := by
      rintro ⟨k, q, hk, hq, listens⟩
      rw [World.withServer_live _ found] at hk hq
      rw [World.overview_live] at hk hq
      obtain rfl : j = k := Option.some.inj (held.symm.trans hk)
      have place : j < s.overview.processes.length := by simpa [World.overview] using bound
      have hq : (Server.closeInput j (s.loop, p)).2.shown = q := by
        simpa only [List.getElem?_set_self place, Option.some.injEq] using hq
      have listens : (Server.closeInput j (s.loop, p)).2.isListening = true := by
        rw [← hq] at listens; exact listens
      rw [Server.deaf_closeInput] at listens
      cases listens
    have departs : Departs σ t i γ (s.withServer j (Server.closeInput j)) := by
      refine ⟨quiet.inv, h.tongue, h.newborn, h.parting.imp_right fun e => ⟨e.1, ?_⟩⟩
      rw [World.withServer_live _ found]
      rw [World.overview_live]
      exact e.2
    have rely (u : Nat) := (quiet.rely u).trans (rely_parting u γ (s.withServer j (Server.closeInput j)))
    exact wp_update _ (fun u _ => rely u) ⟨rfl, departs.done deaf, rely t, deaf⟩

/-! ## Waiting for the exit -/

theorem Overview.Dead.keeps {a b : Ghost × World} (keeps : Keeps a b) (h : a.2.overview.Dead j) :
    b.2.overview.Dead j := by
  obtain ⟨p, hp, dead⟩ := h
  obtain ⟨p', hp', -, -, alive, -⟩ := keeps.processes j p hp
  refine ⟨p', hp', ?_⟩
  rcases e : p'.alive with _ | _
  · rfl
  · rw [alive e] at dead; exact dead

theorem Keeps.servers {a b : Ghost × World} (keeps : Keeps a b) (h : j < a.2.servers.length) :
    j < b.2.servers.length := by
  have found : a.2.overview.processes[j]? = some a.2.servers[j].shown := by
    simp [World.overview, h]
  obtain ⟨p', hp', -⟩ := keeps.processes j _ found
  simpa [World.overview] using (List.getElem?_eq_some_iff.mp hp').1

/-- Starting to watch a process. -/
theorem wp_startWatch (poised : Poised σ t γ s) (bound : j < s.servers.length) :
    (discipline σ).wp t (Act.start (.exitWatch j))
      (Begins σ t (fun ρ => ∃ u, ρ = .ending u (.exitWatch j) (some t)) γ s) γ s := by
  have started := quiet_start poised.inv (κ := .exitWatch j) (some t) trivial (fun _ e => by cases e)
    fun k e => by
      rcases e with e | e
      · cases e
      · cases e; exact bound
  have ending : (s.loop.start (.exitWatch j)).2.ending? s.loop.tasks.length = some s.loop.tickets.length :=
    Loop.ending?_start ..
  have role : (γ.assign s.loop.tickets.length
      (.ending s.loop.tasks.length (.exitWatch j) (some t))).role s.loop.tickets.length =
      .ending s.loop.tasks.length (.exitWatch j) (some t) := Ghost.assign_role_self ..
  refine ⟨_, started.spares, s.loop.tickets.length, ?_, ⟨_, role⟩, ⟨?_, ?_, ?_⟩,
    started.poised poised.ease, (started.rely t).toMute⟩
  · show Except.ok (((s.loop.start (.exitWatch j)).2.ending? (s.loop.start (.exitWatch j)).1).getD 0) = _
    rw [show (s.loop.start (.exitWatch j)).1 = s.loop.tasks.length from rfl, ending]
    rfl
  · rw [role]; exact rfl
  · intro e
    rw [role] at e
    cases e
  · intro u κ keeper e
    rw [role] at e
    cases e
    -- A task that has only just been started was not cancelled.
    rcases doomed : γ.doomed s.loop.tasks.length with _ | _
    · exact doomed
    · obtain ⟨κ, kind, -⟩ := poised.inv.tasks.background _ doomed
      obtain ⟨T, found, -⟩ := Option.map_eq_some_iff.mp kind
      exact absurd (List.getElem?_eq_some_iff.mp found).1 (Nat.lt_irrefl _)

/-- Waiting for the exit at most for some time: either it has come, or not. -/
theorem wp_wait (poised : Poised σ t γ s) (fore : Foreground t s) (time : Seconds) :
    (discipline σ).wp t (Transport.wait i time)
      (fun r γ' s' => ∃ b, r = .ok b ∧ Poised σ t γ' s' ∧ Mute t (γ, s) (γ', s') ∧
        (b = true → ∀ j, s.overview.serverOf? i = some j → s'.overview.Dead j)) γ s := by
  refine Wp.look ?_
  simp only [World.overview_serverOf?]
  rcases server : s.serverOf? i with _ | j
  · exact ⟨true, rfl, poised, .refl t _, fun _ _ e => by cases e⟩
  · have bound : j < s.servers.length := by
      simpa [World.overview] using poised.inv.life.owned i j (by rw [World.overview_serverOf?, server])
    refine Wp.attempt_seq (wp_waitFor poised fore time fun γ₁ s₁ poised₁ rely₁ =>
      wp_startWatch poised₁ (rely₁.servers bound)) ?_
    rintro r γ₁ s₁ ⟨⟨k, ⟨u, role⟩, answers⟩, poised₁, mute⟩
    cases r with
    | ok v =>
      refine ⟨true, rfl, poised₁, mute, fun _ j' e => ?_⟩
      cases e
      have fits : Fits γ₁ s₁ (γ₁.role k) (.ok v) := answers
      rw [role] at fits
      exact fits.2.2.1 v rfl
    | error f =>
      rcases answers with rfl | ⟨⟨_, e⟩, -⟩
      · exact ⟨false, rfl, poised₁, mute, fun e => by cases e⟩
      · rw [role] at e; cases e

/-! ## Signals -/

/-- A transport that holds a process has no doubt about it. -/
theorem wp_held {use : String} {β : Type} {g : Nat → Act β} {Q : Except Fault β → Ghost → World → Prop}
    (server : s.overview.serverOf? i = some j) (next : (discipline σ).wp t (g j) Q γ s) :
    (discipline σ).wp t (Transport.heldServer i use >>= g) Q γ s := by
  refine Wp.bind (wp_heldServer (fun k e => ?_) fun e => ?_)
  all_goals rw [server] at e
  · obtain rfl := Option.some.inj e
    exact next
  · cases e

theorem quiet_signal (t : Option Nat) (j : Nat) (sig : Signal) :
    Quietly σ t γ j fun x => (Server.signal sig x).2 := by
  intro s p inv found
  have same : Quiet σ t (γ, s) (γ, s.live j (s.loop, p)) := by
    rw [World.live_same _ found]; exact .refl inv
  dsimp only [Server.signal]
  split
  · exact quiet_exit j _ s p inv found
  · exact same
  · exact same

namespace Server

/-- A process that is killed has exited, if killing works. -/
theorem dead_kill (x : Living) (obeys : x.2.script.onKill = .obeys) :
    (signal .kill x).2.2.isAlive = false := by
  obtain ⟨l, p⟩ := x
  have obeys : p.script.onKill = .obeys := obeys
  rcases alive : p.isAlive with _ | _
  · simp [signal, alive]
  · simp only [signal, alive, reactionTo, obeys]
    rfl

/-- A process that is not found has exited, if it can be found while it lives. -/
theorem dead_unfound {sig : Signal} (x : Living) (found : x.2.reactionTo sig ≠ .gone)
    (unfound : (signal sig x).1 = false) : (signal sig x).2.2.isAlive = false := by
  obtain ⟨l, p⟩ := x
  have found : p.reactionTo sig ≠ .gone := found
  rcases alive : p.isAlive with _ | _
  · simp [signal, alive]
  · rcases reaction : p.reactionTo sig with _ | _ | _
    · simp [signal, alive, reaction] at unfound
    · simp [signal, alive, reaction] at unfound
    · exact absurd reaction found

end Server

/-- Signalling a process: one that can be killed is dead after that, and one that is not found, too. -/
theorem wp_signal (poised : Poised σ t γ s) (server : s.overview.serverOf? i = some j) (sig : Signal) :
    (discipline σ).wp t (Transport.signal i sig)
      (fun r γ' s' => ∃ b, r = .ok b ∧ Poised σ t γ' s' ∧ Rely t (γ, s) (γ', s') ∧
        (σ.Tame → sig = .kill ∨ b = false → s'.overview.Dead j)) γ s := by
  have bound : j < s.servers.length := by
    simpa [World.overview] using poised.inv.life.owned i j server
  have found : s.servers[j]? = some s.servers[j] := List.getElem?_eq_getElem bound
  generalize s.servers[j] = p at found
  refine wp_held server ?_
  obtain ⟨after, e⟩ : ∃ after, Server.signal sig (s.loop, p) = after := ⟨_, rfl⟩
  have recorded := quiet_record poised.inv (.signalled after.2.2.pid sig)
    (by rw [World.mail_record]; exact List.append_nil _)
  have quiet : Quiet σ (some t) (γ, s)
      (γ, (s.record (.signalled after.2.2.pid sig)).live j after.2) := by
    rw [← e]
    exact (e ▸ recorded).trans (quiet_signal (some t) j sig _ p (e ▸ recorded.inv) found)
  have dead (h : after.2.2.isAlive = false) :
      ((s.record (.signalled after.2.2.pid sig)).live j after.2).overview.Dead j := by
    refine ⟨after.2.2.shown, ?_, h⟩
    show ((s.record (.signalled after.2.2.pid sig)).live j
      (after.2.1, after.2.2)).overview.processes[j]? = _
    rw [World.overview_live, List.getElem?_set_self]
    show j < (s.servers.map Server.shown).length
    simpa using bound
  refine wp_yieldEnds γ ?_ ?_
  all_goals simp only [found, e]
  · exact quiet.spares
  · refine ⟨_, rfl, quiet.poised poised.ease, quiet.rely t, fun tame end' => dead ?_⟩
    have script : p.script.Tame :=
      poised.inv.life.tame tame p.shown (List.mem_map_of_mem (List.mem_of_getElem? found))
    subst e
    rcases end' with rfl | unfound
    · exact Server.dead_kill _ script.1
    · refine Server.dead_unfound _ ?_ unfound
      cases sig with
      | terminate => exact script.2
      | kill => show p.script.onKill ≠ .gone; rw [script.1]; exact fun e => by cases e

/-! ## Making a process exit -/

/-- Nothing reaches the process of a transport any more, and nothing else has been said or done. -/
structure Deafened (σ : Setting) (t i : Nat) (a b : Ghost × World) : Prop where
  poised : Poised σ t b.1 b.2
  mute : Mute t a b
  deaf : ¬ b.2.overview.Listening i

/-- Who holds the lifecycle lock finds a process deaf that was. -/
theorem Mute.deaf {a b : Ghost × World} (mute : Mute t a b) (held : a.1.holder .lifecycle = some t)
    (deaf : ¬ a.2.overview.Listening i) : ¬ b.2.overview.Listening i := by
  rintro ⟨k, q', hk, hq', listens⟩
  have hk₀ : a.2.overview.serverOf? i = some k := by
    simpa only [Overview.serverOf?, (mute.life held).holds] using hk
  have bound : k < a.2.overview.processes.length := by
    rw [← (mute.life held).processes]; exact (List.getElem?_eq_some_iff.mp hq').1
  obtain ⟨p, hp, -, -, -, listened⟩ := mute.processes k _ (List.getElem?_eq_getElem bound)
  obtain rfl : p = q' := Option.some.inj (hp.symm.trans hq')
  exact deaf ⟨k, _, hk₀, List.getElem?_eq_getElem bound, listened listens⟩

theorem Deafened.further {a b c : Ghost × World} (h : Deafened σ t i a b)
    (held : a.1.holder .lifecycle = some t) (mute : Mute t b c) (poised : Poised σ t c.1 c.2) :
    Deafened σ t i a c :=
  ⟨poised, h.mute.trans mute, mute.deaf ((h.mute.holder _).mp held) h.deaf⟩

theorem Mute.serverOf? {a b : Ghost × World} (mute : Mute t a b)
    (held : a.1.holder .lifecycle = some t) (n : Nat) :
    b.2.overview.serverOf? n = a.2.overview.serverOf? n := by
  simp only [Overview.serverOf?, (mute.life held).holds]

/-- Making a process exit: one that can be killed has exited in the end. -/
theorem wp_dismiss (h : Departs σ t i γ s) (held : γ.holder .lifecycle = some t) (fore : Foreground t s)
    (server : s.overview.serverOf? i = some j) (time : Seconds) {exited : Bool}
    (ended : exited = true → s.overview.Dead j) :
    (discipline σ).wp t (Transport.dismiss i time exited)
      (fun r γ' s' => ∃ b, r = .ok b ∧ Deafened σ t i (γ, s) (γ', s') ∧
        (σ.Tame → s'.overview.Dead j)) γ s := by
  have same {γ' : Ghost} {s' : World} (deafened : Deafened σ t i (γ, s) (γ', s')) :
      s'.overview.serverOf? i = some j := (deafened.mute.serverOf? held i).trans server
  refine Wp.seq (wp_closeInput h) ?_ (by rintro _ _ _ ⟨e, -⟩; cases e)
  rintro _ γ₁ s₁ ⟨-, poised₁, rely₁, deaf₁⟩
  have deafened₁ : Deafened σ t i (γ, s) (γ₁, s₁) := ⟨poised₁, rely₁.toMute, deaf₁⟩
  split
  · next exited => exact ⟨true, rfl, deafened₁, fun _ => (ended exited).keeps rely₁.toKeeps⟩
  refine Wp.seq (wp_wait poised₁ (fore.grow rely₁.loop) time) ?_ (by rintro _ _ _ ⟨_, e, -⟩; cases e)
  rintro _ γ₂ s₂ ⟨b₂, e, poised₂, mute₂, dead₂⟩
  cases e
  have deafened₂ := deafened₁.further held mute₂ poised₂
  split
  · next exits => exact ⟨true, rfl, deafened₂, fun _ => dead₂ exits j (same deafened₁)⟩
  refine wp_held (same deafened₂) (Wp.seq (wp_signal poised₂ (same deafened₂) .terminate) ?_
    (by rintro _ _ _ ⟨_, e, -⟩; cases e))
  rintro _ γ₃ s₃ ⟨b₃, e, poised₃, rely₃, dead₃⟩
  cases e
  have deafened₃ := deafened₂.further held rely₃.toMute poised₃
  split
  · refine Wp.seq (wp_wait poised₃ (fore.grow deafened₃.mute.loop) _) ?_
      (by rintro _ _ _ ⟨_, e, -⟩; cases e)
    rintro _ γ₄ s₄ ⟨b₄, e, poised₄, mute₄, dead₄⟩
    cases e
    have deafened₄ := deafened₃.further held mute₄ poised₄
    split
    · refine Wp.seq (wp_signal poised₄ (same deafened₄) .kill) ?_
        (by rintro _ _ _ ⟨_, e, -⟩; cases e)
      rintro _ γ₅ s₅ ⟨b₅, e, poised₅, rely₅, dead₅⟩
      cases e
      have deafened₅ := deafened₄.further held rely₅.toMute poised₅
      have dead₅ (tame : σ.Tame) : s₅.overview.Dead j := dead₅ tame (.inl rfl)
      split
      · refine Wp.seq (wp_wait poised₅ (fore.grow deafened₅.mute.loop) _) ?_
          (by rintro _ _ _ ⟨_, e, -⟩; cases e)
        rintro _ γ₆ s₆ ⟨b₆, e, poised₆, mute₆, -⟩
        exact ⟨false, rfl, deafened₅.further held mute₆ poised₆,
          fun tame => (dead₅ tame).keeps mute₆.toKeeps⟩
      · exact ⟨false, rfl, deafened₅, dead₅⟩
    · next exits =>
      refine ⟨false, rfl, deafened₄, fun _ => dead₄ ?_ j (same deafened₃)⟩
      simpa using exits
  · next unfound =>
    refine ⟨false, rfl, deafened₃, fun tame => dead₃ tame (.inr ?_)⟩
    simpa using unfound

/-! ## Letting go -/

/-- The states of a session that is being closed, or is closed. -/
def SessionState.IsLeaving (st : SessionState) : Prop := st = .shuttingDown ∨ st = .closed

/-- A session is being closed, or it is closed. -/
def Overview.Leaving (v : Overview) (session : Nat) : Prop :=
  ∃ st, v.state? session = some st ∧ st.IsLeaving

/-- What the holder of the lifecycle lock does to transports and sessions that are there. -/
structure Manages (t : Nat) (a b : Ghost × World) : Prop extends Keeps a b where
  holder : ∀ p, a.1.holder p = some t ↔ b.1.holder p = some t
  session : b.2.overview.session = a.2.overview.session
  holds : b.2.overview.holds.length = a.2.overview.holds.length
  leaving : ∀ n, a.2.overview.Leaving n → b.2.overview.Leaving n

/-- What it does to a transport that it may let go of. -/
structure Tends (t i : Nat) (a b : Ghost × World) : Prop extends Manages t a b where
  gives : ∀ j, b.2.overview.serverOf? i = some j → a.2.overview.serverOf? i = some j

theorem Minds.manages {a b : Ghost × World} (h : Minds t a b)
    (held : a.1.holder .lifecycle = some t) : Manages t a b where
  toKeeps := h.toKeeps
  holder := h.holder
  session := (h.life held).session
  holds := by rw [(h.life held).holds]
  leaving n e := by simpa only [Overview.Leaving, Overview.state?, (h.life held).seats] using e

theorem Minds.tends {a b : Ghost × World} (h : Minds t a b) (held : a.1.holder .lifecycle = some t) :
    Tends t i a b where
  toManages := h.manages held
  gives j e := by simpa only [Overview.serverOf?, (h.life held).holds] using e

theorem Manages.trans {a b c : Ghost × World} (h : Manages t a b) (h' : Manages t b c) :
    Manages t a c where
  toKeeps := h.toKeeps.trans h'.toKeeps
  holder p := (h.holder p).trans (h'.holder p)
  session := h'.session.trans h.session
  holds := h'.holds.trans h.holds
  leaving n e := h'.leaving n (h.leaving n e)

theorem Tends.trans {a b c : Ghost × World} (h : Tends t i a b) (h' : Tends t i b c) :
    Tends t i a c where
  toManages := h.toManages.trans h'.toManages
  gives j e := h.gives j (h'.gives j e)

/-- A process that takes nothing more is not made to listen again. -/
theorem Tends.deaf {a b : Ghost × World} (h : Tends t i a b) (deaf : ¬ a.2.overview.Listening i)
    (owned : ∀ j, a.2.overview.serverOf? i = some j → j < a.2.overview.processes.length) :
    ¬ b.2.overview.Listening i := by
  rintro ⟨k, q', hk, hq', listens⟩
  have hk₀ := h.gives k hk
  obtain ⟨p, hp, -, -, -, listened⟩ := h.processes k _ (List.getElem?_eq_getElem (owned k hk₀))
  obtain rfl : p = q' := Option.some.inj (hp.symm.trans hq')
  exact deaf ⟨k, _, hk₀, List.getElem?_eq_getElem (owned k hk₀), listened listens⟩

theorem World.overview_setTransport {f : Transport → Transport} {g : Hold → Hold}
    (hold : ∀ x, (f x).hold = g x.hold) :
    (s.setTransport i f).overview = { s.overview with holds := s.overview.holds.modify i g } := by
  have holds : (s.transports.modify i f).map Transport.hold =
      (s.transports.map Transport.hold).modify i g := by
    refine List.ext_getElem? fun n => ?_
    simp only [List.getElem?_map, List.getElem?_modify]
    rcases s.transports[n]? with _ | x
    · rfl
    · by_cases e : i = n <;> simp [e, hold]
  simp only [World.overview, World.setTransport, holds]
  rfl

/-- Changes of what a transport holds leave its lock alone. -/
theorem aside_setTransport {f : Transport → Transport} (writing : ∀ x, (f x).writing = x.writing) :
    Aside (γ, s) (γ, s.setTransport i f) := by
  refine ⟨rfl, rfl, rfl, fun p => ?_, rfl, rfl, rfl, rfl⟩
  cases p with
  | writing n =>
    show (((s.transports.modify i f)[n]?).map Transport.writing).getD .free =
      ((s.transports[n]?).map Transport.writing).getD .free
    rw [List.getElem?_modify]
    rcases s.transports[n]? with _ | x
    · rfl
    · by_cases e : i = n <;> simp [e, writing]
  | _ => rfl

/-- Commands stay what they are. -/
theorem commands_modify {holds : List Hold} {g : Hold → Hold} {command : Datum}
    (same : ∀ x, holds[i]? = some x → (g x).command = x.command)
    (old : ∀ x ∈ holds, x.command = command) : ∀ x ∈ holds.modify i g, x.command = command := by
  intro x hx
  obtain ⟨n, hn⟩ := List.mem_iff_getElem?.mp hx
  rw [List.getElem?_modify] at hn
  rcases found : holds[n]? with _ | y
  · simp [found] at hn
  · have before := old y (List.mem_of_getElem? found)
    by_cases e : i = n
    · subst e
      have e : g y = x := by simpa [found] using hn
      rw [← e, same y found, before]
    · have e : y = x := by simpa [found, e] using hn
      rw [← e, before]

section LettingGo

variable {g : Hold → Hold} {v : Overview}
  (less : ∀ x, v.holds[i]? = some x → (g x).command = x.command ∧
    ((g x).server = x.server ∨ (g x).server = none) ∧ (g x).drain = none)
include less

/-- The overview when a transport holds less. -/
theorem serverOf?_less {n j : Nat}
    (h : ({ v with holds := v.holds.modify i g } : Overview).serverOf? n = some j) :
    v.serverOf? n = some j := by
  simp only [Overview.serverOf?, List.getElem?_modify] at h ⊢
  rcases found : v.holds[n]? with _ | x
  · simp [found] at h
  · by_cases e : i = n
    · subst e
      simp only [found, if_true] at h
      rcases (less x found).2.1 with same | none
      · simpa [same] using h
      · simp [none] at h
    · simpa [found, e] using h

theorem life_less (life : Life σ γ v) (mine : γ.holder .lifecycle = some t)
    (dead : σ.Tame → ∀ j, v.serverOf? i = some j → v.Dead j) :
    Life σ γ { v with holds := v.holds.modify i g } :=
  { life with
    paired := by simpa using life.paired
    commands := commands_modify (fun x hx => (less x hx).1) life.commands
    owned := fun n j e => life.owned n j (serverOf?_less less e)
    owner := fun n n' j e e' => life.owner n n' j (serverOf?_less less e) (serverOf?_less less e')
    drains := fun n x d hx hd => by
      simp only [List.getElem?_modify] at hx
      rcases found : v.holds[n]? with _ | x₀
      · simp [found] at hx
      · by_cases e : i = n
        · subst e
          have same : g x₀ = x := by simpa [found] using hx
          rw [← same, (less x₀ found).2.2] at hd
          cases hd
        · have same : x₀ = x := by simpa [found, e] using hx
          subst same
          exact life.drains n x₀ d found hd
    unstarted := fun n state => by
      refine Option.eq_none_iff_forall_ne_some.mpr fun j e => ?_
      have old := serverOf?_less less e
      rw [life.unstarted n state] at old
      cases old
    newest := fun tame resolvable j p hp alive => by
      refine (life.newest tame resolvable j p hp alive).imp_right fun ⟨n, last, server⟩ => ?_
      refine ⟨n, by simpa using last, ?_⟩
      have ne : i ≠ n := by
        rintro rfl
        obtain ⟨q, hq, exited⟩ := dead tame j server
        obtain rfl : p = q := Option.some.inj (hp.symm.trans hq)
        rw [alive] at exited
        cases exited
      simpa [Overview.serverOf?, List.getElem?_modify, ne] using server
    atRest := fun free => by rw [mine] at free; cases free }

theorem order_less {queue : Nat → List Said} (order : Order queue v) :
    Order queue { v with holds := v.holds.modify i g } where
  written := order.written
  planned n j p hn hp listens := order.planned n j p (serverOf?_less less hn) hp listens

theorem mirror_less {h : Hands} (mirror : Mirror h v) :
    Mirror h { v with holds := v.holds.modify i g } :=
  { mirror with
    mirrored := fun n j p hn hj => mirror.mirrored n j p hn (serverOf?_less less hj)
    early := fun n j p state apart hj => mirror.early n j p state apart (serverOf?_less less hj) }

end LettingGo

/-- The holder of the lifecycle lock lets go of a process that has exited, or of the task that serves it. -/
theorem letsGo {f : Transport → Transport} {g : Hold → Hold} (poised : Poised σ t γ s)
    (mine : γ.holder .lifecycle = some t) (writing : ∀ x, (f x).writing = x.writing)
    (hold : ∀ x, (f x).hold = g x.hold)
    (less : ∀ x, s.overview.holds[i]? = some x → (g x).command = x.command ∧
      ((g x).server = x.server ∨ (g x).server = none) ∧ (g x).drain = none)
    (dead : σ.Tame → ∀ j, s.overview.serverOf? i = some j → s.overview.Dead j) :
    Poised σ t γ (s.setTransport i f) ∧ Tends t i (γ, s) (γ, s.setTransport i f) ∧
      (discipline σ).Spares t (γ, s) (γ, s.setTransport i f) := by
  have aside : Aside (γ, s) (γ, s.setTransport i f) := aside_setTransport writing
  have view := World.overview_setTransport (s := s) (i := i) hold
  have back {n j : Nat} (e : (s.setTransport i f).overview.serverOf? n = some j) :
      s.overview.serverOf? n = some j := by
    rw [view] at e; exact serverOf?_less less e
  have keeps : Keeps (γ, s) (γ, s.setTransport i f) := by
    refine aside.keeps (by simp [World.setTransport]) (Nat.le_refl _) (fun n past => ?_) fun x e => e
    refine ⟨by rw [view]; exact past, ?_, fun _ => back⟩
    rintro ⟨j, p, server, found, listens⟩
    exact ⟨j, p, back server, by rw [view] at found; exact found, listens⟩
  refine ⟨⟨aside.inv poised.inv poised.inv.tickets.pending ?_ ?_ ?_ ?_, poised.ease⟩, ?_, ?_⟩
  · rw [view]; exact life_less less poised.inv.life mine dead
  · rw [aside.voice rfl, view]; exact order_less less poised.inv.order
  · rw [view]; exact mirror_less less poised.inv.mirror
  · intro n j p apart hn hp
    rw [view] at hp
    exact poised.inv.closed n j p apart (back hn) hp
  · exact ⟨⟨keeps, fun _ => .rfl, rfl, by rw [view]; simp, fun _ e => by rw [view]; exact e⟩,
      fun _ => back⟩
  · refine aside.spares mine keeps fun _ _ _ => ⟨⟨fun _ e _ => .inl e, fun e => e, .inl rfl⟩, rfl⟩

/-- The process of a transport has been let go of, or a line that was too long has prevented it. -/
structure LetGo (σ : Setting) (t i j : Nat) (a b : Ghost × World) (r : Except Fault α) : Prop where
  poised : Poised σ t b.1 b.2
  tends : Tends t i a b
  deaf : ¬ b.2.overview.Listening i
  dead : σ.Tame → b.2.overview.Dead j
  ends : ∀ f, r = .error f → ∃ found, f = overlongFault found ∧ b.2.Overlong j

/-- The task that empties the error output of a process has failed only at a line that is too long. -/
theorem wp_stopDrain {k u : Nat} (poised : Poised σ t γ s) (fore : Foreground t s)
    (role : γ.role k = .ending u (.drain j) none) :
    (discipline σ).wp t (Act.stopTask k)
      (fun r γ' s' => Poised σ t γ' s' ∧ Mute t (γ, s) (γ', s') ∧
        ∀ f, r = .error f → ∃ found, f = overlongFault found ∧ s'.Overlong j) γ s := by
  refine Wp.mono (wp_stopTask poised fore role trivial) fun r γ' s' ⟨poised', mute, failed⟩ => ?_
  refine ⟨poised', mute, fun f e => ?_⟩
  obtain ⟨ne, outcome⟩ := failed f e
  have fits := poised.inv.tickets.fits k _ outcome
  rw [role] at fits
  obtain ⟨cancelled, -⟩ | ⟨found, same, long⟩ := fits.2.2 f rfl
  · exact absurd cancelled ne
  · exact ⟨found, same, mute.overlong j long⟩

theorem wp_getTransport {β : Type} {x : Transport} {g : Transport → Act β}
    {Q : Except Fault β → Ghost → World → Prop} (found : s.transports[i]? = some x)
    (next : (discipline σ).wp t (g x) Q γ s) :
    (discipline σ).wp t (Transport.get i >>= g) Q γ s := by
  refine Wp.bind (Wp.look ?_)
  simp only [found]
  exact next

theorem LetGo.after {a b c : Ghost × World} {r : Except Fault α} (mute : Mute t a b)
    (held : a.1.holder .lifecycle = some t) (h : LetGo σ t i j b c r) : LetGo σ t i j a c r :=
  ⟨h.poised, (mute.toMinds.tends held).trans h.tends, h.deaf, h.dead, h.ends⟩

theorem LetGo.ending {β : Type} {a b : Ghost × World} {r : Except Fault α} {r' : Except Fault β}
    (h : LetGo σ t i j a b r) (same : ∀ f, r' = .error f → r = .error f) : LetGo σ t i j a b r' :=
  ⟨h.poised, h.tends, h.deaf, h.dead, fun f e => h.ends f (same f e)⟩

/-- The last steps of letting go. -/
theorem wp_forget (poised : Poised σ t γ s) (held : γ.holder .lifecycle = some t)
    (server : s.overview.serverOf? i = some j)
    (deaf : ¬ s.overview.Listening i) (dead : σ.Tame → s.overview.Dead j) :
    (discipline σ).wp t (do
        Program.update fun s => s.setTransport i fun t => { t with drain := none }
        let _ ← Transport.heldServer i "returncode"
        Program.update fun s => s.setTransport i fun t => { t with server := none })
      (fun r γ' s' => LetGo σ t i j (γ, s) (γ', s') r) γ s := by
  have only {s' : World} (tends : Tends t i (γ, s) (γ, s')) (tame : σ.Tame) (k : Nat)
      (e : s'.overview.serverOf? i = some k) : s'.overview.Dead k := by
    obtain rfl := Option.some.inj (server.symm.trans (tends.gives k e))
    exact (dead tame).keeps tends.toKeeps
  obtain ⟨poised₁, tends₁, spares₁⟩ := letsGo (i := i) (f := fun t => { t with drain := none })
    (g := fun x => { x with drain := none }) poised held (fun _ => rfl) (fun _ => rfl)
    (fun _ _ => ⟨rfl, .inl rfl, rfl⟩) (only ((Minds.refl t _).tends held))
  obtain ⟨x, found, same⟩ := Option.bind_eq_some_iff.mp server
  have hold₁ : (s.setTransport i fun t => { t with drain := none }).overview.holds[i]? =
      some { x with drain := none } := by
    rw [World.overview_setTransport (g := fun x => { x with drain := none }) fun _ => rfl]
    simp [found]
  have server₁ : (s.setTransport i fun t => { t with drain := none }).overview.serverOf? i =
      some j := by
    rw [Overview.serverOf?, hold₁]; exact same
  refine wp_change γ spares₁ (wp_held server₁ ?_)
  obtain ⟨poised₂, tends₂, spares₂⟩ := letsGo (i := i) (f := fun t => { t with server := none })
    (g := fun x => { x with server := none }) poised₁ held (fun _ => rfl) (fun _ => rfl)
    (fun x hx => ⟨rfl, .inr rfl, by cases hold₁.symm.trans hx; rfl⟩) (only tends₁)
  have tends := tends₁.trans tends₂
  exact wp_update γ spares₂ ⟨poised₂, tends, tends.deaf deaf (poised.inv.life.owned i),
    fun tame => (dead tame).keeps tends.toKeeps, fun _ e => by cases e⟩

/-- Letting go of a process that has exited and of the task that empties its error output. -/
theorem wp_abandon (poised : Poised σ t γ s) (held : γ.holder .lifecycle = some t)
    (fore : Foreground t s) (server : s.overview.serverOf? i = some j)
    (deaf : ¬ s.overview.Listening i) (dead : σ.Tame → s.overview.Dead j) :
    (discipline σ).wp t (Transport.abandon i)
      (fun r γ' s' => LetGo σ t i j (γ, s) (γ', s') r) γ s := by
  have server' : s.serverOf? i = some j := by rw [← World.overview_serverOf?]; exact server
  obtain ⟨x, found, hx⟩ := Option.bind_eq_some_iff.mp server'
  refine wp_getTransport found ?_
  rcases drain : x.drain with _ | d
  · exact wp_forget poised held server deaf dead
  · have hold : s.overview.holds[i]? = some x.hold := by simp [World.overview, found]
    obtain ⟨u, j', same, role⟩ := poised.inv.life.drains i x.hold d hold drain
    obtain rfl : j' = j := Option.some.inj (same.symm.trans hx)
    refine Wp.seq (wp_stopDrain poised fore role) ?_ ?_
    · rintro _ γ₁ s₁ ⟨poised₁, mute, -⟩
      exact Wp.mono (wp_forget poised₁ ((mute.holder _).mp held) ((mute.serverOf? held i).trans server)
        (mute.deaf held deaf) fun tame => (dead tame).keeps mute.toKeeps)
        fun _ _ _ letGo => letGo.after mute held
    · rintro f γ₁ s₁ ⟨poised₁, mute, failed⟩
      exact ⟨poised₁, mute.toMinds.tends held, mute.deaf held deaf,
        fun tame => (dead tame).keeps mute.toKeeps, fun f' e => failed f' (by cases e; rfl)⟩

/-- Releasing a process. -/
theorem wp_disconnect (h : Departs σ t i γ s) (held : γ.holder .lifecycle = some t)
    (fore : Foreground t s) (server : s.overview.serverOf? i = some j) (time : Seconds) :
    (discipline σ).wp t (Transport.disconnect i time)
      (fun r γ' s' => LetGo σ t i j (γ, s) (γ', s') r) γ s := by
  have server' : s.serverOf? i = some j := by rw [← World.overview_serverOf?]; exact server
  have bound : j < s.servers.length := by
    simpa [World.overview] using h.inv.life.owned i j server
  refine Wp.look ?_
  simp only [server']
  refine Wp.look (Wp.ensure (wp_dismiss h held fore server time fun exited =>
    World.dead_of_isAlive bound (by simpa using exited)) ?_)
  rintro _ γ₁ s₁ ⟨b, rfl, deafened, dead⟩
  have mute := deafened.mute
  refine Wp.mono (wp_abandon deafened.poised ((mute.holder _).mp held) (fore.grow mute.loop)
    ((mute.serverOf? held i).trans server) deafened.deaf dead) fun r γ₂ s₂ letGo => ?_
  have letGo := letGo.after mute held
  cases r with
  | ok _ => exact letGo.ending fun _ e => by cases e
  | error f => exact letGo.ending fun f' e => by cases e; rfl

/-- Killing a process and releasing it. -/
theorem wp_kill (poised : Poised σ t γ s) (held : γ.holder .lifecycle = some t) (fore : Foreground t s)
    (server : s.overview.serverOf? i = some j) :
    (discipline σ).wp t (Transport.kill i)
      (fun r γ' s' => LetGo σ t i j (γ, s) (γ', s') r) γ s := by
  have server' : s.serverOf? i = some j := by rw [← World.overview_serverOf?]; exact server
  refine Wp.look ?_
  simp only [server']
  refine Wp.look ?_
  have release (γ₁ : Ghost) (s₁ : World) (poised₁ : Poised σ t γ₁ s₁)
      (mute : Mute t (γ, s) (γ₁, s₁)) :
      (discipline σ).wp t (do let _ ← Transport.disconnect i Transport.signalGrace : Act Unit)
        (fun r γ' s' => LetGo σ t i j (γ, s) (γ', s') r) γ₁ s₁ := by
    refine Wp.seq (wp_disconnect poised₁.departs ((mute.holder _).mp held) (fore.grow mute.loop)
      ((mute.serverOf? held i).trans server) _) ?_ ?_
    · exact fun b γ₂ s₂ letGo => (letGo.after mute held).ending fun _ e => by cases e
    · exact fun f γ₂ s₂ letGo => (letGo.after mute held).ending fun f' e => by cases e; rfl
  split
  · refine Wp.seq (wp_signal poised server .kill) ?_ (by rintro _ _ _ ⟨_, e, -⟩; cases e)
    rintro b γ₁ s₁ ⟨_, -, poised₁, rely, -⟩
    exact release γ₁ s₁ poised₁ rely.toMute
  · exact release γ s poised (.refl t _)

end LspHost
