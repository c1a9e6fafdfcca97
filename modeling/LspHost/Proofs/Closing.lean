import LspHost.Proofs.Asking

/-!
# Closing a session

A lifecycle operation takes a session through its states (`Reseat`). Closing a session ends with a
process that has exited, as far as it can be killed (`wp_closeSession`). It fails with nothing but a
fault of the server, or with a line of the error output that was too long to be read.
-/

namespace LspHost

open Discipline

variable {σ : Setting} {t i : Nat} {γ γ' : Ghost} {s s' : World}

/-! ## States of a session -/

/-- The states of a session that has been through its handshake. -/
def SessionState.IsPast (st : SessionState) : Prop := st = .running ∨ st = .shuttingDown ∨ st = .closed

/-- The states of a session whose documents are told by nobody but the supervisor. -/
def SessionState.IsEarly (st : SessionState) : Prop := st = .initializing ∨ st = .running

/-- The holder of the lifecycle lock changes what is known about a session. -/
structure Reseat (t i : Nat) (g : Seat → Seat) (γ : Ghost) (s : World) : Prop where
  mine : γ.holder .lifecycle = some t
  transport : ∀ x, (g x).transport = x.transport
  workspaceDir : ∀ x, (g x).workspaceDir = x.workspaceDir
  reader : ∀ x r, s.overview.seats[i]? = some x → (g x).reader = some r →
    x.reader = some r ∨ ∃ u, γ.role r = .ending u (.reader i) none
  started : ∀ x, s.overview.seats[i]? = some x → (g x).state = .notStarted → x.state = .notStarted
  past : ∀ x, s.overview.seats[i]? = some x → x.state.IsPast → (g x).state.IsPast
  leaving : ∀ x, s.overview.seats[i]? = some x → x.state.IsLeaving → (g x).state.IsLeaving
  early : ∀ x, s.overview.seats[i]? = some x → (g x).state.IsEarly →
    x.state.IsEarly ∨ s.overview.serverOf? i = none
  permits : ∀ x st, s.overview.seats[i]? = some x → s.overview.Listening i → x.state.Permits st →
    (∀ (j : Nat) (p : Process), s.overview.serverOf? i = some j → s.overview.processes[j]? = some p →
      plannedAt (s.voice γ) s.overview i p = some st) → (g x).state.Permits st

namespace Reseat

variable {g : Seat → Seat}

/-- The overview after the change. -/
def view (v : Overview) (i : Nat) (g : Seat → Seat) : Overview := { v with seats := v.seats.modify i g }

theorem seat_view (v : Overview) (n : Nat) :
    (view v i g).seats[n]? = (v.seats[n]?).map fun x => if i = n then g x else x := by
  simp only [view, List.getElem?_modify]
  rcases v.seats[n]? with _ | x <;> rfl

/-- What is known about a session afterwards. -/
theorem cases {n : Nat} {y : Seat} (e : (view s.overview i g).seats[n]? = some y) :
    ∃ x, s.overview.seats[n]? = some x ∧ ((n = i ∧ y = g x) ∨ (n ≠ i ∧ y = x)) := by
  rw [seat_view] at e
  obtain ⟨x, hx, rfl⟩ := Option.map_eq_some_iff.mp e
  refine ⟨x, hx, ?_⟩
  by_cases same : i = n
  · exact .inl ⟨same.symm, if_pos same⟩
  · exact .inr ⟨fun e => same e.symm, if_neg same⟩

variable (h : Reseat t i g γ s)
include h

omit h in
/-- What is true of the state of each session stays true if it stays true of the one that changes. -/
theorem state_view {P : SessionState → Prop} {n : Nat}
    (kept : ∀ x, s.overview.seats[i]? = some x → P x.state → P (g x).state)
    (old : ∃ st, s.overview.state? n = some st ∧ P st) :
    ∃ st, (view s.overview i g).state? n = some st ∧ P st := by
  obtain ⟨st, state, holds⟩ := old
  obtain ⟨x, hx, rfl⟩ := Option.map_eq_some_iff.mp state
  refine ⟨if i = n then (g x).state else x.state, ?_, ?_⟩
  · rw [Overview.state?, seat_view, hx]
    by_cases e : i = n <;> simp [e]
  · by_cases e : i = n
    · subst e
      rw [if_pos rfl]
      exact kept x hx holds
    · rw [if_neg e]
      exact holds

theorem past_view {n : Nat} (past : s.overview.Past n) : (view s.overview i g).Past n :=
  state_view h.past past

theorem leaving_view {n : Nat} (leaving : s.overview.Leaving n) : (view s.overview i g).Leaving n :=
  state_view h.leaving leaving

theorem life (life : Life σ γ s.overview) : Life σ γ (view s.overview i g) :=
  { life with
    paired := by simpa [view] using life.paired
    seats := fun n y hy => by
      obtain ⟨x, hx, ⟨-, rfl⟩ | ⟨-, rfl⟩⟩ := cases hy
      · rw [h.transport, h.workspaceDir]; exact life.seats n x hx
      · exact life.seats n y hx
    readers := fun n y r hy hr => by
      obtain ⟨x, hx, ⟨rfl, rfl⟩ | ⟨-, rfl⟩⟩ := cases hy
      · exact (h.reader x r hx hr).elim (life.readers n x r hx) fun e => e
      · exact life.readers n y r hx hr
    unstarted := fun n state => by
      obtain ⟨y, hy, state⟩ := Option.map_eq_some_iff.mp state
      obtain ⟨x, hx, ⟨rfl, rfl⟩ | ⟨-, rfl⟩⟩ := cases hy
      · exact life.unstarted n (by rw [Overview.state?, hx]; exact congrArg some (h.started x hx state))
      · exact life.unstarted n (by rw [Overview.state?, hx]; exact congrArg some state)
    held := fun n session => by
      obtain ⟨last, past⟩ := life.held n session
      exact ⟨by simpa [view] using last, h.past_view past⟩
    atRest := fun free => by rw [h.mine] at free; cases free }

theorem order (order : Order (s.voice γ) s.overview) : Order (s.voice γ) (view s.overview i g) where
  written := order.written
  planned n j p hn hp listens := by
    obtain ⟨st, state, planned, found, permits⟩ := order.planned n j p hn hp listens
    obtain ⟨x, hx, rfl⟩ := Option.map_eq_some_iff.mp found
    refine ⟨st, if i = n then (g x).state else x.state, planned, ?_, ?_⟩
    · rw [Overview.state?, seat_view, hx]
      by_cases e : i = n <;> simp [e]
    · by_cases e : i = n
      · subst e
        rw [if_pos rfl]
        refine h.permits x st hx ⟨j, p, hn, hp, listens⟩ permits fun j' p' hj' hp' => ?_
        obtain rfl := Option.some.inj (hn.symm.trans hj')
        obtain rfl := Option.some.inj (hp.symm.trans hp')
        exact planned
      · rw [if_neg e]; exact permits

theorem mirror {hands : Hands} (mirror : Mirror hands s.overview) :
    Mirror hands (view s.overview i g) :=
  { mirror with
    early := fun n j p state apart hj hp => by
      have state : ∃ y, (view s.overview i g).seats[n]? = some y ∧ y.state.IsEarly := by
        rcases state with e | e
        all_goals obtain ⟨y, hy, e⟩ := Option.map_eq_some_iff.mp e
        · exact ⟨y, hy, .inl e⟩
        · exact ⟨y, hy, .inr e⟩
      obtain ⟨y, hy, state⟩ := state
      have old {x : Seat} (hx : s.overview.seats[n]? = some x) (early : x.state.IsEarly) :
          notesIn s.overview.mail p.pid = [] := by
        refine mirror.early n j p ?_ apart hj hp
        rw [Overview.state?, hx]
        exact early.imp (congrArg some) (congrArg some)
      obtain ⟨x, hx, ⟨rfl, rfl⟩ | ⟨-, rfl⟩⟩ := cases hy
      · rcases h.early x hx state with early | vacant
        · exact old hx early
        · rw [show s.overview.serverOf? n = some j from hj] at vacant
          cases vacant
      · exact old hx state }

end Reseat

/-- What follows from a change of what is known about a session. -/
structure Reseated (σ : Setting) (t i : Nat) (g : Seat → Seat) (γ : Ghost) (s s' : World) : Prop where
  poised : Poised σ t γ s'
  tends : Tends t i (γ, s) (γ, s')
  spares : (discipline σ).Spares t (γ, s) (γ, s')
  overview : s'.overview = Reseat.view s.overview i g
  voice : s'.voice γ = s.voice γ

theorem Reseat.reseated {f : Session → Session} {g : Seat → Seat} (h : Reseat t i g γ s)
    (poised : Poised σ t γ s) (seat : ∀ x, (f x).seat = g x.seat)
    (pending : ∀ x, (f x).pending = x.pending) : Reseated σ t i g γ s (s.setSession i f) := by
  have aside := aside_setSession γ s i f
  have shows := World.overview_setSession s i seat
  have inv := poised.inv
  have keeps : Keeps (γ, s) (γ, s.setSession i f) := by
    refine aside.keeps (Nat.le_refl _) (by simp [World.setSession]) (fun n past => ?_) fun x e => e
    rw [shows]
    exact ⟨h.past_view past, fun e => e, fun _ e => e⟩
  refine ⟨⟨aside.inv inv (pending_setSession inv i fun x _ e he => .inl (by rwa [pending] at he))
    ?_ ?_ ?_ ?_, poised.ease⟩, ⟨⟨keeps, fun _ => .rfl, rfl, rfl, fun n e => ?_⟩, fun _ e => e⟩,
    aside.spares h.mine keeps fun _ _ _ => ?_, shows, aside.voice rfl⟩
  · rw [shows]; exact h.life inv.life
  · rw [aside.voice rfl, shows]; exact h.order inv.order
  · rw [shows]; exact h.mirror inv.mirror
  · rw [shows]; exact inv.closed
  · rw [shows]; exact h.leaving_view e
  · exact ⟨⟨fun _ e _ => .inl e, fun e => e, .inl rfl⟩, rfl⟩

theorem wp_reseat {f : Session → Session} {g : Seat → Seat} {Q : Except Fault Unit → Ghost → World → Prop}
    (h : Reseat t i g γ s) (poised : Poised σ t γ s) (seat : ∀ x, (f x).seat = g x.seat)
    (pending : ∀ x, (f x).pending = x.pending)
    (next : Reseated σ t i g γ s (s.setSession i f) → Q (.ok ()) γ (s.setSession i f)) :
    (discipline σ).wp t (Session.modify i f) Q γ s :=
  wp_update γ (h.reseated poised seat pending).spares (next (h.reseated poised seat pending))

/-! ## The end of a session -/

/-- The process of a session has exited, as far as it can be killed. -/
structure Ended (σ : Setting) (t i : Nat) (a b : Ghost × World) : Prop where
  poised : Poised σ t b.1 b.2
  tends : Tends t i a b
  deaf : ¬ b.2.overview.Listening i
  dead : σ.Tame → ∀ j, a.2.overview.serverOf? i = some j → b.2.overview.Dead j

theorem Ended.further {a b c : Ghost × World} (h : Ended σ t i a b) (tends : Tends t i b c)
    (poised : Poised σ t c.1 c.2) : Ended σ t i a c where
  poised := poised
  tends := h.tends.trans tends
  deaf := tends.deaf h.deaf (h.poised.inv.life.owned i)
  dead tame j e := (h.dead tame j e).keeps tends.toKeeps

theorem LetGo.ended {α : Type} {j : Nat} {a b : Ghost × World} {r : Except Fault α}
    (h : LetGo σ t i j a b r) (server : a.2.overview.serverOf? i = some j) : Ended σ t i a b where
  poised := h.poised
  tends := h.tends
  deaf := h.deaf
  dead tame k e := by
    obtain rfl := Option.some.inj (server.symm.trans e)
    exact h.dead tame

/-- A line of some error output was too long to be read. -/
def FailsOverlong (f : Fault) (s : World) : Prop := ∃ found j, f = overlongFault found ∧ s.Overlong j

theorem FailsOverlong.keeps {f : Fault} {a b : Ghost × World} (h : FailsOverlong f a.2)
    (keeps : Keeps a b) : FailsOverlong f b.2 := by
  obtain ⟨found, j, e, long⟩ := h
  exact ⟨found, j, e, keeps.overlong j long⟩

/-- A task in the foreground has come to hold the lifecycle lock and may take care of a session. -/
structure Tending (σ : Setting) (t i : Nat) (γ : Ghost) (s : World) : Prop where
  poised : Poised σ t γ s
  mine : γ.holder .lifecycle = some t
  idle : γ.holder (.writing i) ≠ some t
  fore : ∃ κ, s.loop.kind? t = some κ ∧ ¬ κ.IsBackground
  there : i < s.sessions.length

theorem Tending.manages {a b : Ghost × World} (h : Tending σ t i a.1 a.2) (manages : Manages t a b)
    (poised : Poised σ t b.1 b.2) : Tending σ t i b.1 b.2 where
  poised := poised
  mine := (manages.holder _).mp h.mine
  idle e := h.idle ((manages.holder _).mpr e)
  fore := by
    obtain ⟨κ, kind, fore⟩ := h.fore
    exact ⟨κ, manages.loop.kinds t κ kind, fore⟩
  there := Nat.lt_of_lt_of_le h.there manages.sessions

/-- Stopping the task that reads the messages of a session. -/
theorem wp_stopReader (h : Tending σ t i γ s) :
    (discipline σ).wp t (Session.stopReader i)
      (fun r γ' s' => r = .ok () ∧ Poised σ t γ' s' ∧ Tends t i (γ, s) (γ', s')) γ s := by
  obtain ⟨x, found⟩ := World.exists_session h.there
  refine wp_getSession found ?_
  have forget (γ₁ : Ghost) (s₁ : World) (poised₁ : Poised σ t γ₁ s₁) (mute : Mute t (γ, s) (γ₁, s₁)) :
      (discipline σ).wp t (Session.modify i fun x => { x with reader := none })
        (fun r γ' s' => r = .ok () ∧ Poised σ t γ' s' ∧ Tends t i (γ, s) (γ', s')) γ₁ s₁ := by
    have mine₁ := (mute.holder _).mp h.mine
    refine wp_reseat (g := fun x => { x with reader := none })
      { mine := mine₁, transport := fun _ => rfl, workspaceDir := fun _ => rfl
        reader := fun _ _ _ e => (by cases e), started := fun _ _ e => e, past := fun _ _ e => e
        leaving := fun _ _ e => e, early := fun _ _ e => .inl e, permits := fun _ _ _ _ e _ => e }
      poised₁ (fun _ => rfl) (fun _ => rfl) fun reseated => ⟨rfl, reseated.poised, ?_⟩
    exact (mute.toMinds.tends h.mine).trans reseated.tends
  rcases reader : x.reader with _ | r
  · exact forget γ s h.poised (.refl t _)
  · have seat : s.overview.seats[i]? = some x.seat := by simp [World.overview, found]
    obtain ⟨u, role⟩ := h.poised.inv.life.readers i x.seat r seat reader
    refine Wp.look ?_
    split
    · next running =>
      refine Wp.seq (wp_stopTask h.poised h.fore role trivial) ?_ ?_
      · rintro _ γ₁ s₁ ⟨poised₁, mute, -⟩
        exact forget γ₁ s₁ poised₁ mute
      · rintro f γ₁ s₁ ⟨-, -, failed⟩
        have outcome := (failed f rfl).2
        rw [outcome] at running
        cases running
    · exact forget γ s h.poised (.refl t _)

/-- Ending all requests that are pending with a fault of the server. -/
theorem wp_failPending {f : Fault} (poised : Poised σ t γ s) (there : i < s.sessions.length)
    (fault : Supervisor.isServerFault f = true) :
    (discipline σ).wp t (Session.failPending i f)
      (fun r γ' s' => r = .ok () ∧ γ' = γ ∧ Poised σ t γ s' ∧ Mute t (γ, s) (γ, s')) γ s := by
  obtain ⟨x, found⟩ := World.exists_session there
  have role (k : Nat) (hk : k ∈ x.pending.map Prod.snd) : ∃ u, γ.role k = .request u := by
    obtain ⟨e, he, rfl⟩ := List.mem_map.mp hk
    exact poised.inv.tickets.pending i x e found he
  have settled : Quiet σ (some t) (γ, s) (γ, { s with
      loop := (x.pending.map Prod.snd).foldl (fun l k => l.settle k (.error f)) s.loop }) := by
    refine quiet_settleAll poised.inv _ (fun k hk => ?_) (fun k _ u _ e => ?_) (fun k hk p u m e => ?_)
      fun k hk j d e => ?_
    · obtain ⟨u, role⟩ := role k hk
      rw [role]
      exact fun f' e => by cases e; exact .inr fault
    · obtain rfl := Except.error.inj e
      cases fault
    · obtain ⟨u', role⟩ := role k hk
      rw [role] at e
      cases e
    · obtain ⟨u', role⟩ := role k hk
      obtain ⟨p, hp, waits⟩ := Option.bind_eq_some_iff.mp e
      obtain ⟨v, role'⟩ := poised.inv.tickets.streams j p .errors k d hp waits
      rw [role] at role'
      cases role'
  rw [List.foldl_map] at settled
  have cleared := quiet_setSession settled.inv i (f := fun x => { x with pending := [] })
    (fun _ => rfl) fun _ _ _ he => by cases he
  refine wp_getSession found (wp_tell γ settled.spares (wp_update γ cleared.spares ⟨rfl, rfl, ?_, ?_⟩))
  · exact (settled.trans cleared).poised poised.ease
  · exact ((settled.trans cleared).rely t).toMute

/-- A session whose process takes nothing more is closed. -/
theorem wp_setClosed (h : Tending σ t i γ s) (deaf : ¬ s.overview.Listening i) :
    (discipline σ).wp t (Session.setState i .closed)
      (fun r γ' s' => r = .ok () ∧ Poised σ t γ' s' ∧ Tends t i (γ, s) (γ', s')) γ s :=
  wp_reseat (g := fun x => { x with state := .closed })
    { mine := h.mine, transport := fun _ => rfl, workspaceDir := fun _ => rfl
      reader := fun _ _ _ e => .inl e, started := fun _ _ e => (by cases e)
      past := fun _ _ _ => .inr (.inr rfl), leaving := fun _ _ _ => .inr rfl
      early := fun _ _ e => by rcases e with e | e <;> cases e
      permits := fun _ _ _ listens => absurd listens deaf }
    h.poised (fun _ => rfl) (fun _ => rfl) fun reseated => ⟨rfl, reseated.poised, reseated.tends⟩

theorem Ended.tending {a b : Ghost × World} (h : Ended σ t i a b) (tending : Tending σ t i a.1 a.2) :
    Tending σ t i b.1 b.2 := tending.manages h.tends.toManages h.poised

/-- The last steps of a session whose process has been let go of. -/
theorem wp_conclude {β : Type} {f : Fault} {last : Act β} {a : Ghost × World}
    {Q : Except Fault β → Ghost → World → Prop} (start : Tending σ t i a.1 a.2)
    (ended : Ended σ t i a (γ, s)) (fault : Supervisor.isServerFault f = true)
    (next : ∀ γ' s', Ended σ t i a (γ', s') → (discipline σ).wp t last Q γ' s') :
    (discipline σ).wp t (do
        Session.stopReader i
        Session.failPending i f
        Session.setState i .closed
        last) Q γ s := by
  refine Wp.seq (wp_stopReader (ended.tending start)) ?_ (by rintro _ _ _ ⟨e, -⟩; cases e)
  rintro _ γ₁ s₁ ⟨-, poised₁, tends₁⟩
  have ended₁ := ended.further tends₁ poised₁
  have tending₁ := ended₁.tending start
  refine Wp.seq (wp_failPending poised₁ tending₁.there fault) ?_ (by rintro _ _ _ ⟨e, -⟩; cases e)
  rintro _ _ s₂ ⟨-, rfl, poised₂, mute₂⟩
  have ended₂ := ended₁.further (mute₂.toMinds.tends tending₁.mine) poised₂
  refine Wp.seq (wp_setClosed (ended₂.tending start) ended₂.deaf) ?_ (by rintro _ _ _ ⟨e, -⟩; cases e)
  rintro _ γ₃ s₃ ⟨-, poised₃, tends₃⟩
  exact next γ₃ s₃ (ended₂.further tends₃ poised₃)

/-! ## Closing -/

/-- Where the conversation with the process of a session stands, if it takes messages. -/
def PlannedTo (i : Nat) (st : Talk) (γ : Ghost) (s : World) : Prop :=
  ∀ (j : Nat) (p : Process), s.overview.serverOf? i = some j → s.overview.processes[j]? = some p →
    p.listening = true → plannedAt (s.voice γ) s.overview i p = some st

theorem PlannedTo.advances {x : Said} {st st' : Talk} {a b : Ghost × World}
    (h : PlannedTo i st a.1 a.2) (minds : Minds t a b) (held : a.1.holder .lifecycle = some t)
    (advances : Advances (.writing i) [x] a b) (step : st.plan? x = some st') :
    PlannedTo i st' b.1 b.2 := by
  intro j q' hj hq' listens
  have hj₀ : a.2.overview.serverOf? i = some j := by
    simpa only [Overview.serverOf?, (minds.life held).holds] using hj
  have bound : j < a.2.overview.processes.length := by
    rw [← (minds.life held).processes]; exact (List.getElem?_eq_some_iff.mp hq').1
  obtain ⟨q, hq, -, -, -, listened⟩ := minds.processes j _ (List.getElem?_eq_getElem bound)
  obtain rfl : q = q' := Option.some.inj (hq.symm.trans hq')
  rw [advances i j _ q hj₀ (List.getElem?_eq_getElem bound) hq listens,
    h j _ hj₀ (List.getElem?_eq_getElem bound) (listened listens), if_pos rfl]
  exact (Talk.planned?_singleton x st).trans step

theorem Minds.state? {a b : Ghost × World} (minds : Minds t a b) (held : a.1.holder .lifecycle = some t)
    (n : Nat) : b.2.overview.state? n = a.2.overview.state? n := by
  simp only [Overview.state?, (minds.life held).seats]

/-- A fault of a request that a lifecycle operation makes. -/
theorem AskEnds.led {f : Fault} (h : AskEnds t γ f) (held : γ.holder .lifecycle = some t) :
    f = .timeout ∨ Supervisor.isServerFault f = true :=
  h.imp_right fun e => e.resolve_right fun e => e.2 held

/-- Asking the server to shut down reports what goes wrong. -/
theorem wp_askShutdown (h : Tending σ t i γ s) (state : s.overview.state? i = some .shuttingDown)
    (planned : PlannedTo i .open γ s) (grace : Seconds) :
    (discipline σ).wp t (Session.askShutdown i grace)
      (fun r γ' s' => ∃ problems, r = .ok problems ∧ Asks σ t i .shutdown (γ, s) (γ', s')) γ s := by
  obtain ⟨κ, kind, fore⟩ := h.fore
  have may : MaySay t i (.ofRequest "shutdown") γ s :=
    .lead h.mine h.idle state (b := .closing) rfl (.inr (.inl rfl)) (fun e => by cases e) planned
  refine Wp.attempt_seq (wp_askServer (p := none) h.poised kind fore h.there may (by decide) grace) ?_
  rintro r γ₁ s₁ ⟨asks, ends⟩
  cases r with
  | ok v => exact ⟨[], rfl, asks⟩
  | error f =>
    rcases (ends f rfl).led h.mine with rfl | fault
    · exact ⟨_, rfl, asks⟩
    · have fault : (f.isSession || f.isTransport) = true := fault
      by_cases late : f = .timeout
      · subst late; exact ⟨_, rfl, asks⟩
      · split
        · next e => cases e
        · next e => cases e; exact absurd rfl late
        · next e =>
          cases e
          rw [if_pos fault]
          exact ⟨_, rfl, asks⟩

/-- Telling the server to exit: nothing else may follow but the closing of its input. -/
theorem wp_sayExit (h : Tending σ t i γ s) (state : s.overview.state? i = some .shuttingDown)
    (planned : PlannedTo i .closing γ s) (server : s.overview.serverOf? i ≠ none) :
    (discipline σ).wp t (Session.sayExit i)
      (fun r γ' s' => r = .ok () ∧ Minds t (γ, s) (γ', s') ∧ Departs σ t i γ' s') γ s := by
  obtain ⟨κ, kind, fore⟩ := h.fore
  have may : MaySay t i .exit γ s :=
    .lead h.mine h.idle state (b := .done) rfl (.inr (.inr rfl)) (fun _ => rfl) planned
  have said := Said.of?_notification ⟨"exit", none⟩
  have note := Note.of?_notification (n := ⟨"exit", none⟩) (by decide)
  refine Wp.attempt_seq (wp_notify (p := none) h.poised kind fore h.there
    (may.send said fun n e => by cases note.symm.trans e)) ?_
  rintro r γ₁ s₁ ⟨sends, ends⟩
  have sent : Says σ t i .exit (γ, s) (γ₁, s₁) := .of_sends sends said
  have departs : Departs σ t i γ₁ s₁ := by
    refine ⟨sent.inv, sent.tongue, sent.newborn, sent.parting.imp_right fun e => ⟨e.2, ?_⟩⟩
    have same := (sent.life h.mine).holds
    simpa only [Overview.serverOf?, same] using server
  cases r with
  | ok _ => exact ⟨rfl, sent.toMinds, departs⟩
  | error f =>
    rcases ends with ⟨-, doomed⟩ | ⟨-, -, isTransport | ⟨-, free⟩⟩
    · obtain ⟨κ', kind', back⟩ := sent.inv.tasks.background t doomed
      rw [sent.loop.kinds t κ kind] at kind'
      cases kind'
      exact absurd back fore
    · show (discipline σ).wp t (if f.isTransport = true then pure () else Act.fail f) _ γ₁ s₁
      rw [if_pos isTransport]
      exact ⟨rfl, sent.toMinds, departs⟩
    · exact absurd h.mine free

/-- The conversation at the end of a session, and the release of its process. -/
theorem wp_closeOrderly {j : Nat} (h : Tending σ t i γ s)
    (state : s.overview.state? i = some .shuttingDown) (server : s.overview.serverOf? i = some j)
    (planned : PlannedTo i .open γ s) (grace : Seconds) :
    (discipline σ).wp t (do
        let problems ← Session.askShutdown i grace
        Session.sayExit i
        let exited ← Transport.disconnect i grace
        let problems := if exited then problems else problems ++ [Session.forcedText]
        Session.stopReader i
        Session.failPending i (.closed (.sessionClosed (Session.nameOf i)))
        Session.setState i .closed
        if problems.isEmpty then pure () else Act.fail (.shutdownFailed problems))
      (fun r γ' s' => Ended σ t i (γ, s) (γ', s') ∧
        ∀ f, r = .error f → Supervisor.isServerFault f = true ∨ FailsOverlong f s') γ s := by
  refine Wp.seq (wp_askShutdown h state planned grace) ?_ (by rintro _ _ _ ⟨_, e, -⟩; cases e)
  rintro problems γ₁ s₁ ⟨_, -, asks⟩
  have tending₁ := h.manages (asks.manages h.mine) asks.poised
  have server₁ : s₁.overview.serverOf? i = some j := by
    simpa only [Overview.serverOf?, (asks.life h.mine).holds] using server
  refine Wp.seq (wp_sayExit tending₁ ((asks.state? h.mine i).trans state)
    (planned.advances asks.toMinds h.mine (asks.advances h.mine) rfl)
    (by rw [server₁]; exact fun e => by cases e)) ?_ (by rintro _ _ _ ⟨e, -⟩; cases e)
  rintro _ γ₂ s₂ ⟨-, minds, departs⟩
  have server₂ : s₂.overview.serverOf? i = some j := by
    simpa only [Overview.serverOf?, (minds.life tending₁.mine).holds] using server₁
  have before : Tends t i (γ, s) (γ₂, s₂) := (asks.toMinds.trans minds).tends h.mine
  have mine₂ := (before.holder _).mp h.mine
  obtain ⟨κ, kind, fore⟩ := h.fore
  have released {r : Except Fault Bool} {γ₃ : Ghost} {s₃ : World}
      (letGo : LetGo σ t i j (γ₂, s₂) (γ₃, s₃) r) : Ended σ t i (γ, s) (γ₃, s₃) := by
    refine { letGo.ended server₂ with
      tends := before.trans letGo.tends, dead := fun tame k e => ?_ }
    obtain rfl := Option.some.inj (server.symm.trans e)
    exact letGo.dead tame
  refine Wp.seq (wp_disconnect departs mine₂ ⟨κ, before.loop.kinds t κ kind, fore⟩ server₂ grace) ?_ ?_
  · intro exited γ₃ s₃ letGo
    refine wp_conclude (a := (γ, s)) h (released letGo) rfl fun γ₄ s₄ ended => ?_
    by_cases fine : (if exited then problems else problems ++ [Session.forcedText]).isEmpty = true
    · rw [if_pos fine]
      exact ⟨ended, fun _ e => by cases e⟩
    · rw [if_neg fine]
      exact ⟨ended, fun f e => by cases e; exact .inl rfl⟩
  · intro f γ₃ s₃ letGo
    refine ⟨released letGo, fun f' e => .inr ?_⟩
    obtain ⟨found, same, long⟩ := letGo.ends f' (by cases e; rfl)
    exact ⟨found, j, same, long⟩

/-- Closing a session that is running. -/
theorem wp_closeSession {j : Nat} (h : Tending σ t i γ s) (running : s.overview.state? i = some .running)
    (server : s.overview.serverOf? i = some j) (grace : Seconds) :
    (discipline σ).wp t (Session.closeSession i grace)
      (fun r γ' s' => Ended σ t i (γ, s) (γ', s') ∧ s'.overview.Leaving i ∧
        ∀ f, r = .error f → Supervisor.isServerFault f = true ∨ FailsOverlong f s') γ s := by
  obtain ⟨x, found⟩ := World.exists_session h.there
  have seat : s.overview.seats[i]? = some x.seat := by simp [World.overview, found]
  have state : x.state = .running := by
    rw [Overview.state?, seat] at running
    exact Option.some.inj running
  refine wp_getSession found ?_
  rw [if_neg (by rw [state]; rintro (e | e) <;> cases e), h.poised.inv.transport found]
  -- The session is shutting down from now on.
  have reseat : Reseat t i (fun x => { x with state := .shuttingDown }) γ s :=
    { mine := h.mine, transport := fun _ => rfl, workspaceDir := fun _ => rfl
      reader := fun _ _ _ e => .inl e, started := fun _ _ e => (by cases e)
      past := fun _ _ _ => .inr (.inl rfl), leaving := fun _ _ _ => .inl rfl
      early := fun _ _ e => by rcases e with e | e <;> cases e
      permits := fun y st hy _ permits _ => by
        obtain rfl := Option.some.inj (seat.symm.trans hy)
        rw [show x.seat.state = .running from state] at permits
        exact .inl permits }
  refine Wp.bind (wp_reseat (g := fun x => { x with state := .shuttingDown }) reseat h.poised
    (fun _ => rfl) (fun _ => rfl) fun reseated => ?_)
  have state₁ : (s.setSession i fun x => { x with state := .shuttingDown }).overview.state? i =
      some .shuttingDown := by
    rw [reseated.overview, Overview.state?, Reseat.seat_view, seat]
    simp
  have server₁ : (s.setSession i fun x => { x with state := .shuttingDown }).overview.serverOf? i =
      some j := by rw [reseated.overview]; exact server
  have planned₁ : PlannedTo i .open γ (s.setSession i fun x => { x with state := .shuttingDown }) := by
    intro k p hk hp listens
    rw [reseated.voice]
    rw [reseated.overview] at hk hp ⊢
    obtain ⟨st, state', planned, found', permits⟩ := h.poised.inv.order.planned i k p hk hp listens
    obtain rfl := Option.some.inj (running.symm.trans found')
    obtain rfl : st = .open := permits
    exact planned
  have tending₁ := h.manages reseated.tends.toManages reseated.poised
  refine Wp.mono (wp_closeOrderly tending₁ state₁ server₁ planned₁ grace) ?_
  rintro r γ₂ s₂ ⟨ended, fails⟩
  refine ⟨{ ended with tends := reseated.tends.trans ended.tends, dead := fun tame k e => ?_ },
    ended.tends.leaving i ⟨_, state₁, .inl rfl⟩, fails⟩
  exact ended.dead tame k (by rw [reseated.overview]; exact e)

end LspHost
