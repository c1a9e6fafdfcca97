import LspHost.Proofs.Connecting
import LspHost.Proofs.Writing

/-!
# Requests and notifications

Whoever may say something to a server (`MaySay`) may send it as a request and wait for the response, at
most for some time (`wp_ask`), or send it as a notification (`wp_notify`). A request ends with a
response, with a timeout or with a fault of the server.
-/

namespace LspHost

open Discipline

variable {σ : Setting} {t i : Nat} {x : Said} {γ γ' : Ghost} {s s' : World}

/-- A task may say something to the server of a session. -/
structure MaySay (t i : Nat) (x : Said) (γ : Ghost) (s : World) : Prop where
  idle : γ.holder (.writing i) ≠ some t
  exits : x = .exit → γ.holder .lifecycle = some t
  fits : ∀ (j : Nat) (p : Process), s.overview.serverOf? i = some j →
    s.overview.processes[j]? = some p → p.listening = true →
    ∃ st st' state, plannedAt (s.voice γ) s.overview i p = some st ∧ st.plan? x = some st' ∧
      s.overview.state? i = some state ∧ state.Permits st' ∧
      (st' = .done → γ.holder .lifecycle = some t → x = .exit) ∧
      (γ.holder .lifecycle = some t ∨ st' = st)

namespace MaySay

/-- What may be said depends on nothing but what is seen and planned. -/
theorem congr (h : MaySay t i x γ s) (overview : s'.overview = s.overview)
    (voice : s'.voice γ' = s.voice γ) (holder : γ'.holder = γ.holder) : MaySay t i x γ' s' where
  idle := by rw [holder]; exact h.idle
  exits := by rw [holder]; exact h.exits
  fits := by rw [overview, voice, holder]; exact h.fits

/-- A message that says it and tells of no documents may be sent. -/
theorem send {m : Members} (h : MaySay t i x γ s) (said : Said.of? m = some x)
    (tells : ∀ n, Note.of? m = some n → γ.holder .documents = some t ∧
      (∃ rest, γ.untold = n :: rest) ∧ s.overview.session = some i ∧ s.overview.Past i) :
    MaySend t i m γ s where
  speaks y hy j p hj hp listens := by
    obtain rfl : x = y := Option.some.inj (said.symm.trans hy)
    exact h.fits j p hj hp listens
  idle := h.idle
  leads _ := by rw [said]; exact fun e => by cases e
  exits e := h.exits (Option.some.inj (said.symm.trans e))
  tells := tells

/-- Requests may be sent to a session that is running. -/
theorem query (inv : Inv σ (some t) γ s) (idle : γ.holder (.writing i) ≠ some t)
    (running : s.overview.state? i = some .running) : MaySay t i .query γ s where
  idle := idle
  exits e := by cases e
  fits j p hj hp listens := by
    obtain ⟨st, state, planned, found, permits⟩ := inv.order.planned i j p hj hp listens
    obtain rfl := Option.some.inj (running.symm.trans found)
    obtain rfl : st = .open := permits
    exact ⟨.open, .open, .running, planned, rfl, running, rfl, (fun e => by cases e), .inr rfl⟩

/-- Documents may be told to a session that has been through its handshake. -/
theorem document (inv : Inv σ (some t) γ s) (idle : γ.holder (.writing i) ≠ some t)
    (free : γ.holder .lifecycle ≠ some t ∨ s.overview.state? i = some .running)
    (past : s.overview.Past i) : MaySay t i .document γ s where
  idle := idle
  exits e := by cases e
  fits j p hj hp listens := by
    obtain ⟨st, state, planned, found, permits⟩ := inv.order.planned i j p hj hp listens
    obtain ⟨state', found', past⟩ := past
    obtain rfl := Option.some.inj (found.symm.trans found')
    have step : st.plan? .document = some st ∧ (st = .done → state ≠ .running) := by
      rcases past with rfl | rfl | rfl
      · obtain rfl : st = .open := permits
        exact ⟨rfl, fun e => by cases e⟩
      · rcases permits with rfl | rfl | rfl
        · exact ⟨rfl, fun e => by cases e⟩
        · exact ⟨rfl, fun e => by cases e⟩
        · exact ⟨rfl, fun _ e => by cases e⟩
      · exact permits.elim
    refine ⟨st, st, state, planned, step.1, found, permits, fun ended held => ?_, .inr rfl⟩
    rcases free with free | running
    · exact absurd held free
    · exact absurd (Option.some.inj (found.symm.trans running)) (step.2 ended)

/-- A lifecycle operation says what comes next. -/
theorem lead {a b : Talk} {state : SessionState} (held : γ.holder .lifecycle = some t)
    (idle : γ.holder (.writing i) ≠ some t) (found : s.overview.state? i = some state)
    (step : a.plan? x = some b) (permits : state.Permits b) (last : b = .done → x = .exit)
    (planned : ∀ (j : Nat) (p : Process), s.overview.serverOf? i = some j →
      s.overview.processes[j]? = some p → p.listening = true →
      plannedAt (s.voice γ) s.overview i p = some a) : MaySay t i x γ s where
  idle := idle
  exits _ := held
  fits j p hj hp listens :=
    ⟨a, b, state, planned j p hj hp listens, step, found, permits, fun ended _ => last ended, .inl held⟩

end MaySay

/-! ## Sessions -/

theorem wp_getSession {β : Type} {x : Session} {g : Session → Act β}
    {Q : Except Fault β → Ghost → World → Prop} (found : s.sessions[i]? = some x)
    (next : (discipline σ).wp t (g x) Q γ s) : (discipline σ).wp t (Session.get i >>= g) Q γ s := by
  refine Wp.bind (Wp.look ?_)
  simp only [found]
  exact next

/-- Sessions and transports have the same numbers. -/
theorem Inv.transport {o : Option Nat} (inv : Inv σ o γ s) {x : Session}
    (found : s.sessions[i]? = some x) : x.transport = i :=
  (inv.life.seats i x.seat (by simp [World.overview, found])).1

theorem World.exists_session (bound : i < s.sessions.length) : ∃ x, s.sessions[i]? = some x :=
  ⟨_, List.getElem?_eq_getElem bound⟩

/-! ## Sending requests and notifications -/

/-- What was said was sent, or could not be. -/
structure Says (σ : Setting) (t i : Nat) (x : Said) (a b : Ghost × World) : Prop
    extends Minds t a b where
  inv : Inv σ (some t) b.1 b.2
  tongue : b.1.tongue = fun _ => []
  newborn : b.1.newborn = none
  parting : b.1.parting = none ∨ x = .exit ∧ b.1.parting = some i
  advances : a.1.holder .lifecycle = some t → Advances (.writing i) [x] a b
  requests : Unrevoked t a b

theorem Says.of_sends {m : Members} {a b : Ghost × World} (h : Sends σ t i m a b)
    (said : Said.of? m = some x) : Says σ t i x a b where
  toMinds := h.toMinds
  inv := h.inv
  tongue := h.tongue
  newborn := h.newborn
  parting := h.parting.imp_right fun ⟨e, parting⟩ => ⟨Option.some.inj (said.symm.trans e), parting⟩
  advances held := by
    have := h.advances held
    rwa [Said.ofMembers, said] at this
  requests := h.requests

theorem Says.poised {a b : Ghost × World} (h : Says σ t i x a b) (goesOn : x ≠ .exit) :
    Poised σ t b.1 b.2 :=
  ⟨h.inv, h.tongue, h.newborn, h.parting.resolve_right fun e => goesOn e.1⟩

theorem Said.ofRequest_ne_exit (method : String) : Said.ofRequest method ≠ .exit := by
  unfold Said.ofRequest
  split <;> exact fun e => by cases e

/-- How a request or a notification of a task in the foreground ends. -/
def SayEnds (t : Nat) (γ : Ghost) (f : Fault) : Prop :=
  f.isTransport = true ∨ (f = Transport.missing "stdin" ∧ γ.holder .lifecycle ≠ some t)

theorem SendEnds.say {α : Type} {m : Members} {a b : Ghost × World} {r : Except Fault Unit} {r' : Except Fault α}
    (h : SendEnds t i m a b r) (live : b.1.doomed t = false) (same : ∀ f, r' = .error f → r = .error f) :
    ∀ f, r' = .error f → SayEnds t a.1 f := by
  intro f e
  obtain rfl := same f e
  obtain ⟨-, doomed⟩ | ⟨-, -, ends⟩ := h
  · rw [live] at doomed; cases doomed
  · exact ends

/-- Sending a request. -/
theorem wp_sendRequest {method : String} {p : Option Members} {κ : TaskKind} (poised : Poised σ t γ s)
    (kind : s.loop.kind? t = some κ) (fore : ¬ κ.IsBackground) (there : i < s.sessions.length)
    (may : MaySay t i (.ofRequest method) γ s) (plain : method ∉ Said.documentMethods) (number : Nat) :
    (discipline σ).wp t (Session.sendRequest i number (.str method) (Params.json p))
      (fun r γ' s' => Says σ t i (.ofRequest method) (γ, s) (γ', s') ∧
        ∀ f, r = .error f → SayEnds t γ f) γ s := by
  obtain ⟨x, found⟩ := World.exists_session there
  refine wp_getSession found ?_
  rw [poised.inv.transport found, Request.ofMembers_made]
  have said := Said.of?_request ⟨.number number, method, p.map .named⟩
  have note := Note.of?_request (r := ⟨.number number, method, p.map .named⟩) plain
  refine Wp.mono (wp_send poised (poised.live ⟨κ, kind, fore⟩) kind (fun back => absurd back fore)
    (may.send said fun n e => by rw [note] at e; cases e)) ?_
  rintro r γ' s' ⟨sends, ends⟩
  have sent : Says σ t i (.ofRequest method) (γ, s) (γ', s') := .of_sends sends said
  refine ⟨sent, ends.say ?_ fun _ e => e⟩
  exact (sent.poised (Said.ofRequest_ne_exit method)).live ⟨κ, sent.loop.kinds t κ kind, fore⟩

/-- How asking ends. -/
def AskEnds (t : Nat) (γ : Ghost) (f : Fault) : Prop :=
  f = .timeout ∨ Supervisor.isServerFault f = true ∨
    (f = Transport.missing "stdin" ∧ γ.holder .lifecycle ≠ some t)

theorem SayEnds.ask {f : Fault} (h : SayEnds t γ f) : AskEnds t γ f :=
  h.elim (fun e => .inr (.inl (by simp [Supervisor.isServerFault, e]))) fun e => .inr (.inr e)

/-- A request was sent, if it could be, and nobody waits for its response any more. -/
structure Asks (σ : Setting) (t i : Nat) (x : Said) (a b : Ghost × World) : Prop
    extends Minds t a b where
  poised : Poised σ t b.1 b.2
  advances : a.1.holder .lifecycle = some t → Advances (.writing i) [x] a b

theorem Asks.mute {a b c : Ghost × World} (h : Asks σ t i x a b) (mute : Mute t b c)
    (poised : Poised σ t c.1 c.2) : Asks σ t i x a c where
  toMinds := h.toMinds.trans mute.toMinds
  poised := poised
  advances held := (h.advances held).mute h.toKeeps (h.life held) mute ((h.holder _).mp held)

theorem Asks.after {a b c : Ghost × World} (mute : Mute t a b) (h : Asks σ t i x b c) :
    Asks σ t i x a c where
  toMinds := mute.toMinds.trans h.toMinds
  poised := h.poised
  advances held := .after mute held (h.advances ((mute.holder _).mp held)) h.toKeeps

/-- Sending a request and waiting for its ticket. -/
theorem wp_sendAndWait {method : String} {p : Option Members} {κ : TaskKind} {number k : Nat}
    (poised : Poised σ t γ s) (kind : s.loop.kind? t = some κ) (fore : ¬ κ.IsBackground)
    (there : i < s.sessions.length) (may : MaySay t i (.ofRequest method) γ s)
    (plain : method ∉ Said.documentMethods) (role : γ.role k = .request t)
    (fresh : s.loop.outcome? k = none) (time : Seconds) :
    (discipline σ).wp t (do
        Session.sendRequest i number (.str method) (Params.json p)
        Act.waitFor (pure k) time)
      (fun r γ' s' => Asks σ t i (.ofRequest method) (γ, s) (γ', s') ∧
        ∀ f, r = .error f → AskEnds t γ f) γ s := by
  refine Wp.seq (wp_sendRequest poised kind fore there may plain number) ?_ ?_
  · rintro _ γ₁ s₁ ⟨sent, -⟩
    have poised₁ := sent.poised (Said.ofRequest_ne_exit method)
    have role₁ : γ₁.role k = .request t := by
      rw [sent.roles k (by rw [role]; exact fun e => by cases e), role]
    have awaits : Awaits t γ₁ s₁ k := by
      refine ⟨by rw [role₁]; exact rfl, fun _ cancelled => ?_, fun u κ keeper e => ?_⟩
      · have := sent.requests k role cancelled
        rw [fresh] at this
        cases this
      · rw [role₁] at e; cases e
    refine Wp.mono (wp_waitFor (w := fun ρ => ρ = .request t) poised₁
      ⟨κ, sent.loop.kinds t κ kind, fore⟩ time fun γ' s' poised' rely => ?_) ?_
    · have role' := (rely.roles k (by rw [role₁]; exact fun e => by cases e)).trans role₁
      exact ⟨k, rfl, role', awaits.rely rely, poised', .refl t _⟩
    · rintro r γ₂ s₂ ⟨⟨k', role', answers⟩, poised₂, mute⟩
      have asks : Asks σ t i (.ofRequest method) (γ, s) (γ₁, s₁) :=
        ⟨sent.toMinds, poised₁, sent.advances⟩
      refine ⟨asks.mute mute poised₂, fun f e => ?_⟩
      subst e
      rcases answers with rfl | ⟨-, fault⟩
      · exact .inl rfl
      · exact .inr (.inl fault)
  · rintro f γ₁ s₁ ⟨sent, ends⟩
    exact ⟨⟨sent.toMinds, sent.poised (Said.ofRequest_ne_exit method), sent.advances⟩,
      fun f' e => (ends f' (by cases e; rfl)).ask⟩

/-- Asking for something, and waiting for the response at most for some time. -/
theorem wp_askServer {method : String} {p : Option Members} {κ : TaskKind} (poised : Poised σ t γ s)
    (kind : s.loop.kind? t = some κ) (fore : ¬ κ.IsBackground) (there : i < s.sessions.length)
    (may : MaySay t i (.ofRequest method) γ s) (plain : method ∉ Said.documentMethods) (time : Seconds) :
    (discipline σ).wp t (Session.ask i (.str method) (Params.json p) time)
      (fun r γ' s' => Asks σ t i (.ofRequest method) (γ, s) (γ', s') ∧
        ∀ f, r = .error f → AskEnds t γ f) γ s := by
  obtain ⟨x, found⟩ := World.exists_session there
  have counted : Quiet σ (some t) (γ, s)
      (γ, s.setSession i fun x => { x with lastRequest := x.lastRequest + 1 }) :=
    quiet_setSession poised.inv i (fun _ => rfl) fun _ _ _ he => .inl he
  have issued := quiet_issue (ρ := .request t) counted.inv (fun e => by cases e) fun _ _ _ e => by cases e
  have role : (γ.assign s.loop.tickets.length (.request t)).role s.loop.tickets.length = .request t :=
    Ghost.assign_role_self ..
  have added := quiet_setSession issued.inv i
    (f := fun y => { y with pending := y.pending ++ [(x.lastRequest + 1, s.loop.tickets.length)] })
    (fun _ => rfl) fun y _ e he => by
      rcases List.mem_append.mp he with he | he
      · exact .inl he
      · rw [List.mem_singleton.mp he]; exact .inr ⟨t, role⟩
  have start := (counted.trans issued).trans added
  have fresh : s.loop.issue.2.outcome? s.loop.tickets.length = none := by
    rw [Loop.outcome?_issue]
    rcases settled : s.loop.outcome? s.loop.tickets.length with _ | r
    · rfl
    · exact absurd (Loop.outcome?_lt settled) (Nat.lt_irrefl _)
  have may' : MaySay t i (.ofRequest method) (γ.assign s.loop.tickets.length (.request t))
      (({ s.setSession i (fun x => { x with lastRequest := x.lastRequest + 1 }) with
        loop := s.loop.issue.2 } : World).setSession i fun y =>
          { y with pending := y.pending ++ [(x.lastRequest + 1, s.loop.tickets.length)] }) := by
    refine may.congr ?_ ?_ rfl
    · exact (World.overview_setSession_same _ i (by exact fun _ => rfl)).trans
        (World.overview_setSession_same s i (by exact fun _ => rfl))
    · refine ((aside_setSession _ _ i _).voice rfl).trans ?_
      exact (voice_issue (counted.poised poised.ease) (.request t) s.loop.issue.2).trans
        ((aside_setSession γ s i _).voice rfl)
  refine wp_yield γ (by simp only [found]; exact counted.spares) ?_
  simp only [found]
  refine wp_ask _ issued.spares (wp_change _ added.spares ?_)
  refine Wp.ensure (wp_sendAndWait (start.poised poised.ease) ((start.rely t).loop.kinds t κ kind) fore
    (Nat.lt_of_lt_of_le there (start.rely t).sessions) may' plain role fresh time) ?_
  rintro r γ' s' ⟨asks, ends⟩
  have dropped := quiet_setSession asks.poised.inv i
    (f := fun y => { y with pending := y.pending.filter fun p => p.1 ≠ x.lastRequest + 1 })
    (fun _ => rfl) fun _ _ e he => .inl (List.mem_filter.mp he).1
  exact wp_update _ dropped.spares ⟨.after (start.rely t).toMute
    (asks.mute (dropped.rely t).toMute (dropped.poised asks.poised.ease)), ends⟩

/-- Sending a notification. -/
theorem wp_notify {method : String} {p : Option Members} {κ : TaskKind} (poised : Poised σ t γ s)
    (kind : s.loop.kind? t = some κ) (fore : ¬ κ.IsBackground) (there : i < s.sessions.length)
    (may : MaySend t i (Message.notification ⟨method, p.map .named⟩).wireMembers γ s) :
    (discipline σ).wp t (Session.notify i method (Params.json p))
      (fun r γ' s' => Sends σ t i (Message.notification ⟨method, p.map .named⟩).wireMembers
        (γ, s) (γ', s') ∧ SendEnds t i (Message.notification ⟨method, p.map .named⟩).wireMembers
          (γ, s) (γ', s') r) γ s := by
  obtain ⟨x, found⟩ := World.exists_session there
  refine wp_getSession found ?_
  rw [poised.inv.transport found, Notification.ofMembers_made]
  exact wp_send poised (poised.live ⟨κ, kind, fore⟩) kind (fun back => absurd back fore) may

end LspHost
