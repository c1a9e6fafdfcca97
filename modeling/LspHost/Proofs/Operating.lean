import LspHost.Proofs.Telling

/-!
# Lifecycle operations

An operation begins and ends with everything at rest (`Settled`): the supervisor holds a session that is
running, or it holds none and every process has exited (`Vacant`). In between a stop gives its session
up (`wp_stopSession`), a start makes a new one, opens it and takes it up (`wp_launch`), and a restart
does both. What is reported of an operation says what it may say (`Operation.Reports`); no fault escapes
but those that `Escapes` names (`wp_operate`).
-/

namespace LspHost

open Discipline

variable {σ : Setting} {t i : Nat} {γ γ' : Ghost} {s s' : World}

/-! ## What is reported -/

/-- Why an operation may fail. -/
def Operation.FailsWith : Operation → ErrorKind → Prop
  | .start, e => e = .spawnFailed ∨ e = .handshakeFailed
  | .restart, e => e = .spawnFailed ∨ e = .handshakeFailed
  | .stop, e => e = .shutdownTimeout
  | .shutdown, e => e = .shutdownTimeout

/-- What an operation may report: only a failure and a refusal are given a reason. -/
structure Operation.Reports (o : Operation) (r : LifecycleResult) : Prop where
  operation : r.operation = o
  well : r.outcome = .success ∨ r.outcome = .noop → r.error = none
  failed : r.outcome = .failed → ∃ e, r.error = some e ∧ o.FailsWith e
  refused : r.outcome = .rejected → r.error = some .operationInProgress

/-- The faults that operations do not report but end with: a line of some error output was too long to
be read, the workspace has no path, or the command is no text. -/
def Escapes (σ : Setting) (f : Fault) (s : World) : Prop :=
  FailsOverlong f s ∨ FailsUnresolved σ f ∨
    (f = commandFault σ.config.server.command ∧ ∀ c, σ.config.server.command ≠ .str c)

theorem Escapes.keeps {f : Fault} {a b : Ghost × World} (h : Escapes σ f a.2) (keeps : Keeps a b) :
    Escapes σ f b.2 :=
  h.imp_left fun long => long.keeps keeps

/-- How an operation may end. -/
structure Operation.Ends (σ : Setting) (o : Operation) (r : Except Fault LifecycleResult) (s : World) :
    Prop where
  reports : ∀ x, r = .ok x → o.Reports x
  escapes : ∀ f, r = .error f → Escapes σ f s

namespace Operation.Ends

variable {o : Operation} {x : LifecycleResult}

theorem ok (h : o.Reports x) : Ends σ o (.ok x) s where
  reports _ e := Except.ok.inj e ▸ h
  escapes _ e := by cases e

theorem error {f : Fault} (h : Escapes σ f s) : Ends σ o (.error f) s where
  reports _ e := by cases e
  escapes _ e := Except.error.inj e ▸ h

theorem keeps {r : Except Fault LifecycleResult} {a b : Ghost × World} (h : Ends σ o r a.2)
    (keeps : Keeps a b) : Ends σ o r b.2 where
  reports := h.reports
  escapes f e := (h.escapes f e).keeps keeps

end Operation.Ends

namespace Operation.Reports

variable {o : Operation} {message name : String} {session : Option String} {pid : Option Int}

theorem success : o.Reports (.success o message name pid) where
  operation := rfl
  well _ := rfl
  failed e := by cases e
  refused e := by cases e

theorem noop : o.Reports (.noop o message session pid) where
  operation := rfl
  well _ := rfl
  failed e := by cases e
  refused e := by cases e

theorem fails {kind : ErrorKind} (h : o.FailsWith kind) :
    o.Reports (.failed o kind message name pid) where
  operation := rfl
  well e := by rcases e with e | e <;> cases e
  failed _ := ⟨kind, rfl, h⟩
  refused e := by cases e

theorem rejected : o.Reports (.rejected o) where
  operation := rfl
  well e := by rcases e with e | e <;> cases e
  failed e := by cases e
  refused _ := rfl

/-- The report of one operation is the report of another one that may fail for the same reasons. -/
theorem renamed {o' : Operation} {x y : LifecycleResult} (h : o.Reports x)
    (same : ∀ e, o.FailsWith e → o'.FailsWith e) (operation : y.operation = o')
    (outcome : y.outcome = x.outcome) (error : y.error = x.error) : o'.Reports y where
  operation := operation
  well e := by rw [error]; exact h.well (by rwa [outcome] at e)
  failed e := by
    obtain ⟨kind, reason, fails⟩ := h.failed (by rwa [outcome] at e)
    exact ⟨kind, by rw [error]; exact reason, same kind fails⟩
  refused e := by rw [error]; exact h.refused (by rwa [outcome] at e)

end Operation.Reports

/-! ## At rest -/

theorem Leads.manages (h : Leads σ t γ s) (manages : Manages t (γ, s) (γ', s'))
    (poised : Poised σ t γ' s') : Leads σ t γ' s' where
  poised := poised
  held := (manages.holder _).mp h.held
  alone p ne e := h.alone p ne ((manages.holder p).mpr e)
  kind := by
    obtain ⟨o, kind⟩ := h.kind
    exact ⟨o, manages.loop.kinds t _ kind⟩

theorem Leads.quiet (h : Leads σ t γ s) (quiet : Quiet σ (some t) (γ, s) (γ, s')) :
    Leads σ t γ s' :=
  h.manages ((quiet.rely t).toMinds.manages h.held) (quiet.poised h.poised.ease)

/-- Processes that had exited stay so while a lifecycle operation holds its lock. -/
theorem Minds.exited {a b : Ghost × World} (minds : Minds t a b) (held : a.1.holder .lifecycle = some t)
    (dead : ∀ p ∈ a.2.overview.processes, p.alive = false) :
    ∀ p ∈ b.2.overview.processes, p.alive = false := by
  intro q hq
  obtain ⟨j, hj⟩ := List.mem_iff_getElem?.mp hq
  have bound : j < a.2.overview.processes.length := by
    rw [← (minds.life held).processes]; exact (List.getElem?_eq_some_iff.mp hj).1
  obtain ⟨p, hp, -, -, alive, -⟩ := minds.processes j _ (List.getElem?_eq_getElem bound)
  obtain rfl : p = q := Option.some.inj (hp.symm.trans hj)
  have was := dead _ (List.getElem_mem bound)
  rcases now : p.alive with _ | _
  · rfl
  · exact absurd (alive now) (by rw [was]; exact Bool.false_ne_true)

/-- A lifecycle operation that holds its lock, while everything is as it is at rest. -/
structure Settled (σ : Setting) (t : Nat) (γ : Ghost) (s : World) : Prop extends Leads σ t γ s where
  rest : s.overview.AtRest σ

theorem Settled.quiet (h : Settled σ t γ s) (quiet : Quiet σ (some t) (γ, s) (γ, s')) :
    Settled σ t γ s' where
  toLeads := h.toLeads.quiet quiet
  rest := by
    have minds := (quiet.rely t).toMinds
    have kept := minds.life h.held
    refine ⟨fun none tame resolvable => ?_, fun n session => ?_⟩
    · exact minds.exited h.held (h.rest.idle (kept.session.symm.trans none) tame resolvable)
    · have runs := h.rest.busy n (kept.session.symm.trans session)
      have kept' := Overview.Runs.kept ⟨runs.1, runs.2⟩ kept
      exact ⟨kept'.state, kept'.server⟩

/-- An operation holds a session that is running, and that is all. -/
theorem Holds.settled (h : Holds σ t i γ s) : Settled σ t γ s where
  toLeads := h.toLeads
  rest := by
    refine ⟨fun none => ?_, fun n session => ?_⟩
    · cases h.session.symm.trans none
    · obtain rfl := Option.some.inj (h.session.symm.trans session)
      exact ⟨h.runs.state, h.runs.server⟩

theorem Settled.holds (h : Settled σ t γ s) (session : s.overview.session = some i) :
    Holds σ t i γ s where
  toLeads := h.toLeads
  session := session
  runs := ⟨(h.rest.busy i session).1, (h.rest.busy i session).2⟩

/-- An operation holds no session, and no process is alive. -/
structure Vacant (σ : Setting) (t : Nat) (γ : Ghost) (s : World) : Prop extends Leads σ t γ s where
  vacant : s.overview.session = none
  dead : σ.Tame → σ.Resolvable → ∀ p ∈ s.overview.processes, p.alive = false

theorem Vacant.settled (h : Vacant σ t γ s) : Settled σ t γ s where
  toLeads := h.toLeads
  rest := ⟨fun _ => h.dead, fun _ session => by cases h.vacant.symm.trans session⟩

theorem Settled.vacant (h : Settled σ t γ s) (none : s.overview.session = none) : Vacant σ t γ s where
  toLeads := h.toLeads
  vacant := none
  dead := h.rest.idle none

theorem Vacant.quiet (h : Vacant σ t γ s) (quiet : Quiet σ (some t) (γ, s) (γ, s')) :
    Vacant σ t γ s' :=
  (h.settled.quiet quiet).vacant ((((quiet.rely t).toMinds.life h.held).session).trans h.vacant)

/-- Once the newest session has no process that is alive, none is. -/
theorem Leads.dead_of_newest (h : Leads σ t γ s) (last : i + 1 = s.overview.holds.length)
    (dead : σ.Tame → σ.Resolvable → ∀ j, s.overview.serverOf? i = some j → s.overview.Dead j) :
    σ.Tame → σ.Resolvable → ∀ p ∈ s.overview.processes, p.alive = false := by
  intro tame resolvable p hp
  obtain ⟨j, hj⟩ := List.mem_iff_getElem?.mp hp
  rcases alive : p.alive with _ | _
  · rfl
  · rcases h.poised.inv.life.newest tame resolvable j p hj alive with born | ⟨n, newest, server⟩
    · cases h.poised.ease.newborn.symm.trans born
    · obtain rfl : n = i := Nat.succ.inj (newest.trans last.symm)
      obtain ⟨q, hq, exited⟩ := dead tame resolvable j server
      obtain rfl := Option.some.inj (hj.symm.trans hq)
      exact absurd exited (by rw [alive]; exact Bool.noConfusion)

/-! ## Events -/

/-- Publishing an event of a session's life. -/
theorem wp_publish {type : EventType} {session : Option Nat} {message : String}
    {Q : Except Fault Unit → Ghost → World → Prop} (poised : Poised σ t γ s)
    (next : ∀ s', Quiet σ (some t) (γ, s) (γ, s') → Q (.ok ()) γ s') :
    (discipline σ).wp t (Supervisor.publish type session message) Q γ s := by
  have quiet : Quiet σ (some t) (γ, s) (γ, s.publishLifecycle type session message) :=
    quiet_publish poised.inv _
  exact wp_update γ quiet.spares (next _ quiet)

/-! ## Giving a session up -/

/-- The session that was held is given up. -/
def World.vacate (s : World) : World := s.setSupervisor fun v => { v with session := none }

/-- A session that was closed is given up. -/
theorem vacate_spares (h : Leads σ t γ s) (session : s.overview.session = some i)
    (leaving : s.overview.Leaving i) (deaf : ¬ s.overview.Listening i) :
    Leads σ t γ s.vacate ∧ (discipline σ).Spares t (γ, s) (γ, s.vacate) := by
  have inv := h.poised.inv
  have aside : Aside (γ, s) (γ, s.vacate) :=
    { loop := rfl, servers := rfl, getters := rfl, locks := fun p => by cases p <;> rfl
      role := rfl, doomed := rfl, phase := rfl, holder := rfl }
  have keeps : Keeps (γ, s) (γ, s.vacate) :=
    aside.keeps (Nat.le_refl _) (Nat.le_refl _) (fun _ past => ⟨past, fun e => e, fun _ e => e⟩)
      fun _ e => e
  have life : Life σ γ s.vacate.overview :=
    { inv.life with
      held := fun _ e => by cases e
      atRest := fun free => by cases h.held.symm.trans free }
  have mirror : Mirror γ.toHands s.vacate.overview :=
    { inv.mirror with
      mirrored := fun _ _ _ e => by cases e
      early := fun n j p state _ server found => by
        refine inv.mirror.early n j p state (fun same => ?_) server found
        obtain rfl := Option.some.inj (session.symm.trans same)
        -- The session is on its way out, so it is not at its beginning.
        obtain ⟨st, now, away⟩ := leaving
        rcases state with early | early <;> rw [show s.overview.state? i = _ from early] at now <;>
          rcases Option.some.inj now with rfl <;> rcases away with e | e <;> cases e }
  refine ⟨{ h with poised := ⟨?_, h.poised.ease⟩ }, aside.spares h.held keeps fun u other held => ?_⟩
  · exact aside.inv inv inv.tickets.pending life ⟨inv.order.written, inv.order.planned⟩ mirror inv.closed
  · refine ⟨⟨fun n same _ => .inr ⟨rfl, fun listens => deaf ?_⟩, fun _ => rfl, .inl rfl⟩, rfl⟩
    obtain rfl := Option.some.inj (session.symm.trans same)
    exact listens

/-- Stopping the session that is held. -/
theorem wp_stopSession (h : Holds σ t i γ s) :
    (discipline σ).wp t (Supervisor.stopSession i)
      (fun r γ' s' => Vacant σ t γ' s' ∧ Operation.Ends σ .stop r s') γ s := by
  refine Wp.bind (wp_publish h.poised fun s₁ quiet₁ => ?_)
  have holds₁ := (h.settled.quiet quiet₁).holds
    (((quiet₁.rely t).toMinds.life h.held).session.trans h.session)
  have inv₁ := holds₁.poised.inv
  obtain ⟨last, -⟩ := inv₁.life.held i holds₁.session
  obtain ⟨j, server⟩ := holds₁.runs.server
  have tending : Tending σ t i γ s₁ :=
    { poised := holds₁.poised, mine := holds₁.held, idle := holds₁.alone _ (by intro e; cases e)
      fore := holds₁.fore, there := by simpa [World.overview] using Nat.lt_of_succ_le (Nat.le_of_eq last) }
  refine Wp.look ?_
  refine Wp.attempt_seq (wp_closeSession tending holds₁.runs.state server _) ?_
  rintro r γ₂ s₂ ⟨ended, leaving, fails⟩
  have leads₂ := holds₁.toLeads.manages ended.tends.toManages ended.poised
  have session₂ : s₂.overview.session = some i := ended.tends.session.trans holds₁.session
  obtain ⟨leads₃, spares⟩ := vacate_spares leads₂ session₂ leaving ended.deaf
  have last₂ : i + 1 = s₂.vacate.overview.holds.length := by
    rw [last, inv₁.life.paired]; exact ended.tends.holds.symm
  have vacant : Vacant σ t γ₂ s₂.vacate :=
    { toLeads := leads₃, vacant := rfl
      dead := leads₃.dead_of_newest last₂ fun tame _ k hk => ended.dead tame k (ended.tends.gives k hk) }
  refine wp_change γ₂ spares ?_
  have told (x : LifecycleResult) (reports : Operation.stop.Reports x) :
      (discipline σ).wp t (do
          Supervisor.publish .sessionStopped (some i) x.message
          pure x)
        (fun r γ' s' => Vacant σ t γ' s' ∧ Operation.Ends σ .stop r s') γ₂ s₂.vacate := by
    refine Wp.bind (wp_publish vacant.poised fun s₃ quiet₃ => ?_)
    exact ⟨vacant.quiet quiet₃, .ok reports⟩
  rcases r with f | ⟨⟩
  · by_cases known : (Supervisor.isServerFault f || f.isOs) = true
    · show (discipline σ).wp t (do
        let result ← if (Supervisor.isServerFault f || f.isOs) = true then pure _ else Act.fail f
        _) _ γ₂ s₂.vacate
      rw [if_pos known]
      exact told _ (.fails rfl)
    · show (discipline σ).wp t (do
        let result ← if (Supervisor.isServerFault f || f.isOs) = true then pure _ else Act.fail f
        _) _ γ₂ s₂.vacate
      rw [if_neg known]
      rcases fails f rfl with fault | long
      · rw [fault] at known
        exact absurd rfl known
      · exact ⟨vacant, .error (.inl long)⟩
  · exact told _ .success

/-- Stopping the session that is held, if there is one. -/
theorem wp_doStop (h : Settled σ t γ s) :
    (discipline σ).wp t Supervisor.doStop
      (fun r γ' s' => Vacant σ t γ' s' ∧ Operation.Ends σ .stop r s') γ s := by
  refine Wp.look ?_
  rcases session : s.supervisor.session with _ | i
  · exact Wp.done ⟨h.vacant session, .ok .noop⟩
  · exact wp_stopSession (h.holds session)

/-! ## A new session -/

namespace Overview

/-- The overview with a new session that nobody has opened. -/
def seated (v : Overview) (σ : Setting) : Overview :=
  { v with
    seats := v.seats ++ [⟨v.holds.length, .notStarted, none, σ.config.workspaceDir⟩]
    holds := v.holds ++ [⟨σ.config.server.command, none, none⟩] }

variable {v : Overview}

/-- The new transport holds nothing, the others hold what they held. -/
theorem serverOf?_seated (n : Nat) : (v.seated σ).serverOf? n = v.serverOf? n := by
  simp only [serverOf?, seated]
  rcases Nat.lt_trichotomy n v.holds.length with lt | rfl | gt
  · rw [List.getElem?_append_left lt]
  · simp
  · rw [List.getElem?_eq_none (by simpa using Nat.succ_le_of_lt gt),
      List.getElem?_eq_none (Nat.le_of_lt gt)]

/-- The new session was not started, the others are where they were. -/
theorem state?_seated {n : Nat} {st : SessionState} (h : (v.seated σ).state? n = some st) :
    v.state? n = some st ∨ (n = v.seats.length ∧ st = .notStarted) := by
  obtain ⟨x, hx, rfl⟩ := Option.map_eq_some_iff.mp h
  rcases getElem?_push_cases hx with old | ⟨same, rfl⟩
  · exact .inl (by rw [state?, old]; rfl)
  · exact .inr ⟨same, rfl⟩

theorem state?_seated_old {n : Nat} {st : SessionState} (h : v.state? n = some st) :
    (v.seated σ).state? n = some st := by
  obtain ⟨x, hx, rfl⟩ := Option.map_eq_some_iff.mp h
  have old : (v.seated σ).seats[n]? = some x := by
    rw [seated, List.getElem?_append_left (List.getElem?_eq_some_iff.mp hx).1]
    exact hx
  rw [state?, old]
  rfl

theorem past_seated {n : Nat} (h : v.Past n) : (v.seated σ).Past n := by
  obtain ⟨st, state, past⟩ := h
  exact ⟨st, state?_seated_old state, past⟩

theorem listening_seated {n : Nat} (h : (v.seated σ).Listening n) : v.Listening n := by
  obtain ⟨j, p, server, found, listens⟩ := h
  exact ⟨j, p, by rwa [serverOf?_seated] at server, found, listens⟩

end Overview

/-- The world with a new session that nobody has opened. -/
def World.seated (s : World) : World :=
  (Supervisor.createSession s.supervisor.config.server (Supervisor.sessionOptions s.supervisor) s).2

theorem World.overview_seated (life : Life σ γ s.overview) :
    s.seated.overview = s.overview.seated σ := by
  have config : s.supervisor.config = σ.config := life.config
  simp [World.seated, Supervisor.createSession, World.overview, Overview.seated, Session.seat, Session.fresh,
    Supervisor.sessionOptions, Transport.hold, Transport.ofConfig, config, World.mail]

namespace Vacant

/-- A session is added only when no process is alive. -/
theorem life_seated (h : Vacant σ t γ s) : Life σ γ (s.overview.seated σ) :=
  have life := h.poised.inv.life
  { life with
    paired := by simp [Overview.seated, life.paired]
    seats := fun n x hx => by
      rcases getElem?_push_cases hx with old | ⟨rfl, rfl⟩
      · exact life.seats n x old
      · exact ⟨life.paired.symm, rfl⟩
    commands := fun x hx => by
      rcases List.mem_append.mp hx with old | new
      · exact life.commands x old
      · rw [List.mem_singleton.mp new]
    owned := fun n j e => life.owned n j (by rwa [Overview.serverOf?_seated] at e)
    owner := fun n n' j e e' => life.owner n n' j (by rwa [Overview.serverOf?_seated] at e)
      (by rwa [Overview.serverOf?_seated] at e')
    drains := fun n x d hx hd => by
      rcases getElem?_push_cases hx with old | ⟨-, rfl⟩
      · exact life.drains n x d old hd
      · cases hd
    readers := fun n x r hx hr => by
      rcases getElem?_push_cases hx with old | ⟨-, rfl⟩
      · exact life.readers n x r old hr
      · cases hr
    unstarted := fun n e => by
      rw [Overview.serverOf?_seated]
      rcases Overview.state?_seated e with old | ⟨rfl, -⟩
      · exact life.unstarted n old
      · rw [Overview.serverOf?, life.paired, List.getElem?_eq_none (Nat.le_refl _)]
        rfl
    newest := fun tame resolvable j p hp alive => by
      have exited := h.dead tame resolvable p (List.mem_of_getElem? hp)
      rw [alive] at exited
      cases exited
    held := fun n e => by cases h.vacant.symm.trans e
    atRest := fun free => by cases h.held.symm.trans free }

theorem mirror_seated (h : Vacant σ t γ s) : Mirror γ.toHands (s.overview.seated σ) :=
  have mirror := h.poised.inv.mirror
  { mirror with
    mirrored := fun n _ _ e => by cases h.vacant.symm.trans e
    early := fun n j p state apart server found => by
      rw [Overview.serverOf?_seated] at server
      refine mirror.early n j p ?_ apart server found
      rcases state with e | e
      · rcases Overview.state?_seated e with old | ⟨-, e⟩
        · exact .inl old
        · cases e
      · rcases Overview.state?_seated e with old | ⟨-, e⟩
        · exact .inr old
        · cases e }

theorem order_seated (h : Vacant σ t γ s) : Order (s.voice γ) (s.overview.seated σ) where
  written := h.poised.inv.order.written
  planned n j p server found listens := by
    rw [Overview.serverOf?_seated] at server
    obtain ⟨st, state, planned, now, permits⟩ := h.poised.inv.order.planned n j p server found listens
    exact ⟨st, state, planned, Overview.state?_seated_old now, permits⟩

/-- A new session may be opened, and still none is held. -/
theorem seats (h : Vacant σ t γ s) :
    Vacant σ t γ s.seated ∧ MayOpen σ t s.sessions.length γ s.seated ∧
      (discipline σ).Spares t (γ, s) (γ, s.seated) := by
  have inv := h.poised.inv
  have view := World.overview_seated inv.life
  have paired : s.sessions.length = s.transports.length := by
    simpa [World.overview] using inv.life.paired
  have locks (p : Place) : p.lock s.seated = p.lock s := by
    cases p with
    | lifecycle => rfl
    | documents => rfl
    | writing n =>
      show (((s.transports ++ [_])[n]?).map Transport.writing).getD .free =
        ((s.transports[n]?).map Transport.writing).getD .free
      rcases Nat.lt_trichotomy n s.transports.length with lt | rfl | gt
      · rw [List.getElem?_append_left lt]
      · simp [Transport.ofConfig]
      · rw [List.getElem?_eq_none (by simpa using Nat.succ_le_of_lt gt),
          List.getElem?_eq_none (Nat.le_of_lt gt)]
  have aside : Aside (γ, s) (γ, s.seated) := ⟨rfl, rfl, rfl, locks, rfl, rfl, rfl, rfl⟩
  have keeps : Keeps (γ, s) (γ, s.seated) := by
    refine aside.keeps (by simp [World.seated, Supervisor.createSession])
      (by simp [World.seated, Supervisor.createSession]) (fun n past => ?_) fun x e => ?_
    · rw [view]
      exact ⟨Overview.past_seated past, Overview.listening_seated,
        fun k e => by rwa [Overview.serverOf?_seated] at e⟩
    · rw [view]; exact e
  have pending (n : Nat) (x : Session) (e : Nat × Nat) (hx : s.seated.sessions[n]? = some x)
      (he : e ∈ x.pending) : ∃ u, γ.role e.2 = .request u := by
    rcases getElem?_push_cases hx with old | ⟨-, rfl⟩
    · exact inv.tickets.pending n x e old he
    · cases he
  have voice : s.seated.voice γ = s.voice γ := aside.voice rfl
  have inv' : Inv σ (some t) γ s.seated := by
    refine aside.inv inv pending ?_ ?_ ?_ ?_
    · rw [view]; exact h.life_seated
    · rw [voice, view]; exact h.order_seated
    · rw [view]; exact h.mirror_seated
    · rw [view]
      intro n j p apart server
      rw [Overview.serverOf?_seated] at server
      exact inv.closed n j p apart server
  have vacant : Vacant σ t γ s.seated :=
    { h with
      poised := ⟨inv', h.poised.ease⟩
      vacant := by rw [view]; exact h.vacant
      dead := by rw [view]; exact h.dead }
  have unheard : s.seated.voice γ s.sessions.length = [] := by
    have free : (Place.writing s.sessions.length).lock s = .free := by
      show ((s.transports[s.sessions.length]?).map Transport.writing).getD .free = _
      rw [paired, List.getElem?_eq_none (Nat.le_refl _)]
      rfl
    rw [voice, World.voice, h.poised.ease.tongue, World.queued, free]
    rfl
  refine ⟨vacant, ?_, aside.spares h.held keeps fun _ _ _ => ?_⟩
  · exact
      { poised := vacant.poised, mine := h.held, idle := h.alone _ (by intro e; cases e)
        fore := vacant.fore, there := by simp [World.seated, Supervisor.createSession]
        state := by
          rw [view, Overview.state?, Overview.seated]
          have length : s.sessions.length = s.overview.seats.length := by simp [World.overview]
          simp [length]
        last := by rw [view]; simp [Overview.seated, World.overview, paired]
        apart := by rw [vacant.vacant]; intro e; cases e
        unheard := unheard }
  · rw [view]
    exact ⟨⟨fun n e => (by cases h.vacant.symm.trans e), fun e => e, .inl rfl⟩, rfl⟩

end Vacant

/-- The session that a start is to open. -/
theorem wp_nextSession {β : Type} {g : Nat → Act β} {Q : Except Fault β → Ghost → World → Prop}
    (h : Vacant σ t γ s)
    (next : ∀ i s', Vacant σ t γ s' → MayOpen σ t i γ s' → (discipline σ).wp t (g i) Q γ s') :
    (discipline σ).wp t (Supervisor.nextSession >>= g) Q γ s := by
  obtain ⟨vacant, may, spares⟩ := h.seats
  have fresh : s.supervisor.reused = none := h.poised.inv.life.reused
  refine wp_yield γ ?_ ?_
  · rw [fresh]; exact spares
  · rw [fresh]; exact next _ _ vacant may

/-! ## Starting -/

theorem MayOpen.quiet (h : MayOpen σ t i γ s) (quiet : Quiet σ (some t) (γ, s) (γ, s')) :
    MayOpen σ t i γ s' := by
  have mute := (quiet.rely t).toMute
  have kept := mute.life h.mine
  exact
    { toTending := h.toTending.manages (mute.toMinds.manages h.mine) (quiet.poised h.poised.ease)
      state := by simpa only [Overview.state?, kept.seats] using h.state
      last := by rw [kept.holds]; exact h.last
      apart := by rw [kept.session]; exact h.apart
      unheard := mute.unheard h.mine i (h.poised.inv.life.unstarted i h.state) h.unheard }

/-- A start that has failed is reported. -/
theorem wp_startFailed {kind : ErrorKind} {f : Fault} (h : Vacant σ t γ s)
    (reason : Operation.start.FailsWith kind) :
    (discipline σ).wp t (Supervisor.startFailed i kind f)
      (fun r γ' s' => Settled σ t γ' s' ∧ Operation.Ends σ .start r s') γ s := by
  refine Wp.bind (wp_publish h.poised fun s₁ quiet₁ => ?_)
  exact ⟨(h.quiet quiet₁).settled, .ok (.fails reason)⟩

/-- Opening a new session and taking it up. -/
theorem wp_launch (h : Vacant σ t γ s) :
    (discipline σ).wp t Supervisor.launch
      (fun r γ' s' => Settled σ t γ' s' ∧ Operation.Ends σ .start r s') γ s := by
  refine wp_nextSession h fun i s₁ vacant₁ may => ?_
  refine Wp.bind (wp_publish vacant₁.poised fun s₂ quiet₂ => ?_)
  have vacant₂ := vacant₁.quiet quiet₂
  have may₂ := may.quiet quiet₂
  refine Wp.attempt_seq (wp_openSession may₂) fun r γ₃ s₃ opens => ?_
  have leads₃ := vacant₂.toLeads.manages opens.manages opens.poised
  have session₃ : s₃.overview.session = none := opens.manages.session.trans vacant₂.vacant
  have last₃ : i + 1 = s₃.overview.holds.length := may₂.last.trans opens.manages.holds.symm
  rcases r with f | answer
  · have vacant₃ : Vacant σ t γ₃ s₃ :=
      { toLeads := leads₃, vacant := session₃
        dead := leads₃.dead_of_newest last₃ (opens.dead f rfl) }
    have reported (kind : ErrorKind) (reason : Operation.start.FailsWith kind) :=
      wp_startFailed (i := i) (f := f) vacant₃ reason
    have escaped (plain : Supervisor.isServerFault f ≠ true) : Escapes σ f s₃ := by
      rcases opens.fails f rfl with fault | escapes
      · exact absurd fault plain
      · exact escapes
    split
    · next e => cases e
    · next e => cases e; exact reported _ (.inl rfl)
    · next e =>
      cases e
      split
      · exact reported _ (.inr rfl)
      · next plain => exact ⟨vacant₃.settled, .error (escaped plain)⟩
  · obtain ⟨running, server⟩ := opens.running answer rfl
    have takes : TakesUp σ t i γ₃ s₃ :=
      { toLeads := leads₃, vacant := session₃
        last := by rw [leads₃.poised.inv.life.paired]; exact last₃
        runs := ⟨running, server⟩ }
    refine Wp.seq (wp_takeUp takes) ?_ (by rintro _ _ _ ⟨e, -⟩; cases e)
    rintro _ γ₄ s₄ ⟨-, holds⟩
    refine Wp.look (Wp.bind (wp_publish holds.poised fun s₅ quiet₅ => ?_))
    exact ⟨holds.settled.quiet quiet₅, .ok .success⟩

/-- Starting a session unless one is running. -/
theorem wp_doStart (h : Settled σ t γ s) :
    (discipline σ).wp t Supervisor.doStart
      (fun r γ' s' => Settled σ t γ' s' ∧ Operation.Ends σ .start r s') γ s := by
  refine Wp.look ?_
  rcases session : s.supervisor.session with _ | i
  · exact wp_launch (h.vacant session)
  · refine Wp.look ?_
    split
    · exact Wp.look (Wp.done ⟨h, .ok .noop⟩)
    · refine Wp.seq (wp_stopSession (h.holds session)) ?_ ?_
      · rintro _ γ₁ s₁ ⟨vacant, -⟩
        exact wp_launch vacant
      · rintro f γ₁ s₁ ⟨vacant, ends⟩
        exact ⟨vacant.settled, .error (ends.escapes f rfl)⟩

/-! ## Restarting -/

/-- The first half of a restart. -/
theorem wp_stopForRestart (h : Settled σ t γ s) :
    (discipline σ).wp t Supervisor.stopForRestart
      (fun r γ' s' => Settled σ t γ' s' ∧ ∀ f, r = .error f → Escapes σ f s') γ s := by
  refine Wp.look ?_
  rcases session : s.supervisor.session with _ | i
  · exact Wp.done ⟨h, fun _ e => by cases e⟩
  · refine Wp.mono (wp_stopSession (h.holds session)) ?_
    rintro r γ₁ s₁ ⟨vacant, ends⟩
    exact ⟨vacant.settled, ends.escapes⟩

/-- A restart reports as its second half does. -/
theorem Operation.Reports.restart {stop start : LifecycleResult} (h : Operation.start.Reports start) :
    Operation.restart.Reports (Supervisor.restartResult stop start) :=
  h.renamed (fun _ e => e) rfl rfl rfl

/-- Stopping the session that is held, and starting a new one. -/
theorem wp_doRestart (h : Settled σ t γ s) :
    (discipline σ).wp t Supervisor.doRestart
      (fun r γ' s' => Settled σ t γ' s' ∧ Operation.Ends σ .restart r s') γ s := by
  refine Wp.look (Wp.bind (wp_publish h.poised fun s₁ quiet₁ => ?_))
  refine Wp.seq (wp_stopForRestart (h.quiet quiet₁)) ?_ ?_
  · rintro stop γ₂ s₂ ⟨settled₂, -⟩
    refine Wp.seq (wp_doStart settled₂) ?_ ?_
    · rintro start γ₃ s₃ ⟨settled₃, ends⟩
      have reports : Operation.restart.Reports (Supervisor.restartResult stop start) :=
        (ends.reports start rfl).restart
      show (discipline σ).wp t (do
        if (Supervisor.restartResult stop start).ok then
          Supervisor.publish .restarted (← Supervisor.now).session ""
        pure (Supervisor.restartResult stop start)) _ γ₃ s₃
      split
      · refine Wp.look (Wp.bind (wp_publish settled₃.poised fun s₄ quiet₄ => ?_))
        exact ⟨settled₃.quiet quiet₄, .ok reports⟩
      · exact ⟨settled₃, .ok reports⟩
    · rintro f γ₃ s₃ ⟨settled₃, ends⟩
      exact ⟨settled₃, .error (ends.escapes f rfl)⟩
  · rintro f γ₂ s₂ ⟨settled₂, escapes⟩
    exact ⟨settled₂, .error (escapes f rfl)⟩

/-! ## One after the other -/

/-- An operation under the lifecycle lock. What runs there is the operation itself or, if it always
waits for its turn, another one. -/
theorem wp_serialized {o o' : Operation} {policy : BusyPolicy} {body : Act LifecycleResult}
    {P : Except Fault LifecycleResult → Ghost → World → Prop} (h : AtCall σ t (.operate o) γ s)
    (same : policy = .reject → o' = o)
    (run : ∀ γ₁ s₁, Settled σ t γ₁ s₁ → (discipline σ).wp t body
      (fun r γ₂ s₂ => Settled σ t γ₂ s₂ ∧ Operation.Ends σ o' r s₂ ∧ P r γ₂ s₂) γ₁ s₁) :
    (discipline σ).wp t (Supervisor.serialized o policy body)
      (fun r γ' s' => Rests σ t γ' s' ∧ Operation.Ends σ o' r s' ∧
        ((∃ γ₂ s₂, P r γ₂ s₂ ∧ s'.overview = s₂.overview) ∨ policy = .reject)) γ s := by
  refine Wp.look ?_
  split
  · next refused =>
    obtain rfl := same refused.1
    exact Wp.done ⟨⟨h.poised, h.idle⟩, .ok .rejected, .inr refused.1⟩
  · have plain (n : Nat) : Place.lifecycle ≠ .writing n := Place.lifecycle_ne_writing
    refine wp_locked (p := .lifecycle)
      (P := fun r γ₂ s₂ => (∀ p, p ≠ .lifecycle → γ₂.holder p ≠ some t) ∧ Operation.Ends σ o' r s₂ ∧
        P r γ₂ s₂)
      plain h.poised h.kind (fun back => back) ⟨o, rfl⟩ (fun γ₁ s₁ enters => ?_) ?_
    · have settled : Settled σ t γ₁ s₁ :=
        { poised := enters.poised plain, held := enters.mine
          alone := fun p ne e => h.idle p ((enters.others p ne).mpr e)
          kind := ⟨o, enters.keeps.loop.kinds t _ h.kind⟩, rest := enters.rest rfl }
      refine Wp.mono (run γ₁ s₁ settled) ?_
      rintro r γ₂ s₂ ⟨settled₂, ends, also⟩
      exact ⟨⟨settled₂.poised, settled₂.held, fun _ => settled₂.rest,
        fun _ n => settled₂.alone _ (Ne.symm (plain n)), fun e => by cases e⟩,
        settled₂.alone, ends, also⟩
    · rintro r γ₂ s₂ γ₃ s₃ ⟨alone, ends, also⟩ leaves
      refine ⟨⟨leaves.poised, fun p e => ?_⟩, ends.keeps leaves.keeps, .inl ⟨γ₂, s₂, also, leaves.overview⟩⟩
      by_cases here : p = .lifecycle
      · subst here
        cases leaves.freed.symm.trans e
      · exact alone p here ((leaves.others p here).symm.trans e)

/-- The documents are forgotten when no session is held. -/
theorem quiet_forget {o : Option Nat} (inv : Inv σ o γ s) (vacant : s.overview.session = none) :
    Quiet σ o (γ, s) (γ, s.withDocuments []) := by
  have aside : Aside (γ, s) (γ, s.withDocuments []) :=
    { loop := rfl, servers := rfl, getters := rfl, locks := fun p => by cases p <;> rfl
      role := rfl, doomed := rfl, phase := rfl, holder := rfl }
  have keeps : Keeps (γ, s) (γ, s.withDocuments []) :=
    aside.keeps (Nat.le_refl _) (Nat.le_refl _) (fun _ past => ⟨past, fun e => e, fun _ e => e⟩)
      fun _ e => e
  have mirror : Mirror γ.toHands (s.withDocuments []).overview :=
    { inv.mirror with
      distinct := List.nodup_nil
      legible := fun d hd => by cases hd
      mirrored := fun _ _ _ e => by cases vacant.symm.trans e }
  refine ⟨aside.inv inv inv.tickets.pending { inv.life with atRest := fun free => ?_ }
    ⟨inv.order.written, inv.order.planned⟩ mirror inv.closed, fun u => aside.rely keeps
      (fun _ => ⟨rfl, rfl, rfl, rfl, rfl⟩)
      (fun _ => ⟨fun n e => (by cases vacant.symm.trans e), fun e => e, .inr vacant⟩)
      (fun _ _ _ _ _ _ _ => rfl) (fun _ _ _ silent => silent) fun _ => rfl⟩
  exact ⟨(inv.life.atRest free).idle, (inv.life.atRest free).busy⟩

/-- Carrying out an operation. -/
theorem wp_operate {o : Operation} (h : AtCall σ t (.operate o) γ s) :
    (discipline σ).wp t (Supervisor.operate o)
      (fun r γ' s' => Rests σ t γ' s' ∧ Operation.Ends σ o r s') γ s := by
  have done {policy : BusyPolicy} {body : Act LifecycleResult}
      (run : ∀ γ₁ s₁, Settled σ t γ₁ s₁ → (discipline σ).wp t body
        (fun r γ₂ s₂ => Settled σ t γ₂ s₂ ∧ Operation.Ends σ o r s₂) γ₁ s₁) :
      (discipline σ).wp t (Supervisor.serialized o policy body)
        (fun r γ' s' => Rests σ t γ' s' ∧ Operation.Ends σ o r s') γ s := by
    refine Wp.mono (wp_serialized (P := fun _ _ _ => True) h (fun _ => rfl) fun γ₁ s₁ settled => ?_) ?_
    · refine Wp.mono (run γ₁ s₁ settled) ?_
      rintro r γ₂ s₂ ⟨settled₂, ends⟩
      exact ⟨settled₂, ends, trivial⟩
    · rintro r γ' s' ⟨rests, ends, -⟩
      exact ⟨rests, ends⟩
  refine Wp.look ?_
  cases o with
  | start => exact done fun _ _ => wp_doStart
  | stop =>
    refine done fun _ _ settled => Wp.mono (wp_doStop settled) ?_
    rintro r γ₂ s₂ ⟨vacant, ends⟩
    exact ⟨vacant.settled, ends⟩
  | restart => exact done fun _ _ => wp_doRestart
  | shutdown =>
    -- The documents are forgotten after the lock was given back, but nobody else ran in between.
    have stopped : (discipline σ).wp t (Supervisor.serialized .shutdown .queue Supervisor.doStop) _ γ s :=
      wp_serialized (P := fun _ _ s₂ => s₂.overview.session = none) h (fun e => by cases e)
        fun γ₁ s₁ settled =>
          Wp.mono (wp_doStop settled) fun r γ₂ s₂ ends => ⟨ends.1.settled, ends.2, ends.1.vacant⟩
    refine Wp.seq stopped ?_ ?_
    · rintro x γ₁ s₁ ⟨rests, ends, ⟨γ₂, s₂, vacant, same⟩ | refused⟩
      · have quiet := quiet_forget rests.1.inv ((congrArg Overview.session same).trans vacant)
        refine wp_change γ₁ quiet.spares ?_
        exact ⟨⟨quiet.poised rests.1.ease, rests.2⟩, .ok ((ends.reports x rfl).renamed (fun _ e => e) rfl rfl rfl)⟩
      · cases refused
    · rintro f γ₁ s₁ ⟨rests, ends, -⟩
      exact ⟨rests, .error (ends.escapes f rfl)⟩

end LspHost
