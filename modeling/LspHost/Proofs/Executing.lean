import LspHost.Proofs.Course

/-!
# An operation is carried out

While a task carries out a lifecycle operation (`Acting`), what it does to the session that is held, to
the number of sessions and to the news is all that happens to them. So what `Operation.Tells` says is
proved operation by operation (`wp_doStart`, `wp_doStop`, `wp_doRestart`), and then of the operation under
its lock (`wp_serialized`).
-/

namespace LspHost.Course

open Discipline Program

variable {t i : Nat} {w : Underway} {log : List Execution} {c c' : Course} {s s' : World}

/-- A task is carrying out an operation. -/
structure Acting (t : Nat) (w : Underway) (log : List Execution) (c : Course) (s : World) : Prop where
  holds : c.Holds s
  underway : c.underway = some w
  mine : w.task = t
  log : c.log = log

namespace Acting

theorem threshold (h : Acting t w log c s) : c.threshold s' = w.found := by
  simp only [Course.threshold, h.underway, Option.map_some, Option.getD_some]

/-- Others change nothing that the operation is about. -/
theorem rely (h : Acting t w log c s) (holds : c'.Holds s') (rely : Rely t (c, s) (c', s')) :
    Acting t w log c' s' ∧ s.Abides s' := by
  obtain ⟨under, same, abides⟩ := rely.acting w h.underway h.mine
  exact ⟨⟨holds, under, h.mine, same.trans h.log⟩, abides⟩

/-- Its task has carried out no other one. -/
theorem outside (h : Acting t w log c s) : c.Outside t := by
  intro e he mine
  refine (h.holds.under w h.underway).1 (List.mem_map.mpr ⟨e, he, mine.trans h.mine.symm⟩)

/-- A part of the operation that is not about operations. -/
theorem wp_aloof {α : Type} {p : Act α} (only : Only Aloof p) (h : Acting t w log c s) :
    course.discipline.wp t p (fun _ c' s' => Acting t w log c' s' ∧ s.Abides s') c s :=
  Wp.mono (Course.wp_aloof only h.holds h.outside) fun _ _ _ post => h.rely post.1 post.2

/-- The operation changes the session, makes a session or tells news. -/
theorem changes (h : Acting t w log c s) (s' : World) (more : List News)
    (lock : s'.supervisor.lifecycleLock = s.supervisor.lifecycleLock) (loop : s.loop.Grows s'.loop)
    (session : ∀ i, s'.supervisor.session = some i → i < s'.sessions.length)
    (reused : s'.supervisor.reused = s.supervisor.reused) (news : s'.news = s.news ++ more) :
    Acting t (w.tell more) log { c with underway := some (w.tell more) } s' ∧
      ∀ f : World → World, f s = s' →
        course.discipline.Acts t f (c, s) { c with underway := some (w.tell more) } := by
  have now : c.threshold s = w.found := h.threshold
  refine ⟨⟨?_, rfl, h.mine, h.log⟩, ?_⟩
  · exact
      { held := by rw [lock, h.holds.held, h.underway]; rfl
        news := by
          rw [news, h.holds.news]
          simp only [Course.news, h.underway, Underway.tell, Option.map_some, Option.getD_some,
            List.append_assoc]
        session := session
        reused := reused.trans h.holds.reused
        waiting := fun k u hk => Nat.lt_of_lt_of_le (h.holds.waiting k u hk) loop.issued
        linked := by
          have linked := h.holds.linked
          rw [now] at linked
          exact linked
        once := h.holds.once
        under := fun w' e => by
          cases e
          have under := h.holds.under w h.underway
          exact ⟨under.1, loop.kinds _ _ under.2.1, under.2.2⟩
        logged := fun e he => loop.kinds _ _ (h.holds.logged e he)
        told := h.holds.told
        settled := h.holds.settled }
  · rintro f rfl
    refine ⟨fun u ne => ?_, ?_⟩
    · exact
        { loop := loop
          log := fun _ he => he
          mine := fun _ he _ => he
          acting := fun w' e mine => by
            obtain rfl := Option.some.inj (h.underway.symm.trans e)
            exact absurd (mine.symm.trans h.mine) ne
          idle := fun w' e mine => by
            cases e
            exact absurd (mine.symm.trans h.mine) ne
          place := fun k hk => ⟨hk, by rw [lock]⟩ }
    · exact
        { underway := fun w' e => by cases e; exact .inl ⟨w, h.underway, rfl, rfl⟩
          log := fun _ he => .inl he
          stays := fun w' e => by
            obtain rfl := Option.some.inj (h.underway.symm.trans e)
            exact .inl ⟨_, rfl, rfl, rfl⟩
          keeps := fun _ he => he
          enters := fun free taken => by rw [lock, free] at taken; cases taken }

/-- The operation tells news; sessions and processes are the same after it. -/
theorem wp_publish {type : EventType} {session : Option Nat} {message : String}
    {Q : Except Fault Unit → Course → World → Prop} (h : Acting t w log c s)
    (lifecycle : type ∈ EventType.lifecycle)
    (next : ∀ c' s', Acting t (w.tell [⟨type, session.map Session.nameOf⟩]) log c' s' → s.Alike s' →
      Q (.ok ()) c' s') :
    course.discipline.wp t (Supervisor.publish type session message) Q c s := by
  let e : Event := ⟨type, .midnight, session.map Session.nameOf,
    .lifecycle ((session.bind s.sessionPid?).map Int.ofNat) message⟩
  obtain ⟨l, waiting, grows, step⟩ := World.publish_eq e s
  have news : (s.publish e).news = s.news ++ [⟨type, session.map Session.nameOf⟩] := by
    have noted := World.news_record s (.published e)
    rw [show (Record.published e).news?.toList = [⟨type, session.map Session.nameOf⟩] by
      simp [Record.news?, e, lifecycle]] at noted
    rw [step]
    exact noted
  obtain ⟨acting, acts⟩ := h.changes (s.publish e) _ (by rw [step]; rfl) (by rw [step]; exact grows)
    (by rw [step]; exact h.holds.session) (by rw [step]; rfl) news
  have alike : s.Alike (s.publish e) := by rw [step]; exact ⟨rfl, rfl, rfl, rfl⟩
  exact ⟨_, acts _ rfl, next _ _ acting alike⟩

/-- The operation says which session is held. -/
theorem wp_hold {session : Option Nat} {Q : Except Fault Unit → Course → World → Prop}
    (h : Acting t w log c s) (there : ∀ i, session = some i → i < s.sessions.length)
    (next : ∀ c', Acting t w log c' (s.setSupervisor fun v => { v with session := session }) →
      Q (.ok ()) c' (s.setSupervisor fun v => { v with session := session })) :
    course.discipline.wp t (Supervisor.modify fun v => { v with session := session }) Q c s := by
  obtain ⟨acting, acts⟩ := h.changes (s.setSupervisor fun v => { v with session := session })
    [] rfl (.refl _) there rfl (List.append_nil _).symm
  rw [Underway.tell_nil] at acting acts
  exact ⟨_, acts _ rfl, next _ acting⟩

end Acting

/-! ## Stopping -/

/-- What an operation has done so far: its task still carries it out, it has told some news, and if it
was not in vain they go with what it found, reports and leaves behind. -/
def Does {α : Type} (t : Nat) (w : Underway) (log : List Execution) (S : α → World → List News → Prop)
    (r : Except Fault α) (c : Course) (s : World) : Prop :=
  ∃ news, Acting t (w.tell news) log c s ∧ ∀ x, r = .ok x → S x s news

theorem Does.failed {α : Type} {S : α → World → List News → Prop} {f : Fault} {news : List News}
    (h : Acting t (w.tell news) log c s) : Does t w log S (.error f) c s :=
  ⟨news, h, fun _ e => by cases e⟩

theorem Does.ok {α : Type} {S : α → World → List News → Prop} {x : α} {news : List News}
    (h : Acting t (w.tell news) log c s) (post : S x s news) : Does t w log S (.ok x) c s :=
  ⟨news, h, fun _ e => by cases e; exact post⟩

/-- Stopping the session that is held. -/
theorem wp_stopSession (h : Acting t w log c s) (session : s.supervisor.session = some i) :
    course.discipline.wp t (Supervisor.stopSession i) (Does t w log (Stopped i s)) c s := by
  refine Wp.bind (h.wp_publish (by simp [EventType.lifecycle]) fun c₁ s₁ acting₁ alike₁ => ?_)
  refine Wp.look ?_
  refine Wp.attempt_seq (acting₁.wp_aloof (Aloof.permissive.repertoire.sweep.closeSession _)) ?_
  rintro r c₂ s₂ ⟨acting₂, abides₂⟩
  refine Wp.bind (acting₂.wp_hold (fun _ e => by cases e) fun c₃ acting₃ => ?_)
  have sessions : s₂.sessions.length = s.sessions.length := by rw [abides₂.sessions, alike₁.sessions]
  -- What is left is to tell that the session has stopped, whether its shutdown went well or not.
  have told (x : LifecycleResult) (outcome : x.outcome = .success ∨ x.outcome = .failed)
      (error : x.error ≠ some .noActiveSession) (sessionId : x.sessionId = some (Session.nameOf i))
      (pid : x.pid = s₁.toldPid i) :
      course.discipline.wp t (do
          Supervisor.publish .sessionStopped (some i) x.message
          pure x)
        (Does t w log (Stopped i s)) c₃ (s₂.setSupervisor fun v => { v with session := none }) := by
    refine Wp.bind (acting₃.wp_publish (by simp [EventType.lifecycle]) fun c₄ s₄ acting₄ alike₄ => ?_)
    rw [Underway.tell_tell] at acting₄
    show Does t w log (Stopped i s) (.ok x) c₄ s₄
    refine .ok acting₄ ?_
    exact
      { held := session
        made := h.holds.session i session
        gone := by rw [alike₄.standing]; exact congrArg (Prod.mk none) sessions
        outcome := outcome, error := error, sessionId := sessionId
        pid := by rw [pid, alike₁.toldPid]
        news := rfl }
  rcases r with f | ⟨⟩
  · by_cases known : (Supervisor.isServerFault f || f.isOs) = true
    · show course.discipline.wp t (do
        let result ← if (Supervisor.isServerFault f || f.isOs) = true then pure _ else Act.fail f
        _) _ c₃ _
      rw [if_pos known]
      exact told _ (.inr rfl) (fun e => by cases e) rfl rfl
    · show course.discipline.wp t (do
        let result ← if (Supervisor.isServerFault f || f.isOs) = true then pure _ else Act.fail f
        _) _ c₃ _
      rw [if_neg known]
      exact .failed acting₃
  · exact told _ (.inl rfl) (fun e => by cases e) rfl rfl

/-- Stopping the session that is held, if there is one. -/
theorem wp_doStop (h : Acting t w log c s) :
    course.discipline.wp t Supervisor.doStop (Does t w log (Ceased s)) c s := by
  refine Wp.look ?_
  rcases session : s.supervisor.session with _ | i
  · exact Wp.done (.ok (by rw [Underway.tell_nil]; exact h) (.idle session rfl (.refl s)))
  · refine Wp.mono (wp_stopSession h session) ?_
    rintro r c' s' ⟨news, acting, post⟩
    exact ⟨news, acting, fun x e => .stopped (post x e)⟩

/-! ## Starting -/

/-- Taking a session up. -/
theorem wp_takeUp (h : Acting t w log c s) (there : i < s.sessions.length) :
    course.discipline.wp t (Supervisor.takeUp i)
      (fun r c' s' => Acting t w log c' s' ∧ s'.sessions.length = s.sessions.length ∧
        (r = .ok () → s'.supervisor.session = some i)) c s := by
  refine Wp.seq (h.wp_aloof Aloof.acquireDocuments) ?_ ?_
  · rintro _ c₁ s₁ ⟨acting₁, abides₁⟩
    refine Wp.ensure (P := fun _ c' s' => Acting t w log c' s' ∧ s'.standing = (some i, s.sessions.length))
      (Wp.bind (acting₁.wp_hold (fun _ e => by cases e; rw [abides₁.sessions]; exact there)
        fun c₂ acting₂ => ?_)) ?_
    · refine Wp.look (Wp.mono (acting₂.wp_aloof (Aloof.permissive.repertoire.connects.replay _ _)) ?_)
      rintro r c₃ s₃ ⟨acting₃, abides₃⟩
      refine ⟨acting₃, abides₃.standing.trans ?_⟩
      exact congrArg (Prod.mk (some i)) abides₁.sessions
    · rintro r c₂ s₂ ⟨acting₂, standing⟩
      refine Wp.mono (acting₂.wp_aloof Aloof.releaseDocuments) ?_
      rintro r' c₃ s₃ ⟨acting₃, abides₃⟩
      have standing₃ := abides₃.standing.trans standing
      cases r' <;>
        exact ⟨acting₃, congrArg Prod.snd standing₃, fun _ => congrArg Prod.fst standing₃⟩
  · rintro f c₁ s₁ ⟨acting₁, abides₁⟩
    exact ⟨acting₁, abides₁.sessions, fun e => by cases e⟩

/-- The session that a start is to open. -/
theorem wp_nextSession {β : Type} {g : Nat → Act β} {Q : Except Fault β → Course → World → Prop}
    (h : Acting t w log c s)
    (next : ∀ c' s', Acting t w log c' s' →
      s'.standing = (s.supervisor.session, s.sessions.length + 1) →
      course.discipline.wp t (g s.sessions.length) Q c' s') :
    course.discipline.wp t (Supervisor.nextSession >>= g) Q c s := by
  have fresh : s.supervisor.reused = none := h.holds.reused
  let made := (Supervisor.createSession s.supervisor.config.server (Supervisor.sessionOptions s.supervisor) s).2
  have length : made.sessions.length = s.sessions.length + 1 := by
    simp [made, Supervisor.createSession]
  obtain ⟨acting, acts⟩ := h.changes made [] rfl (.refl _)
    (fun i e => by rw [length]; exact Nat.lt_succ_of_lt (h.holds.session i e)) rfl (List.append_nil _).symm
  rw [Underway.tell_nil] at acting acts
  refine Wp.yield _ (acts _ ?_) ?_
  · simp only [fresh]; rfl
  · simp only [fresh]
    exact next _ _ acting (congrArg (Prod.mk s.supervisor.session) length)

/-- Opening a new session and taking it up. -/
theorem wp_launch (h : Acting t w log c s) (vacant : s.supervisor.session = none) :
    course.discipline.wp t Supervisor.launch (Does t w log (Launched s)) c s := by
  refine wp_nextSession h fun c₁ s₁ acting₁ standing₁ => ?_
  rw [vacant] at standing₁
  refine Wp.bind (acting₁.wp_publish (by simp [EventType.lifecycle]) fun c₂ s₂ acting₂ alike₂ => ?_)
  have standing₂ := alike₂.standing.trans standing₁
  refine Wp.attempt_seq (acting₂.wp_aloof Aloof.permissive.repertoire.openSession) ?_
  rintro r c₃ s₃ ⟨acting₃, abides₃⟩
  have standing₃ := abides₃.standing.trans standing₂
  have failed (kind : ErrorKind) (f : Fault) :
      course.discipline.wp t (Supervisor.startFailed s.sessions.length kind f)
        (Does t w log (Launched s)) c₃ s₃ := by
    refine Wp.bind (acting₃.wp_publish (by simp [EventType.lifecycle]) fun c₄ s₄ acting₄ alike₄ => ?_)
    rw [Underway.tell_tell] at acting₄
    show Does t w log (Launched s) (.ok _) c₄ s₄
    exact .ok acting₄ ⟨vacant, rfl, .inr ⟨rfl, alike₄.standing.trans standing₃, rfl⟩⟩
  split
  · refine Wp.seq (wp_takeUp acting₃ ?_) ?_ ?_
    · rw [show s₃.sessions.length = s.sessions.length + 1 from congrArg Prod.snd standing₃]
      exact Nat.lt_succ_self _
    · rintro _ c₄ s₄ ⟨acting₄, sessions₄, held₄⟩
      refine Wp.look (Wp.bind (acting₄.wp_publish (by simp [EventType.lifecycle]) fun c₅ s₅ acting₅ alike₅ => ?_))
      rw [Underway.tell_tell] at acting₅
      show Does t w log (Launched s) (.ok _) c₅ s₅
      refine .ok acting₅ ⟨vacant, rfl, .inl ⟨rfl, ?_, rfl, rfl⟩⟩
      rw [alike₅.standing, World.standing, held₄ rfl, sessions₄]
      exact congrArg (Prod.mk (some s.sessions.length)) (congrArg Prod.snd standing₃)
    · rintro f c₄ s₄ ⟨acting₄, -⟩
      exact .failed acting₄
  · exact failed ..
  · split
    · exact failed ..
    · exact .failed acting₃

/-- Starting a session unless one is running. -/
theorem wp_doStart (h : Acting t w log c s) :
    course.discipline.wp t Supervisor.doStart (Does t w log (Started s)) c s := by
  refine Wp.look ?_
  rcases session : s.supervisor.session with _ | i
  · refine Wp.mono (wp_launch h session) ?_
    rintro r c' s' ⟨news, acting, post⟩
    exact ⟨news, acting, fun x e => .launched (post x e)⟩
  · refine Wp.look ?_
    split
    · next alive =>
      refine Wp.look (Wp.done (.ok (by rw [Underway.tell_nil]; exact h) ?_))
      exact .running session alive rfl rfl rfl (.refl s)
    · next exited =>
      refine Wp.seq (wp_stopSession h session) ?_ ?_
      · rintro y c₁ s₁ ⟨first, acting₁, stopped⟩
        have stop := stopped y rfl
        refine Wp.mono (wp_launch acting₁ (congrArg Prod.fst stop.gone)) ?_
        rintro r c₂ s₂ ⟨second, acting₂, launched⟩
        rw [Underway.tell_tell] at acting₂
        exact ⟨_, acting₂, fun x e => .replaced (by simpa using exited) stop (launched x e)⟩
      · rintro f c₁ s₁ ⟨first, acting₁, -⟩
        exact .failed acting₁

/-! ## Restarting -/

/-- The first half of a restart. -/
theorem wp_stopForRestart (h : Acting t w log c s) :
    course.discipline.wp t Supervisor.stopForRestart (Does t w log (Cleared s)) c s := by
  refine Wp.look ?_
  rcases session : s.supervisor.session with _ | i
  · exact Wp.done (.ok (by rw [Underway.tell_nil]; exact h) (.idle session rfl rfl))
  · refine Wp.mono (wp_stopSession h session) ?_
    rintro r c' s' ⟨news, acting, post⟩
    exact ⟨news, acting, fun x e => .stopped (post x e)⟩

/-- Stopping the session that is held, and starting a new one. -/
theorem wp_doRestart (h : Acting t w log c s) :
    course.discipline.wp t Supervisor.doRestart (Does t w log (Operation.restart.Tells s)) c s := by
  refine Wp.look (Wp.bind (h.wp_publish (by simp [EventType.lifecycle]) fun c₁ s₁ acting₁ alike₁ => ?_))
  refine Wp.seq (wp_stopForRestart acting₁) ?_ ?_
  · rintro stop c₂ s₂ ⟨first, acting₂, cleared⟩
    have cleared := cleared stop rfl
    refine Wp.seq (wp_doStart acting₂) ?_ ?_
    · rintro start c₃ s₃ ⟨second, acting₃, started⟩
      have launched := (started start rfl).launched_of_vacant cleared.vacant
      have ends {c₄ : Course} {s₄ : World} {told last : List News} (acting₄ : Acting t (w.tell told) log c₄ s₄)
          (alike : s₃.Alike s₄) (shown : last = if start.outcome = .success then
            [⟨.restarted, s₄.supervisor.session.map Session.nameOf⟩] else [])
          (all : told = [⟨.restarting, s.supervisor.session.map Session.nameOf⟩] ++ first ++ second ++ last) :
          Does t w log (Operation.restart.Tells s) (.ok (Supervisor.restartResult stop start)) c₄ s₄ :=
        .ok acting₄ ⟨stop, start, s₂, first, second,
          { halves := ⟨rfl, rfl⟩, outcome := rfl, error := rfl, sessionId := rfl, pid := rfl
            cleared := cleared.of_alike alike₁
            launched := launched.alike alike
            news := by rw [all, shown]; simp }⟩
      rw [Underway.tell_tell, Underway.tell_tell] at acting₃
      show course.discipline.wp t (do
        if (Supervisor.restartResult stop start).ok then
          Supervisor.publish .restarted (← Supervisor.now).session ""
        pure (Supervisor.restartResult stop start)) _ c₃ s₃
      split
      · next good =>
        refine Wp.look (Wp.bind (acting₃.wp_publish (by simp [EventType.lifecycle]) fun c₄ s₄ acting₄ alike₄ => ?_))
        rw [Underway.tell_tell] at acting₄
        refine ends acting₄ alike₄ ?_ rfl
        rw [if_pos (launched.ok.mp good), alike₄.session]
      · next bad =>
        refine ends acting₃ (.refl s₃) ?_ (List.append_nil _).symm
        rw [if_neg fun e => bad (launched.ok.mpr e)]
    · rintro f c₃ s₃ ⟨second, acting₃, -⟩
      rw [Underway.tell_tell, Underway.tell_tell] at acting₃
      exact .failed acting₃
  · rintro f c₂ s₂ ⟨first, acting₂, -⟩
    rw [Underway.tell_tell] at acting₂
    exact .failed acting₂

/-! ## One after the other -/

variable {o : Operation}

/-- A task is about to carry out an operation. -/
structure Ready (t : Nat) (o : Operation) (c : Course) (s : World) : Prop where
  holds : c.Holds s
  apart : c.Apart t
  kind : Operates s t o

theorem Ready.rely (h : Ready t o c s) (holds : c'.Holds s') (rely : Rely t (c, s) (c', s')) :
    Ready t o c' s' :=
  ⟨holds, h.apart.rely rely, rely.loop.kinds _ _ h.kind⟩

/-- The lock of lifecycle operations changes. -/
def relock (f : Lock → Lock) (s : World) : World :=
  s.setSupervisor fun v => { v with lifecycleLock := f v.lifecycleLock }

/-- A change of the lock's queue that leaves the others' places alone. -/
theorem requeues (holds : c.Holds s) {f : Lock → Lock}
    (held : ∀ l : Lock, (f l).held = l.held)
    (others : ∀ k u, c.place k = some u → u ≠ t →
      ∀ l : Lock, (k ∈ (f l).waiters ↔ k ∈ l.waiters)) :
    c.Holds (relock f s) ∧ course.discipline.Acts t (relock f) (c, s) c := by
  have linked : Linked (none, 0) c.log (c.threshold (relock f s)).standing := by
    have same : (relock f s).standing = s.standing := rfl
    rw [threshold_standing same]
    exact holds.linked
  refine ⟨{ holds with held := (held _).trans holds.held, linked }, fun u ne => ?_, .refl rfl rfl (held _)⟩
  exact
    { loop := .refl _
      log := fun _ he => he
      mine := fun _ he _ => he
      acting := fun _ e _ => ⟨e, rfl, ⟨rfl, rfl, rfl, rfl⟩⟩
      idle := fun _ e _ => e
      place := fun k hk => ⟨hk, others k u hk ne _⟩ }

/-- The lock is free, and a task takes it. -/
theorem takes (h : Ready t o c s) (free : s.supervisor.lifecycleLock.held = false) (settled : s.Settled)
    {s' : World} (step : s' = relock (fun l => { l with held := true }) s) :
    Acting t ⟨t, o, s', []⟩ c.log { c with underway := some ⟨t, o, s', []⟩ } s' ∧
    ∀ f : World → World, f s = s' →
      course.discipline.Acts t f (c, s) { c with underway := some ⟨t, o, s', []⟩ } := by
  subst step
  have nobody : c.underway = none := by
    have held := h.holds.held
    rw [free] at held
    simpa using held.symm
  refine ⟨⟨?_, rfl, rfl, rfl⟩, ?_⟩
  · exact
      { h.holds with
        held := rfl
        news := by
          refine h.holds.news.trans ?_
          simp only [Course.news, nobody, Option.map_none, Option.map_some, Option.getD_none,
            Option.getD_some]
        linked := by
          have linked := h.holds.linked
          simp only [Course.threshold, nobody, Option.map_none, Option.getD_none] at linked
          exact linked
        under := fun w e => by
          cases e
          refine ⟨fun done => ?_, h.kind, settled.alike ⟨rfl, rfl, rfl, rfl⟩⟩
          obtain ⟨e, he, mine⟩ := List.mem_map.mp done
          exact h.apart.log e he mine }
  · intro f step
    refine ⟨fun u ne => ?_, ?_⟩
    · rw [step]
      exact
        { loop := .refl _
          log := fun _ he => he
          mine := fun _ he _ => he
          acting := fun w e _ => by cases nobody.symm.trans e
          idle := fun w e mine => by
            cases e
            exact absurd mine.symm ne
          place := fun _ hk => ⟨hk, .rfl⟩ }
    · rw [step]
      exact
        { underway := fun w' e => by cases e; exact .inr ⟨rfl, rfl, free, rfl⟩
          log := fun _ he => .inl he
          stays := fun w e => by cases nobody.symm.trans e
          keeps := fun _ he => he
          enters := fun _ _ => ⟨_, rfl, rfl, rfl⟩ }

/-- What a task finds that has taken the lock, or was told not to wait for it any more. -/
def Enters (t : Nat) (o : Operation) (r : Except Fault Unit) (c : Course) (s : World) : Prop :=
  match r with
  | .ok _ => Acting t ⟨t, o, s, []⟩ c.log c s
  | .error _ => Ready t o c s

/-- Taking the lock of lifecycle operations. -/
theorem wp_acquire (h : Ready t o c s) (known : Known s) :
    course.discipline.wp t (Act.acquire Supervisor.lifecyclePlace) (Enters t o) c s := by
  have take {c : Course} {s : World} (h : Ready t o c s) (free : s.supervisor.lifecycleLock.held = false)
      (settled : s.Settled) :
      course.discipline.wp t
        (Act.setLock Supervisor.lifecyclePlace fun l => { l with held := true }) (Enters t o) c s := by
    obtain ⟨acting, acts⟩ := takes h free settled rfl
    exact ⟨_, acts _ rfl, acting⟩
  refine Wp.look ?_
  split
  · next isOpen =>
    have free : s.supervisor.lifecycleLock.held = false := by
      simpa [Supervisor.lifecyclePlace] using (Bool.and_eq_true_iff.mp isOpen).1
    exact take h free (known.settled free)
  · -- The task gets a place in the queue.
    let k := s.loop.tickets.length
    let c₁ : Course := { c with place := fun j => if j = k then some t else c.place j }
    have mine : c₁.place k = some t := if_pos rfl
    have others (j u : Nat) (hj : c₁.place j = some u) (ne : u ≠ t) : j ≠ k := by
      rintro rfl
      exact ne (Option.some.inj (hj.symm.trans mine))
    have issued : s.Apart { s with loop := s.loop.issue.2 } :=
      ⟨⟨rfl, rfl, rfl, rfl⟩, rfl, Loop.grows_issue _⟩
    have holds₁ : c₁.Holds { s with loop := s.loop.issue.2 } :=
      { h.holds.apart issued with
        waiting := fun j u hj => by
          simp only [Loop.issue, List.length_append, List.length_singleton]
          by_cases e : j = k
          · subst e; exact Nat.lt_succ_self _
          · rw [show c₁.place j = c.place j from if_neg e] at hj
            exact Nat.lt_succ_of_lt (h.holds.waiting j u hj) }
    refine Wp.issue c₁ ⟨fun u ne => ?_, .refl rfl rfl rfl⟩ ?_
    · refine { rely_apart (c := c) issued u with place := fun j hj => ⟨?_, .rfl⟩ }
      have old : j ≠ k := Nat.ne_of_lt (h.holds.waiting j u hj)
      exact (if_neg old).trans hj
    obtain ⟨holds₂, acts₂⟩ := requeues (t := t) (f := fun l => { l with waiters := l.waiters ++ [k] }) holds₁
      (fun _ => rfl) fun j u hj ne l => by simp [others j u hj ne]
    refine Wp.change c₁ acts₂ ?_
    have ready₂ : Ready t o c₁ (relock (fun l => { l with waiters := l.waiters ++ [k] })
        { s with loop := s.loop.issue.2 }) :=
      ⟨holds₂, ⟨h.apart.underway, h.apart.log⟩, issued.loop.kinds _ _ h.kind⟩
    refine Wp.attempt_seq (P := fun r c₃ s₃ => Ready t o c₃ s₃ ∧ c₃.place k = some t ∧
        ∀ v, r = .ok v → s₃.supervisor.lifecycleLock.held = false ∧ s₃.Settled) (Wp.await (fun r settled => ?_)
          (fun _ => ⟨holds₂, h.apart.log⟩) fun _ c₃ s₃ r rely resumes => ?_) ?_
    · -- The ticket is new.
      have bound := Loop.outcome?_lt (show s.loop.outcome? k = some r by
        rw [← Loop.outcome?_issue]; exact settled)
      exact absurd bound (Nat.lt_irrefl _)
    · obtain ⟨stays, waits⟩ := rely.place k mine
      refine ⟨ready₂.rely resumes.1 rely, stays, fun v e => ?_⟩
      have queued : k ∈ s₃.supervisor.lifecycleLock.waiters := waits.mpr (List.mem_append_right _ (List.mem_singleton_self k))
      rcases resumes.2.2.2 with ⟨cancelled, -⟩ | ⟨settled, -⟩
      · cases e.symm.trans cancelled
      · have free := resumes.2.1.granted k queued v (e ▸ settled k rfl)
        exact ⟨free, resumes.2.1.settled free⟩
    · rintro r c₃ s₃ ⟨ready₃, mine₃, free⟩
      obtain ⟨holds₄, acts₄⟩ := requeues (t := t) (f := fun l => { l with waiters := l.waiters.erase k })
        ready₃.holds (fun _ => rfl) fun j u hj ne l => by
          refine List.mem_erase_of_ne ?_
          rintro rfl
          exact ne (Option.some.inj (hj.symm.trans mine₃))
      refine Wp.change c₃ acts₄ ?_
      have ready₄ : Ready t o c₃ _ := ⟨holds₄, ready₃.apart, ready₃.kind⟩
      cases r with
      | ok v => exact take ready₄ (free v rfl).1 ((free v rfl).2.alike ⟨rfl, rfl, rfl, rfl⟩)
      | error f =>
        refine Wp.look ?_
        split
        · refine Wp.bind (Wp.mono (wp_aloof Aloof.wakeFirst holds₄ ready₃.apart.log) ?_)
          rintro (f' | ⟨⟩) c₅ s₅ ⟨holds₅, rely₅⟩ <;> exact ready₄.rely holds₅ rely₅
        · exact ready₄

/-- The operation is carried out, and its task gives the lock back. -/
theorem gives (h : Acting t w log c s) {r : Except Fault LifecycleResult}
    (told : ∀ x, r = .ok x → w.operation.Tells w.found x s w.news) {e : Execution}
    (entry : e = ⟨t, w.operation, w.found, w.news, r, s⟩) :
    Holds { c with underway := none, log := log ++ [e] } (relock (fun l => { l with held := false }) s) ∧
    course.discipline.Acts t (relock fun l => { l with held := false }) (c, s)
      { c with underway := none, log := log ++ [e] } := by
  obtain ⟨holds, under, mine, rfl⟩ := h
  have now : c.threshold s = w.found := by
    simp only [Course.threshold, under, Option.map_some, Option.getD_some]
  refine ⟨?_, fun u ne => ?_, ?_⟩
  · exact
      { holds with
        held := rfl
        news := by
          refine holds.news.trans ?_
          simp [Course.news, under, entry]
        linked := by
          have linked := holds.linked
          rw [now] at linked
          have more := linked.append (e := e) (by rw [entry])
          rw [entry] at more ⊢
          exact more
        once := by
          have new := (holds.under w under).1
          rw [mine] at new
          rw [List.map_append, List.nodup_append]
          refine ⟨holds.once, by simp, fun a ha b hb e' => ?_⟩
          rw [entry] at hb
          rw [e', List.mem_singleton.mp hb] at ha
          exact new ha
        under := fun _ e => by cases e
        logged := fun d hd => by
          rcases List.mem_append.mp hd with hd | hd
          · exact holds.logged d hd
          · rw [List.mem_singleton.mp hd, entry]
            exact mine ▸ (holds.under w under).2.1
        told := fun d hd => by
          rcases List.mem_append.mp hd with hd | hd
          · exact holds.told d hd
          · rw [List.mem_singleton.mp hd, entry]
            exact told
        settled := fun d hd => by
          rcases List.mem_append.mp hd with hd | hd
          · exact holds.settled d hd
          · rw [List.mem_singleton.mp hd, entry]
            exact (holds.under w under).2.2 }
  · exact
      { loop := .refl _
        log := fun _ hd => List.mem_append_left _ hd
        mine := fun d hd mine' => by
          rcases List.mem_append.mp hd with hd | hd
          · exact hd
          · rw [List.mem_singleton.mp hd, entry] at mine'
            exact absurd mine'.symm ne
        acting := fun w' e' mine' => by
          obtain rfl := Option.some.inj (under.symm.trans e')
          exact absurd (mine'.symm.trans mine) ne
        idle := fun _ e' => by cases e'
        place := fun _ hk => ⟨hk, .rfl⟩ }
  · exact
      { underway := fun _ e' => by cases e'
        log := fun d hd => by
          rcases List.mem_append.mp hd with hd | hd
          · exact .inl hd
          · rw [List.mem_singleton.mp hd, entry]
            exact .inr ⟨w, under, mine, rfl⟩
        stays := fun w' e' => by
          obtain rfl := Option.some.inj (under.symm.trans e')
          exact .inr ⟨e, List.mem_append_right _ (List.mem_singleton_self _), by rw [entry]; exact mine.symm,
            by rw [entry]⟩
        keeps := fun _ hd => List.mem_append_left _ hd
        enters := fun _ taken => by cases taken }

/-- Waking the next one changes nothing but the event loop. -/
theorem wp_wakeFirst {Q : Except Fault Unit → Course → World → Prop} (holds : c.Holds s)
    (next : ∀ s', c.Holds s' → s.Alike s' → Q (.ok ()) c s') :
    course.discipline.wp t (Act.wakeFirst Supervisor.lifecyclePlace) Q c s := by
  have aloof : Only Aloof (Act.wakeFirst Supervisor.lifecyclePlace) := Aloof.wakeFirst
  have apart := aloof.1 s
  refine ⟨c, ⟨fun u _ => rely_apart apart u, .refl rfl rfl (by rw [apart.lock])⟩, next _ (holds.apart apart) ?_⟩
  dsimp only
  split
  · exact .refl s
  · exact ⟨rfl, rfl, rfl, rfl⟩

/-- How an operation ends under its lock: it was refused, it was carried out, or it was told not to wait
for its turn any more. -/
structure Ended (t : Nat) (o : Operation) (f : LifecycleResult → LifecycleResult)
    (r : Except Fault LifecycleResult) (c : Course) (s : World) : Prop where
  holds : c.Holds s
  past : c.Over t
  settles : ∀ x, r = .ok x → (x.outcome = .rejected ∧ o ≠ .shutdown ∧ c.Apart t) ∨
    ∃ e ∈ c.log, e.task = t ∧ e.operation = o ∧ e.result = .ok (f x) ∧
      e.left.Alike s ∧ c.underway = none

/-- An operation under the lifecycle lock. What runs there reports what, renamed, the operation tells. -/
theorem wp_serialized {o' : Operation} {policy : BusyPolicy} {body : Act LifecycleResult}
    {f : LifecycleResult → LifecycleResult} {S : World → LifecycleResult → World → List News → Prop}
    (h : Ready t o c s) (known : Known s) (refuses : policy = .reject → o ≠ .shutdown)
    (tells : ∀ found x left news, S found x left news → o.Tells found (f x) left news)
    (run : ∀ w log c₁ s₁, Acting t w log c₁ s₁ →
      course.discipline.wp t body (Does t w log (S s₁)) c₁ s₁) :
    course.discipline.wp t (Supervisor.serialized o' policy body) (Ended t o f) c s := by
  refine Wp.look ?_
  split
  · next busy =>
    refine ⟨h.holds, h.apart.underway, fun x e => .inl ?_⟩
    cases e
    exact ⟨rfl, refuses busy.1, h.apart⟩
  · refine Wp.seq (wp_acquire h known) ?_ fun f c₁ s₁ ready =>
      ⟨ready.holds, ready.apart.underway, fun _ e => by cases e⟩
    intro _ c₁ s₁ acting₁
    refine Wp.ensure (run _ _ _ _ acting₁) ?_
    rintro r c₂ s₂ ⟨news, acting₂, does⟩
    obtain ⟨holds₃, acts₃⟩ := gives acting₂ (r := r.map f) (fun x e => by
      cases r with
      | error f => cases e
      | ok y =>
        cases e
        exact tells _ _ _ _ (does y rfl)) rfl
    refine Wp.change _ acts₃ ?_
    refine wp_wakeFirst holds₃ fun s₃ holds₄ alike => ?_
    have left : s₂.Alike s₃ := ⟨alike.session, alike.sessions, alike.transports, alike.servers⟩
    cases r with
    | error f => exact ⟨holds₄, fun _ e => (by cases e), fun _ e => by cases e⟩
    | ok y =>
      refine ⟨holds₄, fun _ e => (by cases e), fun x e => .inr ⟨_, List.mem_append_right _ (List.mem_singleton_self _), rfl, rfl, ?_, left, rfl⟩⟩
      cases e
      rfl

/-- Carrying out an operation. -/
theorem wp_operate (h : Ready t o c s) (known : Known s) :
    course.discipline.wp t (Supervisor.operate o)
      (fun r c' s' => c'.Holds s' ∧ c'.Over t ∧
        Settles t o (r.map .lifecycle) c' fun e => e.left.Alike s' ∧ c'.underway = none) c s := by
  have settled {r : Except Fault LifecycleResult} {c' : Course} {s' : World} (ended : Ended t o id r c' s') :
      Settles t o (r.map .lifecycle) c' fun e =>
        e.left.Alike s' ∧ c'.underway = none := by
    intro x e
    cases r with
    | error f => cases e
    | ok y =>
      cases e
      exact ⟨y, rfl, ended.settles y rfl⟩
  refine Wp.look ?_
  cases o with
  | start =>
    exact Wp.mono (wp_serialized (S := Started) h known (fun _ e => by cases e) (fun _ _ _ _ tells => tells) fun _ _ _ _ => wp_doStart)
      fun _ _ _ ended => ⟨ended.holds, ended.past, settled ended⟩
  | stop =>
    exact Wp.mono (wp_serialized (S := Ceased) h known (fun _ e => by cases e) (fun _ _ _ _ tells => tells) fun _ _ _ _ => wp_doStop)
      fun _ _ _ ended => ⟨ended.holds, ended.past, settled ended⟩
  | restart =>
    exact Wp.mono (wp_serialized (S := Operation.restart.Tells) h known (fun _ e => by cases e) (fun _ _ _ _ tells => tells)
      fun _ _ _ _ => wp_doRestart) fun _ _ _ ended => ⟨ended.holds, ended.past, settled ended⟩
  | shutdown =>
    refine Wp.seq (wp_serialized (S := Ceased) (f := fun x => { x with operation := .shutdown }) h known
      (fun e => by cases e) (fun _ x _ _ ceased => ⟨x, rfl, ceased⟩) fun _ _ _ _ => wp_doStop) ?_ ?_
    · rintro x c₁ s₁ ⟨holds, past, settles⟩
      have forgets : s₁.Apart (s₁.setSupervisor fun v => { v with documents := [] }) :=
        Aloof.setDocuments (fun _ => []) s₁
      refine Wp.change c₁ ⟨fun u _ => rely_apart forgets u, .refl rfl rfl rfl⟩ ?_
      refine ⟨holds.apart forgets, past, fun y e => ?_⟩
      cases e
      refine ⟨_, rfl, (settles x rfl).imp_right ?_⟩
      rintro ⟨e, he, mine, operation, result, left, free⟩
      exact ⟨e, he, mine, operation, result, left.trans ⟨rfl, rfl, rfl, rfl⟩, free⟩
    · rintro f c₁ s₁ ⟨holds, past, -⟩
      exact ⟨holds, past, fun _ e => by cases e⟩

/-! ## Turns -/

/-- A task that takes another turn at once takes one of its own kind. -/
theorem returns_turn {κ : TaskKind} (sessional : κ.Sessional) :
    (Client.turn κ).Returns fun x => ∀ κ', x = .onward κ' → κ' = κ := by
  cases κ with
  | reader i =>
    refine .bind fun r => ?_
    split
    · exact fun _ e => by cases e; rfl
    · split
      · exact fun _ e => by cases e; rfl
      · refine .bind fun _ => ?_
        split
        · exact fun _ e => by cases e
        · trivial
  | drain j =>
    refine .bind fun taken => ?_
    split
    · exact fun _ e => by cases e; rfl
    · intro _ e
      split at e
      · cases e
      · cases e; rfl
    · trivial
  | exitWatch j =>
    refine .bind fun alive => ?_
    split
    · exact .bind fun _ => .bind fun _ => .bind fun _ _ e => by cases e
    · exact fun _ e => by cases e
  | trace | showEvents | terminal => exact sessional.elim
  | call c => exact .bind fun _ _ e => by cases e

end LspHost.Course

namespace LspHost

/-- The account of lifecycle operations is kept. -/
theorem course_lawful : course.Lawful where
  refl := Course.Rely.refl
  trans _ _ _ _ := Course.Rely.trans
  acts _ _ _ _ acts := acts.1
  grows _ _ _ rely := rely.loop
  begins _ _ _ apart rely := apart.rely rely
  told t κ r a b told rely o kind := by
    refine ⟨fun w hw mine => (told o kind).1 w (rely.idle w hw mine) mine, fun x e => ?_⟩
    obtain ⟨y, rfl, ⟨refused, other, apart⟩ | ⟨d, hd, mine, operation, result, -⟩⟩ := (told o kind).2 x e
    · exact ⟨y, rfl, .inl ⟨refused, other, apart.rely rely⟩⟩
    · exact ⟨y, rfl, .inr ⟨d, rely.log d hd, mine, operation, result, trivial⟩⟩
  ends _ _ _ _ _ ends o e := ⟨(ends o e).1, (ends o e).2.mono fun _ _ => trivial⟩
  waits _ _ _ _ outside rely := outside.rely rely
  backstage c a b holds stage :=
    ⟨holds.apart (Course.apart_passes stage.toPasses), fun t => Course.rely_apart (Course.apart_passes stage.toPasses) t⟩
  stops t k c s s' holds _ stop := by
    subst stop
    have stage : s.Passes { s with loop := (s.loop.watch k (.task t)).setWaiting t (some k) } :=
      .onLoop ((Loop.grows_watch ..).trans (Loop.grows_setWaiting ..))
    exact ⟨holds.apart (Course.apart_passes stage), Course.rely_apart (Course.apart_passes stage)⟩
  known s l known picks :=
    { granted := fun k hk v settled =>
        known.granted k hk v (by simpa only [Loop.outcome?, picks.tickets] using settled)
      settled := fun free => (known.settled free).alike ⟨rfl, rfl, rfl, rfl⟩ }
  interrupted _ _ _ _ _ _ _ apart _ _ := ⟨apart.underway, fun _ e => by cases e⟩
  turn t κ c s supervised kind holds known apart := by
    by_cases operates : ∃ o, κ = .call (.supervisor (.operate o))
    · obtain ⟨o, rfl⟩ := operates
      have run : course.discipline.wp t (Client.runCall (.supervisor (.operate o)))
          (fun r c' s' => c'.Holds s' ∧ c'.Over t ∧
            Course.Settles t o r c' fun e => e.left.Alike s' ∧ c'.underway = none) c s :=
        Wp.seq (Course.wp_operate ⟨holds, apart, kind⟩ known) (fun _ _ _ post => post) fun _ _ _ post => post
      refine Wp.seq run ?_ ?_
      · rintro x c' s' ⟨holds', settles⟩
        exact ⟨holds', fun _ e => by cases e; exact settles⟩
      · rintro f c' s' ⟨holds', settles⟩
        exact ⟨holds', fun _ e => by cases e; exact settles⟩
    · have other (o : Operation) : κ ≠ .call (.supervisor (.operate o)) := fun e => operates ⟨o, e⟩
      refine Wp.mono (Wp.returns (Course.returns_turn supervised.sessional)
        (Course.wp_aloof (Aloof.turn supervised other) holds apart.log)) ?_
      rintro r c' s' ⟨⟨holds', rely⟩, returns⟩
      refine ⟨holds', ?_⟩
      cases r with
      | error f => exact fun o e => absurd e (other o)
      | ok turn =>
        cases turn with
        | onward κ' => exact ⟨returns _ rfl κ' rfl, Course.Apart.rely (a := (c, s)) apart rely⟩
        | finished x => exact fun o e => absurd e (other o)

end LspHost
