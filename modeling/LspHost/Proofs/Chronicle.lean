import Mathlib.Data.List.Nodup
import LspHost.Proofs.Executing
import LspHost.Proofs.Supervised

/-!
# What lifecycle operations report and tell

`Setting.Runs` are the runs of a client whose host asks nothing but its supervisor, with all that was done
in them. An operation is carried out from where its task takes the lock (`Deed.Enters`). Results:

1. `Setting.Runs.results_truthful`: the result of an operation that was carried out says what it found and what
   it left behind.
2. `Setting.Runs.news_in_blocks`: the news of all operations is that of one after the other, each with the block of
   news that goes with what it found and how it ended.
-/

namespace LspHost

variable {σ : Setting} {m m' : Machine} {ds ds' : List Deed} {s s' : World} {c c' : Course} {u : Nat}
  {o : Operation} {x : LifecycleResult}

/-! ## Runs -/

/-- The runs of a client whose host asks nothing but its supervisor, and what was done in them. -/
inductive Setting.Runs (σ : Setting) : List Deed → Machine → Prop
  | fresh (env : Environment) (files : Files) (cwd : files.cwd = σ.cwd) (scope : DocumentScope)
      (clientVersion : Option String) (hasListener : Bool) (host : Host) (broker : Broker) :
    σ.Runs [] (.ofWorld (.fresh env files σ.scripts
      (.fresh σ.config scope clientVersion hasListener) host broker))
  | step {ds : List Deed} {m m' : Machine} (run : σ.Runs ds m) (step : m.step? Client.turn = some m') :
    σ.Runs (ds ++ m.deeds Client.turn) m'
  | host {ds : List Deed} {m m' : Machine} (run : σ.Runs ds m)
    (hosts : m.Hosts (fun c => (TaskKind.call c).Supervised) m') : σ.Runs ds m'

/-- Runs lead to the clients that come about. -/
theorem Setting.Runs.reaches (h : σ.Runs ds m) : σ.Reaches m := by
  induction h with
  | fresh env files cwd scope clientVersion hasListener host broker => exact .fresh env files cwd ..
  | step _ step ih => exact .next ih (.step step)
  | host _ hosts ih => exact .next ih (.host hosts)

/-- Every client that comes about does so in a run. -/
theorem Setting.Reaches.runs (h : σ.Reaches m) : ∃ ds, σ.Runs ds m := by
  induction h with
  | fresh env files cwd scope clientVersion hasListener host broker => exact ⟨_, .fresh env files cwd ..⟩
  | next _ next ih =>
    obtain ⟨ds, run⟩ := ih
    cases next with
    | step step => exact ⟨_, run.step step⟩
    | host hosts => exact ⟨_, run.host hosts⟩

/-- A run keeps an account that is kept by every job and begins with the run, and with it whatever the deeds lead
on to. -/
theorem Setting.Runs.account {Γ : Type} {A : Account Γ} (γ₀ : Γ) {T : List Deed → Γ → Prop} (h : σ.Runs ds m)
    (lawful : A.Lawful) (regular : ∀ γ m, Sound σ γ m → A.Regular m)
    (fresh : ∀ env files scripts config scope clientVersion hasListener host broker,
      A.Holds γ₀ (.fresh env files scripts (.fresh config scope clientVersion hasListener) host broker))
    (begins : ∀ u s, A.Begins u γ₀ s) (blank : T [] γ₀)
    (path : ∀ {ds ds' a b}, A.Path ds' a b → T ds a.1 → T (ds ++ ds') b.1)
    (serves : A.Serves = TaskKind.Supervised) : ∃ γ, A.Sound γ m ∧ T ds γ := by
  induction h with
  | fresh =>
    refine ⟨γ₀, ⟨fresh .., fun u => ⟨fun _ e => (by cases e), fun _ _ => begins u _, fun _ e => by cases e⟩,
      fun _ e => by cases e⟩, blank⟩
  | step run step ih =>
    obtain ⟨γ, sound, traced⟩ := ih
    obtain ⟨_, inv⟩ := run.reaches.sound
    obtain ⟨γ', sound', along, -⟩ := sound.step? lawful (regular _ _ inv) step
    exact ⟨γ', sound', path along traced⟩
  | host _ hosts ih =>
    obtain ⟨γ, sound, traced⟩ := ih
    exact ⟨γ, (sound.hosts lawful (by rw [serves]; exact hosts)).1, traced⟩

/-- A task takes the lock of lifecycle operations. -/
structure Deed.Enters (d : Deed) (u : Nat) : Prop where
  mine : d.task = u
  free : d.before.supervisor.lifecycleLock.held = false
  taken : d.after.supervisor.lifecycleLock.held = true

namespace Course

/-- The operations of an account have entered in a run, and no others have. -/
structure Traced (ds : List Deed) (c : Course) : Prop where
  underway : ∀ w, c.underway = some w → ∃ d ∈ ds, d.Enters w.task ∧ d.after = w.found
  log : ∀ e ∈ c.log, ∃ d ∈ ds, d.Enters e.task ∧ d.after = e.found
  entered : ∀ u, ∀ d ∈ ds, d.Enters u →
    (∃ w, c.underway = some w ∧ w.task = u ∧ w.found = d.after) ∨
    ∃ e ∈ c.log, e.task = u ∧ e.found = d.after

/-- One more deed. -/
theorem Traced.deed {t : Nat} {f : World → World} (h : Traced ds c) (traces : Traces t (c, s) (c', f s)) :
    Traced (ds ++ [⟨t, f, s⟩]) c' where
  underway w' found := by
    rcases traces.underway w' found with ⟨w, under, task, same⟩ | ⟨task, same, free, taken⟩
    · obtain ⟨d, hd, enters, after⟩ := h.underway w under
      exact ⟨d, List.mem_append_left _ hd, task ▸ enters, after.trans same⟩
    · exact ⟨_, List.mem_append_right _ (List.mem_singleton_self _), ⟨task.symm, free, taken⟩, same.symm⟩
  log e he := by
    rcases traces.log e he with he | ⟨w, under, task, same⟩
    · obtain ⟨d, hd, rest⟩ := h.log e he
      exact ⟨d, List.mem_append_left _ hd, rest⟩
    · obtain ⟨d, hd, enters, after⟩ := h.underway w under
      exact ⟨d, List.mem_append_left _ hd, task ▸ enters, after.trans same⟩
  entered u d hd enters := by
    rcases List.mem_append.mp hd with hd | hd
    · rcases h.entered u d hd enters with ⟨w, under, task, same⟩ | ⟨e, he, rest⟩
      · rcases traces.stays w under with ⟨w', under', task', same'⟩ | ⟨e, he, task', same'⟩
        · exact .inl ⟨w', under', task'.trans task, same'.trans same⟩
        · exact .inr ⟨e, he, task'.trans task, same'.trans same⟩
      · exact .inr ⟨e, traces.keeps e he, rest⟩
    · obtain rfl := List.mem_singleton.mp hd
      obtain ⟨w, under, task, same⟩ := traces.enters enters.free enters.taken
      exact .inl ⟨w, under, task.trans enters.mine, same⟩

/-- All deeds of a job. -/
theorem Traced.path {a b : Course × World} (path : course.Path ds' a b) (h : Traced ds a.1) :
    Traced (ds ++ ds') b.1 := by
  induction path generalizing ds with
  | still => rwa [List.append_nil]
  | later _ _ ih => exact ih h
  | deed acts _ ih =>
    have more := ih (h.deed acts.2)
    rwa [List.append_assoc] at more

end Course

/-- While no operation is under way, whatever is held is running. -/
theorem Sound.settled {γ : Ghost} (h : Sound σ γ m)
    (free : m.world.supervisor.lifecycleLock.held = false) : m.world.Settled := by
  have holder : γ.holder .lifecycle = none := by
    have held := (h.inv.locks .lifecycle).held
    rw [show (Place.lifecycle.lock m.world).held = false from free] at held
    simpa using held.symm
  intro i held
  obtain ⟨state, j, server⟩ := (h.inv.life.atRest holder).busy i held
  obtain ⟨x, p, rest⟩ := World.holds_of_busy h.inv.life held state server
  exact ⟨x, j, p, rest⟩

/-- What is known of a machine apart from the account of its operations. -/
theorem Sound.regular {γ : Ghost} (h : Sound σ γ m) : course.Regular m where
  known :=
    { granted := fun k hk v settled => ((h.inv.locks .lifecycle).granted k hk v settled).1
      settled := h.settled }
  serves := h.inv.tasks.supervised
  woken _ _ _ _ _ _ _ := trivial

/-- The operations of a run have an account. -/
theorem Setting.Runs.course (h : σ.Runs ds m) : ∃ c, course.Sound c m ∧ Course.Traced ds c := by
  refine h.account Course.blank course_lawful (fun _ m sound => sound.regular) (fun _ _ _ _ _ _ _ _ _ =>
    { held := rfl
      news := rfl
      session := fun _ e => by cases e
      reused := rfl
      waiting := fun _ _ e => by cases e
      linked := rfl
      once := .nil
      under := fun _ e => by cases e
      logged := fun _ e => by cases e
      told := fun _ e => by cases e
      settled := fun _ e => by cases e }) (fun _ _ => ⟨fun _ e => (by cases e), fun _ e => by cases e⟩)
    ?_ (fun path traced => traced.path path) rfl
  exact
    { underway := fun _ e => by cases e
      log := fun _ e => by cases e
      entered := fun _ _ e => by cases e }

/-! ## Results tell the truth -/

/-- The session that is held is running, and a result tells its id and the number of its process. -/
def World.Shows (s : World) (x : LifecycleResult) : Prop :=
  ∃ i y j p, s.Holds i y ∧ y.state = .running ∧ s.Serves y j p ∧
    x.sessionId = some (Session.nameOf i) ∧ x.pid = some (Int.ofNat p.pid)

/-- What the result of a start says. -/
structure TruthfulStart (found : World) (x : LifecycleResult) (left : World) : Prop where
  ok : x.ok = true ↔ left.Shows x
  noop : x.outcome = .noop ↔ ∃ i, found.supervisor.session = some i ∧ found.isSessionAlive i = true
  unchanged : x.outcome = .noop → found.Alike left
  failed : x.ok = false → left.supervisor.session = none

/-- What the result of a stop or a shutdown says. -/
structure TruthfulStop (found : World) (x : LifecycleResult) (left : World) : Prop where
  vacant : left.supervisor.session = none
  noop : x.outcome = .noop ↔ found.supervisor.session = none
  told : ∀ i, found.supervisor.session = some i → found.Shows x

/-- What the result of a restart says. -/
structure TruthfulRestart (found : World) (x : LifecycleResult) (left : World) : Prop where
  halves : ∃ stop start, x.stopResult = some stop ∧ x.startResult = some start ∧
    x.outcome = start.outcome ∧ x.error = start.error ∧ x.sessionId = start.sessionId ∧ x.pid = start.pid ∧
    start.outcome ≠ .noop
  ok : x.ok = true ↔ left.Shows x
  failed : x.ok = false → left.supervisor.session = none
  other : ∃ id, x.sessionId = some id ∧ ∀ i, found.supervisor.session = some i → id ≠ Session.nameOf i
  before : x.previouslyRunning = true ↔ ∃ i, found.supervisor.session = some i

/-- What the result of an operation says. -/
def Operation.Truthful : Operation → World → LifecycleResult → World → Prop
  | .start => TruthfulStart
  | .stop | .shutdown => TruthfulStop
  | .restart => TruthfulRestart

section

variable {found left left' between : World} {news : List News} {i : Nat}

theorem World.Serves.toldPid {y : Session} {j : Nat} {p : Server} (holds : left.Holds i y)
    (serves : left.Serves y j p) : left.toldPid i = some (Int.ofNat p.pid) := by
  simp only [World.toldPid, World.sessionPid?, World.pid?, holds.2, serves.1, serves.2, Option.bind_some,
    Option.map_some]

/-- A session that is held is shown by a result that tells of it. -/
theorem World.Settled.shows (h : left.Settled) (held : left.supervisor.session = some i)
    (sessionId : x.sessionId = some (Session.nameOf i)) (pid : x.pid = left.toldPid i) : left.Shows x := by
  obtain ⟨y, j, p, holds, running, serves⟩ := h i held
  exact ⟨i, y, j, p, holds, running, serves, sessionId, pid.trans (serves.toldPid holds)⟩

theorem World.not_shows (none : left.supervisor.session = none) : ¬ left.Shows x := by
  rintro ⟨i, y, j, p, ⟨held, -⟩, -⟩
  cases none.symm.trans held

/-- A session that was launched is there, or none is. -/
theorem Launched.truthful (h : Launched found x left news) (settled : left.Settled) :
    (x.ok = true ↔ left.Shows x) ∧ (x.ok = false → left.supervisor.session = none) ∧ x.outcome ≠ .noop := by
  rcases h.ends with ⟨outcome, standing, pid, -⟩ | ⟨outcome, standing, -⟩
  · have ok : x.ok = true := by simp [LifecycleResult.ok, outcome, Outcome.isOk]
    have shows := settled.shows (congrArg Prod.fst standing) h.sessionId pid
    exact ⟨iff_of_true ok shows, fun e => (by rw [ok] at e; cases e), by simp [outcome]⟩
  · have ok : x.ok = false := by simp [LifecycleResult.ok, outcome, Outcome.isOk]
    have vacant : left.supervisor.session = none := congrArg Prod.fst standing
    exact ⟨iff_of_false (by simp [ok]) (World.not_shows vacant), fun _ => vacant, by simp [outcome]⟩

theorem Started.truthful (h : Started found x left news) (settled : left.Settled) :
    TruthfulStart found x left := by
  cases h with
  | @running i held alive outcome sessionId pid same =>
    have ok : x.ok = true := by simp [LifecycleResult.ok, outcome, Outcome.isOk]
    have shows := settled.shows (same.session.trans held) sessionId (pid.trans (same.toldPid i).symm)
    exact
      { ok := iff_of_true ok shows
        noop := iff_of_true outcome ⟨i, held, alive⟩
        unchanged := fun _ => same
        failed := fun e => by rw [ok] at e; cases e }
  | launched launch =>
    obtain ⟨ok, failed, executed⟩ := launch.truthful settled
    refine { ok, failed, noop := iff_of_false executed ?_, unchanged := fun e => absurd e executed }
    rintro ⟨i, held, -⟩
    cases launch.vacant.symm.trans held
  | replaced exited stop launch =>
    obtain ⟨ok, failed, executed⟩ := launch.truthful settled
    refine { ok, failed, noop := iff_of_false executed ?_, unchanged := fun e => absurd e executed }
    rintro ⟨i, held, alive⟩
    obtain rfl := Option.some.inj (stop.held.symm.trans held)
    cases exited.symm.trans alive

theorem Ceased.truthful (h : Ceased found x left news) (before : found.Settled) :
    TruthfulStop found x left := by
  cases h with
  | idle none outcome same =>
    exact
      { vacant := same.session.trans none
        noop := iff_of_true outcome none
        told := fun i held => by cases none.symm.trans held }
  | stopped stop =>
    refine
      { vacant := congrArg Prod.fst stop.gone
        noop := iff_of_false ?_ (by simp [stop.held])
        told := fun i held => ?_ }
    · rcases stop.outcome with outcome | outcome <;> simp [outcome]
    · obtain rfl := Option.some.inj (stop.held.symm.trans held)
      exact before.shows held stop.sessionId stop.pid

theorem Restarted.truthful {stop start : LifecycleResult} {first second : List News}
    (h : Restarted found x left news stop start between first second) (settled : left.Settled) :
    TruthfulRestart found x left := by
  obtain ⟨ok, failed, executed⟩ := h.launched.truthful settled
  have ok' : x.ok = start.ok := congrArg Outcome.isOk h.outcome
  have shows : left.Shows x ↔ left.Shows start := by
    unfold World.Shows
    rw [h.sessionId, h.pid]
  have before : x.previouslyRunning = (stop.error != some .noActiveSession) := by
    simp only [LifecycleResult.previouslyRunning, h.halves.1]
  exact
    { halves := ⟨stop, start, h.halves.1, h.halves.2, h.outcome, h.error, h.sessionId, h.pid, executed⟩
      ok := by rw [ok', shows]; exact ok
      failed := by rw [ok']; exact failed
      other := by
        refine ⟨_, h.sessionId.trans h.launched.sessionId, fun i held same => ?_⟩
        -- The session that is held was made before the new one.
        cases h.cleared with
        | idle none => cases none.symm.trans held
        | stopped stop =>
          obtain rfl := Option.some.inj (stop.held.symm.trans held)
          exact absurd (Session.nameOf_injective same).symm (Nat.ne_of_lt (stop.sessions ▸ stop.made))
      before := by
        rw [before]
        cases h.cleared with
        | idle none error => simp [none, error]
        | stopped stop => simpa [stop.held] using stop.error }

/-- The result of an operation that finds and leaves nothing unsettled tells the truth. -/
theorem Operation.Tells.truthful (h : o.Tells found x left news) (before : found.Settled)
    (settled : left.Settled) : o.Truthful found x left := by
  cases o with
  | start => exact Started.truthful h settled
  | stop => exact Ceased.truthful h before
  | restart =>
    obtain ⟨stop, start, between, first, second, restarted⟩ := h
    exact restarted.truthful settled
  | shutdown =>
    obtain ⟨y, rfl, ceased⟩ := h
    obtain ⟨vacant, noop, told⟩ := ceased.truthful before
    exact ⟨vacant, noop, told⟩

theorem World.Shows.alike (h : left.Shows x) (same : left.Alike left') : left'.Shows x := by
  obtain ⟨i, y, j, p, holds, running, serves, told⟩ := h
  refine ⟨i, y, j, p, ⟨same.session.trans holds.1, same.sessions ▸ holds.2⟩, running, ⟨?_, same.servers ▸ serves.2⟩, told⟩
  simpa only [World.serverOf?, same.transports] using serves.1

/-- What a result says does not depend on anything else. -/
theorem Operation.Truthful.alike (h : o.Truthful found x left) (same : left.Alike left') :
    o.Truthful found x left' := by
  have shows : left'.Shows x ↔ left.Shows x := ⟨fun h => h.alike same.symm, fun h => h.alike same⟩
  have start (h : TruthfulStart found x left) : TruthfulStart found x left' :=
    { ok := h.ok.trans shows.symm
      noop := h.noop
      unchanged := fun e => (h.unchanged e).trans same
      failed := fun e => same.session.trans (h.failed e) }
  have stop (h : TruthfulStop found x left) : TruthfulStop found x left' :=
    { h with vacant := same.session.trans h.vacant }
  cases o with
  | start => exact start h
  | stop => exact stop h
  | restart =>
    have h : TruthfulRestart found x left := h
    exact { h with ok := h.ok.trans shows.symm, failed := fun e => same.session.trans (h.failed e) }
  | shutdown => exact stop h

end

/-- The result of a lifecycle operation, if it was replied to with one. -/
def Machine.result? (m : Machine) (u : Nat) : Option LifecycleResult :=
  match m.reply? u with
  | some (.ok (.lifecycle x)) => some x
  | _ => none

theorem Machine.result?_eq_some : m.result? u = some x ↔ m.reply? u = some (.ok (.lifecycle x)) := by
  unfold Machine.result?
  split <;> simp_all

/-- The result of an operation says whether it was carried out. If it was, then what it found and what
there is at its end are as the result says. -/
theorem Setting.Runs.results_truthful (run : σ.Runs ds m) (step : m.step? Client.turn = some m')
    (kind : Course.Operates m'.world u o) (going : m.reply? u = none) (told : m'.result? u = some x) :
    (x.outcome ≠ .rejected ↔ ∃ d ∈ ds ++ m.deeds Client.turn, d.Enters u) ∧
    ∀ d ∈ ds ++ m.deeds Client.turn, d.Enters u → o.Truthful d.after x m'.world := by
  obtain ⟨c, sound, traced⟩ := run.course
  obtain ⟨γ, inv⟩ := run.reaches.sound
  obtain ⟨c', sound', path, replies⟩ := sound.step? course_lawful inv.regular step
  have traced' : Course.Traced (ds ++ m.deeds Client.turn) c' := traced.path path
  obtain ⟨κ, s, kind', ends, stage, servers⟩ := replies u _ going (Machine.result?_eq_some.mp told)
  obtain ⟨y, same, ⟨refused, -, apart⟩ | ⟨e, he, mine, operation, result, left, free⟩⟩ :=
    (ends o (Option.some.inj (kind'.symm.trans kind))).2 _ rfl
  · cases same
    have outside : ∀ d ∈ ds ++ m.deeds Client.turn, ¬ d.Enters u := by
      intro d hd enters
      rcases traced'.entered u d hd enters with ⟨w, under, mine, -⟩ | ⟨e, he, mine, -⟩
      · exact apart.underway w under mine
      · exact apart.log e he mine
    refine ⟨iff_of_false (fun executed => executed refused) ?_, fun d hd enters => absurd enters (outside d hd)⟩
    rintro ⟨d, hd, enters⟩
    exact outside d hd enters
  · cases same
    have alike : e.left.Alike m'.world := by
      refine left.trans ⟨?_, ?_, ?_, servers⟩ <;> rw [stage.rest]
    obtain ⟨γ', inv'⟩ := (run.step step).reaches.sound
    have settled := inv'.settled (sound'.holds.held.trans (by rw [free]; rfl))
    have tells := operation ▸ sound'.holds.told e he x result
    have truthful := (tells.truthful (sound'.holds.settled e he) (settled.alike alike.symm)).alike alike
    refine ⟨iff_of_true tells.executed ?_, fun d hd enters => ?_⟩
    · obtain ⟨d, hd, enters, -⟩ := traced'.log e he
      exact ⟨d, hd, mine ▸ enters⟩
    · -- A task enters once.
      rcases traced'.entered u d hd enters with ⟨w, under, -⟩ | ⟨e', he', mine', found⟩
      · cases free.symm.trans under
      · obtain rfl : e' = e := List.inj_on_of_nodup_map sound'.holds.once he' he (mine'.trans mine.symm)
        exact found ▸ truthful

/-- The sample just before it is told that its restart has come to an end. -/
def Machine.restarting : Machine :=
  (Machine.sample.start (.call (.supervisor (.operate .restart)))).2.runUntil Client.turn 1000 1000000000 28

theorem Setting.reaches_restarting : Setting.sample.Reaches Machine.restarting :=
  Setting.Reaches.runUntil (.next Setting.reaches_sample
    (.host (.call (.supervisor (.operate .restart)) trivial))) _ _ _

/-- The restart of the sample says what is there: another session, which is running. -/
theorem results_truthful_restarted :
    ∃ found x m', Machine.restarting.step? Client.turn = some m' ∧ m'.result? 4 = some x ∧
      x.outcome = .success ∧ TruthfulRestart found x m'.world := by
  obtain ⟨ds, run⟩ := Setting.reaches_restarting.runs
  have good : ((Machine.restarting.step? Client.turn).bind (·.result? 4)).map LifecycleResult.outcome =
    some .success := by decide +kernel
  obtain ⟨x, told, outcome⟩ := Option.map_eq_some_iff.mp good
  obtain ⟨m', step, told⟩ := Option.bind_eq_some_iff.mp told
  have kinds : (Machine.restarting.step? Client.turn).map (·.world.loop.kind? 4) =
    some (some (.call (.supervisor (.operate .restart)))) := by decide +kernel
  have kind : Course.Operates m'.world 4 .restart := by
    rw [step] at kinds
    exact Option.some.inj kinds
  have going : Machine.restarting.reply? 4 = none :=
    Option.isNone_iff_eq_none.mp (by decide +kernel)
  obtain ⟨executed, truthful⟩ := Setting.Runs.results_truthful run step kind going told
  obtain ⟨d, hd, enters⟩ := executed.mp (by rw [outcome]; decide)
  exact ⟨d.after, x, m', step, told, outcome, truthful d hd enters⟩

/-! ## The news is that of one operation after the other -/

/-- The operations that were carried out in a run, each with what it found when it entered, its result
and its block of news. -/
structure Chronicle (ds : List Deed) (m : Machine) (log : List Execution) : Prop where
  news : m.world.news = log.flatMap Execution.news
  once : (log.map Execution.task).Nodup
  executed : ∀ u o x, Course.Operates m.world u o → m.result? u = some x →
    (x.outcome ≠ .rejected ↔ u ∈ log.map Execution.task)
  blocks : ∀ e ∈ log, Course.Operates m.world e.task e.operation ∧ ∃ x, m.result? e.task = some x ∧
    (∃ d ∈ ds, d.Enters e.task ∧ d.after = e.found) ∧ e.news = e.operation.block e.found x.ok

/-- When all operations have returned their results, the news of sessions' lives is the blocks of those
that were carried out. No session starts twice, none stops twice, and one stops before another one
starts. -/
theorem Setting.Runs.news_in_blocks (run : σ.Runs ds m)
    (all : ∀ u o, Course.Operates m.world u o → ∃ x, m.result? u = some x) :
    (∃ log, Chronicle ds m log) ∧
    (∀ n, m.world.news.count ⟨.sessionStarting, n⟩ ≤ 1 ∧ m.world.news.count ⟨.sessionStopped, n⟩ ≤ 1) ∧
    ∀ first between rest n n',
      m.world.news = first ++ ⟨.sessionStarted, n⟩ :: (between ++ ⟨.sessionStarted, n'⟩ :: rest) →
      ⟨.sessionStopped, n⟩ ∈ between := by
  obtain ⟨c, sound, traced⟩ := run.course
  obtain ⟨γ, inv⟩ := run.reaches.sound
  have nobody : c.underway = none := by
    have idle : m.NoneInFlight SupervisorCall.IsOperation := by
      rintro u _ kind ⟨o, rfl⟩
      obtain ⟨x, told⟩ := all u o kind
      simp only [Machine.hasEnded, Machine.result?_eq_some.mp told, Option.isSome_some]
    have held := (inv.inv.locks .lifecycle).held
    rw [inv.lifecycle_free idle] at held
    simpa using sound.holds.held.symm.trans held
  -- How the operation of a task was replied to.
  have replied (u : Nat) (o : Operation) (x : LifecycleResult) (kind : Course.Operates m.world u o)
      (told : m.result? u = some x) :
      (x.outcome = .rejected ∧ o ≠ .shutdown ∧ c.Apart u) ∨ ∃ e ∈ c.log, e.task = u ∧ e.operation = o ∧ e.result = .ok x := by
    obtain ⟨κ, kind', tells⟩ := (sound.stands u).ended _ (Machine.result?_eq_some.mp told)
    obtain ⟨y, same, refused | ⟨e, he, mine, operation, result, -⟩⟩ :=
      (tells o (Option.some.inj (kind'.symm.trans kind))).2 _ rfl
    · cases same
      exact .inl refused
    · cases same
      exact .inr ⟨e, he, mine, operation, result⟩
  have logged (e : Execution) (he : e ∈ c.log) :
      ∃ x, m.result? e.task = some x ∧ e.operation.Tells e.found x e.left e.news := by
    have kind := sound.holds.logged e he
    obtain ⟨x, told⟩ := all _ _ kind
    refine ⟨x, told, ?_⟩
    rcases replied _ _ _ kind told with ⟨-, -, apart⟩ | ⟨e', he', mine, -, result⟩
    · exact absurd rfl (apart.log e he)
    · obtain rfl : e' = e := List.inj_on_of_nodup_map sound.holds.once he' he mine
      exact sound.holds.told e' he' x result
  have news : m.world.news = c.log.flatMap Execution.news := by
    rw [sound.holds.news, Course.news, nobody, Option.map_none, Option.getD_none, List.append_nil]
  obtain ⟨z, lives, -⟩ := sound.holds.linked.lives .idle fun e he => (logged e he).imp fun _ => And.right
  rw [← news] at lives
  refine ⟨⟨c.log, news, sound.holds.once, fun u o x kind told => ?_, fun e he => ?_⟩,
    fun n => ⟨lives.count_le_one (.inl rfl), lives.count_le_one (.inr rfl)⟩,
    fun first between rest n n' same => ?_⟩
  · rcases replied u o x kind told with ⟨refused, -, apart⟩ | ⟨e, he, mine, -, result⟩
    · refine iff_of_false (fun executed => executed refused) fun mem => ?_
      obtain ⟨e, he, mine⟩ := List.mem_map.mp mem
      exact apart.log e he mine
    · exact iff_of_true (sound.holds.told e he x result).executed (List.mem_map.mpr ⟨e, he, mine⟩)
  · obtain ⟨x, told, tells⟩ := logged e he
    exact ⟨sound.holds.logged e he, x, told, traced.log e he, tells.block⟩
  · rw [same] at lives
    obtain ⟨y, -, rest⟩ := lives.split
    obtain ⟨i, rfl, held⟩ := rest.of_started
    exact held.stops_before

/-- Whether a task is a lifecycle operation. -/
def TaskKind.operates : TaskKind → Bool
  | .call (.supervisor (.operate _)) => true
  | _ => false

theorem Machine.all_told {m : Machine} (h : (List.range m.world.loop.tasks.length).all (fun u =>
      (m.result? u).isSome || !(m.world.loop.kind? u).any TaskKind.operates) = true) (u : Nat) (o : Operation)
    (kind : Course.Operates m.world u o) : ∃ x, m.result? u = some x := by
  obtain ⟨T, found, -⟩ := Option.map_eq_some_iff.mp kind
  have either := List.all_eq_true.mp h u (List.mem_range.mpr (List.getElem?_eq_some_iff.mp found).1)
  rw [show m.world.loop.kind? u = _ from kind] at either
  exact Option.isSome_iff_exists.mp (by simpa [TaskKind.operates] using either)

/-- The sample after a restart and a stop that were asked for at once. -/
def Machine.restarted : Machine :=
  ((Machine.sample.start (.call (.supervisor (.operate .restart)))).2.start
    (.call (.supervisor (.operate .stop)))).2.runUntil Client.turn 1000 1000000000 100

theorem Setting.reaches_restarted : Setting.sample.Reaches Machine.restarted :=
  Setting.Reaches.runUntil (.next (.next Setting.reaches_sample
    (.host (.call (.supervisor (.operate .restart)) trivial)))
    (.host (.call (.supervisor (.operate .stop)) trivial))) _ _ _

/-- The start, the restart and the stop of the sample have told ten pieces of news, in blocks. -/
theorem news_in_blocks_restarted :
    Machine.restarted.world.news.map News.type =
      [.sessionStarting, .sessionStarted, .restarting, .sessionStopping, .sessionStopped, .sessionStarting,
        .sessionStarted, .restarted, .sessionStopping, .sessionStopped] ∧
    ∃ ds log, Chronicle ds Machine.restarted log := by
  refine ⟨by decide +kernel, ?_⟩
  obtain ⟨ds, run⟩ := Setting.reaches_restarted.runs
  exact ⟨ds, (Setting.Runs.news_in_blocks run (Machine.all_told (by decide +kernel))).1⟩

end LspHost
