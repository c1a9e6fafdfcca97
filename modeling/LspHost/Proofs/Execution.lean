import LspHost.Proofs.Aloof
import LspHost.Proofs.Supervised

/-!
# What lifecycle operations do and tell

An operation finds a world and leaves one behind. What it does in between, what it reports and what news
it tells belong together (`Operation.Tells`): a stop gives up the session that is held (`Stopped`), a start
makes a new one (`Launched`), and everything else is put together from these two.

When each operation finds what the one before left behind (`Linked`), no session starts twice, none
stops twice, and a session stops before another one starts.
-/

namespace LspHost

/-! ## What operations find and leave behind -/

namespace World

/-- The session that is held, and the number of sessions that were made. -/
def standing (s : World) : Option Nat × Nat := (s.supervisor.session, s.sessions.length)

/-- The number of a session's process, as results tell it. -/
def toldPid (s : World) (session : Nat) : Option Int := (s.sessionPid? session).map Int.ofNat

theorem Abides.standing {a b : World} (h : a.Abides b) : b.standing = a.standing := by
  simp only [World.standing, h.session, h.sessions]

/-- The same session is held, and sessions and processes are the same. -/
structure Alike (a b : World) : Prop where
  session : b.supervisor.session = a.supervisor.session
  sessions : b.sessions = a.sessions
  transports : b.transports = a.transports
  servers : b.servers = a.servers

namespace Alike

variable {a b c : World}

theorem refl (a : World) : a.Alike a := ⟨rfl, rfl, rfl, rfl⟩

theorem trans (h : a.Alike b) (h' : b.Alike c) : a.Alike c :=
  ⟨h'.session.trans h.session, h'.sessions.trans h.sessions, h'.transports.trans h.transports,
    h'.servers.trans h.servers⟩

theorem symm (h : a.Alike b) : b.Alike a :=
  ⟨h.session.symm, h.sessions.symm, h.transports.symm, h.servers.symm⟩

theorem standing (h : a.Alike b) : b.standing = a.standing := by
  simp only [World.standing, h.session, h.sessions]

theorem toldPid (h : a.Alike b) (i : Nat) : b.toldPid i = a.toldPid i := by
  simp only [World.toldPid, World.sessionPid?, World.pid?, World.serverOf?, h.sessions, h.transports,
    h.servers]

theorem isSessionAlive (h : a.Alike b) (i : Nat) : b.isSessionAlive i = a.isSessionAlive i := by
  simp only [World.isSessionAlive, World.isConnected, World.isAlive, World.serverOf?, h.sessions,
    h.transports, h.servers]

end Alike

/-- Whatever is held is running. -/
def Settled (s : World) : Prop :=
  ∀ i, s.supervisor.session = some i → ∃ y j p, s.Holds i y ∧ y.state = .running ∧ s.Serves y j p

theorem Settled.alike {a b : World} (h : a.Settled) (same : a.Alike b) : b.Settled := by
  intro i held
  obtain ⟨y, j, p, holds, running, serves⟩ := h i (same.session.symm.trans held)
  refine ⟨y, j, p, ⟨held, same.sessions ▸ holds.2⟩, running, ?_, same.servers ▸ serves.2⟩
  simpa only [serverOf?, same.transports] using serves.1

end World

/-! ## What is done, reported and told -/

/-- News of a session. -/
def News.of (type : EventType) (session : Nat) : News := ⟨type, some (Session.nameOf session)⟩

/-- A session was stopped. -/
structure Stopped (i : Nat) (found : World) (x : LifecycleResult) (left : World) (news : List News) : Prop where
  held : found.supervisor.session = some i
  made : i < found.sessions.length
  gone : left.standing = (none, found.sessions.length)
  outcome : x.outcome = .success ∨ x.outcome = .failed
  error : x.error ≠ some .noActiveSession
  sessionId : x.sessionId = some (Session.nameOf i)
  pid : x.pid = found.toldPid i
  news : news = [.of .sessionStopping i, .of .sessionStopped i]

/-- A new session was made and opened, or could not be opened. -/
structure Launched (found : World) (x : LifecycleResult) (left : World) (news : List News) : Prop where
  vacant : found.supervisor.session = none
  sessionId : x.sessionId = some (Session.nameOf found.sessions.length)
  ends :
    (x.outcome = .success ∧ left.standing = (some found.sessions.length, found.sessions.length + 1) ∧
      x.pid = left.toldPid found.sessions.length ∧
      news = [.of .sessionStarting found.sessions.length, .of .sessionStarted found.sessions.length]) ∨
    (x.outcome = .failed ∧ left.standing = (none, found.sessions.length + 1) ∧
      news = [.of .sessionStarting found.sessions.length, .of .sessionStartFailed found.sessions.length])

/-- A start was carried out. -/
inductive Started (found : World) (x : LifecycleResult) (left : World) : List News → Prop
  | running {i : Nat} (held : found.supervisor.session = some i) (alive : found.isSessionAlive i = true)
    (outcome : x.outcome = .noop) (sessionId : x.sessionId = some (Session.nameOf i))
    (pid : x.pid = found.toldPid i) (same : found.Alike left) : Started found x left []
  | launched {news : List News} (launch : Launched found x left news) : Started found x left news
  | replaced {i : Nat} {y : LifecycleResult} {between : World} {first second : List News}
    (exited : found.isSessionAlive i = false) (stop : Stopped i found y between first)
    (launch : Launched between x left second) : Started found x left (first ++ second)

/-- A stop was carried out. -/
inductive Ceased (found : World) (x : LifecycleResult) (left : World) : List News → Prop
  | idle (none : found.supervisor.session = none) (outcome : x.outcome = .noop) (same : found.Alike left) :
    Ceased found x left []
  | stopped {i : Nat} {news : List News} (stop : Stopped i found x left news) : Ceased found x left news

/-- The first half of a restart. -/
inductive Cleared (found : World) (x : LifecycleResult) (left : World) : List News → Prop
  | idle (none : found.supervisor.session = none) (error : x.error = some .noActiveSession)
    (same : left.standing = found.standing) : Cleared found x left []
  | stopped {i : Nat} {news : List News} (stop : Stopped i found x left news) : Cleared found x left news

/-- A restart was carried out. -/
structure Restarted (found : World) (x : LifecycleResult) (left : World) (news : List News)
    (stop start : LifecycleResult) (between : World) (first second : List News) : Prop where
  halves : x.stopResult = some stop ∧ x.startResult = some start
  outcome : x.outcome = start.outcome
  error : x.error = start.error
  sessionId : x.sessionId = start.sessionId
  pid : x.pid = start.pid
  cleared : Cleared found stop between first
  launched : Launched between start left second
  news : news = ⟨.restarting, found.supervisor.session.map Session.nameOf⟩ :: (first ++ second ++
    if start.outcome = .success then [⟨.restarted, left.supervisor.session.map Session.nameOf⟩] else [])

/-- What an operation that was carried out found, reported, left behind and told. -/
def Operation.Tells (o : Operation) (found : World) (x : LifecycleResult) (left : World) (news : List News) :
    Prop :=
  match o with
  | .start => Started found x left news
  | .stop => Ceased found x left news
  | .restart => ∃ stop start between first second,
    Restarted found x left news stop start between first second
  | .shutdown => ∃ y, x = { y with operation := .shutdown } ∧ Ceased found y left news

theorem Launched.alike {found left left' : World} {x : LifecycleResult} {news : List News}
    (h : Launched found x left news) (same : left.Alike left') : Launched found x left' news where
  vacant := h.vacant
  sessionId := h.sessionId
  ends := by simpa only [same.standing, same.toldPid] using h.ends

theorem Stopped.of_alike {found found' left : World} {i : Nat} {x : LifecycleResult} {news : List News}
    (h : Stopped i found' x left news) (same : found.Alike found') : Stopped i found x left news :=
  { h with
    held := same.session ▸ h.held
    made := same.sessions ▸ h.made
    gone := by rw [h.gone, same.sessions]
    pid := by rw [h.pid, same.toldPid] }

theorem Cleared.of_alike {found found' left : World} {x : LifecycleResult} {news : List News}
    (h : Cleared found' x left news) (same : found.Alike found') : Cleared found x left news := by
  cases h with
  | idle none error standing => exact .idle (same.session ▸ none) error (standing.trans same.standing)
  | stopped stop => exact .stopped (stop.of_alike same)

/-- After the first half of a restart nothing is held. -/
theorem Cleared.vacant {found left : World} {x : LifecycleResult} {news : List News}
    (h : Cleared found x left news) : left.supervisor.session = none := by
  cases h with
  | idle none _ same => rw [show left.supervisor.session = _ from congrArg Prod.fst same]; exact none
  | stopped stop => exact congrArg Prod.fst stop.gone

/-- A new session was opened iff the result says so. -/
theorem Launched.ok {found left : World} {x : LifecycleResult} {news : List News}
    (h : Launched found x left news) : x.ok = true ↔ x.outcome = .success := by
  rcases h.ends with ⟨outcome, -⟩ | ⟨outcome, -⟩ <;> simp [LifecycleResult.ok, outcome, Outcome.isOk]

/-- Where nothing is held, a start makes a new session. -/
theorem Started.launched_of_vacant {found left : World} {x : LifecycleResult} {news : List News}
    (h : Started found x left news) (vacant : found.supervisor.session = none) :
    Launched found x left news := by
  cases h with
  | running held => cases vacant.symm.trans held
  | launched launch => exact launch
  | replaced _ stop => cases vacant.symm.trans stop.held

/-- A session id tells which session it is. -/
theorem Session.nameOf_injective {i j : Nat} (h : nameOf i = nameOf j) : i = j := by
  have same : toString (i + 1) = toString (j + 1) := by
    simpa only [nameOf, String.append_right_inj] using h
  have digits : Nat.toDigits 10 (i + 1) = Nat.toDigits 10 (j + 1) := by
    simpa only [Nat.toString_eq_ofList_toDigits, String.ofList_inj] using same
  have value := congrArg (Nat.ofDigitChars 10 · 0) digits
  simpa only [Nat.ofDigitChars_toDigits (b := 10) (by omega) (by omega), Nat.add_right_cancel_iff] using value

/-! ### Blocks of news -/

/-- The news of a session that is started, if it comes up and if it does not. -/
def News.startBlock (session : Nat) (ok : Bool) : List News :=
  [.of .sessionStarting session, .of (if ok then .sessionStarted else .sessionStartFailed) session]

/-- The news of a session that is stopped. -/
def News.stopBlock (session : Nat) : List News :=
  [.of .sessionStopping session, .of .sessionStopped session]

/-- The news of an operation, from what it found and whether it went well. -/
def Operation.block (o : Operation) (found : World) (ok : Bool) : List News :=
  let start := News.startBlock found.sessions.length ok
  let stop := (found.supervisor.session.map News.stopBlock).getD []
  match o with
  | .start => if found.supervisor.session.any found.isSessionAlive then [] else stop ++ start
  | .stop | .shutdown => stop
  | .restart =>
    ⟨.restarting, found.supervisor.session.map Session.nameOf⟩ :: (stop ++ start ++
      if ok then [.of .restarted found.sessions.length] else [])

section

variable {found left between : World} {x : LifecycleResult} {news : List News}

theorem Launched.block (h : Launched found x left news) :
    news = News.startBlock found.sessions.length x.ok := by
  rcases h.ends with ⟨outcome, -, -, told⟩ | ⟨outcome, -, told⟩ <;>
    simp [told, News.startBlock, LifecycleResult.ok, outcome, Outcome.isOk]

theorem Stopped.sessions {i : Nat} (h : Stopped i found x left news) :
    left.sessions.length = found.sessions.length := congrArg Prod.snd h.gone

theorem Stopped.block {i : Nat} (h : Stopped i found x left news) :
    news = (found.supervisor.session.map News.stopBlock).getD [] := by
  rw [h.held, h.news]
  rfl

theorem Cleared.block (h : Cleared found x left news) :
    news = (found.supervisor.session.map News.stopBlock).getD [] := by
  cases h with
  | idle none => rw [none]; rfl
  | stopped stop => exact stop.block

/-- After the first half of a restart there are as many sessions as before. -/
theorem Cleared.sessions (h : Cleared found x left news) : left.sessions.length = found.sessions.length := by
  cases h with
  | idle _ _ same => exact congrArg Prod.snd same
  | stopped stop => exact stop.sessions

theorem Started.block (h : Started found x left news) : news = Operation.start.block found x.ok := by
  cases h with
  | running held alive => simp only [Operation.block, held, Option.any_some, alive, if_true]
  | launched launch =>
    simp only [Operation.block, launch.vacant, Option.any_none, Bool.false_eq_true, if_false]
    exact launch.block
  | replaced exited stop launch =>
    rw [stop.block, launch.block, stop.sessions]
    simp only [Operation.block, stop.held, Option.any_some, exited, Bool.false_eq_true, if_false]

theorem Ceased.block (h : Ceased found x left news) : news = Operation.stop.block found x.ok := by
  cases h with
  | idle none => simp only [Operation.block, none, Option.map_none, Option.getD_none]
  | stopped stop => exact stop.block

theorem Restarted.block {stop start : LifecycleResult} {first second : List News}
    (h : Restarted found x left news stop start between first second) :
    news = Operation.restart.block found x.ok := by
  have sessions := h.cleared.sessions
  have ok : x.ok = start.ok := by rw [LifecycleResult.ok, h.outcome]; rfl
  have last : (if start.outcome = .success then [⟨.restarted, left.supervisor.session.map Session.nameOf⟩] else []) =
      if start.ok then [News.of .restarted found.sessions.length] else [] := by
    rcases h.launched.ends with ⟨outcome, standing, -⟩ | ⟨outcome, -⟩
    · have held : left.supervisor.session = some between.sessions.length := congrArg Prod.fst standing
      simp [LifecycleResult.ok, outcome, Outcome.isOk, held, sessions, News.of]
    · simp [LifecycleResult.ok, outcome, Outcome.isOk]
  rw [h.news, h.cleared.block, h.launched.block, last, sessions, ← ok]
  rfl

/-- The news of an operation is its block. -/
theorem Operation.Tells.block {o : Operation} (h : o.Tells found x left news) : news = o.block found x.ok := by
  cases o with
  | start => exact Started.block h
  | stop => exact Ceased.block h
  | restart =>
    obtain ⟨stop, start, between, first, second, restarted⟩ := h
    exact restarted.block
  | shutdown =>
    obtain ⟨y, rfl, ceased⟩ := h
    exact ceased.block

/-- What was carried out was not refused. -/
theorem Operation.Tells.executed {o : Operation} (h : o.Tells found x left news) : x.outcome ≠ .rejected := by
  have launched {found left : World} {x : LifecycleResult} {news : List News} (h : Launched found x left news) :
      x.outcome ≠ .rejected := by
    rcases h.ends with ⟨outcome, -⟩ | ⟨outcome, -⟩ <;> simp [outcome]
  have ceased {x : LifecycleResult} (h : Ceased found x left news) : x.outcome ≠ .rejected := by
    cases h with
    | idle _ outcome => simp [outcome]
    | stopped stop => rcases stop.outcome with outcome | outcome <;> simp [outcome]
  cases o with
  | start =>
    cases h with
    | running _ _ outcome => simp [outcome]
    | launched launch => exact launched launch
    | replaced _ _ launch => exact launched launch
  | stop => exact ceased h
  | restart =>
    obtain ⟨stop, start, between, first, second, restarted⟩ := h
    rw [restarted.outcome]
    exact launched restarted.launched
  | shutdown =>
    obtain ⟨y, rfl, gone⟩ := h
    exact show y.outcome ≠ .rejected from ceased gone

end

/-! ## Sessions live one after the other -/

/-- How far a supervisor has come with its sessions: none is there, one comes up, or one is there. Those
before it have come and gone. -/
inductive Tenure where
  | idle (next : Nat)
  | opening (session : Nat)
  | held (session : Nat)

/-- How the news of sessions' lives leads on. -/
inductive Lives : Tenure → List News → Tenure → Prop
  | still {a : Tenure} : Lives a [] a
  | restarting {a z : Tenure} {session : Option String} {rest : List News} (more : Lives a rest z) :
    Lives a (⟨.restarting, session⟩ :: rest) z
  | restarted {a z : Tenure} {session : Option String} {rest : List News} (more : Lives a rest z) :
    Lives a (⟨.restarted, session⟩ :: rest) z
  | starting {i : Nat} {z : Tenure} {rest : List News} (more : Lives (.opening i) rest z) :
    Lives (.idle i) (.of .sessionStarting i :: rest) z
  | started {i : Nat} {z : Tenure} {rest : List News} (more : Lives (.held i) rest z) :
    Lives (.opening i) (.of .sessionStarted i :: rest) z
  | failed {i : Nat} {z : Tenure} {rest : List News} (more : Lives (.idle (i + 1)) rest z) :
    Lives (.opening i) (.of .sessionStartFailed i :: rest) z
  | stopping {i : Nat} {z : Tenure} {rest : List News} (more : Lives (.held i) rest z) :
    Lives (.held i) (.of .sessionStopping i :: rest) z
  | stopped {i : Nat} {z : Tenure} {rest : List News} (more : Lives (.idle (i + 1)) rest z) :
    Lives (.held i) (.of .sessionStopped i :: rest) z

/-- Between two operations no session is coming up, and the one that is held is the last one made. -/
inductive Tenure.Between : Tenure → Option Nat × Nat → Prop
  | idle {n : Nat} : Between (.idle n) (none, n)
  | held {i : Nat} : Between (.held i) (some i, i + 1)

namespace Lives

variable {a y z : Tenure} {news more : List News} {n : Option String} {i : Nat} {t : EventType}

theorem append (h : Lives a news y) (h' : Lives y more z) : Lives a (news ++ more) z := by
  induction h with
  | still => exact h'
  | restarting _ ih => exact .restarting (ih h')
  | restarted _ ih => exact .restarted (ih h')
  | starting _ ih => exact .starting (ih h')
  | started _ ih => exact .started (ih h')
  | failed _ ih => exact .failed (ih h')
  | stopping _ ih => exact .stopping (ih h')
  | stopped _ ih => exact .stopped (ih h')

theorem split (h : Lives a (news ++ more) z) : ∃ y, Lives a news y ∧ Lives y more z := by
  induction news generalizing a with
  | nil => exact ⟨a, .still, h⟩
  | cons _ rest ih =>
    cases h with
    | restarting h => obtain ⟨y, first, second⟩ := ih h; exact ⟨y, .restarting first, second⟩
    | restarted h => obtain ⟨y, first, second⟩ := ih h; exact ⟨y, .restarted first, second⟩
    | starting h => obtain ⟨y, first, second⟩ := ih h; exact ⟨y, .starting first, second⟩
    | started h => obtain ⟨y, first, second⟩ := ih h; exact ⟨y, .started first, second⟩
    | failed h => obtain ⟨y, first, second⟩ := ih h; exact ⟨y, .failed first, second⟩
    | stopping h => obtain ⟨y, first, second⟩ := ih h; exact ⟨y, .stopping first, second⟩
    | stopped h => obtain ⟨y, first, second⟩ := ih h; exact ⟨y, .stopped first, second⟩

/-- Where a session was started, one comes up before, and it is there afterwards. -/
theorem of_started (h : Lives a (⟨.sessionStarted, n⟩ :: news) z) :
    ∃ i, n = some (Session.nameOf i) ∧ Lives (.held i) news z := by
  generalize e : (⟨.sessionStarted, n⟩ : News) = first at h
  cases h with
  | started more => cases e; exact ⟨_, rfl, more⟩
  | _ => cases e

/-- A session that is there stops before another one starts. -/
theorem stops_before (h : Lives (.held i) (news ++ ⟨.sessionStarted, n⟩ :: more) z) :
    News.of .sessionStopped i ∈ news := by
  induction news with
  | nil => cases h
  | cons _ rest ih =>
    cases h with
    | restarting h => exact List.mem_cons_of_mem _ (ih h)
    | restarted h => exact List.mem_cons_of_mem _ (ih h)
    | stopping h => exact List.mem_cons_of_mem _ (ih h)
    | stopped => exact List.mem_cons_self

/-- The first session of which news of a kind may still come. -/
def floor (t : EventType) : Tenure → Nat
  | .idle i => i
  | .opening i | .held i => if t = .sessionStarting then i + 1 else i

/-- There is no more news of the start or the end of sessions that have come and gone. -/
theorem floor_le (h : Lives a news z) (kind : t = .sessionStarting ∨ t = .sessionStopped)
    (mem : ⟨t, n⟩ ∈ news) : ∃ i, floor t a ≤ i ∧ n = some (Session.nameOf i) := by
  induction h with
  | still => cases mem
  | restarting _ ih | restarted _ ih =>
    rcases List.mem_cons.mp mem with e | mem
    · cases e; simp at kind
    · exact ih mem
  | starting _ ih =>
    rcases List.mem_cons.mp mem with e | mem
    · cases e; exact ⟨_, Nat.le_refl _, rfl⟩
    · obtain ⟨i, le, name⟩ := ih mem
      refine ⟨i, Nat.le_trans ?_ le, name⟩
      simp only [floor]
      split <;> omega
  | started _ ih | stopping _ ih =>
    rcases List.mem_cons.mp mem with e | mem
    · cases e; simp at kind
    · exact ih mem
  | failed _ ih =>
    rcases List.mem_cons.mp mem with e | mem
    · cases e; simp at kind
    · obtain ⟨i, le, name⟩ := ih mem
      refine ⟨i, Nat.le_trans ?_ le, name⟩
      simp only [floor]
      split <;> omega
  | stopped _ ih =>
    rcases List.mem_cons.mp mem with e | mem
    · cases e; exact ⟨_, Nat.le_refl _, rfl⟩
    · obtain ⟨i, le, name⟩ := ih mem
      refine ⟨i, Nat.le_trans ?_ le, name⟩
      simp only [floor]
      split <;> omega

/-- No session starts twice, and none stops twice. -/
theorem count_le_one (h : Lives a news z) (kind : t = .sessionStarting ∨ t = .sessionStopped) :
    news.count ⟨t, n⟩ ≤ 1 := by
  -- What was told of a session is not told again once it is gone.
  have last {a z : Tenure} {rest : List News} {i : Nat} (more : Lives a rest z) (gone : i < floor t a) :
      rest.count (News.of t i) = 0 := by
    refine List.count_eq_zero.mpr fun mem => ?_
    obtain ⟨j, le, name⟩ := more.floor_le kind mem
    exact absurd (Session.nameOf_injective (Option.some.inj name)) (by omega)
  have other {t' : EventType} {m : Option String} {rest : List News} (ne : t' ≠ t) (ih : rest.count ⟨t, n⟩ ≤ 1) :
      (⟨t', m⟩ :: rest).count (⟨t, n⟩ : News) ≤ 1 := by
    rwa [List.count_cons_of_ne fun e => ne (congrArg News.type e)]
  have mine {a z : Tenure} {rest : List News} {i : Nat} (more : Lives a rest z) (gone : i < floor t a)
      (ih : rest.count ⟨t, n⟩ ≤ 1) : (.of t i :: rest).count (⟨t, n⟩ : News) ≤ 1 := by
    by_cases e : News.of t i = ⟨t, n⟩
    · refine Nat.le_of_eq ?_
      rw [← e, List.count_cons_self, last more gone]
    · rwa [List.count_cons_of_ne e]
  induction h with
  | still => exact Nat.zero_le _
  | starting more ih =>
    rcases kind with rfl | rfl
    · exact mine more (Nat.lt_succ_self _) ih
    · exact other (by decide) ih
  | stopped more ih =>
    rcases kind with rfl | rfl
    · exact other (by decide) ih
    · exact mine more (Nat.lt_succ_self _) ih
  | restarting _ ih | restarted _ ih | started _ ih | failed _ ih | stopping _ ih =>
    exact other (by rcases kind with rfl | rfl <;> decide) ih

end Lives

section

variable {found left : World} {x : LifecycleResult} {news : List News} {a : Tenure}

theorem Stopped.lives {i : Nat} (h : Stopped i found x left news) (before : a.Between found.standing) :
    ∃ z, Lives a news z ∧ z.Between left.standing := by
  have standing : found.standing = (some i, found.sessions.length) := congrArg (·, found.sessions.length) h.held
  rw [standing] at before
  generalize made : found.sessions.length = k at before
  cases before
  refine ⟨.idle (i + 1), ?_, ?_⟩
  · rw [h.news]
    exact .stopping (.stopped .still)
  · rw [h.gone, made]
    exact .idle

theorem Launched.lives (h : Launched found x left news) (before : a.Between found.standing) :
    ∃ z, Lives a news z ∧ z.Between left.standing := by
  have standing : found.standing = (none, found.sessions.length) :=
    congrArg (·, found.sessions.length) h.vacant
  rw [standing] at before
  cases before
  rcases h.ends with ⟨-, left, -, told⟩ | ⟨-, left, told⟩
  · exact ⟨.held found.sessions.length, told ▸ .starting (.started .still), left ▸ .held⟩
  · exact ⟨.idle (found.sessions.length + 1), told ▸ .starting (.failed .still), left ▸ .idle⟩

theorem Started.lives (h : Started found x left news) (before : a.Between found.standing) :
    ∃ z, Lives a news z ∧ z.Between left.standing := by
  cases h with
  | running _ _ _ _ _ same => exact ⟨a, .still, same.standing.symm ▸ before⟩
  | launched launch => exact launch.lives before
  | replaced _ stop launch =>
    obtain ⟨y, first, between⟩ := stop.lives before
    obtain ⟨z, second, after⟩ := launch.lives between
    exact ⟨z, first.append second, after⟩

theorem Ceased.lives (h : Ceased found x left news) (before : a.Between found.standing) :
    ∃ z, Lives a news z ∧ z.Between left.standing := by
  cases h with
  | idle _ _ same => exact ⟨a, .still, same.standing.symm ▸ before⟩
  | stopped stop => exact stop.lives before

theorem Restarted.lives {stop start : LifecycleResult} {between : World} {first second : List News}
    (h : Restarted found x left news stop start between first second) (before : a.Between found.standing) :
    ∃ z, Lives a news z ∧ z.Between left.standing := by
  obtain ⟨y, cleared, midway⟩ : ∃ y, Lives a first y ∧ y.Between between.standing := by
    cases h.cleared with
    | idle _ _ same => exact ⟨a, .still, same.symm ▸ before⟩
    | stopped stop => exact stop.lives before
  obtain ⟨z, launched, after⟩ := h.launched.lives midway
  refine ⟨z, ?_, after⟩
  rw [h.news]
  refine .restarting ((cleared.append launched).append ?_)
  split
  · exact .restarted .still
  · exact .still

/-- What an operation tells leads from what it found to what it left behind. -/
theorem Operation.Tells.lives {o : Operation} (h : o.Tells found x left news)
    (before : a.Between found.standing) : ∃ z, Lives a news z ∧ z.Between left.standing := by
  cases o with
  | start => exact Started.lives h before
  | stop => exact Ceased.lives h before
  | restart =>
    obtain ⟨stop, start, between, first, second, restarted⟩ := h
    exact restarted.lives before
  | shutdown =>
    obtain ⟨y, rfl, ceased⟩ := h
    exact ceased.lives before

end

/-! ## One operation after the other -/

/-- A lifecycle operation that was carried out. -/
structure Execution where
  task : Nat
  operation : Operation
  found : World
  news : List News
  result : Except Fault LifecycleResult
  left : World

/-- Each operation finds what the one before it left behind. -/
def Linked : Option Nat × Nat → List Execution → Option Nat × Nat → Prop
  | first, [], last => last = first
  | first, e :: rest, last => e.found.standing = first ∧ Linked e.left.standing rest last

theorem Linked.append {first last : Option Nat × Nat} {log : List Execution} {e : Execution}
    (h : Linked first log last) (found : e.found.standing = last) :
    Linked first (log ++ [e]) e.left.standing := by
  induction log generalizing first with
  | nil => exact ⟨found.trans h, rfl⟩
  | cons d rest ih => exact ⟨h.1, ih h.2⟩

/-- The news of operations that find what the one before left behind leads on. -/
theorem Linked.lives {first last : Option Nat × Nat} {log : List Execution} {a : Tenure}
    (h : Linked first log last) (before : a.Between first)
    (told : ∀ e ∈ log, ∃ x, e.operation.Tells e.found x e.left e.news) :
    ∃ z, Lives a (log.flatMap Execution.news) z ∧ z.Between last := by
  induction log generalizing first a with
  | nil => exact ⟨a, .still, show a.Between last from Eq.symm (show last = first from h) ▸ before⟩
  | cons e rest ih =>
    obtain ⟨x, tells⟩ := told e List.mem_cons_self
    obtain ⟨y, news, between⟩ := tells.lives (h.1 ▸ before)
    obtain ⟨z, more, after⟩ := ih h.2 between fun d hd => told d (List.mem_cons_of_mem _ hd)
    exact ⟨z, news.append more, after⟩

end LspHost
