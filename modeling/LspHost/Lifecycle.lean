import LspHost.Schema

/-!
Results of lifecycle operations: what was asked for, how it ended and, for a restart, how its two
halves ended.
-/

namespace LspHost

/-- What a host can ask of a supervisor. -/
inductive Operation where
  | start
  | stop
  | restart
  | shutdown
  deriving DecidableEq, Repr

namespace Operation

def all : List Operation := [.start, .stop, .restart, .shutdown]

def name : Operation → String
  | .start => "start"
  | .stop => "stop"
  | .restart => "restart"
  | .shutdown => "shutdown"

def ofName? (s : String) : Option Operation := all.find? fun o => o.name = s

end Operation

/-- How an operation ended. -/
inductive Outcome where
  | success
  | noop
  | failed
  | rejected
  deriving DecidableEq, Repr

namespace Outcome

def all : List Outcome := [.success, .noop, .failed, .rejected]

def name : Outcome → String
  | .success => "success"
  | .noop => "noop"
  | .failed => "failed"
  | .rejected => "rejected"

def ofName? (s : String) : Option Outcome := all.find? fun o => o.name = s

/-- Whether the host got what it asked for. -/
def isOk : Outcome → Bool
  | .success => true
  | .noop => true
  | _ => false

end Outcome

/-- Why an operation did not succeed. The last one only informs: there was no session to restart. -/
inductive ErrorKind where
  | spawnFailed
  | handshakeFailed
  | shutdownTimeout
  | operationInProgress
  | noActiveSession
  deriving DecidableEq, Repr

namespace ErrorKind

def all : List ErrorKind :=
  [.spawnFailed, .handshakeFailed, .shutdownTimeout, .operationInProgress, .noActiveSession]

def name : ErrorKind → String
  | .spawnFailed => "spawn_failed"
  | .handshakeFailed => "handshake_failed"
  | .shutdownTimeout => "shutdown_timeout"
  | .operationInProgress => "operation_in_progress"
  | .noActiveSession => "no_active_session"

def ofName? (s : String) : Option ErrorKind := all.find? fun k => k.name = s

end ErrorKind

/-- The result of a lifecycle operation. -/
structure LifecycleResult where
  operation : Operation
  outcome : Outcome
  error : Option ErrorKind
  message : String
  sessionId : Option String
  pid : Option Int
  stopResult : Option LifecycleResult
  startResult : Option LifecycleResult

namespace LifecycleResult

/-- A result without halves. -/
def simple (operation : Operation) (outcome : Outcome) (error : Option ErrorKind)
    (message : String) (sessionId : Option String) (pid : Option Int) : LifecycleResult :=
  ⟨operation, outcome, error, message, sessionId, pid, none, none⟩

/-- The operation did what it was asked for. -/
def success (operation : Operation) (message sessionId : String) (pid : Option Int) :
    LifecycleResult :=
  simple operation .success none message (some sessionId) pid

/-- There was nothing to do. -/
def noop (operation : Operation) (message : String) (sessionId : Option String)
    (pid : Option Int) : LifecycleResult :=
  simple operation .noop none message sessionId pid

/-- The operation failed. -/
def failed (operation : Operation) (error : ErrorKind) (message sessionId : String)
    (pid : Option Int) : LifecycleResult :=
  simple operation .failed (some error) message (some sessionId) pid

/-- Another operation was in progress. -/
def rejected (operation : Operation) : LifecycleResult :=
  simple operation .rejected (some .operationInProgress) "另一个生命周期操作正在进行" none none

def ok (r : LifecycleResult) : Bool := r.outcome.isOk

/-- Whether a session was held before a restart. -/
def previouslyRunning (r : LifecycleResult) : Bool :=
  match r.stopResult with
  | some s => s.error != some .noActiveSession
  | none => false

/-- Reads an enumerated name. -/
def named? {α : Type} (ofName? : String → Option α) : Json → Option α
  | .str s => ofName? s
  | _ => none

/-- Reads a result whose halves are nested at most `fuel` deep. -/
def ofMembersWithin : Nat → Members → Except Misfit LifecycleResult
  | 0, _ => .error ⟨"LifecycleResult", []⟩
  | fuel + 1, m =>
    let half (v : Json) : Option LifecycleResult :=
      match v with
      | .obj m => (ofMembersWithin fuel m).toOption
      | _ => none
    ((((((((Checked.start LifecycleResult.mk).ap
      (Schema.required m "operation" (named? Operation.ofName?))).ap
      (Schema.required m "outcome" (named? Outcome.ofName?))).ap
      (Schema.optional m "error" (named? ErrorKind.ofName?))).ap
      (Schema.withDefault m "message" Schema.text? "")).ap
      (Schema.optional m "session_id" Schema.text?)).ap
      (Schema.optional m "pid" Schema.integer?)).ap
      (Schema.optional m "stop_result" half)).ap
      (Schema.optional m "start_result" half) |>.under "LifecycleResult"

mutual

/-- How deep objects and lists are nested in a value. -/
def depth : Json → Nat
  | .arr items => depthOfItems items + 1
  | .obj m => depthOfMembers m + 1
  | _ => 0

def depthOfItems : List Json → Nat
  | [] => 0
  | a :: rest => max (depth a) (depthOfItems rest)

def depthOfMembers : List (String × Json) → Nat
  | [] => 0
  | (_, a) :: rest => max (depth a) (depthOfMembers rest)

end

def ofMembers (m : Members) : Except Misfit LifecycleResult :=
  ofMembersWithin (depth (.obj m) + 1) m

mutual

/-- The members of a result. -/
def toMembers (g : Gaps) : LifecycleResult → Members
  | ⟨operation, outcome, error, message, sessionId, pid, stop, start⟩ =>
    [("operation", .str operation.name), ("outcome", .str outcome.name)]
      ++ g.field "error" (error.map fun k => Json.str k.name) ++ [("message", .str message)]
      ++ g.field "session_id" (sessionId.map Json.str) ++ g.field "pid" (pid.map Json.int)
      ++ g.field "stop_result" (halfToJson? g stop) ++ g.field "start_result" (halfToJson? g start)

def halfToJson? (g : Gaps) : Option LifecycleResult → Option Json
  | none => none
  | some r => some (.obj (toMembers g r))

end

end LifecycleResult

end LspHost
