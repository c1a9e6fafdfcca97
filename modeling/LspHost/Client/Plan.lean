import LspHost.Client

/-!
Plans: calls that are made one by one or several at once, begun now and joined later. A plan that
would take more than a day is given up.
-/

namespace LspHost

/-- Calls that were begun, each with its task. -/
inductive Begun where
  | one (task : Nat)
  | several (parts : List Begun)
  deriving Inhabited

/-- The replies to calls, in the shape of the calls. -/
inductive Replies where
  | one (r : Except Fault Reply)
  | several (parts : List Replies)

namespace Client

/-- How long a plan may take, in nanoseconds: a day. -/
def horizon : Nat := 86400 * 1000000000

/-- Begins a call. -/
def begin (c : Call) (m : Machine) : Begun × Machine :=
  let (task, m) := m.start (.call c)
  (.one task, m)

mutual

/-- Whether all calls have ended. -/
def hasEnded (m : Machine) : Begun → Bool
  | .one task => m.hasEnded task
  | .several parts => allEnded m parts

def allEnded (m : Machine) : List Begun → Bool
  | [] => true
  | b :: rest => hasEnded m b && allEnded m rest

end

/-- Waits for the end of a task, up to a point in time. -/
def waitForTask (deadline task : Nat) (m : Machine) : Machine :=
  match m.world.loop.ending? task with
  | some ticket => settle ticket deadline m
  | none => m

mutual

/-- Waits for the ends of calls, up to a point in time. -/
def wait (deadline : Nat) : Begun → Machine → Machine
  | .one task, m => waitForTask deadline task m
  | .several parts, m => waitAll deadline parts m

def waitAll (deadline : Nat) : List Begun → Machine → Machine
  | [], m => m
  | b :: rest, m => waitAll deadline rest (wait deadline b m)

end

mutual

/-- What came of calls, if all have ended. -/
def replies? (m : Machine) : Begun → Option Replies
  | .one task => (m.reply? task).map .one
  | .several parts => (allReplies? m parts).map .several

def allReplies? (m : Machine) : List Begun → Option (List Replies)
  | [] => some []
  | b :: rest => do
    let r ← replies? m b
    let rs ← allReplies? m rest
    some (r :: rs)

end

mutual

/-- Cancels calls and waits for their ends. -/
def giveUp (deadline : Nat) : Begun → Machine → Machine
  | .one task, m => waitForTask deadline task (m.onLoop (Loop.cancel · task))
  | .several parts, m => giveUpAll deadline parts m

def giveUpAll (deadline : Nat) : List Begun → Machine → Machine
  | [], m => m
  | b :: rest, m => giveUpAll deadline rest (giveUp deadline b m)

end

/-- Waits for calls. Those that would never end are given up at the horizon. -/
def join (b : Begun) (m : Machine) : Option Replies × Machine :=
  let start := m.world.loop.now
  let m := wait (start + horizon) b m
  match replies? m b with
  | some r => (some r, m)
  | none => (none, giveUp (start + 2 * horizon) b (m.idleUntil (start + horizon)))

end Client

end LspHost
