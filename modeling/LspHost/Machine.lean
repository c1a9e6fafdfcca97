import LspHost.World

/-!
Running tasks: each job of the event loop lets one task take its turn, settles a ticket or lets a
server act.

A machine holds the shared state, the tasks that wait, each with the rest of its program, and what
the ended tasks replied. `Machine.step?` does one job; `Machine.runUntil` goes on until a ticket
is settled. What the tasks do is given by a function from their kinds to the program of one turn.
-/

namespace LspHost

/-- A task that waits, with the rest of its turn: for the ticket `on`, or only until the others that
can run have gone first. -/
structure Suspended where
  task : Nat
  on : Option Nat
  next : Except Fault Json → Act Turn

/-- The shared state, the tasks that wait, and the replies of those that have ended. -/
structure Machine where
  world : World
  suspended : List Suspended
  replies : List (Nat × Except Fault Reply)

namespace Machine

/-- A machine without tasks. -/
def ofWorld (s : World) : Machine := ⟨s, [], []⟩

/-- Changes the event loop. -/
def onLoop (f : Loop → Loop) (m : Machine) : Machine :=
  { m with world := { m.world with loop := f m.world.loop } }

/-- The reply of a task, if it has ended. -/
def reply? (m : Machine) (task : Nat) : Option (Except Fault Reply) := m.replies.lookup task

/-- A task ends. -/
def endTask (task : Nat) (r : Except Fault Reply) (m : Machine) : Machine :=
  let ending := (m.world.loop.ending? task).getD 0
  onLoop (fun l => l.settle ending (r.map fun _ => .null))
    { m with replies := (task, r) :: m.replies }

/-- Runs a program as a task until it stops. A turn that follows at once comes before all else. -/
def advance (task : Nat) (p : Act Turn) (m : Machine) : Machine :=
  let (s, stop) := p.advance (fun s t => s.loop.outcome? t) m.world
  let m := { m with world := s }
  match stop with
  | .done (.onward kind) => m.onLoop fun l => (l.setKind task kind).sooner (.begin task)
  | .done (.finished r) => m.endTask task (.ok r)
  | .failed f => m.endTask task (.error f)
  | .waiting ticket next =>
    { m with suspended := ⟨task, some ticket, next⟩ :: m.suspended }.onLoop fun l =>
      (l.watch ticket (.task task)).setWaiting task (some ticket)
  | .pausing next =>
    { m with suspended := ⟨task, none, next⟩ :: m.suspended }.onLoop (Loop.soon · (.resume task))

/-- Whether a task is to be interrupted. -/
def isInterrupted (m : Machine) (task : Nat) : Bool :=
  match m.world.loop.tasks[task]? with
  | some t => t.interrupted
  | none => false

/-- Whether a task waits. -/
def isSuspended (m : Machine) (task : Nat) : Bool := m.suspended.any fun x => x.task = task

/-- Whether a task has ended. -/
def hasEnded (m : Machine) (task : Nat) : Bool := (m.reply? task).isSome

/-- A task goes on with what it waited for, or with its interruption. One that waits for something
else does not. -/
def goOn (task : Nat) (on : Option Nat) (outcome : Except Fault Json) (m : Machine) : Machine :=
  match m.suspended.find? fun x => x.task = task ∧ x.on = on with
  | none => m
  | some x =>
    let r := if m.isInterrupted task then .error .cancelled else outcome
    { m with suspended := m.suspended.filter fun y => y.task ≠ task }
      |>.onLoop (Loop.setRunning · task)
      |>.advance task (x.next r)

/-- A task begins a turn, unless it is interrupted before. One that is in the middle of a turn or
has ended does not. -/
def beginTask (turn : TaskKind → Act Turn) (task : Nat) (m : Machine) : Machine :=
  match m.world.loop.tasks[task]? with
  | none => m
  | some t =>
    if m.isSuspended task || m.hasEnded task then m
    else if t.interrupted then m.endTask task (.error .cancelled)
    else m.advance task (turn t.kind)

/-- Does a job. -/
def perform (turn : TaskKind → Act Turn) (job : Job) (m : Machine) : Machine :=
  match job with
  | .begin task => m.beginTask turn task
  | .resume task => m.goOn task none (.ok .null)
  | .wake task ticket =>
    match m.world.loop.outcome? ticket with
    | some outcome => m.goOn task (some ticket) outcome
    | none => m
  | .settle ticket v => m.onLoop fun l => l.settle ticket (.ok v)
  | .perform server trigger actions =>
    { m with world := m.world.withServer server (Server.perform server trigger actions) }

/-- Does the next job, or moves on to the next round; nothing if nothing will ever happen. -/
def step? (turn : TaskKind → Act Turn) (m : Machine) : Option Machine :=
  match m.world.loop.next? with
  | none => none
  | some (none, l) => some (m.onLoop fun _ => l)
  | some (some job, l) => some ((m.onLoop fun _ => l).perform turn job)

/-- Starts a task and gives its number. -/
def start (kind : TaskKind) (m : Machine) : Nat × Machine :=
  let (task, l) := m.world.loop.start kind
  (task, m.onLoop fun _ => l)

/-- A ticket that is settled one job after another one, when all that was ready before has run. -/
def after (ticket : Nat) (m : Machine) : Nat × Machine :=
  let (next, l) := m.world.loop.issue
  (next, m.onLoop fun _ => l.watch ticket (.ticket next))

/-- A ticket that is settled after some nanoseconds. -/
def timer (nanos : Nat) (m : Machine) : Nat × Machine :=
  let (ticket, l) := m.world.loop.issue
  (ticket, m.onLoop fun _ => (l.later nanos (.settle ticket .null)).2)

/-- Runs until a ticket is settled, until nothing more happens before a point in time, or for at most
so many steps. -/
def runUntil (turn : TaskKind → Act Turn) (ticket deadline : Nat) : Nat → Machine → Machine
  | 0, m => m
  | fuel + 1, m =>
    if m.world.loop.isSettled ticket then m
    else
      match m.world.loop.nextTime? with
      | none => m
      | some time =>
        if deadline < time then m
        else
          match m.step? turn with
          | none => m
          | some m => runUntil turn ticket deadline fuel m

/-- Lets time pass up to a point at which something else is to happen. -/
def idleUntil (time : Nat) (m : Machine) : Machine :=
  m.onLoop fun l => { l with now := max l.now time }

end Machine

end LspHost
