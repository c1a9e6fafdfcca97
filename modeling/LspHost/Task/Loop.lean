import LspHost.Task.Call

/-!
The event loop: tasks, the tickets that they wait for, jobs that are ready and timers.

Jobs run in the order in which they became ready, in rounds: what becomes ready during a round runs
in the next one, after it the timers that are due. Time stands still while anything is ready and
jumps to the next timer otherwise.
-/

namespace LspHost

/-- Something that is ready to run. -/
inductive Job where
  /-- A task takes its first turn. -/
  | begin (task : Nat)
  /-- A task that let others go first goes on. -/
  | resume (task : Nat)
  /-- A task goes on after the ticket it waited for. -/
  | wake (task ticket : Nat)
  /-- A ticket is settled, unless it is already. -/
  | settle (ticket : Nat) (v : Json)
  /-- A server does what its script says next. -/
  | perform (server : Nat) (trigger : Trigger) (actions : List Action)
  deriving DecidableEq

/-- What happens when a ticket is settled: a task wakes, or another ticket is settled. -/
inductive Watcher where
  | task (id : Nat)
  | ticket (id : Nat)
  deriving DecidableEq

/-- A ticket: how it was settled, if it was, and who waits for that. -/
structure Ticket where
  outcome : Option (Except Fault Json)
  watchers : List Watcher

/-- A task: the ticket that is settled when it ends, the ticket it waits for, and whether it is to be
interrupted at its next turn. -/
structure TaskState where
  kind : TaskKind
  ending : Nat
  waitingFor : Option Nat
  interrupted : Bool

/-- A job for later. -/
structure Timer where
  id : Nat
  due : Nat
  job : Job
  deriving DecidableEq

/-- The event loop. `left` counts the jobs of the present round. -/
structure Loop where
  now : Nat
  ready : List Job
  left : Nat
  timers : List Timer
  timerCount : Nat
  tickets : List Ticket
  tasks : List TaskState

namespace Loop

def empty : Loop := ⟨0, [], 0, [], 0, [], []⟩

/-- How a ticket was settled, if it was. -/
def outcome? (l : Loop) (ticket : Nat) : Option (Except Fault Json) :=
  (l.tickets[ticket]?).bind Ticket.outcome

def isSettled (l : Loop) (ticket : Nat) : Bool := (l.outcome? ticket).isSome

/-- A new ticket. -/
def issue (l : Loop) : Nat × Loop :=
  (l.tickets.length, { l with tickets := l.tickets ++ [⟨none, []⟩] })

/-- Makes a job ready. -/
def soon (l : Loop) (job : Job) : Loop := { l with ready := l.ready ++ [job] }

/-- Makes a job ready in front of all others. -/
def sooner (l : Loop) (job : Job) : Loop := { l with ready := job :: l.ready, left := l.left + 1 }

/-- The job that a watcher of a ticket does. -/
def watcherJob (ticket : Nat) : Watcher → Job
  | .task id => .wake id ticket
  | .ticket id => .settle id .null

/-- Settles a ticket, unless it is settled already; its watchers become ready in their order. -/
def settle (l : Loop) (ticket : Nat) (outcome : Except Fault Json) : Loop :=
  match l.tickets[ticket]? with
  | some ⟨none, watchers⟩ =>
    { l with
      tickets := l.tickets.set ticket ⟨some outcome, []⟩
      ready := l.ready ++ watchers.map (watcherJob ticket) }
  | _ => l

/-- Adds a watcher to a ticket; for a settled one it becomes ready. -/
def watch (l : Loop) (ticket : Nat) (w : Watcher) : Loop :=
  match l.tickets[ticket]? with
  | some ⟨none, watchers⟩ => { l with tickets := l.tickets.set ticket ⟨none, watchers ++ [w]⟩ }
  | some ⟨some _, _⟩ => l.soon (watcherJob ticket w)
  | none => l

/-- Takes a watcher from a ticket. -/
def unwatch (l : Loop) (ticket : Nat) (w : Watcher) : Loop :=
  { l with tickets := l.tickets.modify ticket fun t => { t with watchers := t.watchers.erase w } }

/-- Puts a timer behind those that are due no later. -/
def insertTimer (t : Timer) : List Timer → List Timer
  | [] => [t]
  | u :: rest => if u.due ≤ t.due then u :: insertTimer t rest else t :: u :: rest

/-- Makes a job ready after some time, and gives the number of its timer. -/
def later (l : Loop) (nanos : Nat) (job : Job) : Nat × Loop :=
  (l.timerCount,
    { l with
      timerCount := l.timerCount + 1
      timers := insertTimer ⟨l.timerCount, l.now + nanos, job⟩ l.timers })

/-- Takes a timer away. -/
def dropTimer (l : Loop) (id : Nat) : Loop :=
  { l with timers := l.timers.filter fun t => t.id ≠ id }

/-- Starts a task; it takes its first turn when it is ready. -/
def start (l : Loop) (kind : TaskKind) : Nat × Loop :=
  let (ending, l) := l.issue
  let task := l.tasks.length
  let tasks := l.tasks ++ [TaskState.mk kind ending none false]
  (task, soon { l with tasks := tasks } (.begin task))

/-- The ticket that is settled when a task ends. -/
def ending? (l : Loop) (task : Nat) : Option Nat := (l.tasks[task]?).map TaskState.ending

/-- Whether a task has ended. -/
def hasEnded (l : Loop) (task : Nat) : Bool :=
  match l.ending? task with
  | some t => l.isSettled t
  | none => true

/-- The task that a ticket is the end of. -/
def taskEndingIn? (l : Loop) (ticket : Nat) : Option Nat :=
  l.tasks.findIdx? fun t => t.ending = ticket

/-- Cancels a task: what it waits for is cancelled, be it a task in turn, or it is interrupted at its
next turn. The fuel bounds the tasks that wait for each other. -/
def cancelWithin : Nat → Loop → Nat → Loop
  | 0, l, _ => l
  | fuel + 1, l, task =>
    match l.tasks[task]? with
    | none => l
    | some t =>
      if l.isSettled t.ending then l
      else
        let interrupt := { l with tasks := l.tasks.set task { t with interrupted := true } }
        match t.waitingFor with
        | none => interrupt
        | some ticket =>
          if l.isSettled ticket then interrupt
          else
            match l.taskEndingIn? ticket with
            | some other => cancelWithin fuel l other
            | none => l.settle ticket (.error .cancelled)

/-- Cancels a task. -/
def cancel (l : Loop) (task : Nat) : Loop := cancelWithin (l.tasks.length + 1) l task

/-- Cancels what a ticket stands for: the task that ends in it, or else the ticket itself. -/
def cancelTicket (l : Loop) (ticket : Nat) : Loop :=
  match l.taskEndingIn? ticket with
  | some task => l.cancel task
  | none => l.settle ticket (.error .cancelled)

/-- Records which ticket a task waits for. -/
def setWaiting (l : Loop) (task : Nat) (ticket : Option Nat) : Loop :=
  { l with tasks := l.tasks.modify task fun t => { t with waitingFor := ticket } }

/-- A task goes on as one of another kind. -/
def setKind (l : Loop) (task : Nat) (kind : TaskKind) : Loop :=
  { l with tasks := l.tasks.modify task fun t => { t with kind := kind } }

/-- Records that a task waits no longer, and that its interruption has come. -/
def setRunning (l : Loop) (task : Nat) : Loop :=
  { l with
    tasks := l.tasks.modify task fun t => { t with waitingFor := none, interrupted := false } }

/-- Moves the timers that are due to the end of the ready jobs. -/
def collectDue (l : Loop) : Loop :=
  let due := l.timers.takeWhile fun t => t.due ≤ l.now
  { l with
    timers := l.timers.drop due.length
    ready := l.ready ++ due.map Timer.job }

/-- When something happens next, if ever. -/
def nextTime? (l : Loop) : Option Nat :=
  if l.ready.isEmpty then l.timers.head?.map Timer.due else some l.now

/-- Takes the next job, or begins a new round, at the time of the next timer if nothing is ready. -/
def next? (l : Loop) : Option (Option Job × Loop) :=
  match l.ready, l.left with
  | job :: rest, left + 1 => some (some job, { l with ready := rest, left := left })
  | _ :: _, 0 =>
    let l := l.collectDue
    some (none, { l with left := l.ready.length })
  | [], _ =>
    match l.timers with
    | [] => none
    | t :: _ =>
      let l := collectDue { l with now := max l.now t.due }
      some (none, { l with left := l.ready.length })

end Loop

end LspHost
