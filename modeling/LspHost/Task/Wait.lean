import LspHost.World

/-!
How tasks wait: for a time, for a ticket within a time, for the end of a task that they have
cancelled, and for a lock.
-/

namespace LspHost.Act

/-- Fails. -/
def fail {α : Type} (f : Fault) : Act α := Program.fail f

/-- Asks the event loop for something. -/
def ask {α : Type} (f : Loop → α × Loop) : Act α :=
  .yield fun s =>
    let (a, loop) := f s.loop
    (a, { s with loop := loop })

/-- Tells the event loop something. -/
def tell (f : Loop → Loop) : Act Unit := .update fun s => { s with loop := f s.loop }

/-- A new ticket. -/
def issue : Act Nat := ask Loop.issue

/-- How a ticket was settled, if it was. -/
def outcome? (ticket : Nat) : Act (Option (Except Fault Json)) := .peek fun s => s.loop.outcome? ticket

/-- Starts a task and gives the ticket that is settled when it ends. -/
def start (kind : TaskKind) : Act Nat :=
  ask fun l =>
    let (task, l) := l.start kind
    ((l.ending? task).getD 0, l)

/-- Sleeps for some nanoseconds, or for ever. Without any the others go first. -/
def sleep (nanos : Option Nat) : Act Unit :=
  match nanos with
  | some 0 => .rest
  | some n => do
    let ticket ← issue
    let timer ← ask (Loop.later · n (.settle ticket .null))
    Program.ensure (do let _ ← Program.await ticket) (tell (Loop.dropTimer · timer))
  | none => do
    let ticket ← issue
    let _ ← Program.await ticket

/-- Waits for the end of what a ticket stands for after it was cancelled. -/
def cancelAndWait (ticket : Nat) : Act Unit := do
  let waiter ← issue
  tell (Loop.watch · ticket (.ticket waiter))
  Program.ensure
    (do
      tell (Loop.cancelTicket · ticket)
      let _ ← Program.await waiter)
    (tell (Loop.unwatch · ticket (.ticket waiter)))

/-- The outcome of a ticket that is settled; a cancelled one counts as a timeout. -/
def outcomeOrTimeout (ticket : Nat) : Act Json := do
  match ← outcome? ticket with
  | some (.ok v) => pure v
  | some (.error .cancelled) => fail .timeout
  | some (.error f) => fail f
  | none => fail .timeout

/-- Waits for a ticket whose time has run out: it is cancelled, unless it was settled just now. -/
def giveUp (ticket waiter : Nat) : Act Json := do
  match ← outcome? ticket with
  | some r => .ofExcept r
  | none =>
    tell (Loop.unwatch · ticket (.ticket waiter))
    cancelAndWait ticket
    outcomeOrTimeout ticket

/-- What is left to do when the waiting task itself is cancelled. -/
def giveUpCancelled (ticket waiter : Nat) : Act Json := do
  match ← outcome? ticket with
  | some r => .ofExcept r
  | none =>
    tell (Loop.unwatch · ticket (.ticket waiter))
    cancelAndWait ticket
    fail .cancelled

/-- The timer that ends a wait, if the time ever runs out. -/
def startTimer (time : Seconds) (waiter : Nat) : Act (Option Nat) :=
  match time.nanos? with
  | some n => do
    let timer ← ask (Loop.later · n (.settle waiter .null))
    pure (some timer)
  | none => pure none

/-- Waits for what `begin` gives the ticket of, at most for some time. What is not settled by then
is cancelled, and the wait ends when that is done. -/
def waitFor (begin : Act Nat) (time : Seconds) : Act Json :=
  if time.isPositive then do
    let waiter ← issue
    let timer ← startTimer time waiter
    let ticket ← begin
    tell (Loop.watch · ticket (.ticket waiter))
    Program.ensure
      (do
        match ← Program.attempt (Program.await waiter) with
        | .error .cancelled => giveUpCancelled ticket waiter
        | _ => giveUp ticket waiter)
      (match timer with
        | some t => tell (Loop.dropTimer · t)
        | none => pure ())
  else do
    let ticket ← begin
    match ← outcome? ticket with
    | some r => .ofExcept r
    | none =>
      cancelAndWait ticket
      outcomeOrTimeout ticket

/-- Cancels the task that ends in a ticket and waits for its end. -/
def stopTask (ending : Nat) : Act Unit := do
  tell (Loop.cancelTicket · ending)
  match ← Program.attempt (Program.await ending) with
  | .ok _ => pure ()
  | .error .cancelled => pure ()
  | .error f => fail f

/-- A lock as a part of the shared state. -/
structure LockPlace where
  get : World → Lock
  set : Lock → World → World

/-- Wakes the first task that waits for a lock. -/
def wakeFirst (place : LockPlace) : Act Unit :=
  .update fun s =>
    match (place.get s).waiters with
    | [] => s
    | ticket :: _ => { s with loop := s.loop.settle ticket (.ok .null) }

def setLock (place : LockPlace) (f : Lock → Lock) : Act Unit :=
  .update fun s => place.set (f (place.get s)) s

/-- Waits in the queue of a lock. -/
def queueFor (place : LockPlace) : Act Unit := do
  let ticket ← issue
  setLock place fun l => { l with waiters := l.waiters ++ [ticket] }
  let r ← Program.attempt (Program.await ticket)
  setLock place fun l => { l with waiters := l.waiters.erase ticket }
  match r with
  | .ok _ => setLock place fun l => { l with held := true }
  | .error f =>
    let lock ← .peek place.get
    if !lock.held then wakeFirst place
    fail f

/-- Takes a lock. -/
def acquire (place : LockPlace) : Act Unit := do
  let lock ← .peek place.get
  if lock.isOpen then setLock place fun l => { l with held := true }
  else queueFor place

/-- Gives a lock back. -/
def release (place : LockPlace) : Act Unit := do
  setLock place fun l => { l with held := false }
  wakeFirst place

/-- Runs a program while holding a lock. -/
def locked {α : Type} (place : LockPlace) (p : Act α) : Act α := do
  acquire place
  Program.ensure p (release place)

end LspHost.Act
