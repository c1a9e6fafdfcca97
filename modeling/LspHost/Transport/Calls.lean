import LspHost.Process.Reception
import LspHost.Task.Wait

/-!
What a transport does: it starts a process, sends and receives messages, and releases the process,
by force if it does not exit by itself.
-/

namespace LspHost

/-- The outputs of a process. -/
inductive Channel where
  | output
  | errors
  deriving DecidableEq, Repr

namespace Channel

def get : Channel → Server → Stream
  | .output, p => p.output
  | .errors, p => p.errors

def set : Channel → (Stream → Stream) → Server → Server
  | .output, f, p => { p with output := f p.output }
  | .errors, f, p => { p with errors := f p.errors }

end Channel

namespace Transport

open Act

/-- The fault of using a process that is not there. -/
def missing (name : String) : Fault :=
  .plain .missingAttribute ("'NoneType' object has no attribute '" ++ name ++ "'")

/-- Takes from a stream what is asked for, if that can be decided. -/
def takeNow (server : Nat) (c : Channel) (d : Demand) : Act (Option Taken) :=
  .yield fun s =>
    match (s.servers[server]?).map c.get with
    | none => (some (.ended []), s)
    | some stream =>
      match stream.take? d with
      | some (taken, stream) => (some taken, s.setServer server (c.set fun _ => stream))
      | none => (none, s)

/-- Whether a task waits for a stream. -/
def isAwaited (server : Nat) (c : Channel) : Act Bool :=
  .peek fun s =>
    match s.servers[server]? with
    | some p => (c.get p).waiter.isSome
    | none => false

/-- Says what a task waits for. -/
def setWaiter (server : Nat) (c : Channel) (w : Option (Nat × Demand)) : Act Unit :=
  .update fun s => s.setServer server (c.set fun stream => { stream with waiter := w })

/-- Reads from a stream; what is woken for may have been taken by another task so many times. -/
def readWithin (server : Nat) (c : Channel) (d : Demand) : Nat → Act Taken
  | 0 => fail (.plain .runtime "read called while another coroutine is already waiting")
  | fuel + 1 => do
    match ← takeNow server c d with
    | some taken => pure taken
    | none =>
      if ← isAwaited server c then
        fail (.plain .runtime "read called while another coroutine is already waiting")
      else
        let ticket ← issue
        setWaiter server c (some (ticket, d))
        Program.ensure (do let _ ← Program.await ticket) (setWaiter server c none)
        readWithin server c d fuel

/-- Reads from a stream. One task reads a stream at a time, so whoever is woken finds what it asked
for; the count of tasks is more than enough. -/
def read (server : Nat) (c : Channel) (d : Demand) : Act Taken := do
  let tasks ← .peek fun s => s.loop.tasks.length
  readWithin server c d (tasks + 1)

/-- The process that a transport holds. -/
def server? (id : Nat) : Act (Option Nat) := .peek fun s => s.serverOf? id

/-- The process that a transport holds, where there is no doubt that it holds one. -/
def heldServer (id : Nat) (use : String) : Act Nat := do
  match ← server? id with
  | some server => pure server
  | none => fail (missing use)

/-- The transport with an id. -/
def get (id : Nat) : Act Transport := do
  match ← .peek fun s => s.transports[id]? with
  | some t => pure t
  | none => fail (missing "transport")

/-- The command of a transport, which must be a text. -/
def commandText (t : Transport) : Act String :=
  match t.command with
  | .str command => pure command
  | v =>
    fail (.plain .wrongType
      ("sequence item 0: expected str instance, " ++ v.kind ++ " found"))

/-- Notes an attempt to start a process and gives its number and script. -/
def attemptSpawn (command : List String) (cwd : Datum) : Act (Nat × Script) :=
  .yield fun s =>
    ((s.attempts, World.scriptOf s.scripts s.attempts),
      { s.record (.spawned command cwd) with attempts := s.attempts + 1 })

/-- Creates the process of an attempt; it does at once what it does at its start. -/
def createServer (attempt : Nat) (script : Script) : Act Nat :=
  .yield fun s =>
    let server := s.servers.length
    let s := { s with servers := s.servers ++ [Server.fresh (World.pidOf attempt) script] }
    (server, s.withServer server (Server.perform server Server.noTrigger script.onStart))

/-- Starts a process. -/
def spawn (t : Transport) (command : String) : Act Nat := do
  let (attempt, script) ← attemptSpawn (command :: t.args) t.cwd
  sleep script.spawnDelay
  match script.spawn with
  | .started => createServer attempt script
  | .notFound => fail (.transport (.spawn (.notFound command)))
  | .notPermitted => fail (.transport (.spawn (.notPermitted command)))
  | .refused => fail (.transport (.spawn (.refused "[Errno 8] Exec format error")))

/-- Starts the process of a transport that holds none, and the task that empties its error output. -/
def connect (id : Nat) : Act Unit := do
  let t ← get id
  if t.server.isSome then fail (.transport .alreadyUsed)
  else
    let command ← commandText t
    let server ← spawn t command
    .update fun s => s.setTransport id fun t => { t with server := some server }
    let drain ← start (.drain server)
    .update fun s => s.setTransport id fun t => { t with drain := some drain }

/-- Writes a message to a process; one that does not listen any more loses it. -/
def write (server : Nat) (m : Members) : Act Unit :=
  .update fun s =>
    match s.servers[server]? with
    | some p =>
      if p.isListening then
        (s.record (.sent p.pid (m.filter fun e => e.1 ≠ "jsonrpc"))).withServer server
          (Server.receive server m)
      else s.recordRefusal server
    | none => s

/-- The lock under which messages are written. -/
def writePlace (id : Nat) : LockPlace where
  get s := ((s.transports[id]?).map Transport.writing).getD .free
  set l s := s.setTransport id fun t => { t with writing := l }

/-- Writes a message and lets the others go first; then the process may turn out not to listen. -/
def deliver (id : Nat) (m : Members) : Act Unit := do
  let server ← heldServer id "stdin"
  write server m
  Program.rest
  match ← .peek fun s => (s.servers[server]?).bind Server.inputBroken with
  | some reason =>
    .update (World.recordRefusal server)
    fail (.closed (.writeFailed reason))
  | none => pure ()

/-- Sends a message, given by its members. -/
def send (id : Nat) (m : Members) : Act Unit := do
  if ← .peek fun s => s.isConnected id then locked (writePlace id) (deliver id m)
  else
    .update fun s =>
      match s.serverOf? id with
      | some server => s.recordRefusal server
      | none => s
    fail (.closed .notConnected)

/-- Reads a piece of a frame. -/
def readStage (server : Nat) (stage : Stage) : Act Progress := do
  pure (stage.next (← read server .output stage.demand))

/-- Receives a message of a process. -/
def receiveFrom (server : Nat) : Act Message := do
  match ← readStage server .header with
  | .received m => pure m
  | .failed f => fail f
  | .onward stage =>
    match ← readStage server stage with
    | .received m => pure m
    | .failed f => fail f
    | .onward _ => fail (.closed .endOfOutput)

/-- Receives the next message. -/
def receive (id : Nat) : Act Message := do
  match ← server? id with
  | none => fail (.closed .notConnected)
  | some server => receiveFrom server

/-- Closes the input of the process, if there is one. -/
def closeInput (id : Nat) : Act Unit := do
  match ← server? id with
  | none => pure ()
  | some server => .update fun s => s.withServer server (Server.closeInput server)

/-- Waits for the process to exit, at most for some time, and tells whether it did. -/
def wait (id : Nat) (time : Seconds) : Act Bool := do
  match ← server? id with
  | none => pure true
  | some server =>
    match ← Program.attempt (waitFor (start (.exitWatch server)) time) with
    | .ok _ => pure true
    | .error .timeout => pure false
    | .error f => fail f

/-- Signals the process and tells whether it was there. -/
def signal (id : Nat) (sig : Signal) : Act Bool := do
  let server ← heldServer id sig.name
  .yield fun s =>
    match s.servers[server]? with
    | some p =>
      let (found, loop, p) := Server.signal sig (s.loop, p)
      (found,
        { s.record (.signalled p.pid sig) with loop := loop, servers := s.servers.set server p })
    | none => (false, s)

/-- How long a process may take to obey a signal. -/
def signalGrace : Seconds := .real (.ofInt 1)

/-- How long a process may take to exit by itself when nothing else is said. -/
def standardGrace : Seconds := .real (.ofInt 2)

/-- Makes the process exit: by closing its input, then by the two signals. Tells whether it exited
by itself. -/
def dismiss (id : Nat) (time : Seconds) (exited : Bool) : Act Bool := do
  closeInput id
  if exited then pure true
  else if ← wait id time then pure true
  else
    let _ ← heldServer id "pid"
    if ← signal id .terminate then
      if !(← wait id signalGrace) then
        if ← signal id .kill then
          let _ ← wait id signalGrace
    pure false

/-- Lets go of the process and of the task that empties its error output. -/
def abandon (id : Nat) : Act Unit := do
  let t ← get id
  match t.drain with
  | some drain => stopTask drain
  | none => pure ()
  .update fun s => s.setTransport id fun t => { t with drain := none }
  let _ ← heldServer id "returncode"
  .update fun s => s.setTransport id fun t => { t with server := none }

/-- Releases the process. Tells whether it exited by itself. -/
def disconnect (id : Nat) (time : Seconds) : Act Bool := do
  match ← server? id with
  | none => pure true
  | some server =>
    let exited ← .peek fun s => !s.isAlive server
    Program.ensure (dismiss id time exited) (abandon id)

/-- Kills the process and releases it. -/
def kill (id : Nat) : Act Unit := do
  match ← server? id with
  | none => pure ()
  | some server =>
    if ← .peek fun s => s.isAlive server then
      let _ ← signal id .kill
    let _ ← disconnect id signalGrace

/-- Carries out a call. -/
def run (id : Nat) : TransportCall → Act Reply
  | .connect => do
    connect id
    pure .nothing
  | .send m => do
    send id m
    pure .nothing
  | .receive => do pure (.message (← receive id))
  | .closeInput => do
    closeInput id
    pure .nothing
  | .wait time => do pure (.truth (← wait id time))
  | .disconnect time => do pure (.truth (← disconnect id (time.getD standardGrace)))
  | .kill => do
    kill id
    pure .nothing

/-- One turn of the task that empties the error output of a process: it reads a line. -/
def drainTurn (server : Nat) : Act Turn := do
  match ← read server .errors (.until [10]) with
  | .piece _ => pure (.onward (.drain server))
  | .ended rest => pure (if rest.isEmpty then .finished .nothing else .onward (.drain server))
  | .tooLong separatorFound _ => fail (.plain .badValue (overlongText separatorFound))

/-- The turn of a task that waits for a process to exit. -/
def exitWatchTurn (server : Nat) : Act Turn := do
  if ← .peek fun s => s.isAlive server then
    let ticket ← issue
    .update fun s => s.setServer server fun p =>
      { p with exitWaiters := p.exitWaiters ++ [ticket] }
    let _ ← Program.await ticket
    pure (.finished .nothing)
  else pure (.finished .nothing)

end Transport

end LspHost
