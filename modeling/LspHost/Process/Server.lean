import LspHost.Process.Stream
import LspHost.Task.Loop

/-!
Processes of servers that follow a script: what they do when they start, when a message arrives, when
their input closes and when they are signalled.

Everything here happens at once, between two turns of the client's tasks; what a script puts off
becomes a timer of the event loop. A process that has exited does nothing more.
-/

namespace LspHost

/-- The process of a server: how often each method has come, the exit code once it has exited, its
input and its two outputs, and the tickets of those who wait for its exit. -/
structure Server where
  pid : Nat
  script : Script
  seen : List (String × Nat)
  exitCode : Option Int
  inputClosed : Bool
  inputBroken : Option String
  output : Stream
  errors : Stream
  exitWaiters : List Nat

/-- The process and the event loop that it lives in. -/
abbrev Living := Loop × Server

/-- The signals that a client sends. -/
inductive Signal where
  | terminate
  | kill
  deriving DecidableEq, Repr

namespace Signal

def name : Signal → String
  | .terminate => "terminate"
  | .kill => "kill"

/-- The exit code of a process that obeys. -/
def exitCode : Signal → Int
  | .terminate => -15
  | .kill => -9

end Signal

namespace Server

/-- A process as it starts. -/
def fresh (pid : Nat) (script : Script) : Server :=
  ⟨pid, script, [], none, false, none, .empty, .empty, []⟩

def isAlive (p : Server) : Bool := p.exitCode.isNone

/-- Wakes the reader of a stream, if its demand can be decided now. -/
def rouse (l : Loop) (s : Stream) : Loop × Stream :=
  match s.waiter with
  | some (ticket, demand) =>
    if s.meets demand then (l.settle ticket (.ok .null), { s with waiter := none }) else (l, s)
  | none => (l, s)

/-- Writes octets to the output. -/
def emit (bytes : List UInt8) : Living → Living
  | (l, p) =>
    let (l, output) := rouse l (p.output.feed bytes)
    (l, { p with output := output })

/-- Writes octets to the error output. -/
def complain (bytes : List UInt8) : Living → Living
  | (l, p) =>
    let (l, errors) := rouse l (p.errors.feed bytes)
    (l, { p with errors := errors })

/-- Closes the output. -/
def closeOutput : Living → Living
  | (l, p) =>
    let (l, output) := rouse l p.output.close
    (l, { p with output := output })

/-- Closes the error output. -/
def closeErrors : Living → Living
  | (l, p) =>
    let (l, errors) := rouse l p.errors.close
    (l, { p with errors := errors })

/-- Wakes those who wait for the exit. -/
def announceExit : Living → Living
  | (l, p) =>
    (p.exitWaiters.foldl (fun l t => l.settle t (.ok .null)) l, { p with exitWaiters := [] })

/-- Exits: both outputs end. -/
def exit (code : Int) : Living → Living
  | (l, p) => announceExit (closeErrors (closeOutput (l, { p with exitCode := some code })))

/-- A response to a message, with these members beside its id. -/
def responseTo (trigger : Trigger) (m : Members) : List UInt8 :=
  Framing.frame (Framing.bodyOf ([("jsonrpc", .str "2.0"), ("id", trigger.id)] ++ m))

/-- Does one thing; putting off is done by `perform`. -/
def act (trigger : Trigger) (a : Action) : Living → Living
  | (l, p) =>
    match a with
    | .respond m => emit (responseTo trigger m) (l, p)
    | .echo => emit (responseTo trigger [("result", trigger.params)]) (l, p)
    | .send v => emit (Framing.frame (Framing.octets v.print)) (l, p)
    | .body bytes => emit (Framing.frame bytes) (l, p)
    | .raw bytes => emit bytes (l, p)
    | .complain bytes => complain bytes (l, p)
    | .delay _ => (l, p)
    | .exit code => exit code (l, p)
    | .closeOutput => closeOutput (l, p)
    | .breakInput reason => (l, { p with inputBroken := some reason })

/-- Does things in turn, up to one that is put off or to the exit. -/
def perform (id : Nat) (trigger : Trigger) : List Action → Living → Living
  | [], s => s
  | .delay time :: rest, (l, p) =>
    match p.isAlive, time with
    | true, some nanos => ((l.later nanos (.perform id trigger rest)).2, p)
    | _, _ => (l, p)
  | a :: rest, (l, p) =>
    if p.isAlive then perform id trigger rest (act trigger a (l, p)) else (l, p)

/-- The trigger of actions that answer no message. -/
def noTrigger : Trigger := ⟨.null, .null⟩

/-- The method of a message; what has none is a response. -/
def methodOf (m : Members) : String :=
  match m.get? "method" with
  | some (.str s) => s
  | _ => "response"

/-- Whether a message asks for a response. -/
def isRequest (m : Members) : Bool := (m.get? "method").isSome && (m.get? "id").isSome

/-- One more message of a method. -/
def countMethod (method : String) : List (String × Nat) → List (String × Nat)
  | [] => [(method, 1)]
  | (k, n) :: rest => if k = method then (k, n + 1) :: rest else (k, n) :: countMethod method rest

/-- Whether messages arrive. -/
def isListening (p : Server) : Bool := p.isAlive && !p.inputClosed && p.inputBroken.isNone

/-- A message arrives, and the process reacts to it. -/
def receive (id : Nat) (m : Members) : Living → Living
  | (l, p) =>
    let method := methodOf m
    let seen := countMethod method p.seen
    let actions := p.script.reaction method ((seen.lookup method).getD 1) (isRequest m)
    let trigger : Trigger := ⟨(m.get? "id").getD .null, (m.get? "params").getD .null⟩
    perform id trigger actions (l, { p with seen := seen })

/-- The client closes the input. -/
def closeInput (id : Nat) : Living → Living
  | (l, p) =>
    if p.inputClosed then (l, p)
    else perform id noTrigger p.script.onInputClosed (l, { p with inputClosed := true })

/-- What the process does with a signal. -/
def reactionTo (p : Server) : Signal → SignalReaction
  | .terminate => p.script.onTerminate
  | .kill => p.script.onKill

/-- A signal comes; the process may not be there any more. -/
def signal (s : Signal) : Living → Bool × Living
  | (l, p) =>
    match p.isAlive, p.reactionTo s with
    | true, .obeys => (true, exit s.exitCode (l, p))
    | true, .ignores => (true, (l, p))
    | _, _ => (false, (l, p))

end Server

end LspHost
