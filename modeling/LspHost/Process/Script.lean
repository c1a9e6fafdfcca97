import LspHost.Json.Basic

/-!
Scripts of server processes: what a process does when it starts, when a message arrives, when its
input closes and when it is signalled. Any reaction of a server to what it has seen can be written
as a script, down to silence, rubbish and sudden death.
-/

namespace LspHost

/-- How an attempt to start a process ends. -/
inductive SpawnOutcome where
  | started
  | notFound
  | notPermitted
  | refused
  deriving DecidableEq, Repr

/-- One thing that a server does. -/
inductive Action where
  /-- Answers the message that is being handled, with these members beside its id. -/
  | respond (m : Members)
  /-- Answers it with its own parameters. -/
  | echo
  /-- Sends a value in a frame. -/
  | send (v : Json)
  /-- Sends octets in a frame. -/
  | body (bytes : List UInt8)
  /-- Sends octets without a frame. -/
  | raw (bytes : List UInt8)
  /-- Writes to the error output. -/
  | complain (bytes : List UInt8)
  /-- Does the rest so many nanoseconds later; never, if there is no number. -/
  | delay (nanos : Option Nat)
  | exit (code : Int)
  /-- Closes its output and lives on. -/
  | closeOutput
  /-- Breaks its input: messages are lost from now on, and writing them fails with these words. -/
  | breakInput (reason : String)
  deriving DecidableEq

/-- What a signal does to a process. -/
inductive SignalReaction where
  | obeys
  | ignores
  /-- The process cannot be found. -/
  | gone
  deriving DecidableEq, Repr

/-- A server's script. `on` gives the actions for messages by method, or by method and occurrence. -/
structure Script where
  spawn : SpawnOutcome
  spawnDelay : Option Nat
  onStart : List Action
  on : List (String × List Action)
  onInputClosed : List Action
  onTerminate : SignalReaction
  onKill : SignalReaction

namespace Script

/-- A server that starts at once and does what the protocol asks for and nothing more. -/
def obedient : Script where
  spawn := .started
  spawnDelay := some 0
  onStart := []
  on := [("initialize", [.respond [("result", .obj [("capabilities", .obj [])])]]),
    ("shutdown", [.respond [("result", .null)]]), ("exit", [.exit 0])]
  onInputClosed := [.exit 0]
  onTerminate := .obeys
  onKill := .obeys

/-- The key that stands for requests which have no key of their own. -/
def anyRequest : String := "*"

/-- The key of a method's n-th message. -/
def occurrenceKey (method : String) (n : Nat) : String := method ++ "#" ++ toString n

/-- The actions for the n-th message of a method. -/
def reaction (s : Script) (method : String) (n : Nat) (isRequest : Bool) : List Action :=
  match s.on.lookup (occurrenceKey method n) with
  | some actions => actions
  | none =>
    match s.on.lookup method with
    | some actions => actions
    | none => if isRequest then (s.on.lookup anyRequest).getD [] else []

end Script

end LspHost
