import LspHost.Fault
import LspHost.Lifecycle
import LspHost.Seconds
import LspHost.Process.Script
import LspHost.Protocol.Handshake
import LspHost.Protocol.Hover

/-!
What can be asked of a transport, a session, a supervisor and a host, as data, with the replies; and
the kinds of tasks that carry it out.
-/

namespace LspHost

/-- What can be asked of a transport. -/
inductive TransportCall where
  | connect
  | send (message : Members)
  | receive
  | closeInput
  | wait (timeout : Seconds)
  | disconnect (timeout : Option Seconds)
  | kill
  deriving DecidableEq

/-- What can be asked of a session. -/
inductive SessionCall where
  | open
  | close (grace : Seconds)
  | request (method params : Json)
  | hover (uri line character : Json)
  | tokens (uri : Json) (range : Option Range)
  | didOpen (uri languageId version text : Json)
  | didChange (uri version text : Json)
  | didClose (uri : Json)
  deriving DecidableEq

/-- What can be asked of a supervisor. -/
inductive SupervisorCall where
  | operate (o : Operation)
  | openDocument (uri languageId : String) (text : Json)
  | changeDocument (uri : String) (text : Json)
  | closeDocument (uri : String)
  | hover (uri : String) (line character : Json)
  | tokens (uri : String) (range : Option Range)
  | request (method params : Json)
  deriving DecidableEq

/-- What can be asked of a host. -/
inductive HostCall where
  | activate
  | deactivate
  | execute (command : String)
  | line (text : String)
  deriving DecidableEq

/-- Something asked for. -/
inductive Call where
  | transport (id : Nat) (c : TransportCall)
  | session (id : Nat) (c : SessionCall)
  | supervisor (c : SupervisorCall)
  | host (c : HostCall)
  | sleep (time : Seconds)
  /-- A server acts. -/
  | act (server : Nat) (actions : List Action)
  deriving DecidableEq

/-- What comes of it. -/
inductive Reply where
  | nothing
  | truth (b : Bool)
  | value (v : Json)
  | message (m : Message)
  | handshake (r : InitializeResult)
  | hover (h : Option Hover)
  | tokens (t : Option SemanticTokens)
  | lifecycle (r : LifecycleResult)
  | exitCode (n : Nat)

/-- A task, by what it does. -/
inductive TaskKind where
  /-- Reads and handles the messages of a session's server. -/
  | reader (session : Nat)
  /-- Empties the error output of a server. -/
  | drain (server : Nat)
  /-- Waits for a server to exit. -/
  | exitWatch (server : Nat)
  /-- Subscribes to events and shows them. -/
  | trace
  /-- Shows the events of a queue. -/
  | showEvents (queue : Nat)
  /-- Reads and carries out the lines of a terminal, with or without a trace of events. -/
  | terminal (traced : Bool)
  | call (c : Call)
  deriving DecidableEq

/-- How a turn of a task ends: another turn follows at once, or the task is finished. -/
inductive Turn where
  | onward (k : TaskKind)
  | finished (r : Reply)

/-- The message that a server reacts to. -/
structure Trigger where
  id : Json
  params : Json
  deriving DecidableEq

end LspHost
