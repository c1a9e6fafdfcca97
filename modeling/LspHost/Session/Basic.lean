import LspHost.Seconds
import LspHost.Protocol.Scope
import LspHost.Protocol.Diagnostic
import LspHost.Protocol.Handshake

/-!
Sessions: one server process, its handshake and what is known about it. A session is never used
twice.
-/

namespace LspHost

/-- How far a session has come. -/
inductive SessionState where
  | notStarted
  | initializing
  | running
  | shuttingDown
  | closed
  deriving DecidableEq, Repr

namespace SessionState

def name : SessionState → String
  | .notStarted => "not_started"
  | .initializing => "initializing"
  | .running => "running"
  | .shuttingDown => "shutting_down"
  | .closed => "closed"

end SessionState

/-- Who is told of diagnostics and log messages: the journal alone, or the supervisor. -/
inductive Audience where
  | journal
  | supervisor
  deriving DecidableEq, Repr

/-- How a session is made. -/
structure SessionOptions where
  scope : DocumentScope
  handshakeTimeout : Seconds
  requestTimeout : Seconds
  workspaceDir : Datum
  clientVersion : Option String
  audience : Audience

/-- A session: its transport, the requests that wait for a response, each with its ticket, the task
that reads messages, and what the server has told. -/
structure Session where
  options : SessionOptions
  transport : Nat
  state : SessionState
  lastRequest : Nat
  pending : List (Nat × Nat)
  reader : Option Nat
  diagnostics : List (String × List Diagnostic)
  handshake : Option InitializeResult

namespace Session

/-- The name of the n-th session, counted from zero. -/
def nameOf (n : Nat) : String := "s" ++ toString (n + 1)

/-- A session that was not opened yet. -/
def fresh (options : SessionOptions) (transport : Nat) : Session :=
  ⟨options, transport, .notStarted, 0, [], none, [], none⟩

/-- The legend that the server declared in its handshake. -/
def legend (s : Session) : Except Misfit (Option Legend) :=
  match s.handshake with
  | some r => r.legend
  | none => .ok none

/-- Keeps the diagnostics of a document in place of older ones. -/
def putDiagnostics (uri : String) (ds : List Diagnostic) :
    List (String × List Diagnostic) → List (String × List Diagnostic)
  | [] => [(uri, ds)]
  | (u, old) :: rest =>
    if u = uri then (u, ds) :: rest else (u, old) :: putDiagnostics uri ds rest

/-- The seconds that a handshake and a request may take when nothing else is said. -/
def standardHandshakeTimeout : Seconds := .real (.ofInt 10)

def standardRequestTimeout : Seconds := .real (.ofInt 30)

end Session

end LspHost
