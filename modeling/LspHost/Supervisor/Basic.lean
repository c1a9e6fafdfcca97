import LspHost.Config
import LspHost.Task.Lock

/-!
The supervisor: it holds at most one session and the documents that the host has opened.
-/

namespace LspHost

/-- A document that the host has open. -/
structure TrackedDocument where
  uri : String
  languageId : String
  version : Nat
  text : Json
  deriving DecidableEq

/-- A supervisor: its configuration, the session that it holds, the documents in the order in which
they were opened, and its locks for lifecycle operations and for documents. `reused` is a session
that starts are to use in place of new ones. -/
structure Supervisor where
  config : Config
  scope : DocumentScope
  clientVersion : Option String
  hasListener : Bool
  session : Option Nat
  documents : List TrackedDocument
  lifecycleLock : Lock
  documentLock : Lock
  reused : Option Nat

namespace Supervisor

/-- A supervisor that has done nothing yet. -/
def fresh (config : Config) (scope : DocumentScope) (clientVersion : Option String)
    (hasListener : Bool) : Supervisor :=
  ⟨config, scope, clientVersion, hasListener, none, [], .free, .free, none⟩

/-- Whether a lifecycle operation is in progress. -/
def isBusy (s : Supervisor) : Bool := s.lifecycleLock.held

/-- The document with a uri. -/
def document? (s : Supervisor) (uri : String) : Option TrackedDocument :=
  s.documents.find? fun d => d.uri = uri

/-- Whether a document belongs to the supervisor's scope. -/
def handles (s : Supervisor) (uri languageId : String) : Except Fault Bool :=
  DocumentScope.contains s.scope uri languageId

end Supervisor

end LspHost
