import LspHost.Session.Calls

/-!
Documents and queries: what the host reports of its documents is kept and passed on to the session,
and queries go to the session that knows the document.

The documents are changed before the session is told, so no fault of a server loses one.
-/

namespace LspHost.Supervisor

open Act

def documentPlace : LockPlace where
  get s := s.supervisor.documentLock
  set l s := s.setSupervisor fun v => { v with documentLock := l }

/-- The supervisor as it is now. -/
def now : Act Supervisor := .peek World.supervisor

def modify (f : Supervisor → Supervisor) : Act Unit := .update fun s => s.setSupervisor f

/-- Faults of a session or its connection. -/
def isServerFault (f : Fault) : Bool := f.isSession || f.isTransport

/-- Tells the session something, if there is one; a fault of the server does not matter. -/
def forward (tell : Nat → Act Unit) : Act Unit := do
  match (← now).session with
  | none => pure ()
  | some session =>
    match ← Program.attempt (tell session) with
    | .ok () => pure ()
    | .error f => if isServerFault f then pure () else fail f

/-- Whether a document belongs to the scope. -/
def belongs (uri languageId : String) : Act Bool := do
  .ofExcept ((← now).handles uri languageId)

/-- Tells a session that a document is open. -/
def tellOpen (session : Nat) (d : TrackedDocument) : Act Unit :=
  Session.didOpen session (.str d.uri) (.str d.languageId) (.int d.version) d.text

/-- The host opens a document; tells whether it is served. -/
def openDocument (uri languageId : String) (text : Json) : Act Bool := do
  if ← belongs uri languageId then
    locked documentPlace do
      if ((← now).document? uri).isSome then pure true
      else
        let d : TrackedDocument := ⟨uri, languageId, 1, text⟩
        modify fun v => { v with documents := v.documents ++ [d] }
        forward fun session => tellOpen session d
        pure true
  else pure false

/-- A document with its next version. -/
def TrackedDocument.edit (d : TrackedDocument) (text : Json) : TrackedDocument :=
  { d with version := d.version + 1, text := text }

/-- Puts a document in the place of the one with its uri. -/
def replace (d : TrackedDocument) (ds : List TrackedDocument) : List TrackedDocument :=
  ds.map fun e => if e.uri = d.uri then d else e

/-- The host changes a document; tells whether it is open. -/
def changeDocument (uri : String) (text : Json) : Act Bool :=
  locked documentPlace do
    match (← now).document? uri with
    | none => pure false
    | some d =>
      let d := TrackedDocument.edit d text
      modify fun v => { v with documents := replace d v.documents }
      forward fun session => Session.didChange session (.str uri) (.int d.version) text
      pure true

/-- The host closes a document; tells whether it was open. -/
def closeDocument (uri : String) : Act Bool :=
  locked documentPlace do
    match (← now).document? uri with
    | none => pure false
    | some _ =>
      modify fun v => { v with documents := v.documents.filter fun d => d.uri ≠ uri }
      forward fun session => Session.didClose session (.str uri)
      pure true

/-- The diagnostics that the present session has for all documents or for one. -/
def diagnosticsOf (s : World) (uri : Option String) : List (String × List Diagnostic) :=
  match s.supervisor.session.bind fun id => s.sessions[id]? with
  | none => []
  | some x =>
    match uri with
    | none => x.diagnostics
    | some u => x.diagnostics.filter fun d => d.1 = u

/-- The session that can be asked about a document: the present one, if the document is open and
belongs to the scope and the process is alive. -/
def routable (uri : String) : Act (Option Nat) := do
  let v ← now
  match v.document? uri with
  | none => pure none
  | some d =>
    if ← belongs uri d.languageId then
      match v.session with
      | none => pure none
      | some session =>
        if ← .peek fun s => s.isSessionAlive session then pure (some session) else pure none
    else pure none

/-- Asks a session; a timeout or a fault of the server is no answer. -/
def query {α : Type} (ask : Act (Option α)) : Act (Option α) := do
  match ← Program.attempt ask with
  | .ok a => pure a
  | .error .timeout => pure none
  | .error f => if isServerFault f then pure none else fail f

/-- What the server has to say about a place in a document. -/
def hover (uri : String) (line character : Json) : Act (Option Hover) := do
  match ← routable uri with
  | none => pure none
  | some session => query (Session.hover session (.str uri) line character)

/-- The tokens of a document, or of a range of it. -/
def semanticTokens (uri : String) (range : Option Range) : Act (Option SemanticTokens) := do
  match ← routable uri with
  | none => pure none
  | some session => query (Session.semanticTokens session (.str uri) range)

/-- Tells a session of documents in turn, up to the first that the server fails at. -/
def replay (session : Nat) : List TrackedDocument → Act Unit
  | [] => pure ()
  | d :: rest => do
    match ← Program.attempt (tellOpen session d) with
    | .ok () => replay session rest
    | .error f => if isServerFault f then pure () else fail f

/-- Takes up a session and tells it of all open documents. -/
def takeUp (session : Nat) : Act Unit :=
  locked documentPlace do
    modify fun v => { v with session := some session }
    replay session (← now).documents

end LspHost.Supervisor
