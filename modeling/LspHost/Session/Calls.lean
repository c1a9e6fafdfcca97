import LspHost.Path
import LspHost.Transport.Calls

/-!
What a session does: the handshake that opens it, requests and notifications, and the shutdown that
closes it. Whatever happens, a request leaves no entry behind in the table of pending requests, and a
session that was closed has released its process.
-/

namespace LspHost.Session

open Act

/-- The session with an id. -/
def get (id : Nat) : Act Session := do
  match ← .peek fun s => s.sessions[id]? with
  | some x => pure x
  | none => fail (Transport.missing "session")

def modify (id : Nat) (f : Session → Session) : Act Unit := .update fun s => s.setSession id f

def setState (id : Nat) (state : SessionState) : Act Unit :=
  modify id fun x => { x with state := state }

/-- The next number of a request. -/
def nextRequest (id : Nat) : Act Nat :=
  .yield fun s =>
    match s.sessions[id]? with
    | some x =>
      (x.lastRequest + 1, s.setSession id fun x => { x with lastRequest := x.lastRequest + 1 })
    | none => (0, s)

/-- Notes a request that waits for its response. -/
def addPending (id number ticket : Nat) : Act Unit :=
  modify id fun x => { x with pending := x.pending ++ [(number, ticket)] }

def dropPending (id number : Nat) : Act Unit :=
  modify id fun x => { x with pending := x.pending.filter fun p => p.1 ≠ number }

/-- Ends all pending requests with a fault. -/
def failPending (id : Nat) (f : Fault) : Act Unit := do
  let x ← get id
  tell fun l => x.pending.foldl (fun l p => l.settle p.2 (.error f)) l
  modify id fun x => { x with pending := [] }

/-- Sends a request. -/
def sendRequest (id number : Nat) (method params : Json) : Act Unit := do
  let x ← get id
  match Request.ofMembers [("id", .int number), ("method", method), ("params", params)] with
  | .ok r => Transport.send x.transport (Message.request r).wireMembers
  | .error m => fail (.misfit m)

/-- Sends a request and waits for its response, at most for some time. -/
def ask (id : Nat) (method params : Json) (time : Seconds) : Act Json := do
  let number ← nextRequest id
  let ticket ← issue
  addPending id number ticket
  Program.ensure
    (do
      sendRequest id number method params
      waitFor (pure ticket) time)
    (dropPending id number)

/-- Sends a notification. -/
def notify (id : Nat) (method : String) (params : Json) : Act Unit := do
  let x ← get id
  match Notification.ofMembers [("method", .str method), ("params", params)] with
  | .ok n => Transport.send x.transport (Message.notification n).wireMembers
  | .error m => fail (.misfit m)

/-- The client's name in handshakes. -/
def clientName : String := "deval-client"

/-- The name of a value's kind without its family. -/
def shortKind (v : Datum) : String :=
  match v with
  | .date _ _ _ => "date"
  | .moment _ => "datetime"
  | v => v.kind

/-- The uri and the name of a workspace. -/
def workspaceOf (cwd : String) (v : Datum) : Except Fault (Option (String × String)) :=
  if v.isTruthy then
    match v with
    | .str path =>
      match Path.toUri? cwd.toList path.toList with
      | some uri =>
        .ok (some (uri, String.ofList (Path.lastName (Path.resolve cwd.toList path.toList))))
      | none => .error (.plain .badValue "embedded null byte")
    | .octets _ =>
      .error (.plain .wrongType
        "argument should be a str object or an os.PathLike object returning str, not <class \x27bytes\x27>")
    | v =>
      .error (.plain .wrongType
        ("expected str, bytes or os.PathLike object, not " ++ shortKind v))
  else .ok none

/-- What the client says in the handshake. -/
def handshakeParams (cwd : String) (o : SessionOptions) : Except Fault InitializeParams := do
  let workspace ← workspaceOf cwd o.workspaceDir
  .ok
    { processId := some World.clientPid
      clientInfo := some ⟨clientName, o.clientVersion⟩
      rootUri := workspace.map Prod.fst
      capabilities := ClientCapabilities.members
      initializationOptions := some [("documentSelector", DocumentScope.toSelector o.scope)]
      workspaceFolders := workspace.map fun w => [[("uri", w.1), ("name", w.2)]] }

/-- Reads an answer as a model. -/
def readAnswer {α : Type} (model : String) (read : Members → Except Misfit α) :
    Json → Except AnswerFault α
  | .obj m => (read m).mapError .misfit
  | v => .error (.notMapping model v.kind)

/-- Reads the answer to the handshake; one that counts as absent says nothing. -/
def readHandshake (v : Json) : Except AnswerFault InitializeResult :=
  readAnswer "InitializeResult" InitializeResult.ofMembers (if v.isTruthy then v else .obj [])

/-- The handshake. -/
def shakeHands (id : Nat) : Act InitializeResult := do
  let x ← get id
  let cwd ← .peek fun s => s.files.cwd
  let params ← .ofExcept (handshakeParams cwd x.options)
  let answer ← ask id (.str "initialize") (.obj (params.toMembers .omitted))
    x.options.handshakeTimeout
  match readHandshake answer with
  | .error f => fail (.answer f)
  | .ok r =>
    modify id fun x => { x with handshake := some r }
    notify id "initialized" (.obj [])
    pure r

/-- Whether a fault of the handshake ends it in good order. -/
def isHandshakeFault : Fault → Bool
  | .answer _ => true
  | .plain .wrongType _ => true
  | f => f.isSession || f.isTransport

/-- Stops the task that reads messages. -/
def stopReader (id : Nat) : Act Unit := do
  let x ← get id
  match x.reader with
  | some reader =>
    if (← outcome? reader).isNone then stopTask reader
  | none => pure ()
  modify id fun x => { x with reader := none }

/-- Ends a session whose handshake has failed. -/
def abort (id : Nat) : Act Unit := do
  let x ← get id
  Transport.kill x.transport
  stopReader id
  failPending id (.closed (.sessionAborted (nameOf id)))
  setState id .closed

/-- Shakes hands with the server that was started, and gives up on it if that fails. -/
def introduce (id : Nat) : Act InitializeResult := do
  let x ← get id
  match ← Program.attempt (shakeHands id) with
  | .ok r =>
    setState id .running
    pure r
  | .error .timeout =>
    abort id
    fail (.handshakeTimeout x.options.handshakeTimeout.text)
  | .error f =>
    if isHandshakeFault f then
      abort id
      fail (.handshakeFailed f.message)
    else fail f

/-- Opens a session: starts its process and shakes hands. -/
def openSession (id : Nat) : Act InitializeResult := do
  let x ← get id
  if x.state ≠ .notStarted then fail (.reopened (nameOf id))
  else
    setState id .initializing
    match ← Program.attempt (Transport.connect x.transport) with
    | .error f =>
      if f.isTransport then setState id .closed
      fail f
    | .ok () =>
      let reader ← start (.reader id)
      modify id fun x => { x with reader := some reader }
      introduce id

/-- Asks the server to shut down; what goes wrong is a problem to report. -/
def askShutdown (id : Nat) (grace : Seconds) : Act (List String) := do
  match ← Program.attempt (ask id (.str "shutdown") .null grace) with
  | .ok _ => pure []
  | .error .timeout => pure ["shutdown 请求超时 (" ++ grace.text ++ "s)"]
  | .error f =>
    if f.isSession || f.isTransport then pure ["shutdown 失败: " ++ f.message] else fail f

/-- Tells the server to exit, if it can still be told. -/
def sayExit (id : Nat) : Act Unit := do
  match ← Program.attempt (notify id "exit" .null) with
  | .ok () => pure ()
  | .error f => if f.isTransport then pure () else fail f

/-- The problem of a process that had to be forced. -/
def forcedText : String := "进程未在宽限期内退出，已强制终止"

/-- Closes a session: a shutdown handshake, then the release of the process, whatever comes of it. -/
def closeSession (id : Nat) (grace : Seconds) : Act Unit := do
  let x ← get id
  if x.state = .closed ∨ x.state = .notStarted then setState id .closed
  else
    setState id .shuttingDown
    let problems ← askShutdown id grace
    sayExit id
    let exited ← Transport.disconnect x.transport grace
    let problems := if exited then problems else problems ++ [forcedText]
    stopReader id
    failPending id (.closed (.sessionClosed (nameOf id)))
    setState id .closed
    if problems.isEmpty then pure () else fail (.shutdownFailed problems)

/-- Asks the server for anything, while the session is running. -/
def request (id : Nat) (method params : Json) : Act Json := do
  let x ← get id
  if x.state = .running then ask id method params x.options.requestTimeout
  else fail (.notRunning (nameOf id) x.state.name)

/-- The reference to a document in parameters. -/
def documentRef (uri : Json) : Json := .obj [("uri", uri)]

/-- An answer that counts as absent, or an object of a model. -/
def optionalAnswer {α : Type} (what model : String) (read : Members → Except Misfit α) (v : Json) :
    Except Fault (Option α) :=
  if v.isTruthy then
    match readAnswer model read v with
    | .ok a => .ok (some a)
    | .error f => .error (.badAnswer what f.message)
  else .ok none

/-- What the server has to say about a place. -/
def hover (id : Nat) (uri line character : Json) : Act (Option Hover) := do
  let answer ← request id (.str "textDocument/hover")
    (.obj [("textDocument", documentRef uri),
      ("position", .obj [("line", line), ("character", character)])])
  .ofExcept (optionalAnswer " hover " "Hover" Hover.ofMembers answer)

/-- The tokens of a document, or of a range of it. -/
def semanticTokens (id : Nat) (uri : Json) (range : Option Range) : Act (Option SemanticTokens) := do
  let document := ("textDocument", documentRef uri)
  let answer ← match range with
    | none => request id (.str "textDocument/semanticTokens/full") (.obj [document])
    | some r =>
      request id (.str "textDocument/semanticTokens/range") (.obj [document, ("range", r.toJson)])
  .ofExcept (optionalAnswer "语义 token " "SemanticTokens" SemanticTokens.ofMembers answer)

/-- Tells the server that a document is open. -/
def didOpen (id : Nat) (uri languageId version text : Json) : Act Unit := do
  match TextDocumentItem.ofMembers
    [("uri", uri), ("languageId", languageId), ("version", version), ("text", text)] with
  | .ok item => notify id "textDocument/didOpen" (.obj [("textDocument", .obj item.toMembers)])
  | .error m => fail (.misfit m)

/-- Tells the server the new text of a document. -/
def didChange (id : Nat) (uri version text : Json) : Act Unit :=
  notify id "textDocument/didChange"
    (.obj [("textDocument", .obj [("uri", uri), ("version", version)]),
      ("contentChanges", .arr [.obj [("text", text)]])])

/-- Forgets the diagnostics of a document and tells the server that it is closed. -/
def didClose (id : Nat) (uri : Json) : Act Unit := do
  if (Datum.ofJson uri).isKey then
    modify id fun x =>
      { x with diagnostics := x.diagnostics.filter fun d => Json.str d.1 ≠ uri }
    notify id "textDocument/didClose" (.obj [("textDocument", documentRef uri)])
  else fail (.plain .wrongType ("unhashable type: \x27" ++ uri.kind ++ "\x27"))

/-- Carries out a call. -/
def run (id : Nat) : SessionCall → Act Reply
  | .open => do pure (.handshake (← openSession id))
  | .close grace => do
    closeSession id grace
    pure .nothing
  | .request method params => do pure (.value (← request id method params))
  | .hover uri line character => do pure (.hover (← hover id uri line character))
  | .tokens uri range => do pure (.tokens (← semanticTokens id uri range))
  | .didOpen uri languageId version text => do
    didOpen id uri languageId version text
    pure .nothing
  | .didChange uri version text => do
    didChange id uri version text
    pure .nothing
  | .didClose uri => do
    didClose id uri
    pure .nothing

end LspHost.Session
