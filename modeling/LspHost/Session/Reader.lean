import LspHost.Session.Calls

/-!
Reading the messages of a session's server: responses end the requests that they belong to, requests
of the server are answered, and notifications are passed on.

A body that holds no message is passed over. When the connection ends, so does the reader, and with
it every request that is still pending.
-/

namespace LspHost

namespace Supervisor

/-- The supervisor hears of diagnostics; those of a session that it does not hold do not matter. -/
def hearDiagnostics (session : Nat) (uri : String) (count : Nat) (s : World) : World :=
  if s.supervisor.session = some session then
    let s := s.publish
      ⟨.diagnostics, .midnight, some (Session.nameOf session), .diagnostics uri count⟩
    if s.supervisor.hasListener then s.record (.listened uri count) else s
  else s

/-- The supervisor hears of a log message. -/
def hearLog (session : Nat) (level : Int) (text : String) (s : World) : World :=
  s.publish ⟨.serverLog, .midnight, some (Session.nameOf session), .serverLog level text⟩

end Supervisor

namespace Session

open Act

/-- The request that a response belongs to, by its ticket: one that still waits under its number. -/
def awaited? (x : Session) (l : Loop) (r : Response) : Option Nat :=
  match r.id with
  | some (.number n) =>
    match x.pending.find? fun p => (p.1 : Int) = n with
    | some p => if l.isSettled p.2 then none else some p.2
    | none => none
  | _ => none

/-- What a response says. -/
def outcomeOf (r : Response) : Except Fault Json :=
  match r.error with
  | some e => .error (.refused e.message e.code)
  | none => .ok (r.result.getD .null)

/-- Handles a response. One that nobody waits for changes nothing. -/
def handleResponse (id : Nat) (r : Response) : Act Unit :=
  .update fun s =>
    match s.sessions[id]? with
    | some x =>
      match awaited? x s.loop r with
      | some ticket => { s with loop := s.loop.settle ticket (outcomeOf r) }
      | none => s
    | none => s

/-- The levels of log messages by their type. -/
def logLevels : List (Int × Int) :=
  [(1, LogLevel.error), (2, LogLevel.warning), (3, LogLevel.info), (4, LogLevel.debug)]

/-- The level of a log message; the type must be a plain value. -/
def logLevel (type : Json) : Except Fault Int :=
  let type := Datum.ofJson type
  if type.isKey then
    match logLevels.find? fun p => Datum.agrees (.int p.1) type with
    | some p => .ok p.2
    | none => .ok LogLevel.debug
  else .error (.plain .wrongType ("unhashable type: \x27" ++ type.kind ++ "\x27"))

/-- Who is told of what a session's server says. -/
def audience? (s : World) (id : Nat) : Option Audience :=
  (s.sessions[id]?).map fun x => x.options.audience

/-- Tells the audience of diagnostics. -/
def tellDiagnostics (id : Nat) (p : PublishedDiagnostics) : Act Unit :=
  .update fun s =>
    match audience? s id with
    | some .journal => s.record (.diagnosed id p.uri p.diagnostics.length)
    | some .supervisor => Supervisor.hearDiagnostics id p.uri p.diagnostics.length s
    | none => s

/-- Tells the audience of a log message. -/
def tellLog (id : Nat) (level : Int) (text : String) : Act Unit :=
  .update fun s =>
    match audience? s id with
    | some .journal => s.record (.logged id level text)
    | some .supervisor => Supervisor.hearLog id level text s
    | none => s

/-- The members of parameters; those by position have none. -/
def membersOf : Option Params → Members
  | some (.named m) => m
  | _ => []

/-- Handles diagnostics; those that do not fit are ignored. -/
def handleDiagnostics (id : Nat) (params : Members) : Act Unit := do
  match PublishedDiagnostics.ofMembers params with
  | .error _ => pure ()
  | .ok p =>
    modify id fun x =>
      { x with diagnostics := putDiagnostics p.uri p.diagnostics x.diagnostics }
    tellDiagnostics id p

/-- Handles a log message. -/
def handleLog (id : Nat) (params : Members) : Act Unit := do
  let level ← .ofExcept (logLevel ((params.get? "type").getD (.int 4)))
  tellLog id level (String.ofList ((params.get? "message").getD (.str "")).display)

/-- Handles a notification. -/
def handleNotification (id : Nat) (n : Notification) : Act Unit :=
  match n.method with
  | "textDocument/publishDiagnostics" => handleDiagnostics id (membersOf n.params)
  | "window/logMessage" => handleLog id (membersOf n.params)
  | "window/showMessage" => handleLog id (membersOf n.params)
  | _ => pure ()

/-- How many settings are asked for. -/
def itemCount (params : Members) : Except Fault Nat :=
  match (params.get? "items").getD (.arr []) with
  | .arr items => .ok items.length
  | .obj m => .ok m.length
  | .str s => .ok s.length
  | v => .error (.plain .wrongType ("\x27" ++ v.kind ++ "\x27 object is not iterable"))

/-- The answer to a request of the server. -/
def answerTo (r : Request) : Except Fault Response :=
  match r.method with
  | "workspace/configuration" => do
    let count ← itemCount (membersOf r.params)
    .ok ⟨some r.id, some (.arr (List.replicate count .null)), none⟩
  | "client/registerCapability" => .ok ⟨some r.id, none, none⟩
  | "client/unregisterCapability" => .ok ⟨some r.id, none, none⟩
  | "window/workDoneProgress/create" => .ok ⟨some r.id, none, none⟩
  | method =>
    .ok ⟨some r.id, none,
      some ⟨ResponseError.methodNotFound, "Unhandled method " ++ method, none⟩⟩

/-- Answers a request of the server, if it can still be reached. -/
def handleRequest (id : Nat) (r : Request) : Act Unit := do
  let x ← get id
  let answer ← .ofExcept (answerTo r)
  match ← Program.attempt (Transport.send x.transport (Message.response answer).wireMembers) with
  | .ok () => pure ()
  | .error (.transport (.closed _)) => pure ()
  | .error f => fail f

/-- Handles a message. -/
def handle (id : Nat) : Message → Act Unit
  | .response r => handleResponse id r
  | .request r => handleRequest id r
  | .notification n => handleNotification id n

/-- Receives a message, notes it and handles it. -/
def handleNext (id : Nat) : Act Unit := do
  let x ← get id
  let m ← Transport.receive x.transport
  .update (World.record (.heard id m))
  handle id m

/-- One turn of the task that reads messages. -/
def readerTurn (id : Nat) : Act Turn := do
  match ← Program.attempt (handleNext id) with
  | .ok () => pure (.onward (.reader id))
  | .error f =>
    if f.isPassedOver then pure (.onward (.reader id))
    else
      failPending id (.closed (.sessionLost (nameOf id)))
      if f.isTransport then pure (.finished .nothing) else fail f

end Session

end LspHost
