import LspHost.World

/-!
What is told of a run, as JSON: events, notices, the journal's records and the state of sessions.
-/

namespace LspHost

/-- A value, or null for none. -/
def Json.orNull {α : Type} (f : α → Json) : Option α → Json
  | some a => f a
  | none => .null

def Json.texts (xs : List String) : Json := .arr (xs.map .str)

namespace Report

/-- An event without its time. -/
def event (e : Event) : Json :=
  let base : Members := [("type", .str e.type.name), ("session_id", Json.orNull .str e.sessionId)]
  .obj (base ++ match e.detail with
    | .plain => []
    | .lifecycle pid message => [("pid", Json.orNull .int pid), ("message", .str message)]
    | .diagnostics uri count => [("uri", .str uri), ("count", .int count)]
    | .serverLog level message => [("level", .int level), ("message", .str message)])

/-- Diagnostics by document. -/
def diagnostics (ds : List (String × List Diagnostic)) : Json :=
  .obj (ds.map fun p => (p.1, .arr (p.2.map fun d => d.toJson .shown)))

def severityName : Display.Severity → String
  | .info => "info"
  | .warning => "warning"
  | .error => "error"

/-- A notice with its kind; markup that is shown as it is counts as none. -/
def notice : Display.Notice → Option Json
  | .message severity text => some (.arr [.str (severityName severity), .str text])
  | .event e => some (.arr [.str "event", event e])
  | .diagnostics ds => some (.arr [.str "diagnostics", diagnostics ds])
  | .tokens ts => some (.arr [.str "semantic_tokens", .arr (ts.map SemanticToken.toJson)])
  | .plain _ => none

/-- Parts of the journal. -/
inductive Column where
  | sent
  | spawned
  | signals
  | calls
  | listener
  | notes
  deriving DecidableEq, Repr

/-- A record, if it belongs to a part of the journal. -/
def record? (cwd : Datum → Json) : Column → Record → Option Json
  | .sent, .sent pid m => some (.obj (("pid", .int pid) :: m))
  | .spawned, .spawned command dir => some (.obj [("cmd", Json.texts command), ("cwd", cwd dir)])
  | .signals, .signalled pid s => some (.arr [.str s.name, .int pid])
  | .calls, .diagnosed id uri n =>
    some (.arr [.str "diagnostics", .str (Session.nameOf id), .str uri, .int n])
  | .calls, .logged id level text =>
    some (.arr [.str "log", .str (Session.nameOf id), .int level, .str text])
  | .listener, .listened uri n => some (.arr [.str uri, .int n])
  | .notes, .noted n => notice n
  | _, _ => none

/-- What was printed. -/
def printed (records : List Record) : String :=
  String.ofList (records.flatMap fun r =>
    match r with
    | .printed text => text
    | _ => [])

/-- The exit codes of all processes, null for those that are alive. -/
def exits (s : World) : Json := .arr (s.servers.map fun p => Json.orNull .int p.exitCode)

/-- The number of a process, or null. -/
def pid (n : Option Nat) : Json := Json.orNull (fun n => .int n) n

/-- A session in one line. -/
def sessionLine (s : World) (id : Nat) (x : Session) : String :=
  let pid := match s.sessionPid? id with
    | some n => toString n
    | none => "None"
  "<Session " ++ Session.nameOf id ++ " pid=" ++ pid ++ " state=" ++ x.state.name ++ ">"

/-- A session, but for its name and legend. -/
def session (s : World) (id : Nat) (x : Session) : Members :=
  [("id", .str (Session.nameOf id)), ("alive", .bool (s.isSessionAlive id)),
    ("pid", pid (s.sessionPid? id)), ("state", .str x.state.name),
    ("diagnostics", .obj (x.diagnostics.map fun p => (p.1, Json.texts (p.2.map Diagnostic.format)))),
    ("pending", .int x.pending.length), ("repr", .str (sessionLine s id x))]

/-- The documents that a host has open. -/
def documents (ds : List TrackedDocument) : Json :=
  .arr (ds.map fun d => .arr [.str d.uri, .str d.languageId, .int d.version, d.text])

end Report

end LspHost
