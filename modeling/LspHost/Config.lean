import LspHost.Seconds
import LspHost.Environment
import LspHost.Event
import LspHost.Protocol.Scope

/-!
The configuration: how it is read from a mapping, what is left out filled in, and which values are
refused. Where nothing is demanded of a value, it is kept as it is.
-/

namespace LspHost

/-- The entries of a mapping. -/
abbrev Entries := List (Datum × Datum)

/-- How the process of a server is started. -/
structure ServerConfig where
  command : Datum
  args : List String
  env : Environment
  cwd : Datum

namespace ServerConfig

def defaultCommand : String := "deval-cli"

def defaultArgs : List String := ["lsp"]

/-- The variable that names the command, whatever the configuration says. -/
def commandVariable : String := "DEVAL_CLI_PATH"

def standard : ServerConfig := ⟨.str defaultCommand, defaultArgs, [], .null⟩

end ServerConfig

/-- How long things may take. -/
structure Timeouts where
  handshake : Seconds
  request : Seconds
  shutdownGrace : Seconds
  deriving DecidableEq, Repr

/-- What to do with an operation while another one is in progress. -/
inductive BusyPolicy where
  | queue
  | reject
  deriving DecidableEq, Repr

namespace BusyPolicy

def name : BusyPolicy → String
  | .queue => "queue"
  | .reject => "reject"

/-- The policy that a value names. -/
def ofDatum? : Datum → Option BusyPolicy
  | .str "queue" => some .queue
  | .str "reject" => some .reject
  | _ => none

end BusyPolicy

/-- A configuration. -/
structure Config where
  server : ServerConfig
  timeouts : Timeouts
  selector : List Entries
  busyPolicy : BusyPolicy
  workspaceDir : Datum
  language : Datum
  logLevel : String

namespace Config

/-- The fault of a number that is too long to be written. -/
def overlongNumber : Fault :=
  .plain .badValue "Exceeds the limit (4300 digits) for integer string conversion"

/-- A value as shown to people. -/
def shown (v : Datum) : Except Fault String :=
  if v.isWritable then .ok (String.ofList v.display) else .error overlongNumber

/-- A fault that quotes a value. -/
def quoting (v : Datum) (fault : String → ConfigFault) : Fault :=
  if v.isWritable then .config (fault (String.ofList v.literal)) else overlongNumber

/-- A mapping under a key: what counts as absent is an empty one. -/
def mappingAt (entries : Entries) (key : String) (fault : Fault) : Except Fault Entries :=
  match Datum.entry? entries key with
  | none => .ok []
  | some v =>
    if v.isTruthy then
      match v with
      | .map inner => .ok inner
      | _ => .error fault
    else .ok []

/-- The entry under a key, or another value if there is none. -/
def entryOr (entries : Entries) (key : String) (other : Datum) : Datum :=
  (Datum.entry? entries key).getD other

/-- The arguments of the command. -/
def argsOf : Datum → Except Fault (List Datum)
  | .seq items => .ok items
  | _ => .error (.config .argsNotList)

/-- The variables of a server; of equal names the last one counts. -/
def envOf (entries : Entries) : Except Fault Environment :=
  entries.foldlM (fun e p => do .ok (e.set (← shown p.1) (← shown p.2))) []

/-- How the process is started: an environment variable may name the command. -/
def serverOf (env : Environment) (entries : Entries) : Except Fault ServerConfig := do
  let command := match env.lookup ServerConfig.commandVariable with
    | some path =>
      if path.isEmpty then entryOr entries "command" (.str ServerConfig.defaultCommand)
      else .str path
    | none => entryOr entries "command" (.str ServerConfig.defaultCommand)
  let args ← argsOf (entryOr entries "args" (.seq (ServerConfig.defaultArgs.map .str)))
  let own ← mappingAt entries "env" (.config .envNotMapping)
  .ok ⟨command, ← args.mapM shown, ← envOf own, entryOr entries "cwd" .null⟩

/-- A length of time, which must be a positive number. -/
def positive (name : String) (v : Datum) : Except Fault Seconds :=
  let fault := quoting v (.timeout name)
  match Seconds.ofDatum? v with
  | some s => if s.isPositive then .ok s else .error fault
  | none => .error fault

def timeoutsOf (entries : Entries) : Except Fault Timeouts := do
  let handshake ← positive "initialize" (entryOr entries "initialize" (.float (.ofInt 10)))
  let request ← positive "request" (entryOr entries "request" (.float (.ofInt 30)))
  let grace ← positive "shutdown_grace" (entryOr entries "shutdown_grace" (.float (.ofInt 3)))
  .ok ⟨handshake, request, grace⟩

/-- The keys that a filter may have. -/
def filterKeys : List String := ["scheme", "language", "pattern"]

/-- The keys of a filter that it may not have; only texts can be named. -/
def unknownKeys : Entries → Except Fault (List String)
  | [] => .ok []
  | (.str k, _) :: rest =>
    if filterKeys.contains k then unknownKeys rest else (unknownKeys rest).map (k :: ·)
  | _ :: _ => .error (.plain .wrongType "sequence item 0: expected str instance")

/-- Puts a text before the first one that is greater. -/
def insertSorted (s : String) : List String → List String
  | [] => [s]
  | t :: rest => if s ≤ t then s :: t :: rest else t :: insertSorted s rest

/-- Checks the items of a selector in turn. -/
def filtersOf : List Datum → Except Fault (List Entries)
  | [] => .ok []
  | .map entries :: rest => do
    let unknown ← unknownKeys entries
    match unknown.foldr insertSorted [] with
    | [] => (filtersOf rest).map (entries :: ·)
    | names => .error (.config (.unknownFilterFields (", ".intercalate names)))
  | v :: _ => .error (quoting v .badFilter)

/-- The selector of the standard scope. -/
def standardSelector : Datum := .ofJson (DocumentScope.toSelector .standard)

/-- The filters of a selector, of which there must be one. -/
def selectorOf (v : Datum) : Except Fault (List Entries) :=
  let v := match v with
    | .null => standardSelector
    | v => v
  if v.isTruthy then
    match DocumentScope.itemsOf? v with
    | some items => filtersOf items
    | none => .error (.plain .wrongType "object is not iterable")
  else .error (.config .noFilter)

/-- The capital of a letter, for the letters whose capital occurs in the name of a level. -/
def upperChar (c : Char) : Char :=
  if 'a' ≤ c ∧ c ≤ 'z' then Char.ofNat (c.toNat - 32)
  else if c = 'ı' then 'I'
  else if c = 'ſ' then 'S'
  else c

/-- Whether a text names a log level, capitals or not. -/
def isLevelName (s : String) : Bool :=
  (LogLevel.names.lookup (String.ofList (s.toList.map upperChar))).isSome

/-- Checks that a text names a log level. -/
def levelOf (s : String) : Except Fault String :=
  if isLevelName s then .ok s else .error (.config (.logLevel s))

/-- Checks that there is a command. -/
def checkCommand (v : Datum) : Except Fault Unit :=
  if v.isTruthy then .ok () else .error (.config .emptyCommand)

def policyOf (v : Datum) : Except Fault BusyPolicy :=
  match BusyPolicy.ofDatum? v with
  | some p => .ok p
  | none => do .error (.config (.busyPolicy (← shown v)))

/-- The configuration that a mapping describes. -/
def ofEntries (env : Environment) (entries : Entries) : Except Fault Config := do
  let serverEntries ← mappingAt entries "server" (.config .serverNotMapping)
  let server ← serverOf env serverEntries
  let timeoutEntries ← mappingAt entries "timeouts"
    (.plain .missingAttribute "object has no attribute 'get'")
  let level ← shown (entryOr entries "log_level" (.str "WARNING"))
  checkCommand server.command
  let policy ← policyOf (entryOr entries "busy_policy" (.str "queue"))
  let timeouts ← timeoutsOf timeoutEntries
  let selector ← selectorOf (entryOr entries "document_selector" .null)
  let level ← levelOf level
  .ok
    { server, timeouts, selector, busyPolicy := policy
      workspaceDir := entryOr entries "workspace_dir" .null
      language := entryOr entries "language" (.str "en")
      logLevel := level }

/-- The configuration that a value describes. -/
def ofDatum (env : Environment) : Datum → Except Fault Config
  | .map entries => ofEntries env entries
  | _ => .error (.plain .missingAttribute "object has no attribute 'get'")

/-- The documents that the configured client serves. -/
def scope (c : Config) : Except Fault DocumentScope :=
  DocumentScope.ofItems (c.selector.map .map)

end Config

end LspHost
