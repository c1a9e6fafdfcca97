import LspHost.Client.Plan
import LspHost.ConfigFile
import LspHost.Report
import LspHost.Terminal.Options

/-!
From a command line to its end: the options are read, the configuration is loaded and changed by
them, and a host is run at the terminal with it.

Whatever is wrong with the options or with the configuration is found before the host is made.
-/

namespace LspHost.Terminal

/-- The name and the version that the program tells. -/
def programName : String := "deval-client"
def programVersion : String := "0.1.0"

def versionText : String := programName ++ " " ++ programVersion ++ "\n"

/-- What the program finds around it: variables, files, the servers that can be started, and the
lines that will be typed. -/
structure Surroundings where
  env : Environment
  files : Files
  scripts : List Script
  lines : List String

/-- How an invocation begins. -/
inductive Opening where
  /-- It tells how it is used, or its version, or that it was misused, and ends. -/
  | help
  | version
  | misused
  /-- It tells what is wrong with the configuration, and ends. -/
  | unconfigured (reason : String)
  /-- A host is to run. -/
  | hosted (traced : Bool) (w : World)

/-- An option that counts: an empty one does not. -/
def counted? (o : Option String) : Option String := o.filter fun v => !v.isEmpty

/-- A configuration with what the options say in place of what it says. -/
def override (o : Options) (c : Config) : Config :=
  { c with
    server := { c.server with
      command := ((counted? o.command).map Datum.str).getD c.server.command }
    workspaceDir := ((counted? o.workspace).map Datum.str).getD c.workspaceDir
    language := ((counted? o.language).map Datum.str).getD c.language
    logLevel := (counted? o.logLevel).getD c.logLevel }

/-- The configuration that the options ask for. -/
def configOf (place : Surroundings) (o : Options) : Except Fault Config := do
  let c ← match o.config with
    | some none => .error (.plain .wrongType "a path is expected")
    | some (some path) => Config.load place.env place.files (some path)
    | none => Config.load place.env place.files none
  let c := override o c
  let _ ← Config.levelOf c.logLevel
  .ok c

/-- Whether a fault is one of the configuration. -/
def isConfigFault : Fault → Bool
  | .config _ => true
  | .noConfigFile _ => true
  | _ => false

/-- The columns of a terminal that does not tell them. -/
def standardWidth : Nat := 80

/-- The columns of the terminal. -/
def widthOf (env : Environment) : Nat :=
  match env.lookup "COLUMNS" with
  | some text =>
    if text.isEmpty then standardWidth
    else (text.toList.foldlM (fun n c => (Text.digitValue? c).map (n * 10 + ·)) 0).getD standardWidth
  | none => standardWidth

/-- How many events wait for the trace at most. -/
def traceCapacity : Nat := 64

/-- The state before a host runs. -/
def worldOf (place : Surroundings) (c : Config) : Except Fault World := do
  let (_, catalogue) ← Catalogue.standard.select c.language
  let scope ← c.scope
  .ok { World.fresh place.env place.files place.scripts (.fresh c scope (some programVersion) false)
    (.fresh catalogue (widthOf place.env)) (.empty traceCapacity) with lines := place.lines }

/-- How a host begins that the options ask for. -/
def openHost (place : Surroundings) (o : Options) : Except Fault Opening := do
  match configOf place o with
  | .ok c => .ok (.hosted o.trace (← worldOf place c))
  | .error f => if isConfigFault f then .ok (.unconfigured f.message) else .error f

/-- How an invocation begins. -/
def openProgram (place : Surroundings) (args : List String) : Except Fault Opening :=
  match Invocation.ofArguments args with
  | .help => .ok .help
  | .version => .ok .version
  | .misused => .ok .misused
  | .run o => openHost place o

/-- What is said of a configuration that cannot be used. -/
def configText (reason : String) : String := "配置错误: " ++ reason ++ "\n"

/-- The exit code of a misuse. -/
def misuseCode : Nat := 2

/-- Runs a host to its end: its exit code, unless it fails or never ends, and the state then. -/
def runHost (traced : Bool) (w : World) : Option (Except Fault Nat) × World :=
  let (task, m) := (Machine.ofWorld w).start (.terminal traced)
  let (r, m) := Client.join (.one task) m
  let code : Option (Except Fault Nat) := match r with
    | some (.one (.ok (.exitCode n))) => some (.ok n)
    | some (.one (.error f)) => some (.error f)
    | _ => none
  (code, m.world)

end LspHost.Terminal
