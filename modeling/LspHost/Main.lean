import LspHost.Terminal.Invoke

/-!
The command line.

What the program will need is read ahead: the variables, the lines that are typed, and the files that
the options, the search for a configuration or the lines may name. Then it runs, and what it printed
is written. Servers are played by processes that do what the protocol asks for.
-/

namespace LspHost.CommandLine

/-- The variables that matter. -/
def variableNames : List String :=
  ["COLUMNS", ServerConfig.commandVariable] ++ Environment.inheritedNames

def readVariables : IO Environment := do
  let found ← variableNames.mapM fun name => do
    return (← IO.getEnv name).map fun value => (name, value)
  return found.filterMap id

/-- The lines up to the end. -/
partial def readLines (input : IO.FS.Stream) : IO (List String) := do
  let line ← input.getLine
  if line.isEmpty then return []
  return (line.dropEndWhile (· == '\n')).toString :: (← readLines input)

/-- The paths that may be read: those of the options and of the search for a configuration, and
whatever stands behind the first word of a line. -/
def paths (env : Environment) (cwd : String) (args lines : List String) : List String :=
  let named := match Invocation.ofArguments args with
    | .run o => (o.config.join).toList
    | _ => []
  let typed := lines.filterMap fun line =>
    (Text.firstWord? (Text.trim line.toList)).map fun p => String.ofList (Text.trim p.2)
  named ++ Config.searchPaths cwd (Config.homeOf env) ++ typed

/-- The octets of a file, if there is one. -/
def readFile (path : String) : IO (Option (List UInt8)) := do
  try
    let bytes ← IO.FS.readBinFile path
    return some bytes.toList
  catch _ => return none

/-- A path from the root on. -/
def absolute (cwd path : String) : String :=
  if path.startsWith "/" then path else cwd ++ "/" ++ path

def readFiles (cwd : String) (paths : List String) : IO Files := do
  let found ← paths.mapM fun path => do
    return (← readFile path).map fun bytes => (absolute cwd path, bytes)
  return ⟨cwd, found.filterMap id⟩

/-- How the program is used. -/
def usage : String :=
  "usage: " ++ Terminal.programName ++ " [--config FILE] [--command COMMAND] [--workspace DIR]"
    ++ " [--lang en|zh] [--log-level LEVEL] [--trace] [--version]\n"

/-- Runs the program in its surroundings and gives its exit code. -/
def run (place : Terminal.Surroundings) (args : List String) : IO UInt32 := do
  match Terminal.openProgram place args with
  | .error f =>
    IO.eprintln f.message
    return 1
  | .ok .help =>
    IO.print usage
    return 0
  | .ok .version =>
    IO.print Terminal.versionText
    return 0
  | .ok .misused =>
    IO.eprint usage
    return Terminal.misuseCode.toUInt32
  | .ok (.unconfigured reason) =>
    IO.eprint (Terminal.configText reason)
    return Terminal.misuseCode.toUInt32
  | .ok (.hosted traced w) =>
    let (r, w) := Terminal.runHost traced w
    IO.print (Report.printed w.journal.reverse)
    match r with
    | some (.ok code) => return code.toUInt32
    | some (.error f) =>
      IO.eprintln f.message
      return 1
    | none => return 1

end LspHost.CommandLine

/-- Reads what is needed and runs the program. -/
def main (args : List String) : IO UInt32 := do
  let env ← LspHost.CommandLine.readVariables
  let cwd := (← IO.currentDir).toString
  let lines ← LspHost.CommandLine.readLines (← IO.getStdin)
  let files ← LspHost.CommandLine.readFiles cwd (LspHost.CommandLine.paths env cwd args lines)
  LspHost.CommandLine.run ⟨env, files, [], lines⟩ args
