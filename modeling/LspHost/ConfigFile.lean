import LspHost.Config
import LspHost.Files
import LspHost.Yaml.Document

/-!
Configuration files: where they are looked for and what they say.
-/

namespace LspHost.Config

/-- The fault of a text that is not YAML, or holds a value that is misused. -/
def yamlFault : Yaml.YamlFault → Fault
  | .malformed => .config .notYaml
  | .misused kind => .plain kind ""

/-- The configuration in a text. A text without a value is an empty mapping. -/
def ofText (env : Environment) (text : List Char) : Except Fault Config :=
  match Yaml.read text with
  | .error f => .error (yamlFault f)
  | .ok .null => ofEntries env []
  | .ok (.map entries) => ofEntries env entries
  | .ok _ => .error (.config .notMapping)

/-- The configuration in a file. -/
def ofFile (env : Environment) (e : FileEntry) : Except Fault Config := do
  ofText env (← Files.textAt e)

/-- Where a configuration is looked for: in the working directory, then at home. -/
def searchPaths (cwd home : String) : List String :=
  [cwd ++ "/config/deval.yaml", cwd ++ "/.deval/config.yaml", home ++ "/.deval/config.yaml"]

/-- The home directory when no variable names one. -/
def standardHome : String := "/root"

def homeOf (env : Environment) : String := (env.lookup "HOME").getD standardHome

/-- The first path that leads to something. -/
def firstFound (fs : Files) : List String → Except Fault (Option FileEntry)
  | [] => .ok none
  | path :: rest => do
    match ← fs.find path with
    | some e => .ok (some e)
    | none => firstFound fs rest

/-- Loads the configuration at a path; without one, the first that is found, and without that the
standard one. -/
def load (env : Environment) (fs : Files) (path : Option String) : Except Fault Config := do
  match path with
  | some p =>
    match ← fs.find p with
    | some e => ofFile env e
    | none => .error (.noConfigFile p)
  | none =>
    match ← firstFound fs (searchPaths fs.cwd (homeOf env)) with
    | some e => ofFile env e
    | none => ofEntries env []

end LspHost.Config
