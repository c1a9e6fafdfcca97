/-!
Environment variables: which ones a server inherits and how its own are laid over them.
-/

namespace LspHost

/-- Variables and their values, each name once. -/
abbrev Environment := List (String × String)

namespace Environment

/-- The variables that a server inherits. -/
def inheritedNames : List String := ["HOME", "LOGNAME", "PATH", "SHELL", "TERM", "USER", "LANG"]

/-- Sets a variable, in its present place if it is set already. -/
def set : Environment → String → String → Environment
  | [], name, value => [(name, value)]
  | (n, v) :: rest, name, value =>
    if n = name then (n, value) :: rest else (n, v) :: set rest name value

/-- The variables of one environment and those of another, which win. -/
def merge (base top : Environment) : Environment :=
  top.foldl (fun e p => e.set p.1 p.2) base

/-- Whether a value holds a shell function, which is never passed on. -/
def isFunction (value : String) : Bool :=
  match value.toList with
  | '(' :: ')' :: _ => true
  | _ => false

/-- What a server inherits from an environment. -/
def inherited (env : Environment) : Environment :=
  inheritedNames.filterMap fun name =>
    match env.lookup name with
    | some value => if isFunction value then none else some (name, value)
    | none => none

/-- The environment of a server: what it inherits, and its own variables over it. -/
def forServer (env own : Environment) : Environment :=
  merge (inherited env) own

end Environment

end LspHost
