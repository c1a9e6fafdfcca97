import LspHost.Catalogue
import LspHost.Display.Notice

/-!
The host: the commands that it has registered, and what it shows to people.
-/

namespace LspHost

/-- What a registered command does. -/
inductive HostCommand where
  | restart
  | start
  | stop
  | status
  /-- Fails with these words. -/
  | broken (reason : String)
  deriving DecidableEq, Repr

/-- A host: whether it is active, its commands by name, its texts, and the width of what it shows. -/
structure Host where
  active : Bool
  commands : List (String × HostCommand)
  catalogue : Catalogue
  width : Nat

namespace Host

/-- A host that was not activated yet. -/
def fresh (catalogue : Catalogue) (width : Nat) : Host := ⟨false, [], catalogue, width⟩

/-- Registers a command, in its present place if it has one. -/
def register (name : String) (command : HostCommand) :
    List (String × HostCommand) → List (String × HostCommand)
  | [] => [(name, command)]
  | (n, c) :: rest =>
    if n = name then (n, command) :: rest else (n, c) :: register name command rest

/-- Registers a command. -/
def withCommand (name : String) (command : HostCommand) (h : Host) : Host :=
  { h with commands := register name command h.commands }

end Host

end LspHost
