import LspHost.Process.Script
import LspHost.Protocol.Framing
import LspHost.Seconds

/-!
Scripts written as JSON: objects whose members name what a server does and when. What is left out is
done as the obedient server does it.
-/

namespace LspHost

/-- The octets of pairs of digits of base sixteen. -/
def hexOctets : List Char → List UInt8
  | a :: b :: rest =>
    (((Json.hexValue? a).getD 0) * 16 + (Json.hexValue? b).getD 0).toUInt8 :: hexOctets rest
  | _ => []

namespace Json

/-- The text of a value that is one, else nothing. -/
def textOrEmpty : Json → String
  | .str s => s
  | _ => ""

/-- The items of a list, else none. -/
def items : Json → List Json
  | .arr items => items
  | _ => []

/-- The members of an object, else none. -/
def members : Json → Members
  | .obj m => m
  | _ => []

/-- A member of an object; what is missing is null. -/
def member (v : Json) (key : String) : Json := (v.field? key).getD .null

/-- The number that an integer or a truth value stands for. -/
def integerOr (other : Int) : Json → Int
  | .int n => n
  | .bool b => if b then 1 else 0
  | _ => other

/-- Octets: a text stands for its UTF-8, an object has a `text` or `hex` and how many `times`. -/
def octets : Json → List UInt8
  | .str s => Framing.octets s.toList
  | v =>
    let once := match v.field? "hex" with
      | some (.str h) => hexOctets h.toList
      | _ => Framing.octets (v.member "text").textOrEmpty.toList
    (List.replicate ((v.member "times").integerOr 1).toNat once).flatten

end Json

namespace Action

/-- A length of time in nanoseconds. -/
def nanosOf (v : Json) : Option Nat := ((Seconds.ofJson? v).getD (.whole 0)).nanos?

/-- Why a broken input cannot be written to. -/
def breakReason (kind : Json) : String :=
  if kind = .str "pipe" then "[Errno 32] Broken pipe" else "Connection lost"

/-- The action that an object names with its first member. -/
def ofJson (v : Json) : Action :=
  match v.members.filter fun p => p.1 = "result" ∨ p.1 = "error" with
  | [] =>
    match v.members with
    | ("echo", _) :: _ => .echo
    | ("send", x) :: _ => .send x
    | ("body", x) :: _ => .body x.octets
    | ("raw", x) :: _ => .raw x.octets
    | ("delay", x) :: _ => .delay (nanosOf x)
    | ("exit", x) :: _ => .exit (x.integerOr 0)
    | ("eof", _) :: _ => .closeOutput
    | ("break", x) :: _ => .breakInput (breakReason x)
    | ("stderr", x) :: _ => .complain x.octets
    | _ => .raw []
  | answer => .respond answer

def listOfJson (v : Json) : List Action := v.items.map ofJson

end Action

namespace Script

def spawnOfJson : Json → SpawnOutcome
  | .str "not_found" => .notFound
  | .str "permission" => .notPermitted
  | .str "os_error" => .refused
  | _ => .started

def reactionOfJson : Json → SignalReaction
  | .str "ignore" => .ignores
  | .str "gone" => .gone
  | _ => .obeys

/-- The script that an object describes. Nothing ignores being killed. -/
def ofJson (v : Json) : Script where
  spawn := spawnOfJson (v.member "spawn")
  spawnDelay := Action.nanosOf (v.member "spawn_delay")
  onStart := Action.listOfJson (v.member "on_start")
  on := (v.member "on").members.map (fun p => (p.1, Action.listOfJson p.2)) ++ obedient.on
  onInputClosed := match v.field? "on_stdin_close" with
    | some a => Action.listOfJson a
    | none => obedient.onInputClosed
  onTerminate := reactionOfJson (v.member "on_terminate")
  onKill := if v.member "on_kill" = .str "gone" then .gone else .obeys

end Script

end LspHost
