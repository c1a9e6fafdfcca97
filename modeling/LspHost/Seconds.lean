import LspHost.Number.Rounded
import LspHost.Datum

/-!
Lengths of time as they are configured: numbers of seconds, whole or not. The event loop counts in
nanoseconds.
-/

namespace LspHost

/-- A number of seconds; a truth value counts as one second or none. -/
inductive Seconds where
  | whole (n : Int)
  | real (x : Binary64)
  | truth (b : Bool)
  deriving DecidableEq, Repr

namespace Seconds

/-- A number or truth value as a length of time. -/
def ofDatum? : Datum → Option Seconds
  | .int n => some (.whole n)
  | .bool b => some (.truth b)
  | .float x => some (.real x)
  | _ => none

def ofJson? (v : Json) : Option Seconds := ofDatum? (.ofJson v)

/-- Whether a length of time is more than none; a NaN is not known to be less. -/
def isPositive : Seconds → Bool
  | .whole n => 0 < n
  | .real x =>
    match x.reading with
    | .nan => true
    | .infinite negative => !negative
    | .finite negative m _ => m ≠ 0 && !negative
  | .truth b => b

/-- A length of time in nanoseconds, nothing for a negative one; `none` if it never ends. -/
def nanos? : Seconds → Option Nat
  | .whole n => some (n.toNat * 1000000000)
  | .real x =>
    match x.ratio? with
    | some (negative, num, den) =>
      some (if negative then 0 else roundHalfEven (num * 1000000000) den)
    | none => if x.isNegative then some 0 else none
  | .truth b => some (if b then 1000000000 else 0)

/-- A length of time with at most six digits. -/
def text : Seconds → String
  | .whole n => String.ofList (Rounded.general (.ofInt n) 6)
  | .real x => String.ofList (Rounded.general x 6)
  | .truth b => if b then "1" else "0"

/-- A length of time as it was configured. -/
def toDatum : Seconds → Datum
  | .whole n => .int n
  | .real x => .float x
  | .truth b => .bool b

end Seconds

end LspHost
