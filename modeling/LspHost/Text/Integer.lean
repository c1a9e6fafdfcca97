import LspHost.Text.Blank
import LspHost.Text.Digit
import LspHost.Json.Parser

/-!
Integers as people type them: an optional sign, then decimal digits of any script, single
underscores between digits allowed.
-/

namespace LspHost.Text

/-- Collects digits (in reverse) from a text in which single underscores may stand between two
digits; `afterDigit` tells whether the last character was a digit. -/
def groupedDigits? (digit? : Char → Option Nat) :
    Bool → List Nat → List Char → Option (List Nat)
  | afterDigit, out, [] => if afterDigit then some out else none
  | afterDigit, out, c :: cs =>
    if c = '_' then if afterDigit then groupedDigits? digit? false out cs else none
    else
      match digit? c with
      | some d => groupedDigits? digit? true (d :: out) cs
      | none => none

/-- The number written by digits given in reverse. -/
def ofReversedDigits (ds : List Nat) : Nat :=
  ds.reverse.foldl (fun n d => n * 10 + d) 0

/-- The sign at the front of a text: whether it is negative, and what follows. -/
def splitSign : List Char → Bool × List Char
  | '-' :: cs => (true, cs)
  | '+' :: cs => (false, cs)
  | cs => (false, cs)

/-- An integer written with the given digits, of at most `Json.maxDigits` of them. -/
def readIntWith? (digit? : Char → Option Nat) (s : List Char) : Option Int := do
  let (negative, rest) := splitSign s
  let ds ← groupedDigits? digit? false [] rest
  if Json.maxDigits < ds.length then none
  else
    let n : Int := ofReversedDigits ds
    some (if negative then -n else n)

/-- The integer that a text writes, blanks at its ends apart. -/
def readInt? (s : List Char) : Option Int :=
  readIntWith? digitValue? (trim s)

example : readInt? " -1_000 ".toList = some (-1000) := by decide +kernel
example : readInt? "1__0".toList = none := by decide +kernel

end LspHost.Text
