import LspHost.Number.Binary64
import LspHost.Text.Integer

/-!
Doubles as people type them, and the sums and products that such numbers go into. Each operation is
exact and rounded once.
-/

namespace LspHost

namespace Binary64

/-- The sum of two finite doubles; of anything else, no number. -/
def add (a b : Binary64) : Binary64 :=
  match a.ratio?, b.ratio? with
  | some (s, m, d), some (t, n, e) =>
    let x : Int := m * e
    let y : Int := n * d
    let sum := (if s then -x else x) + if t then -y else y
    ofRatio (sum < 0) sum.natAbs (d * e)
  | _, _ => nan

/-- The product of two finite doubles; of anything else, no number. -/
def mul (a b : Binary64) : Binary64 :=
  match a.ratio?, b.ratio? with
  | some (s, m, d), some (t, n, e) => ofRatio (s != t) (m * n) (d * e)
  | _, _ => nan

/-- The double of the other sign. -/
def negate (a : Binary64) : Binary64 :=
  ofMagnitude (!a.isNegative) (a.bits.toNat % Nat.pow 2 63)

end Binary64

namespace Text

/-- Digits with single underscores between them, which may be missing altogether. -/
def looseDigits? (s : List Char) : Option (List Nat) :=
  if s.isEmpty then some [] else groupedDigits? digitValue? false [] s

/-- The words for doubles that are no numbers. -/
def specialNumbers : List (List Char × Bool) :=
  [("inf".toList, true), ("infinity".toList, true), ("nan".toList, false)]

/-- An unsigned decimal number: digits with a point somewhere, and an exponent. -/
def readDecimal? (negative : Bool) (s : List Char) : Option Binary64 := do
  let mantissa := s.takeWhile fun c => c ≠ 'e' ∧ c ≠ 'E'
  let tail := s.drop mantissa.length
  let exponent ← match tail with
    | [] => some 0
    | _ :: digits => do
      let (isNegative, digits) := splitSign digits
      let ds ← groupedDigits? digitValue? false [] digits
      let n : Int := ofReversedDigits ds
      some (if isNegative then -n else n)
  let whole := mantissa.takeWhile (· ≠ '.')
  let ds ← looseDigits? whole
  let fs ← looseDigits? (mantissa.drop (whole.length + 1))
  if ds.isEmpty && fs.isEmpty then none
  else some (.ofDecimal negative (ofReversedDigits (fs ++ ds)) (exponent - fs.length))

/-- The double that a text writes, blanks at its ends apart. -/
def readDouble? (s : List Char) : Option Binary64 :=
  let (negative, s) := splitSign (trim s)
  match specialNumbers.lookup (s.map Char.toLower) with
  | some true => some (.infinity negative)
  | some false => some (if negative then Binary64.nan.negate else .nan)
  | none => readDecimal? negative s

example : readDouble? " -1_0.5e1".toList = some (.ofInt (-105)) := by decide +kernel
example : readDouble? "1e".toList = none := by decide +kernel

end Text

end LspHost
