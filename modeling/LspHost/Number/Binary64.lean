/-!
Double-precision numbers as their sixty-four bits, with exact conversions from ratios and decimals.

`Binary64.ofRatio` rounds a quotient of naturals to the nearest double, a half going to the even
neighbour; `Binary64.ofDecimal` does so for a decimal `digits · 10 ^ exponent`.
-/

namespace LspHost

/-- A quotient rounded to the nearest natural, a half going to the even neighbour. -/
def roundHalfEven (num den : Nat) : Nat :=
  let q := num / den
  let r := num % den
  if 2 * r < den then q
  else if den < 2 * r then q + 1
  else if q % 2 = 0 then q else q + 1

/-- A double-precision number, told apart by its bits alone, so that `0.0` and `-0.0` differ and a
NaN equals itself. -/
structure Binary64 where
  bits : UInt64
  deriving DecidableEq, Repr

namespace Binary64

/-- What the bits stand for: nothing, an infinity, or `± mantissa · 2 ^ exponent`. -/
inductive Reading where
  | nan
  | infinite (negative : Bool)
  | finite (negative : Bool) (mantissa : Nat) (exponent : Int)
  deriving DecidableEq, Repr

/-- The sign bit. -/
def isNegative (x : Binary64) : Bool :=
  Nat.pow 2 63 ≤ x.bits.toNat

/-- The number that the bits stand for. -/
def reading (x : Binary64) : Reading :=
  let n := x.bits.toNat
  let negative := x.isNegative
  let biased : Nat := n / Nat.pow 2 52 % Nat.pow 2 11
  let fraction : Nat := n % Nat.pow 2 52
  if biased = 0x7FF then if fraction = 0 then .infinite negative else .nan
  else if biased = 0 then .finite negative fraction (-1074)
  else .finite negative (fraction + Nat.pow 2 52) ((biased : Int) - 1075)

/-- Puts a sign on the bits of a magnitude. -/
def ofMagnitude (negative : Bool) (magnitude : Nat) : Binary64 :=
  ⟨UInt64.ofNat (if negative then magnitude + Nat.pow 2 63 else magnitude)⟩

def infinity (negative : Bool) : Binary64 := ofMagnitude negative (0x7FF * Nat.pow 2 52)
def zero (negative : Bool) : Binary64 := ofMagnitude negative 0
def nan : Binary64 := ofMagnitude false (0x7FF * Nat.pow 2 52 + Nat.pow 2 51)

/-- The ratio `num / den · 2 ^ (-exponent)` as a quotient of naturals. -/
def scaled (num den : Nat) (exponent : Int) : Nat × Nat :=
  if 0 ≤ exponent then (num, den * Nat.pow 2 exponent.toNat) else (num * Nat.pow 2 (-exponent).toNat, den)

/-- The double nearest to `± num / den`, for a positive `den`. The mantissa and the biased exponent
are added, so that a mantissa rounded up to `2 ^ 53` carries into the exponent. -/
def ofRatio (negative : Bool) (num den : Nat) : Binary64 :=
  if num = 0 then zero negative
  else
    let guess : Int := (num.log2 : Int) - den.log2 - 52
    let s := scaled num den guess
    let exponent := max (-1074) (if s.1 / s.2 < Nat.pow 2 52 then guess - 1 else guess)
    let s := scaled num den exponent
    let magnitude := (exponent + 1074).toNat * Nat.pow 2 52 + roundHalfEven s.1 s.2
    ofMagnitude negative (min magnitude (0x7FF * Nat.pow 2 52))

/-- The double nearest to `± digits · 10 ^ exponent`. Values far outside the range of doubles are
recognised by their size, without computing the power. -/
def ofDecimal (negative : Bool) (digits : Nat) (exponent : Int) : Binary64 :=
  if digits = 0 then zero negative
  else
    let size : Int := (Nat.toDigits 10 digits).length + exponent
    if 310 < size then infinity negative
    else if size < -330 then zero negative
    else if 0 ≤ exponent then ofRatio negative (digits * Nat.pow 10 exponent.toNat) 1
    else ofRatio negative digits (Nat.pow 10 (-exponent).toNat)

/-- The double nearest to an integer. -/
def ofInt (n : Int) : Binary64 :=
  ofRatio (n < 0) n.natAbs 1

/-- The exact value as a quotient of naturals, for a finite number. -/
def ratio? (x : Binary64) : Option (Bool × Nat × Nat) :=
  match x.reading with
  | .finite negative m q =>
    let s := scaled m 1 (-q)
    some (negative, s.1, s.2)
  | _ => none

def isNaN (x : Binary64) : Bool := x.reading = .nan

/-- Whether a number is zero, of either sign. -/
def isZero (x : Binary64) : Bool := x.bits.toNat % Nat.pow 2 63 = 0

/-- The value of a double that is a whole number. -/
def toInt? (x : Binary64) : Option Int := do
  let (negative, num, den) ← x.ratio?
  if num % den = 0 then
    let n : Int := (num / den : Nat)
    some (if negative then -n else n)
  else none

example : ofDecimal false 1 (-1) = ⟨0x3FB999999999999A⟩ := by decide +kernel
example : ofDecimal false 5 (-324) = ⟨1⟩ := by decide +kernel
example : ofDecimal true 17976931348623159 292 = infinity true := by decide +kernel

end Binary64

end LspHost
