import LspHost.Number.Layout

/-!
Decimals of a chosen length: a fixed number of places, or a fixed number of leading digits. Both
round the exact value once, a half going to the even neighbour.
-/

namespace LspHost.Rounded

/-- The digits of `num / den` with so many places after the point, as one number. -/
def places (num den count : Nat) : Nat :=
  roundHalfEven (num * Nat.pow 10 count) den

/-- The place of the decimal point of a positive quotient: the `p` with
`10 ^ (p - 1) ≤ num / den < 10 ^ p`. -/
def pointOf (num den : Nat) : Int :=
  if den ≤ num then (decimalDigits (num / den)).length
  else 1 - (decimalDigits ((den - 1) / num)).length

/-- The first `count` digits of a positive quotient, as a number, and the place of its point. -/
def leading (num den count : Nat) : Nat × Int :=
  let point := pointOf num den
  let shift := (count : Int) - point
  let d := roundHalfEven (num * Nat.pow 10 shift.toNat) (den * Nat.pow 10 (-shift).toNat)
  if d = Nat.pow 10 count then (Nat.pow 10 (count - 1), point + 1) else (d, point)

/-- Removes the zeros at the end of a list of digits. -/
def stripZeros (ds : List Char) : List Char :=
  (ds.reverse.dropWhile (· = '0')).reverse

/-- The layout of a number of at most so many digits: no zeros at the end, and an exponent outside
`0.0001` to `10 ^ count`. -/
def layout (count : Nat) : Layout := ⟨-3, count, false⟩

/-- A double with at most so many digits. -/
def general (x : Binary64) (count : Nat) : List Char :=
  match x.reading with
  | .finite negative _ _ =>
    let body := match x.ratio? with
      | some (_, num, den) =>
        if num = 0 then ['0']
        else
          let (d, point) := leading num den count
          (layout count).write (stripZeros (decimalDigits d)) point
      | none => []
    if negative then '-' :: body else body
  | _ => x.text

example : general (.ofDecimal false 30000000000000004 (-17)) 6 = "0.3".toList := by decide +kernel
example : general (.ofInt 1234567) 6 = "1.23457e+06".toList := by decide +kernel
example : general (.ofDecimal false 9999995 (-1)) 6 = "1e+06".toList := by decide +kernel

end LspHost.Rounded
