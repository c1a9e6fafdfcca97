import LspHost.Number.Shortest

/-!
How a decimal is laid out as text: positionally or with an exponent.

`Layout` holds the decisions and `Layout.write` follows them. `Binary64.text` is the default
text of a double: the fewest digits that read back, positional from `0.0001` up to below `10 ^ 16`.
-/

namespace LspHost

/-- The digits of a natural number in base ten. -/
def decimalDigits (n : Nat) : List Char := Nat.toDigits 10 n

/-- Decisions about the text of a decimal `0.d₁d₂… · 10 ^ point`: it is positional when `point`
lies in `lowest … highest`, a whole positional number ends in `.0` if `keepsPoint`, and an exponent
has a sign and at least two digits. -/
structure Layout where
  lowest : Int
  highest : Int
  keepsPoint : Bool
  deriving DecidableEq, Repr

namespace Layout

/-- The text of an exponent: a sign and at least two digits. -/
def exponentText (e : Int) : List Char :=
  let ds := decimalDigits e.natAbs
  (if e < 0 then '-' else '+') :: (if ds.length < 2 then '0' :: ds else ds)

/-- The text of the positive decimal `0.ds · 10 ^ point`. -/
def write (l : Layout) (ds : List Char) (point : Int) : List Char :=
  if l.lowest ≤ point ∧ point ≤ l.highest then
    if point ≤ 0 then ['0', '.'] ++ List.replicate (-point).toNat '0' ++ ds
    else
      let whole := ds.take point.toNat ++ List.replicate (point.toNat - ds.length) '0'
      match ds.drop point.toNat with
      | [] => if l.keepsPoint then whole ++ ['.', '0'] else whole
      | rest => whole ++ '.' :: rest
  else
    let mantissa := match ds with
      | [] => []
      | [d] => [d]
      | d :: rest => d :: '.' :: rest
    mantissa ++ 'e' :: exponentText (point - 1)

/-- The layout of a number that stands alone. -/
def plain : Layout := ⟨-3, 16, true⟩

end Layout

namespace Binary64

/-- The default text of a double, with the words for the values that have no digits. -/
def text (x : Binary64) : List Char :=
  match x.reading with
  | .nan => "nan".toList
  | .infinite negative => if negative then "-inf".toList else "inf".toList
  | .finite negative m q =>
    let body :=
      if m = 0 then "0.0".toList
      else
        let d := Shortest.digits m q
        Layout.plain.write (decimalDigits d.digits) d.point
    if negative then '-' :: body else body

example : (ofDecimal false 1 16).text = "1e+16".toList := by decide +kernel
example : (ofDecimal true 15 (-1)).text = "-1.5".toList := by decide +kernel
example : (ofDecimal false 12345 (-9)).text = "1.2345e-05".toList := by decide +kernel
example : (ofDecimal false 9007199254740993 0).text = "9007199254740992.0".toList := by decide +kernel

end Binary64

end LspHost
