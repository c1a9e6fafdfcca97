/-!
Octets written in base 64. Characters outside the alphabet are skipped; a padding that completes a
group of four ends the text.
-/

namespace LspHost.Text

/-- The value of a character of the alphabet. -/
def base64Value? (c : Char) : Option Nat :=
  let n := c.toNat
  if 65 ≤ n ∧ n ≤ 90 then some (n - 65)
  else if 97 ≤ n ∧ n ≤ 122 then some (n - 71)
  else if 48 ≤ n ∧ n ≤ 57 then some (n + 4)
  else if c = '+' then some 62
  else if c = '/' then some 63
  else none

/-- Reads on with `filled` characters of the present group read, `left` the bits of them that are
not in an octet yet, and `pads` padding characters since. -/
def base64From? : Nat → Nat → Nat → List UInt8 → List Char → Option (List UInt8)
  | filled, _, _, out, [] => if filled = 0 then some out.reverse else none
  | filled, left, pads, out, c :: cs =>
    if c = '=' then
      if filled < 2 then base64From? filled left pads out cs
      else if 4 ≤ filled + pads + 1 then some out.reverse
      else base64From? filled left (pads + 1) out cs
    else
      match base64Value? c with
      | none => base64From? filled left pads out cs
      | some v =>
        match filled with
        | 0 => base64From? 1 v 0 out cs
        | 1 => base64From? 2 (v % 16) 0 ((left * 4 + v / 16).toUInt8 :: out) cs
        | 2 => base64From? 3 (v % 4) 0 ((left * 16 + v / 4).toUInt8 :: out) cs
        | _ => base64From? 0 0 0 ((left * 64 + v).toUInt8 :: out) cs

/-- The octets that a text in base 64 stands for, if its last group is complete. -/
def base64? (s : List Char) : Option (List UInt8) := base64From? 0 0 0 [] s

example : base64? "aGk=".toList = some [104, 105] := by decide +kernel
example : base64? "aGk".toList = none := by decide +kernel

end LspHost.Text
