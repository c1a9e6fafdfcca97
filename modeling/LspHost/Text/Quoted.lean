import LspHost.Text.Printable
import LspHost.Json.Printer

/-!
Texts and octets between quotes, with escapes for what does not show.

The single quote is used unless the text holds one and no double quote. The quote in use, the
backslash and the three common controls have escapes of two characters; every other character that
does not show is written by its number.
-/

namespace LspHost.Text

/-- The last `count` digits of a number in base sixteen. -/
def hexDigits : Nat → Nat → List Char
  | 0, _ => []
  | count + 1, n => hexDigits count (n / 16) ++ [Json.hexDigit (n % 16)]

/-- The quote for a text: a double one only if that spares an escape. -/
def quoteFor (hasSingle hasDouble : Bool) : Char :=
  if hasSingle && !hasDouble then '"' else '\''

/-- The escapes of two characters that texts and octets share. -/
def shortEscape? (quote c : Char) : Option (List Char) :=
  if c = quote ∨ c = '\\' then some ['\\', c]
  else if c = '\n' then some ['\\', 'n']
  else if c = '\r' then some ['\\', 'r']
  else if c = '\t' then some ['\\', 't']
  else none

/-- A character as it stands between quotes. -/
def quotedChar (quote c : Char) : List Char :=
  match shortEscape? quote c with
  | some e => e
  | none =>
    if isPrintable c then [c]
    else if c.toNat < 0x100 then '\\' :: 'x' :: hexDigits 2 c.toNat
    else if c.toNat < 0x10000 then '\\' :: 'u' :: hexDigits 4 c.toNat
    else '\\' :: 'U' :: hexDigits 8 c.toNat

/-- A text between quotes. -/
def quoted (s : List Char) : List Char :=
  let quote := quoteFor (s.contains '\'') (s.contains '"')
  quote :: s.flatMap (quotedChar quote) ++ [quote]

/-- An octet as it stands between quotes: as its ASCII character if that shows, else by number. -/
def quotedOctet (quote : Char) (b : UInt8) : List Char :=
  let c := Char.ofNat b.toNat
  match shortEscape? quote c with
  | some e => e
  | none =>
    if 0x20 ≤ b.toNat ∧ b.toNat < 0x7F then [c] else '\\' :: 'x' :: hexDigits 2 b.toNat

/-- Octets between quotes, marked with a leading `b`. -/
def quotedOctets (s : List UInt8) : List Char :=
  let quote := quoteFor (s.contains 39) (s.contains 34)
  'b' :: quote :: s.flatMap (quotedOctet quote) ++ [quote]

example : quoted "it's".toList = "\"it's\"".toList := by decide +kernel
example : quotedOctets [65, 0, 39, 34] = "b'A\\x00\\'\"'".toList := by decide +kernel

end LspHost.Text
