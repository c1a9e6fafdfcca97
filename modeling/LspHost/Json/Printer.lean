import LspHost.Json.Basic

/-!
JSON text: items and members are divided by a comma and a blank, a key from its value by a colon
and a blank. Characters outside ASCII stand for themselves; quotes, backslashes and control
characters are escaped.
-/

namespace LspHost.Json

/-- A digit of base sixteen, in lower case. -/
def hexDigit (n : Nat) : Char :=
  if n < 10 then Char.ofNat (48 + n) else Char.ofNat (87 + n)

/-- A natural number below `16 ^ 4` as four digits of base sixteen. -/
def hexQuad (n : Nat) : List Char :=
  [hexDigit (n / 4096 % 16), hexDigit (n / 256 % 16), hexDigit (n / 16 % 16), hexDigit (n % 16)]

/-- A character as it is written inside a string. -/
def escapeChar (c : Char) : List Char :=
  if c = '"' then ['\\', '"']
  else if c = '\\' then ['\\', '\\']
  else if c = '\n' then ['\\', 'n']
  else if c = '\r' then ['\\', 'r']
  else if c = '\t' then ['\\', 't']
  else if c = '\x0c' then ['\\', 'f']
  else if c = '\x08' then ['\\', 'b']
  else if c.toNat < 0x20 then '\\' :: 'u' :: hexQuad c.toNat
  else [c]

/-- A string between quotes. -/
def quoted (s : String) : List Char :=
  '"' :: s.toList.flatMap escapeChar ++ ['"']

/-- The decimal text of an integer. -/
def intText (n : Int) : List Char :=
  if n < 0 then '-' :: decimalDigits n.natAbs else decimalDigits n.natAbs

/-- The text of a floating-point number; the values without digits have names. -/
def floatText (x : Binary64) : List Char :=
  match x.reading with
  | .nan => "NaN".toList
  | .infinite negative => if negative then "-Infinity".toList else "Infinity".toList
  | .finite _ _ _ => x.text

mutual

/-- The text of a value. -/
def print : Json → List Char
  | .null => "null".toList
  | .bool b => if b then "true".toList else "false".toList
  | .int n => intText n
  | .float x => floatText x
  | .str s => quoted s
  | .arr items => '[' :: printItems items ++ [']']
  | .obj members => '{' :: printMembers members ++ ['}']

def printItems : List Json → List Char
  | [] => []
  | [a] => print a
  | a :: rest => print a ++ ',' :: ' ' :: printItems rest

def printMembers : List (String × Json) → List Char
  | [] => []
  | [(k, a)] => quoted k ++ ':' :: ' ' :: print a
  | (k, a) :: rest => quoted k ++ ':' :: ' ' :: print a ++ ',' :: ' ' :: printMembers rest

end

/-- The text of a value as a string. -/
def text (v : Json) : String := String.ofList v.print

end LspHost.Json
