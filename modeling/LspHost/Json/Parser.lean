import LspHost.Json.Basic

/-!
Reading JSON text.

`Json.parse` accepts RFC 8259 and, beyond it, the number names `NaN`, `Infinity` and `-Infinity`. A
repeated key keeps its first place and its last value. Two things are refused that the grammar
allows: a byte-order mark at the front, and an integer of more than `maxDigits` digits.
-/

namespace LspHost.Json

/-- Why a text is no JSON value. -/
inductive ParseError where
  | malformed
  | integerTooLong
  deriving DecidableEq, Repr

/-- The longest integer that is read. -/
def maxDigits : Nat := 4300

/-- Blank space between tokens. -/
def isBlank (c : Char) : Bool := c = ' ' ∨ c = '\t' ∨ c = '\n' ∨ c = '\r'

def skipBlank : List Char → List Char
  | [] => []
  | c :: rest => if isBlank c then skipBlank rest else c :: rest

/-- The value of a digit of base sixteen, in either case. -/
def hexValue? (c : Char) : Option Nat :=
  let n := c.toNat
  if 48 ≤ n ∧ n ≤ 57 then some (n - 48)
  else if 97 ≤ n ∧ n ≤ 102 then some (n - 87)
  else if 65 ≤ n ∧ n ≤ 70 then some (n - 55)
  else none

/-- Four digits of base sixteen at the front of a text. -/
def hexQuad? : List Char → Option (Nat × List Char)
  | a :: b :: c :: d :: rest => do
    let a ← hexValue? a
    let b ← hexValue? b
    let c ← hexValue? c
    let d ← hexValue? d
    some (((a * 16 + b) * 16 + c) * 16 + d, rest)
  | _ => none

/-- The character after a backslash, for the escapes of one letter. -/
def escaped? (c : Char) : Option Char :=
  if c = '"' then some '"'
  else if c = '\\' then some '\\'
  else if c = '/' then some '/'
  else if c = 'b' then some '\x08'
  else if c = 'f' then some '\x0c'
  else if c = 'n' then some '\n'
  else if c = 'r' then some '\r'
  else if c = 't' then some '\t'
  else none

/-- A character from the unit of an escape; half a surrogate pair becomes U+FFFD. -/
def unitChar (n : Nat) : Char :=
  if 0xD800 ≤ n ∧ n ≤ 0xDFFF then '\uFFFD' else Char.ofNat n

/-- The low half of a surrogate pair, written as an escape at the front of a text. -/
def lowSurrogate? : List Char → Option (Nat × List Char)
  | '\\' :: 'u' :: rest => do
    let (n, rest) ← hexQuad? rest
    if 0xDC00 ≤ n ∧ n ≤ 0xDFFF then some (n, rest) else none
  | _ => none

/-- The rest of a string after its opening quote, collected in reverse. -/
def readString : Nat → List Char → List Char → Except ParseError (String × List Char)
  | 0, _, _ => .error .malformed
  | _ + 1, _, [] => .error .malformed
  | fuel + 1, out, c :: rest =>
    if c = '"' then .ok (String.ofList out.reverse, rest)
    else if c = '\\' then
      match rest with
      | [] => .error .malformed
      | e :: rest =>
        if e = 'u' then
          match hexQuad? rest with
          | none => .error .malformed
          | some (n, rest) =>
            if 0xD800 ≤ n ∧ n ≤ 0xDBFF then
              match lowSurrogate? rest with
              | some (m, rest) =>
                let c := Char.ofNat (0x10000 + (n - 0xD800) * 0x400 + (m - 0xDC00))
                readString fuel (c :: out) rest
              | none => readString fuel (unitChar n :: out) rest
            else readString fuel (unitChar n :: out) rest
        else
          match escaped? e with
          | some c => readString fuel (c :: out) rest
          | none => .error .malformed
    else if c.toNat < 0x20 then .error .malformed
    else readString fuel (c :: out) rest

/-- The digits at the front of a text. -/
def spanDigits (cs : List Char) : List Char × List Char :=
  cs.span Char.isDigit

/-- The number that a list of digits writes in base ten. -/
def digitsValue (ds : List Char) : Nat :=
  ds.foldl (fun n c => n * 10 + (c.toNat - 48)) 0

/-- An exponent at the front of a text, if a complete one is there. -/
def exponent? : List Char → Option (Int × List Char)
  | e :: rest =>
    if e = 'e' ∨ e = 'E' then
      let (negative, rest) := match rest with
        | '-' :: r => (true, r)
        | '+' :: r => (false, r)
        | r => (false, r)
      match spanDigits rest with
      | ([], _) => none
      | (ds, rest) =>
        let n : Int := digitsValue ds
        some (if negative then -n else n, rest)
    else none
  | [] => none

/-- A fraction at the front of a text, if it has a digit. -/
def fraction? : List Char → Option (List Char × List Char)
  | '.' :: rest =>
    match spanDigits rest with
    | ([], _) => none
    | r => some r
  | _ => none

/-- The whole part of a number: a lone zero, or digits that do not start with one. -/
def wholePart? : List Char → Option (List Char × List Char)
  | '0' :: rest => some (['0'], rest)
  | cs =>
    match spanDigits cs with
    | ([], _) => none
    | r => some r

/-- A number after its sign. -/
def readNumber (negative : Bool) (cs : List Char) : Except ParseError (Json × List Char) :=
  match wholePart? cs with
  | none => .error .malformed
  | some (whole, rest) =>
    let (frac, rest) := (fraction? rest).getD ([], rest)
    match frac, exponent? rest with
    | [], none =>
      if maxDigits < whole.length then .error .integerTooLong
      else
        let n : Int := digitsValue whole
        .ok (.int (if negative then -n else n), rest)
    | frac, exp =>
      let (e, rest) := exp.getD (0, rest)
      .ok (.float (.ofDecimal negative (digitsValue (whole ++ frac)) (e - frac.length)), rest)

/-- What follows a fixed word at the front of a text. -/
def after? : List Char → List Char → Option (List Char)
  | [], cs => some cs
  | w :: ws, c :: cs => if w = c then after? ws cs else none
  | _ :: _, [] => none

/-- The words that stand for values. -/
def words : List (List Char × Json) :=
  [("null".toList, .null), ("true".toList, .bool true), ("false".toList, .bool false),
   ("NaN".toList, .float .nan), ("Infinity".toList, .float (.infinity false)),
   ("-Infinity".toList, .float (.infinity true))]

def readWord (cs : List Char) : Option (Json × List Char) :=
  words.findSome? fun (w, v) => (after? w cs).map (v, ·)

/-- A word or a number at the front of a text. -/
def readAtom (cs : List Char) : Except ParseError (Json × List Char) :=
  match readWord cs with
  | some r => .ok r
  | none =>
    match cs with
    | '-' :: rest => readNumber true rest
    | cs => readNumber false cs

mutual

/-- The value at the front of a text. The fuel bounds the number of values, items and members
read, for which the length of the text is enough. -/
def readValue : Nat → List Char → Except ParseError (Json × List Char)
  | 0, _ => .error .malformed
  | fuel + 1, cs =>
    match cs with
    | '"' :: rest =>
      match readString (rest.length + 1) [] rest with
      | .ok (s, rest) => .ok (.str s, rest)
      | .error e => .error e
    | '[' :: rest =>
      match skipBlank rest with
      | ']' :: rest => .ok (.arr [], rest)
      | rest => readItems fuel [] rest
    | '{' :: rest =>
      match skipBlank rest with
      | '}' :: rest => .ok (.obj [], rest)
      | rest => readMembers fuel [] rest
    | cs => readAtom cs

/-- The items of an array after its bracket, collected in reverse. -/
def readItems : Nat → List Json → List Char → Except ParseError (Json × List Char)
  | 0, _, _ => .error .malformed
  | fuel + 1, out, cs =>
    match readValue fuel cs with
    | .error e => .error e
    | .ok (v, rest) =>
      match skipBlank rest with
      | ',' :: rest => readItems fuel (v :: out) (skipBlank rest)
      | ']' :: rest => .ok (.arr (v :: out).reverse, rest)
      | _ => .error .malformed

/-- The members of an object after its brace, collected in reverse. -/
def readMembers : Nat → List (String × Json) → List Char → Except ParseError (Json × List Char)
  | 0, _, _ => .error .malformed
  | fuel + 1, out, cs =>
    match cs with
    | '"' :: rest =>
      match readString (rest.length + 1) [] rest with
      | .error e => .error e
      | .ok (k, rest) =>
        match skipBlank rest with
        | ':' :: rest =>
          match readValue fuel (skipBlank rest) with
          | .error e => .error e
          | .ok (v, rest) =>
            match skipBlank rest with
            | ',' :: rest => readMembers fuel ((k, v) :: out) (skipBlank rest)
            | '}' :: rest => .ok (.obj (Members.ofPairs ((k, v) :: out).reverse), rest)
            | _ => .error .malformed
        | _ => .error .malformed
    | _ => .error .malformed

end

/-- The value that a whole text writes. -/
def parse (cs : List Char) : Except ParseError Json :=
  match cs with
  | '\uFEFF' :: _ => .error .malformed
  | cs =>
    match readValue (2 * cs.length + 2) (skipBlank cs) with
    | .error e => .error e
    | .ok (v, rest) =>
      match skipBlank rest with
      | [] => .ok v
      | _ => .error .malformed

example : (parse "[1, -2.5, \"a\\u00e9\", null]".toList).toOption =
    some (.arr [.int 1, .float (.ofDecimal true 25 (-1)), .str "aé", .null]) := by decide +kernel
example : (parse "01".toList).toOption = none := by decide +kernel

end LspHost.Json
