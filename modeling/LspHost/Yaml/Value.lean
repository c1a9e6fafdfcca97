import LspHost.Number.Written
import LspHost.Text.Base64
import LspHost.Yaml.Cursor
import LspHost.Yaml.Tag

/-!
The values of scalars: what their text means under a tag.
-/

namespace LspHost.Yaml

/-- The value of a digit of any script, or of a letter as a digit from ten on. -/
def digitOrLetter? (c : Char) : Option Nat :=
  match Text.digitValue? c with
  | some n => some n
  | none =>
    let c := c.toLower
    if 'a' ≤ c ∧ c ≤ 'z' then some (c.toNat - 87) else none

/-- An integer in a base, with a sign, blanks at its ends, and a zero and the letter of the base in
front of its digits, all of which may be missing. -/
def readInBase? (base : Nat) (letter : Char) (s : List Char) : Option Int := do
  let (negative, s) := Text.splitSign (Text.trim s)
  let ds := match s with
    | '0' :: c :: rest => if c.toLower = letter then rest else s
    | _ => s
  if ds.isEmpty then none
  else
    let n ← ds.foldlM (fun n c => do
      let d ← digitOrLetter? c
      if d < base then some (n * base + d) else none) 0
    some (if negative then -(n : Int) else n)

/-- The number whose digits in base sixty these are. -/
def ofSixtieths (ds : List Int) : Int := ds.foldl (fun n d => n * 60 + d) 0

/-- The value of a misused scalar. -/
def badNumber : YamlFault := .misused .badValue

/-- A value that may be missing. -/
def orBad {α : Type} : Option α → Except YamlFault α
  | some a => .ok a
  | none => .error badNumber

/-- The integer that a text writes: in base two behind `0b`, sixteen behind `0x`, eight behind `0`,
and in base sixty with colons. -/
def intOf (text : List Char) : Except YamlFault Int := do
  let s := text.filter (· ≠ '_')
  let sign : Int := if s.head? = some '-' then -1 else 1
  let s := Tag.unsigned s
  let n ← match s with
    | [] => .error (.misused .outOfRange)
    | '0' :: 'b' :: ds => orBad (readInBase? 2 'b' ds)
    | '0' :: 'x' :: ds => orBad (readInBase? 16 'x' ds)
    | '0' :: _ => orBad (readInBase? 8 'o' s)
    | s =>
      if s.contains ':' then
        (orBad ((Text.splitOn ':' s).mapM Text.readInt?)).map ofSixtieths
      else orBad (Text.readInt? s)
  .ok (sign * n)

/-- The sum of parts in base sixty, the last one first. -/
def sumSixtieths (parts : List Binary64) : Binary64 :=
  (parts.foldl (fun (sum, base) x => (sum.add (x.mul (.ofInt base)), base * 60))
    (Binary64.zero false, (1 : Int))).1

/-- The double that a text writes. -/
def floatOf (text : List Char) : Except YamlFault Binary64 := do
  let s := Text.asciiLower (text.filter (· ≠ '_'))
  let negative := s.head? = some '-'
  let signed (x : Binary64) : Binary64 := if negative then x.negate else x
  let s := Tag.unsigned s
  if text.all (· = '_') then .error (.misused .outOfRange)
  else if s = ".inf".toList then .ok (.infinity negative)
  else if s = ".nan".toList then .ok .nan
  else if s.contains ':' then do
    let parts ← orBad ((Text.splitOn ':' s).mapM Text.readDouble?)
    .ok (signed (sumSixtieths parts.reverse))
  else (orBad (Text.readDouble? s)).map signed

/-- What the words for truth values mean. -/
def truths : List (List Char × Bool) :=
  [("yes".toList, true), ("no".toList, false), ("true".toList, true), ("false".toList, false),
    ("on".toList, true), ("off".toList, false)]

/-- The value of a text under a tag for scalars. -/
def scalarOf (tag : Tag) (text : List Char) : Except YamlFault Datum :=
  match tag with
  | .null => .ok .null
  | .bool =>
    match truths.lookup (Text.asciiLower text) with
    | some b => .ok (.bool b)
    | none => .error (.misused .unknownKey)
  | .int => (intOf text).map .int
  | .float => (floatOf text).map .float
  | .binary =>
    if text.all fun c => c.toNat < 128 then
      match Text.base64? text with
      | some bytes => .ok (.octets bytes)
      | none => .error .malformed
    else .error .malformed
  | .timestamp =>
    match Timestamp.ofText? text with
    | none => .error (.misused .missingAttribute)
    | some t => orBad t.toDatum?
  | .str => .ok (.str (String.ofList text))
  | _ => .error .malformed

example : (intOf "-0x1F".toList).toOption = some (-31) := by decide +kernel
example : (intOf "1:30".toList).toOption = some 90 := by decide +kernel

end LspHost.Yaml
