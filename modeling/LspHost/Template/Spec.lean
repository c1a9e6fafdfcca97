import LspHost.Fault
import LspHost.Number.Rounded
import LspHost.Text.Digit

/-!
How the value in a template's field is laid out: fill, alignment, sign, width, groups of digits,
precision and kind, written in this order behind a colon.
-/

namespace LspHost.Template

inductive Alignment where
  | left
  | right
  | centre
  /-- Between the sign and the digits of a number. -/
  | inner
  deriving DecidableEq, Repr

/-- What stands in front of numbers that are not negative: nothing, a plus sign or a blank. -/
inductive SignStyle where
  | plain
  | always
  | blank
  deriving DecidableEq, Repr

/-- A specification. `kind` is its last letter. -/
structure Spec where
  fill : Char
  align : Option Alignment
  sign : Option SignStyle
  positiveZero : Bool
  alternate : Bool
  width : Option Nat
  grouping : Option Char
  precision : Option Nat
  kind : Option Char
  deriving DecidableEq, Repr

/-- A fault of a specification or of a value under it. -/
def bad (text : String) : Fault := .plain .badValue text

namespace Spec

def alignmentOf? (c : Char) : Option Alignment :=
  if c = '<' then some .left
  else if c = '>' then some .right
  else if c = '^' then some .centre
  else if c = '=' then some .inner
  else none

def signOf? (c : Char) : Option SignStyle :=
  if c = '-' then some .plain
  else if c = '+' then some .always
  else if c = ' ' then some .blank
  else none

/-- The greatest number that a specification may hold. -/
def greatest : Nat := Nat.pow 2 63 - 1

/-- A number at the front, if there is one. -/
def readNumber (s : List Char) : Except Fault (Option Nat × List Char) :=
  let ds := s.takeWhile fun c => (Text.digitValue? c).isSome
  if ds.isEmpty then .ok (none, s)
  else
    let n := (ds.filterMap Text.digitValue?).foldl (fun n d => n * 10 + d) 0
    if greatest < n then .error (bad "Too many decimal digits in format string")
    else .ok (some n, s.drop ds.length)

/-- A character at the front, if it is there. -/
def flag (c : Char) (s : List Char) : Bool × List Char :=
  match s with
  | d :: rest => if d = c then (true, rest) else (false, s)
  | [] => (false, s)

/-- Fill and alignment at the front. -/
def filling (s : List Char) : Option Char × Option Alignment × List Char :=
  match s with
  | c :: d :: rest =>
    match alignmentOf? d, alignmentOf? c with
    | some a, _ => (some c, some a, rest)
    | none, some a => (none, some a, d :: rest)
    | none, none => (none, none, s)
  | [c] =>
    match alignmentOf? c with
    | some a => (none, some a, [])
    | none => (none, none, s)
  | [] => (none, none, [])

/-- The divider of groups at the front; there is one kind at most. -/
def readGrouping (s : List Char) : Except Fault (Option Char × List Char) :=
  match s with
  | ',' :: '_' :: _ => .error (bad "Cannot specify both ',' and '_'.")
  | '_' :: ',' :: _ => .error (bad "Cannot specify both ',' and '_'.")
  | ',' :: rest => .ok (some ',', rest)
  | '_' :: rest => .ok (some '_', rest)
  | s => .ok (none, s)

/-- The number behind a point at the front. -/
def readPrecision (s : List Char) : Except Fault (Option Nat × List Char) :=
  match s with
  | '.' :: rest => do
    match ← readNumber rest with
    | (none, _) => .error (bad "Format specifier missing precision")
    | r => .ok r
  | s => .ok (none, s)

/-- Whether numbers of a kind can be divided into groups. -/
def mayGroup (divider : Char) (kind : Option Char) : Bool :=
  match kind with
  | none => true
  | some k =>
    "defgEG%F".toList.contains k || (divider = '_' && "boxX".toList.contains k)

/-- Reads a specification. For a number a zero before the width fills up between sign and digits, and
there may be groups of digits. -/
def parse (forNumber : Bool) (s : List Char) : Except Fault Spec := do
  let (fill, align, s) := filling s
  let (sign, s) := match s with
    | c :: rest => match signOf? c with
      | some g => (some g, rest)
      | none => (none, s)
    | [] => (none, s)
  let (positiveZero, s) := flag 'z' s
  let (alternate, s) := flag '#' s
  let (zero, s) := if fill.isNone then flag '0' s else (false, s)
  let align := if zero && align.isNone && forNumber then some .inner else align
  let fill := if zero then some '0' else fill
  let (width, s) ← readNumber s
  let (grouping, s) ← readGrouping s
  let (precision, s) ← readPrecision s
  let kind ← match s with
    | [] => .ok none
    | [k] => .ok (some k)
    | _ => .error (bad "Invalid format specifier")
  match grouping with
  | some g =>
    if forNumber && mayGroup g kind then .ok ()
    else .error (bad "Cannot specify a divider with this kind.")
  | none => .ok ()
  .ok
    { fill := fill.getD ' ', align, sign, positiveZero, alternate, width, grouping, precision, kind }

/-- Puts filling around a text. -/
def pad (spec : Spec) (usual : Alignment) (lead body : List Char) : List Char :=
  let missing := spec.width.getD 0 - (lead.length + body.length)
  let filling (n : Nat) := List.replicate n spec.fill
  match spec.align.getD usual with
  | .left => lead ++ body ++ filling missing
  | .right => filling missing ++ lead ++ body
  | .centre => filling (missing / 2) ++ lead ++ body ++ filling (missing - missing / 2)
  | .inner => lead ++ filling missing ++ body

/-- Lays out a text. -/
def formatText (spec : Spec) (s : List Char) : Except Fault (List Char) :=
  if spec.kind.any (· ≠ 's') then .error (bad "Unknown format code for a text")
  else if spec.sign.isSome ∨ spec.positiveZero ∨ spec.alternate ∨ spec.align = some .inner then
    .error (bad "Not allowed in string format specifier")
  else .ok (spec.pad .left [] (match spec.precision with
    | some n => s.take n
    | none => s))

/-- Digits, given in reverse, in groups of a size, filled up with zeros to a length; in reverse. -/
def groupReversed (size : Nat) (divider : Char) : Nat → Nat → List Char → List Char
  | 0, _, ds => ds
  | fuel + 1, least, ds =>
    let count := min size (max (max ds.length least) 1)
    let group := ds.take count
    let group := group ++ List.replicate (count - group.length) '0'
    let rest := ds.drop count
    if rest.isEmpty ∧ least ≤ count then group
    else group ++ divider :: groupReversed size divider fuel (least - count - 1) rest

/-- Digits in groups, filled up with zeros to a length. -/
def grouped (spec : Spec) (least : Nat) (ds : List Char) : List Char :=
  match spec.grouping with
  | some divider =>
    let size := if spec.kind.any fun k => "boxX".toList.contains k then 4 else 3
    (groupReversed size divider (ds.length + least + 1) least ds.reverse).reverse
  | none => List.replicate (least - ds.length) '0' ++ ds

/-- The sign of a number as it is shown. -/
def signText (spec : Spec) (negative : Bool) : List Char :=
  if negative then ['-']
  else
    match spec.sign with
    | some .always => ['+']
    | some .blank => [' ']
    | _ => []

/-- Lays out a number of which sign, lead, digits and what follows them are given. -/
def formatParts (spec : Spec) (negative : Bool) (lead digits rest : List Char) : List Char :=
  let lead := spec.signText negative ++ lead
  let fillsZeros := spec.fill = '0' ∧ spec.align = some .inner
  let least := if fillsZeros then spec.width.getD 0 - lead.length - rest.length else 0
  let digits := if digits.isEmpty then [] else spec.grouped least digits
  spec.pad .right lead (digits ++ rest)

/-- The base of a kind of integer. -/
def baseOf (kind : Option Char) : Nat :=
  match kind with
  | some 'b' => 2
  | some 'o' => 8
  | some 'x' => 16
  | some 'X' => 16
  | _ => 10

def upper (s : List Char) : List Char := s.map Char.toUpper

/-- The fault of an integer that has too many digits for a text. -/
def overlong : Fault := .plain .badValue "Exceeds the limit (4300 digits) for integer string conversion"

/-- The kinds of numbers with a point. -/
def isRealKind (c : Char) : Bool := "eEfFgG%".toList.contains c

/-- Lays out an integer of a kind that has no point. -/
def formatWhole (spec : Spec) (n : Int) : Except Fault (List Char) :=
  if spec.precision.isSome ∨ spec.positiveZero then
    .error (bad "Precision not allowed in integer format specifier")
  else
    match spec.kind with
    | some 'c' =>
      if spec.sign.isSome ∨ spec.alternate then .error (bad "Sign not allowed with integer")
      else if 0 ≤ n ∧ n ≤ 0x10FFFF then
        .ok (spec.formatParts false [] [] [Json.unitChar n.toNat])
      else .error (.plain .overflow "%c arg not in range(0x110000)")
    | kind =>
      if kind.all fun k => "bcdoxXn".toList.contains k then
        let base := baseOf kind
        let digits := Nat.toDigits base n.natAbs
        let lead := match kind with
          | some k => if spec.alternate && base ≠ 10 then ['0', k] else []
          | none => []
        let digits := if kind = some 'X' then upper digits else digits
        if base = 10 ∧ Json.maxDigits < digits.length then .error overlong
        else .ok (spec.formatParts (n < 0) lead digits [])
      else .error (bad "Unknown format code for an integer")

/-- Digits with a point before the last so many. -/
def withPoint (ds : List Char) (count : Nat) (alternate : Bool) : List Char :=
  let ds := List.replicate (count + 1 - ds.length) '0' ++ ds
  let whole := ds.take (ds.length - count)
  if count = 0 then if alternate then whole ++ ['.'] else whole
  else whole ++ '.' :: ds.drop (ds.length - count)

/-- A quotient with a fixed number of places. -/
def fixedText (num den count : Nat) (alternate : Bool) : List Char :=
  withPoint (decimalDigits (Rounded.places num den count)) count alternate

/-- The first digits of a quotient, all of them shown, and the place of its point. -/
def leadingDigits (num den count : Nat) : List Char × Int :=
  if num = 0 then (List.replicate count '0', 1)
  else
    let (d, point) := Rounded.leading num den count
    (decimalDigits d, point)

/-- A quotient with an exponent and so many digits behind the point. -/
def exponentText (num den count : Nat) (alternate : Bool) : List Char :=
  let (ds, point) := leadingDigits num den (count + 1)
  let mantissa := match ds with
    | [] => []
    | d :: rest => d :: (if rest.isEmpty then (if alternate then ['.'] else []) else '.' :: rest)
  mantissa ++ 'e' :: Layout.exponentText (point - 1)

/-- A number with a point before its exponent or end, if that is asked for and there is none. -/
def pointed (alternate : Bool) (text : List Char) : List Char :=
  if alternate && !text.contains '.' then
    text.takeWhile (· ≠ 'e') ++ '.' :: text.dropWhile (· ≠ 'e')
  else text

/-- A quotient with so many leading digits, laid out by its size. `whole` asks for a digit behind
the point. -/
def generalText (num den count : Nat) (alternate whole : Bool) : List Char :=
  let count := max count 1
  let (ds, point) := leadingDigits num den count
  let ds := if alternate then ds else
    match Rounded.stripZeros ds with
    | [] => ['0']
    | ds => ds
  let highest : Int := if whole then (count : Int) - 1 else count
  pointed alternate ((Layout.mk (-3) highest whole).write ds point)

/-- The text of a positive double of a kind, without its sign. -/
def realText (spec : Spec) (x : Binary64) (num den : Nat) : List Char :=
  match spec.kind, spec.precision with
  | none, none =>
    pointed spec.alternate (Binary64.ofMagnitude false (x.bits.toNat % Nat.pow 2 63)).text
  | none, some p => generalText num den p spec.alternate true
  | some k, p =>
    let p := p.getD 6
    if k = 'f' ∨ k = 'F' ∨ k = '%' then fixedText num den p spec.alternate
    else if k = 'e' ∨ k = 'E' then exponentText num den p spec.alternate
    else generalText num den p spec.alternate false

/-- Lays out a double. -/
def formatReal (spec : Spec) (x : Binary64) : Except Fault (List Char) :=
  if spec.kind.all fun k => isRealKind k || k = 'n' then
    let x := if spec.kind = some '%' then
        match x.ratio? with
        | some (s, n, d) => Binary64.ofRatio s (n * 100) d
        | none => x
      else x
    let body := match x.ratio? with
      | some (_, num, den) => spec.realText x num den
      | none => if x.isNaN then "nan".toList else "inf".toList
    let negative := x.isNegative && !x.isNaN
      && !(spec.positiveZero && body.all fun c => !c.isDigit || c = '0')
    let body := if spec.kind = some '%' then body ++ ['%'] else body
    let body := if spec.kind.any Char.isUpper then upper body else body
    let digits := body.takeWhile Char.isDigit
    .ok (spec.formatParts negative [] digits (body.drop digits.length))
  else .error (bad "Unknown format code for a float")

/-- Lays out an integer. -/
def formatInt (spec : Spec) (n : Int) : Except Fault (List Char) :=
  if spec.kind.any isRealKind then
    let x := Binary64.ofInt n
    if x.ratio?.isNone then .error (.plain .overflow "int too large to convert to float")
    else spec.formatReal x
  else spec.formatWhole n

end Spec

end LspHost.Template
