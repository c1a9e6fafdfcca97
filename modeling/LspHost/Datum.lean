import LspHost.Json.Parser
import LspHost.Text.Quoted

/-!
Values of a configuration file: those of JSON and besides octets, dates, points in time, tuples and
sets, with mappings whose keys are any plain values.

`Datum.literal` writes a value between brackets and quotes, `Datum.display` writes it for people,
which differs for texts alone. `Datum.agrees` is the equality that mappings use for their keys.
-/

namespace LspHost

/-- A point in time; `offset` is the distance from universal time in microseconds, if known. -/
structure Moment where
  year : Nat
  month : Nat
  day : Nat
  hour : Nat
  minute : Nat
  second : Nat
  microsecond : Nat
  offset : Option Int
  deriving DecidableEq, Repr

/-- A value of a configuration file. -/
inductive Datum where
  | null
  | bool (b : Bool)
  | int (n : Int)
  | float (x : Binary64)
  | str (s : String)
  | octets (bytes : List UInt8)
  | date (year month day : Nat)
  | moment (m : Moment)
  | seq (items : List Datum)
  | tuple (items : List Datum)
  | set (items : List Datum)
  | map (entries : List (Datum × Datum))
  /-- A list or a mapping inside itself. -/
  | knot (isMapping : Bool)
  deriving Repr, Inhabited

namespace Datum

mutual

/-- A JSON value as a value of a configuration. -/
def ofJson : Json → Datum
  | .null => .null
  | .bool b => .bool b
  | .int n => .int n
  | .float x => .float x
  | .str s => .str s
  | .arr items => .seq (ofItems items)
  | .obj members => .map (ofMembers members)

def ofItems : List Json → List Datum
  | [] => []
  | a :: rest => ofJson a :: ofItems rest

def ofMembers : List (String × Json) → List (Datum × Datum)
  | [] => []
  | (k, a) :: rest => (.str k, ofJson a) :: ofMembers rest

end

/-- Joins texts with a divider. -/
def join (divider : List Char) : List (List Char) → List Char
  | [] => []
  | [a] => a
  | a :: rest => a ++ divider ++ join divider rest

/-- The decimal text of a natural number, filled with zeros to a width. -/
def padded (size n : Nat) : List Char :=
  let ds := decimalDigits n
  List.replicate (size - ds.length) '0' ++ ds

/-- The literal of a distance from universal time: `utc` for none. -/
def zoneLiteral (offset : Int) : List Char :=
  if offset = 0 then "datetime.timezone.utc".toList
  else
    let day : Int := 86400000000
    let days := Int.fdiv offset day
    let rest := (Int.fmod offset day).toNat
    let part (name : String) (n : Int) : List (List Char) :=
      if n = 0 then [] else [name.toList ++ '=' :: Json.intText n]
    "datetime.timezone(datetime.timedelta(".toList
      ++ join ", ".toList (part "days" days ++ part "seconds" (rest / 1000000 : Nat)
        ++ part "microseconds" (rest % 1000000 : Nat))
      ++ "))".toList

/-- The literal of a point in time: seconds and microseconds are left out when zero, from the end. -/
def momentLiteral (m : Moment) : List Char :=
  let tail :=
    if m.microsecond ≠ 0 then [m.second, m.microsecond]
    else if m.second ≠ 0 then [m.second] else []
  let fields := ([m.year, m.month, m.day, m.hour, m.minute] ++ tail).map decimalDigits
  let zone := match m.offset with
    | some o => ["tzinfo=".toList ++ zoneLiteral o]
    | none => []
  "datetime.datetime(".toList ++ join ", ".toList (fields ++ zone) ++ [')']

mutual

/-- The literal of a value. -/
def literal : Datum → List Char
  | .null => "None".toList
  | .bool b => if b then "True".toList else "False".toList
  | .int n => Json.intText n
  | .float x => x.text
  | .str s => Text.quoted s.toList
  | .octets b => Text.quotedOctets b
  | .date y m d =>
    "datetime.date(".toList ++ join ", ".toList ([y, m, d].map decimalDigits) ++ [')']
  | .moment m => momentLiteral m
  | .seq items => '[' :: literals items ++ [']']
  | .tuple items =>
    match items with
    | [] => "()".toList
    | [a] => '(' :: literal a ++ ",)".toList
    | a :: rest => '(' :: literals (a :: rest) ++ [')']
  | .set items =>
    match items with
    | [] => "set()".toList
    | a :: rest => '{' :: literals (a :: rest) ++ ['}']
  | .map entries => '{' :: entryLiterals entries ++ ['}']
  | .knot isMapping => if isMapping then "\x7b...\x7d".toList else "[...]".toList

def literals : List Datum → List Char
  | [] => []
  | [a] => literal a
  | a :: rest => literal a ++ ", ".toList ++ literals rest

def entryLiterals : List (Datum × Datum) → List Char
  | [] => []
  | [(k, a)] => literal k ++ ": ".toList ++ literal a
  | (k, a) :: rest =>
    literal k ++ ": ".toList ++ literal a ++ ", ".toList ++ entryLiterals rest

end

/-- The text of a distance from universal time: `+hh:mm`, with seconds if there are any. -/
def zoneText (offset : Int) : List Char :=
  let size := offset.natAbs
  let seconds := size / 1000000
  let tail := if seconds % 60 ≠ 0 ∨ size % 1000000 ≠ 0 then ':' :: padded 2 (seconds % 60) else []
  let micro := if size % 1000000 ≠ 0 then '.' :: padded 6 (size % 1000000) else []
  (if offset < 0 then '-' else '+') :: padded 2 (seconds / 3600)
    ++ ':' :: padded 2 (seconds / 60 % 60) ++ tail ++ micro

def dateText (year month day : Nat) : List Char :=
  padded 4 year ++ '-' :: padded 2 month ++ '-' :: padded 2 day

/-- The text of a point in time: date and time of day with a blank between them. -/
def momentText (m : Moment) : List Char :=
  dateText m.year m.month m.day ++ ' ' :: padded 2 m.hour ++ ':' :: padded 2 m.minute
    ++ ':' :: padded 2 m.second
    ++ (if m.microsecond ≠ 0 then '.' :: padded 6 m.microsecond else [])
    ++ (match m.offset with | some o => zoneText o | none => [])

/-- A value as shown to people: a text stands for itself, dates are written by their parts. -/
def display : Datum → List Char
  | .str s => s.toList
  | .date y m d => dateText y m d
  | .moment m => momentText m
  | v => v.literal

mutual

/-- Whether each number in a value is short enough for a text of it. -/
def isWritable : Datum → Bool
  | .int n => n.natAbs < Nat.pow 10 Json.maxDigits
  | .seq items => allWritable items
  | .tuple items => allWritable items
  | .set items => allWritable items
  | .map entries => entriesWritable entries
  | _ => true

def allWritable : List Datum → Bool
  | [] => true
  | a :: rest => isWritable a && allWritable rest

def entriesWritable : List (Datum × Datum) → Bool
  | [] => true
  | (k, a) :: rest => isWritable k && isWritable a && entriesWritable rest

end

/-- The numeric value of a number or truth value, as a signed ratio. -/
def number? : Datum → Option (Bool × Nat × Nat)
  | .bool b => some (false, if b then 1 else 0, 1)
  | .int n => some (n < 0, n.natAbs, 1)
  | .float x => x.ratio?
  | _ => none

/-- Whether two signed ratios are equal. -/
def ratioEq (a b : Bool × Nat × Nat) : Bool :=
  a.2.1 * b.2.2 = b.2.1 * a.2.2 ∧ (a.1 = b.1 ∨ a.2.1 = 0)

mutual

/-- Whether two values are equal as keys: numbers and truth values by their numeric value, a NaN to
nothing, mappings and sets whatever their order. -/
def agrees : Datum → Datum → Bool
  | .null, .null => true
  | .str a, .str b => a == b
  | .octets a, .octets b => a == b
  | .date a b c, .date x y z => a == x && b == y && c == z
  | .moment a, .moment b => a == b
  | .seq a, .seq b => agreeAll a b
  | .tuple a, .tuple b => agreeAll a b
  | .set a, .set b => a.length == b.length && eachIn a b
  | .map a, .map b => a.length == b.length && eachEntryIn a b
  | .float a, .float b =>
    match a.ratio?, b.ratio? with
    | some r, some s => ratioEq r s
    | _, _ => a == b && !a.isNaN
  | a, b =>
    match a.number?, b.number? with
    | some r, some s => ratioEq r s
    | _, _ => false

def agreeAll : List Datum → List Datum → Bool
  | [], [] => true
  | a :: as, b :: bs => agrees a b && agreeAll as bs
  | _, _ => false

def eachIn : List Datum → List Datum → Bool
  | [], _ => true
  | a :: as, bs => (bs.any fun b => agrees a b) && eachIn as bs

def eachEntryIn : List (Datum × Datum) → List (Datum × Datum) → Bool
  | [], _ => true
  | (k, a) :: as, bs => (bs.any fun b => agrees k b.1 && agrees a b.2) && eachEntryIn as bs

end

theorem agrees_str (a b : String) : agrees (.str a) (.str b) = (a == b) := by
  simp only [agrees]

theorem eq_str_of_agrees {d : Datum} {key : String} (h : agrees d (.str key) = true) : d = .str key := by
  cases d <;> simp_all [agrees, number?]

/-- Whether a value counts as present in a test. -/
def isTruthy : Datum → Bool
  | .null => false
  | .bool b => b
  | .int n => n ≠ 0
  | .float x => !x.isZero
  | .str s => s ≠ ""
  | .octets b => !b.isEmpty
  | .date _ _ _ => true
  | .moment _ => true
  | .seq items => !items.isEmpty
  | .tuple items => !items.isEmpty
  | .set items => !items.isEmpty
  | .map entries => !entries.isEmpty
  | .knot _ => true

/-- Whether a value can be a key: lists, sets and mappings cannot, nor tuples that hold one. -/
def isKey : Datum → Bool
  | .seq _ => false
  | .set _ => false
  | .map _ => false
  | .knot _ => false
  | .tuple items => keysOnly items
  | _ => true
where
  keysOnly : List Datum → Bool
    | [] => true
    | a :: rest => isKey a && keysOnly rest

/-- The entry of a mapping with a text as its key. -/
def entry? (entries : List (Datum × Datum)) (key : String) : Option Datum :=
  (entries.find? fun e => agrees e.1 (.str key)).map Prod.snd

/-- The name of a value's kind. -/
def kind : Datum → String
  | .null => "NoneType"
  | .bool _ => "bool"
  | .int _ => "int"
  | .float _ => "float"
  | .str _ => "str"
  | .octets _ => "bytes"
  | .date _ _ _ => "datetime.date"
  | .moment _ => "datetime.datetime"
  | .seq _ => "list"
  | .tuple _ => "tuple"
  | .set _ => "set"
  | .map _ => "dict"
  | .knot isMapping => if isMapping then "dict" else "list"

/-- Gives a key a value: in its present place if it has one, else at the end. -/
def put : List (Datum × Datum) → Datum → Datum → List (Datum × Datum)
  | [], key, value => [(key, value)]
  | (k, v) :: rest, key, value =>
    if agrees k key then (k, value) :: rest else (k, v) :: put rest key value

end Datum

/-- The text of a JSON value as shown to people. -/
def Json.display (v : Json) : List Char := (Datum.ofJson v).display

end LspHost
