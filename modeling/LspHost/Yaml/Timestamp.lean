import LspHost.Datum
import LspHost.Json.Parser

/-!
Dates and points in time as YAML writes them: `2001-12-14`, or with the time of day behind the date,
a fraction of a second and the distance from universal time.
-/

namespace LspHost.Yaml

/-- The distance from universal time as it is written. -/
inductive Zone where
  | universal
  | offset (negative : Bool) (hours minutes : Nat)
  deriving DecidableEq, Repr

/-- The time of day as it is written. -/
structure Clock where
  hour : Nat
  minute : Nat
  second : Nat
  fraction : List Char
  zone : Option Zone
  deriving DecidableEq, Repr

/-- A date as it is written, with the time of day if there is one. `full` tells whether month and
day have two digits each. -/
structure Timestamp where
  year : Nat
  month : Nat
  day : Nat
  full : Bool
  clock : Option Clock
  deriving DecidableEq, Repr

/-- A number of at least so many digits and at most so many. -/
def digits? (least most : Nat) (s : List Char) : Option (List Char × List Char) :=
  let ds := (s.take most).takeWhile Char.isDigit
  if least ≤ ds.length then some (ds, s.drop ds.length) else none

/-- A number of so many digits behind a character. -/
def digitsAfter? (c : Char) (least most : Nat) : List Char → Option (List Char × List Char)
  | d :: rest => if d = c then digits? least most rest else none
  | [] => none

/-- Whether a text is at its end, where a line feed may stand. -/
def isOver (s : List Char) : Bool := s = [] ∨ s = ['\n']

/-- The distance from universal time at the end of a text. -/
def zone? (s : List Char) : Option (Option Zone) :=
  if isOver s then some none
  else
    match s.dropWhile fun c => c = ' ' ∨ c = '\t' with
    | 'Z' :: rest => if isOver rest then some (some .universal) else none
    | c :: rest =>
      if c = '-' ∨ c = '+' then do
        let (hours, rest) ← digits? 1 2 rest
        let (minutes, rest) := (digitsAfter? ':' 2 2 rest).getD ([], rest)
        if isOver rest then
          some (some (.offset (c = '-') (Json.digitsValue hours) (Json.digitsValue minutes)))
        else none
      else none
    | [] => none

/-- The time of day at the end of a text. -/
def clock? (s : List Char) : Option Clock := do
  let s ← match s with
    | 'T' :: rest => some rest
    | 't' :: rest => some rest
    | c :: rest =>
      if c = ' ' ∨ c = '\t' then some (rest.dropWhile fun c => c = ' ' ∨ c = '\t') else none
    | [] => none
  let (hour, s) ← digits? 1 2 s
  let (minute, s) ← digitsAfter? ':' 2 2 s
  let (second, s) ← digitsAfter? ':' 2 2 s
  let (fraction, s) := (digitsAfter? '.' 0 s.length s).getD ([], s)
  let zone ← zone? s
  some ⟨Json.digitsValue hour, Json.digitsValue minute, Json.digitsValue second, fraction, zone⟩

/-- The date and time that a text writes. -/
def Timestamp.ofText? (s : List Char) : Option Timestamp := do
  let (year, s) ← digits? 4 4 s
  let (month, s) ← digitsAfter? '-' 1 2 s
  let (day, s) ← digitsAfter? '-' 1 2 s
  let full := month.length = 2 && day.length = 2
  let clock ← if isOver s then some none else (clock? s).map some
  some ⟨Json.digitsValue year, Json.digitsValue month, Json.digitsValue day, full, clock⟩

/-- The days of a month. -/
def daysIn (year month : Nat) : Nat :=
  if month = 2 then
    if (year % 4 = 0 ∧ year % 100 ≠ 0) ∨ year % 400 = 0 then 29 else 28
  else if month = 4 ∨ month = 6 ∨ month = 9 ∨ month = 11 then 30
  else 31

/-- The distance from universal time in microseconds, which is less than a day. -/
def Zone.micros? : Zone → Option Int
  | .universal => some 0
  | .offset negative hours minutes =>
    let n := hours * 60 + minutes
    let micros : Int := (n * 60000000 : Nat)
    if n < 24 * 60 then some (if negative then -micros else micros) else none

/-- The millionths of a second that the digits of a fraction write. -/
def micros (fraction : List Char) : Nat :=
  let ds := fraction.take 6
  Json.digitsValue (ds ++ List.replicate (6 - ds.length) '0')

/-- The date or point in time, if there is such a one. -/
def Timestamp.toDatum? (t : Timestamp) : Option Datum :=
  if t.year = 0 ∨ t.month = 0 ∨ 12 < t.month ∨ t.day = 0 ∨ daysIn t.year t.month < t.day then none
  else
    match t.clock with
    | none => some (.date t.year t.month t.day)
    | some c =>
      if 23 < c.hour ∨ 59 < c.minute ∨ 59 < c.second then none
      else do
        let offset ← match c.zone with
          | none => some none
          | some z => z.micros?.map some
        some (.moment
          ⟨t.year, t.month, t.day, c.hour, c.minute, c.second, micros c.fraction, offset⟩)

end LspHost.Yaml
