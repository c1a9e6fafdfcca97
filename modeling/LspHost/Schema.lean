import LspHost.Json.Parser
import LspHost.Text.Blank

/-!
Reading the fields of a model from the members of an object.

Each field is read on its own; `Checked` collects the names of all fields that do not fit, in the
model's order, so that a report names every fault at once. The readers are lenient with integers
(truth values, whole floating-point numbers and decimal texts count) and strict with texts.
-/

namespace LspHost

/-- A value that does not fit a model: the model's name and the fields at fault, in its order. -/
structure Misfit where
  model : String
  fields : List String
  deriving DecidableEq, Repr

/-- A value, or the names of the fields that kept it from being built. -/
abbrev Checked (α : Type) := Except (List String) α

namespace Checked

/-- A value without faults. -/
def start {α : Type} (a : α) : Checked α := .ok a

/-- Applies a checked function to a checked value, keeping the faults of both. -/
def ap {α β : Type} : Checked (α → β) → Checked α → Checked β
  | .ok f, .ok a => .ok (f a)
  | .ok _, .error e => .error e
  | .error e, .ok _ => .error e
  | .error e, .error d => .error (e ++ d)

/-- Reports the collected faults as those of a model. -/
def under {α : Type} (model : String) : Checked α → Except Misfit α
  | .ok a => .ok a
  | .error fields => .error ⟨model, fields⟩

end Checked

namespace Schema

/-- A field that must be there. -/
def required {α : Type} (m : Members) (name : String) (read : Json → Option α) : Checked α :=
  match (m.get? name).bind read with
  | some a => .ok a
  | none => .error [name]

/-- A field that may be left out, in which case it has a given value. -/
def withDefault {α : Type} (m : Members) (name : String) (read : Json → Option α) (other : α) :
    Checked α :=
  match m.get? name with
  | none => .ok other
  | some v =>
    match read v with
    | some a => .ok a
    | none => .error [name]

/-- Reads `null` as the absence of a value. -/
def nullable {α : Type} (read : Json → Option α) : Json → Option (Option α)
  | .null => some none
  | v => (read v).map some

/-- A field that may be left out or null. -/
def optional {α : Type} (m : Members) (name : String) (read : Json → Option α) :
    Checked (Option α) :=
  withDefault m name (nullable read) none

/-- A text, and nothing else. -/
def text? : Json → Option String
  | .str s => some s
  | _ => none

/-- Any value. -/
def any? : Json → Option Json := some

/-- The members of an object. -/
def members? : Json → Option Members
  | .obj m => some m
  | _ => none

/-- Every item of a list, if each can be read. -/
def each? {α : Type} (read : Json → Option α) : List Json → Option (List α)
  | [] => some []
  | v :: rest =>
    match read v, each? read rest with
    | some a, some as => some (a :: as)
    | _, _ => none

/-- A list, each item read alike. -/
def list? {α : Type} (read : Json → Option α) : Json → Option (List α)
  | .arr items => each? read items
  | _ => none

/-- An object whose members are all texts. -/
def texts? : Json → Option (List (String × String))
  | .obj m => m.mapM fun p => (text? p.2).map fun s => (p.1, s)
  | _ => none

/-- A blank of the kind that may surround a number in a text: blanks but the four separators. -/
def isNumberBlank (c : Char) : Bool :=
  Text.isBlank c && !(28 ≤ c.toNat && c.toNat ≤ 31)

/-- The digits from the first one that is not zero on, for a text that starts with a zero. Zeros and
underscores are skipped; before a point or at the end the last character skipped stays. -/
def dropZeros (last : Char) : List Char → Option (List Char)
  | [] => some [last]
  | c :: cs =>
    if c = '0' ∨ c = '_' then dropZeros c cs
    else if c = '.' then some (last :: c :: cs)
    else if c.isDigit then some (c :: cs)
    else none

/-- The text of a number without a leading plus sign and leading zeros. -/
def withoutLead (s : List Char) : Option (List Char) :=
  let s := match s with
    | '+' :: '-' :: _ => []
    | '+' :: rest => rest
    | rest => rest
  match s with
  | '0' :: rest => dropZeros '0' rest
  | '-' :: rest => some ('-' :: rest)
  | c :: rest => if c.isDigit then some (c :: rest) else none
  | [] => none

/-- The text of a number without a point and the zeros after it, of which there must be one. -/
def withoutZeroFraction (s : List Char) : List Char :=
  match s.span (· ≠ '.') with
  | (whole, '.' :: zeros) => if !zeros.isEmpty && zeros.all (· = '0') then whole else s
  | _ => s

/-- Whether two underscores follow each other. -/
def hasDoubleUnderscore : List Char → Bool
  | '_' :: '_' :: _ => true
  | _ :: rest => hasDoubleUnderscore rest
  | [] => false

/-- The text of a number without its underscores, none of which may stand at an end or double. -/
def withoutUnderscores (s : List Char) : Option (List Char) :=
  if s.head? = some '_' ∨ s.getLast? = some '_' ∨ hasDoubleUnderscore s then none
  else some (s.filter (· ≠ '_'))

/-- An integer without leading zeros. -/
def plainInteger? (s : List Char) : Option Int :=
  let (negative, ds) := match s with
    | '-' :: rest => (true, rest)
    | rest => (false, rest)
  if ds.isEmpty || !ds.all Char.isDigit || (ds.head? = some '0' && ds.length ≠ 1) then none
  else
    let n : Int := Json.digitsValue ds
    some (if negative then -n else n)

/-- The integer that a text writes. -/
def integerText? (s : List Char) : Option Int := do
  let trimmed := ((s.dropWhile isNumberBlank).reverse.dropWhile isNumberBlank).reverse
  if Json.maxDigits < trimmed.length then none
  else
    let s ← withoutLead trimmed
    let s ← withoutUnderscores (withoutZeroFraction s)
    plainInteger? s

/-- An integer: as such, as a truth value, as a whole floating-point number of less than `2 ^ 63` in
size, or as a text. -/
def integer? : Json → Option Int
  | .int n => some n
  | .bool b => some (if b then 1 else 0)
  | .float x =>
    match x.toInt? with
    | some n => if n.natAbs < Nat.pow 2 63 then some n else none
    | none => none
  | .str s => integerText? s.toList
  | _ => none

/-- The value read by the first of two readers, or else by the second. -/
def either? {α : Type} (first second : Json → Option α) (v : Json) : Option α :=
  (first v).or (second v)

example : integerText? " 00_12.00 ".toList = some 12 := by decide +kernel
example : integerText? "1.".toList = none := by decide +kernel

end Schema

/-- How absent fields are written: as null, or not at all. -/
inductive Gaps where
  | shown
  | omitted
  deriving DecidableEq, Repr

namespace Gaps

/-- A field that may be absent. -/
def field (g : Gaps) (name : String) : Option Json → Members
  | some v => [(name, v)]
  | none => match g with
    | .shown => [(name, .null)]
    | .omitted => []

end Gaps

end LspHost
