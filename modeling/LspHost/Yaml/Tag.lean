import LspHost.Text.Split
import LspHost.Yaml.Timestamp

/-!
The tags of YAML: what kind of value a node stands for. A plain scalar without a tag gets one by
its look: `Tag.ofPlain`.
-/

namespace LspHost.Yaml

/-- A kind of value. -/
inductive Tag where
  | null
  | bool
  | int
  | float
  | binary
  | timestamp
  | pairs
  | set
  | str
  | seq
  | map
  /-- The key whose value is merged into the mapping around it. -/
  | merge
  /-- The key of the value that a mapping stands for where a scalar should be. -/
  | standIn
  | unknown
  deriving DecidableEq, Repr

namespace Tag

/-- What the names of the known tags start with. -/
def root : List Char := "tag:yaml.org,2002:".toList

/-- The known tags by name. Ordered mappings are lists of pairs. -/
def names : List (String × Tag) :=
  [("null", .null), ("bool", .bool), ("int", .int), ("float", .float), ("binary", .binary),
    ("timestamp", .timestamp), ("omap", .pairs), ("pairs", .pairs), ("set", .set), ("str", .str),
    ("seq", .seq), ("map", .map), ("merge", .merge), ("value", .standIn)]

/-- The tag of a name. -/
def ofName (name : List Char) : Tag :=
  if root.isPrefixOf name then
    (names.lookup (String.ofList (name.drop root.length))).getD .unknown
  else .unknown

/-- Digits and underscores, of which the first is a digit. -/
def isGrouped (s : List Char) : Bool :=
  (s.head?.any Char.isDigit) && s.all fun c => c.isDigit || c = '_'

/-- Signs of an exponent with its digits, or nothing. -/
def isExponent (s : List Char) : Bool :=
  match s with
  | [] => true
  | e :: sign :: ds =>
    (e = 'e' || e = 'E') && (sign = '-' || sign = '+') && !ds.isEmpty && ds.all Char.isDigit
  | _ => false

/-- Digits and underscores, then perhaps an exponent. -/
def isFraction (s : List Char) : Bool :=
  isExponent (s.dropWhile fun c => c.isDigit || c = '_')

/-- A number below sixty of one or two digits. -/
def isSixtieth : List Char → Bool
  | [a] => a.isDigit
  | [a, b] => '0' ≤ a && a ≤ '5' && b.isDigit
  | _ => false

/-- A text without a sign at its front. -/
def unsigned (s : List Char) : List Char :=
  match s with
  | '-' :: rest => rest
  | '+' :: rest => rest
  | s => s

/-- Whether a text looks like a float. -/
def isFloat (s : List Char) : Bool :=
  let u := unsigned s
  let whole := u.takeWhile (· ≠ '.')
  let tail := u.drop whole.length
  match tail with
  | [] => false
  | _ :: fraction =>
    let special (names : List String) : Bool := names.any fun n => n.toList = fraction
    if whole.isEmpty then
      special ["inf", "Inf", "INF"]
        || (s.head? = some '.'
          && (special ["nan", "NaN", "NAN"]
            || (fraction.head?.any Char.isDigit && isFraction fraction)))
    else
      match Text.splitOn ':' whole with
      | [_] => isGrouped whole && isFraction fraction
      | first :: rest =>
        isGrouped first && rest.all isSixtieth && fraction.all fun c => c.isDigit || c = '_'
      | [] => false

/-- Whether a text looks like an integer. -/
def isInt (s : List Char) : Bool :=
  match unsigned s with
  | ['0'] => true
  | '0' :: 'b' :: ds => !ds.isEmpty && ds.all fun c => c = '0' || c = '1' || c = '_'
  | '0' :: 'x' :: ds => !ds.isEmpty && ds.all fun c => (Json.hexValue? c).isSome || c = '_'
  | '0' :: ds => ds.all fun c => ('0' ≤ c && c ≤ '7') || c = '_'
  | u =>
    match Text.splitOn ':' u with
    | first :: rest => isGrouped first && rest.all isSixtieth
    | [] => false

def boolWords : List String :=
  ["yes", "Yes", "YES", "no", "No", "NO", "true", "True", "TRUE", "false", "False", "FALSE",
    "on", "On", "ON", "off", "Off", "OFF"]

/-- Whether a text looks like a date or a point in time. -/
def isTimestamp (s : List Char) : Bool :=
  match Timestamp.ofText? s with
  | some t => t.full || t.clock.isSome
  | none => false

/-- The tag that a plain scalar without one gets. A line feed at its end does not count. -/
def ofPlain (text : List Char) : Tag :=
  if text = ['\n'] then .str
  else
    let s := if text.getLast? = some '\n' then text.dropLast else text
    if boolWords.any fun w => w.toList = s then .bool
    else if isFloat s then .float
    else if isInt s then .int
    else if s = "<<".toList then .merge
    else if ["", "~", "null", "Null", "NULL"].any fun w => w.toList = s then .null
    else if isTimestamp s then .timestamp
    else if s = ['='] then .standIn
    else if s = ['!'] ∨ s = ['&'] ∨ s = ['*'] then .unknown
    else .str

example : ofPlain "1:30".toList = .int := by decide +kernel
example : ofPlain "1e3".toList = .str := by decide +kernel
example : ofPlain "2001-1-1".toList = .str := by decide +kernel

end Tag

end LspHost.Yaml
