import LspHost.Datum
import LspHost.Protocol.Message
import LspHost.Template.Spec

/-!
Templates: texts with fields in braces that are filled with named values.

A field is a name with parts of the value behind it, then perhaps a conversion behind an exclamation
mark, then perhaps a specification behind a colon, which may hold fields itself. Doubled braces
stand for one brace.
-/

namespace LspHost.Template

/-- A field as it is written. -/
structure Field where
  name : List Char
  conversion : Option Char
  spec : List Char
  deriving DecidableEq, Repr

/-- The name of a field and the character that ends it; between square brackets nothing does. -/
def fieldName : Bool → List Char → List Char → Except Fault (List Char × Char × List Char)
  | _, _, [] => .error (bad "expected '\x7d' before end of string")
  | true, out, c :: rest => fieldName (c ≠ ']') (c :: out) rest
  | false, out, c :: rest =>
    if c = '{' then .error (bad "unexpected '\x7b' in field name")
    else if c = '}' ∨ c = ':' ∨ c = '!' then .ok (out.reverse, c, rest)
    else fieldName (c = '[') (c :: out) rest

/-- A specification up to the brace that closes its field; `depth` braces are open besides. -/
def fieldSpec : Nat → List Char → List Char → Except Fault (List Char × List Char)
  | _, _, [] => .error (bad "unmatched '\x7b' in format spec")
  | depth, out, c :: rest =>
    if c = '}' then
      match depth with
      | 0 => .ok (out.reverse, rest)
      | depth + 1 => fieldSpec depth (c :: out) rest
    else fieldSpec (if c = '{' then depth + 1 else depth) (c :: out) rest

/-- A field behind its opening brace, and what follows it. -/
def readField (s : List Char) : Except Fault (Field × List Char) := do
  let (name, last, rest) ← fieldName false [] s
  if last = '}' then .ok (⟨name, none, []⟩, rest)
  else if last = ':' then
    let (spec, rest) ← fieldSpec 0 [] rest
    .ok (⟨name, none, spec⟩, rest)
  else
    match rest with
    | [] => .error (bad "end of string while looking for conversion specifier")
    | c :: '}' :: rest => .ok (⟨name, some c, []⟩, rest)
    | c :: ':' :: rest =>
      let (spec, rest) ← fieldSpec 0 [] rest
      .ok (⟨name, some c, spec⟩, rest)
    | [_] => .error (bad "unmatched '\x7b' in format spec")
    | _ => .error (bad "expected ':' after conversion specifier")

/-- What a template asks for: a part of a value, by name or by key. -/
inductive Part where
  | named (name : List Char)
  | item (key : List Char)
  deriving DecidableEq, Repr

/-- The number that digits write, if they are nothing else. -/
def index? (s : List Char) : Except Fault (Option Nat) :=
  if s.isEmpty ∨ s.any fun c => (Text.digitValue? c).isNone then .ok none
  else do .ok (← Spec.readNumber s).1

/-- The first of the parts behind the name of a field, and those after it. -/
def nextPart (s : List Char) : Except Fault (Part × List Char) :=
  match s with
  | '.' :: rest =>
    let name := rest.takeWhile fun c => c ≠ '.' ∧ c ≠ '['
    if name.isEmpty then .error (bad "Empty attribute in format string")
    else .ok (.named name, rest.drop name.length)
  | '[' :: rest =>
    let key := rest.takeWhile (· ≠ ']')
    if key.length = rest.length then .error (bad "Missing ']' in format string")
    else if key.isEmpty then .error (bad "Empty attribute in format string")
    else .ok (.item key, rest.drop (key.length + 1))
  | _ => .error (bad "Only '.' or '[' may follow ']' in format field specifier")

/-- What a field shows: a value, or the kind of one. -/
inductive Shown where
  | value (v : Json)
  | kindOf (v : Json)
  deriving DecidableEq

def wrongType (text : String) : Fault := .plain .wrongType text

/-- A named part of what is shown: its kind, or a part of a whole number. -/
def named (name : List Char) : Shown → Except Fault Shown
  | .kindOf v =>
    if name = "__name__".toList then .ok (.value (.str v.kind))
    else .error (.plain .missingAttribute "no such attribute")
  | .value v =>
    let whole? : Option Int := match v with
      | .int n => some n
      | .bool b => some (if b then 1 else 0)
      | _ => none
    if name = "__class__".toList then .ok (.kindOf v)
    else
      match whole?, String.ofList name with
      | some n, "real" => .ok (.value (.int n))
      | some n, "numerator" => .ok (.value (.int n))
      | some _, "imag" => .ok (.value (.int 0))
      | some _, "denominator" => .ok (.value (.int 1))
      | _, _ => .error (.plain .missingAttribute "no such attribute")

/-- An item of what is shown: by number in lists and texts, by name in objects. -/
def item (key : List Char) (s : Shown) : Except Fault Shown := do
  let index ← index? key
  match s, index with
  | .value (.str t), some i =>
    match t.toList[i]? with
    | some c => .ok (.value (.str (String.singleton c)))
    | none => .error (.plain .outOfRange "string index out of range")
  | .value (.arr items), some i =>
    match items[i]? with
    | some v => .ok (.value v)
    | none => .error (.plain .outOfRange "list index out of range")
  | .value (.obj members), none =>
    match Members.get? members (String.ofList key) with
    | some v => .ok (.value v)
    | none => .error (.plain .unknownKey "no such key")
  | .value (.obj _), some _ => .error (.plain .unknownKey "no such key")
  | _, _ => .error (wrongType "object is not subscriptable")

def part (s : Shown) : Part → Except Fault Shown
  | .named name => named name s
  | .item key => item key s

/-- Follows the parts behind a name one by one, so that the first fault wins. The fuel is the length
of their text. -/
def follow : Nat → List Char → Shown → Except Fault Shown
  | 0, _, s => .ok s
  | _, [], s => .ok s
  | fuel + 1, rest, s => do
    let (p, rest) ← nextPart rest
    follow fuel rest (← part s p)

/-- What a field names among the values. Numbered and nameless fields have no value. -/
def resolve (values : Members) (name : List Char) : Except Fault Shown := do
  let first := name.takeWhile fun c => c ≠ '.' ∧ c ≠ '['
  let index ← index? first
  if first.isEmpty ∨ index.isSome then
    .error (.plain .outOfRange "Replacement index out of range for positional args tuple")
  else
    match Members.get? values (String.ofList first) with
    | none => .error (.plain .unknownKey "no such value")
    | some v => follow name.length (name.drop first.length) (.value v)

def Shown.display : Shown → List Char
  | .value v => v.display
  | .kindOf v => "<class '".toList ++ v.kind.toList ++ "'>".toList

def Shown.literal : Shown → List Char
  | .value v => (Datum.ofJson v).literal
  | s => s.display

/-- A character as ASCII, by its number if need be. -/
def asciiChar (c : Char) : List Char :=
  if c.toNat < 0x80 then [c]
  else if c.toNat < 0x100 then '\\' :: 'x' :: Text.hexDigits 2 c.toNat
  else if c.toNat < 0x10000 then '\\' :: 'u' :: Text.hexDigits 4 c.toNat
  else '\\' :: 'U' :: Text.hexDigits 8 c.toNat

/-- Whether each number in what a field shows is short enough for a text of it. -/
def Shown.isWritable : Shown → Bool
  | .value v => (Datum.ofJson v).isWritable
  | .kindOf _ => true

/-- A text of what a field shows, if there can be one. -/
def Shown.text (write : Shown → List Char) (s : Shown) : Except Fault (List Char) :=
  if s.isWritable then .ok (write s) else .error Spec.overlong

/-- What a conversion makes of a value. -/
def convert (s : Shown) (conversion : Option Char) : Except Fault Shown :=
  let toText (write : Shown → List Char) : Except Fault Shown :=
    (s.text write).map fun t => .value (.str (String.ofList t))
  match conversion with
  | none => .ok s
  | some 's' => toText Shown.display
  | some 'r' => toText Shown.literal
  | some 'a' => toText fun s => s.literal.flatMap asciiChar
  | some _ => .error (bad "Unknown conversion specifier")

/-- A value laid out by a specification; values without a layout of their own take none. -/
def render (s : Shown) (spec : List Char) : Except Fault (List Char) :=
  if spec.isEmpty then s.text Shown.display
  else
    match s with
    | .value (.str t) => do (← Spec.parse false spec).formatText t.toList
    | .value (.int n) => do (← Spec.parse true spec).formatInt n
    | .value (.bool b) => do (← Spec.parse true spec).formatInt (if b then 1 else 0)
    | .value (.float x) => do (← Spec.parse true spec).formatReal x
    | _ => .error (wrongType "unsupported format string")

/-- Fills a template, collected in reverse; `expand` fills the fields of specifications. The fuel is
the length of the template. -/
def fillFrom (values : Members) (expand : List Char → Except Fault (List Char)) :
    Nat → List (List Char) → List Char → Except Fault (List Char)
  | 0, out, _ => .ok out.reverse.flatten
  | fuel + 1, out, s =>
    match s with
    | [] => .ok out.reverse.flatten
    | '{' :: '{' :: rest => fillFrom values expand fuel (['{'] :: out) rest
    | '}' :: '}' :: rest => fillFrom values expand fuel (['}'] :: out) rest
    | '}' :: _ => .error (bad "Single '\x7d' encountered in format string")
    | ['{'] => .error (bad "Single '\x7b' encountered in format string")
    | '{' :: rest =>
      match readField rest with
      | .error f => .error f
      | .ok (field, rest) =>
        let shown := do
          let v ← convert (← resolve values field.name) field.conversion
          render v (← if field.spec.contains '{' then expand field.spec else .ok field.spec)
        match shown with
        | .error f => .error f
        | .ok text => fillFrom values expand fuel (text :: out) rest
    | c :: rest => fillFrom values expand fuel ([c] :: out) rest

/-- Fills a template with values. Fields may hold fields, but not those others. -/
def fill (values : Members) (template : List Char) : Except Fault (List Char) :=
  let tooDeep (_ : List Char) : Except Fault (List Char) := .error (bad "Max string recursion exceeded")
  let inner (s : List Char) := fillFrom values tooDeep s.length [] s
  fillFrom values inner template.length [] template

end LspHost.Template
