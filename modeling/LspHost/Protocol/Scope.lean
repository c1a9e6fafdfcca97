import LspHost.Fault
import LspHost.Datum
import LspHost.Uri
import LspHost.Text.Glob

/-!
Which documents a client serves: filters on the scheme, the language and the path of a document, and
ordered lists of them, which match if any filter does.
-/

namespace LspHost

/-- A filter on documents; a part that is not set does not matter. -/
structure DocumentFilter where
  scheme : Option String
  language : Option String
  pattern : Option String
  deriving DecidableEq, Repr

namespace DocumentFilter

/-- A text, or octets that are the UTF-8 of one. -/
def textOf? : Datum → Option String
  | .str s => some s
  | .octets b => (Text.Utf8.decode? b).map String.ofList
  | _ => none

/-- A part of a filter, which may be left out or null. -/
def part (entries : List (Datum × Datum)) (name : String) : Checked (Option String) :=
  match Datum.entry? entries name with
  | none => .ok none
  | some .null => .ok none
  | some v =>
    match textOf? v with
    | some s => .ok (some s)
    | none => .error [name]

/-- Whether a key is a text. -/
def isTextKey (e : Datum × Datum) : Bool :=
  match e.1 with
  | .str _ => true
  | _ => false

/-- The filter that the entries of a mapping describe. -/
def ofEntries (entries : List (Datum × Datum)) : Except Fault DocumentFilter :=
  if entries.all isTextKey then
    ((((Checked.start DocumentFilter.mk).ap (part entries "scheme")).ap
      (part entries "language")).ap (part entries "pattern") |>.under "DocumentFilter").mapError
      .misfit
  else .error (.plain .wrongType "keywords must be strings")

/-- The filter that a value describes. -/
def ofDatum : Datum → Except Fault DocumentFilter
  | .map entries => ofEntries entries
  | _ => .error (.plain .wrongType "argument after ** must be a mapping")

/-- The parts of a filter, unset ones left out or null. -/
def toMembers (f : DocumentFilter) (g : Gaps) : Members :=
  g.field "scheme" (f.scheme.map .str) ++ g.field "language" (f.language.map .str)
    ++ g.field "pattern" (f.pattern.map .str)

/-- Whether a set part has a value; an unset one accepts all. -/
def accepts (part : Option String) (test : String → Bool) : Bool :=
  match part with
  | none => true
  | some s => test s

/-- Whether a filter matches a document whose uri has been read. -/
def matchesUri (f : DocumentFilter) (uri : Uri) (languageId : String) : Bool :=
  accepts f.scheme (· == uri.scheme) && accepts f.language (· == languageId)
    && accepts f.pattern fun p => Text.globMatches p.toList (Uri.unescape uri.path.toList)

/-- Whether a filter matches a document. -/
def matchesDocument (f : DocumentFilter) (uri languageId : String) : Except Fault Bool :=
  match Uri.parse? uri with
  | some u => .ok (f.matchesUri u languageId)
  | none => .error (.plain .badValue "Invalid IPv6 URL")

end DocumentFilter

/-- The documents that a client serves: those that some filter matches. -/
abbrev DocumentScope := List DocumentFilter

namespace DocumentScope

/-- The filters that a list of values describes, up to the first value that describes none. -/
def ofItems : List Datum → Except Fault DocumentScope
  | [] => .ok []
  | v :: rest =>
    match DocumentFilter.ofDatum v with
    | .error e => .error e
    | .ok f =>
      match ofItems rest with
      | .error e => .error e
      | .ok fs => .ok (f :: fs)

/-- The items that a value yields when it is gone through: those of a list, tuple or set, the keys
of a mapping, the characters of a text or the octets of octets. -/
def itemsOf? : Datum → Option (List Datum)
  | .seq items => some items
  | .tuple items => some items
  | .set items => some items
  | .map entries => some (entries.map Prod.fst)
  | .str s => some (s.toList.map fun c => .str (String.singleton c))
  | .octets b => some (b.map fun x => .int x.toNat)
  | _ => none

/-- The scope that a value describes. -/
def ofDatum (v : Datum) : Except Fault DocumentScope :=
  match itemsOf? v with
  | some items => ofItems items
  | none => .error (.plain .wrongType "object is not iterable")

/-- Whether a document belongs to a scope. -/
def contains : DocumentScope → String → String → Except Fault Bool
  | [], _, _ => .ok false
  | f :: rest, uri, languageId =>
    match f.matchesDocument uri languageId with
    | .ok true => .ok true
    | .ok false => contains rest uri languageId
    | .error e => .error e

/-- A scope as it is told to a server. -/
def toSelector (s : DocumentScope) : Json :=
  .arr (s.map fun f => .obj (f.toMembers .omitted))

/-- A scope in one line. -/
def format (s : DocumentScope) : String :=
  "DocumentScope(" ++ String.ofList (Datum.ofJson (toSelector s)).literal ++ ")"

/-- The scope of a client that is told nothing else: plain text and TOML in files. -/
def standard : DocumentScope :=
  [⟨some "file", some "plaintext", none⟩, ⟨some "file", some "toml", none⟩]

end DocumentScope

end LspHost
