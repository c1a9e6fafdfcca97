import LspHost.Schema

/-!
Semantic tokens: the legend that names their types and modifiers, the relative encoding that servers
send, five integers to a token, and its decoding to absolute places.
-/

namespace LspHost

/-- The names that token types and modifiers stand for. -/
structure Legend where
  tokenTypes : List String
  tokenModifiers : List String
  deriving DecidableEq, Repr

namespace Legend

def ofMembers (m : Members) : Except Misfit Legend :=
  ((Checked.start Legend.mk).ap
    (Schema.withDefault m "tokenTypes" (Schema.list? Schema.text?) [])).ap
    (Schema.withDefault m "tokenModifiers" (Schema.list? Schema.text?) [])
    |>.under "SemanticTokensLegend"

def toMembers (l : Legend) : Members :=
  [("tokenTypes", .arr (l.tokenTypes.map .str)), ("tokenModifiers", .arr (l.tokenModifiers.map .str))]

def toJson (l : Legend) : Json := .obj l.toMembers

end Legend

/-- A token at its absolute place. -/
structure SemanticToken where
  line : Int
  start : Int
  length : Int
  tokenType : String
  modifiers : List String
  deriving DecidableEq, Repr

namespace SemanticToken

def ofMembers (m : Members) : Except Misfit SemanticToken :=
  (((((Checked.start SemanticToken.mk).ap (Schema.required m "line" Schema.integer?)).ap
    (Schema.required m "start" Schema.integer?)).ap
    (Schema.required m "length" Schema.integer?)).ap
    (Schema.required m "token_type" Schema.text?)).ap
    (Schema.withDefault m "modifiers" (Schema.list? Schema.text?) []) |>.under "SemanticToken"

def toMembers (t : SemanticToken) : Members :=
  [("line", .int t.line), ("start", .int t.start), ("length", .int t.length),
    ("token_type", .str t.tokenType), ("modifiers", .arr (t.modifiers.map .str))]

def toJson (t : SemanticToken) : Json := .obj t.toMembers

end SemanticToken

/-- Why tokens cannot be decoded. -/
inductive TokenFault where
  | notFives (count : Nat)
  | unknownType
  deriving DecidableEq, Repr

/-- Tokens as a server sends them. -/
structure SemanticTokens where
  resultId : Option String
  data : List Int
  deriving DecidableEq, Repr

namespace SemanticTokens

def ofMembers (m : Members) : Except Misfit SemanticTokens :=
  ((Checked.start SemanticTokens.mk).ap (Schema.optional m "resultId" Schema.text?)).ap
    (Schema.withDefault m "data" (Schema.list? Schema.integer?) []) |>.under "SemanticTokens"

def toMembers (t : SemanticTokens) (g : Gaps) : Members :=
  g.field "resultId" (t.resultId.map .str) ++ [("data", .arr (t.data.map .int))]

/-- The name of a token type. Negative numbers count from the end of the legend, and one that
reaches past its front names nothing; a number past the end is spelled out. -/
def typeName (types : List String) (n : Int) : Except TokenFault String :=
  if (types.length : Int) ≤ n then .ok ("unknown(" ++ toString n ++ ")")
  else
    let index := if n < 0 then n + types.length else n
    if index < 0 then .error .unknownType
    else
      match types[index.toNat]? with
      | some name => .ok name
      | none => .error .unknownType

/-- Whether a bit of an integer is set, negative integers being read in two's complement. -/
def testBit (n : Int) (bit : Nat) : Bool := n / Nat.pow 2 bit % 2 = 1

/-- The names whose bit is set, the first name having the given bit. -/
def modifierNames (bits : Int) : Nat → List String → List String
  | _, [] => []
  | bit, name :: rest =>
    if testBit bits bit then name :: modifierNames bits (bit + 1) rest
    else modifierNames bits (bit + 1) rest

/-- Decodes groups of five that follow a token at a place: a group on the same line counts its start
from there, one on another line from the line's beginning. -/
def decodeFrom (legend : Legend) : Int → Int → List Int → Except TokenFault (List SemanticToken)
  | line, start, deltaLine :: deltaStart :: length :: type :: bits :: rest => do
    let start := if deltaLine = 0 then start + deltaStart else deltaStart
    let line := line + deltaLine
    let name ← typeName legend.tokenTypes type
    let tokens ← decodeFrom legend line start rest
    .ok (⟨line, start, length, name, modifierNames bits 0 legend.tokenModifiers⟩ :: tokens)
  | _, _, _ => .ok []

/-- The tokens at their absolute places. -/
def decode (t : SemanticTokens) (legend : Legend) : Except TokenFault (List SemanticToken) :=
  if t.data.length % 5 = 0 then decodeFrom legend 0 0 t.data
  else .error (.notFives t.data.length)

end SemanticTokens

end LspHost
