import LspHost.Text.Utf8
import LspHost.Yaml.Node
import LspHost.Yaml.Token

/-!
The document that the tokens of a text make, and its value: `Yaml.read`.

Every function takes the tokens that are left and yields those that it leaves. A token is taken at
least at every fifth step, so fuel of six times their number is enough.
-/

namespace LspHost.Yaml

/-- What a document has set up so far: what tag handles stand for, and the nodes with a name. -/
structure Names where
  handles : List (List Char × List Char)
  anchors : List (List Char × Node)

namespace Names

/-- The handles of every document that does not say otherwise. -/
def standardHandles : List (List Char × List Char) := [(['!'], ['!']), (['!', '!'], Tag.root)]

def standard : Names := ⟨standardHandles, []⟩

/-- The full name of a tag, if its handle is known. -/
def tagName? (names : Names) : Option (List Char) → List Char → Option (List Char)
  | none, suffix => some suffix
  | some handle, suffix => (names.handles.lookup handle).map (· ++ suffix)

end Names

/-- What stands in front of a node: its name, and its tag in full. -/
structure Properties where
  anchor : Option (List Char)
  tag : Option (List Char)

namespace Properties

def isEmpty (p : Properties) : Bool := p.anchor.isNone && p.tag.isNone

/-- Whether the tag is missing or the one that says nothing. -/
def isUntagged (p : Properties) : Bool := p.tag.all fun t => t = ['!']

/-- The tag of a collection. -/
def collectionTag (p : Properties) (usual : Tag) : Tag :=
  match p.tag with
  | some t => if t = ['!'] then usual else .ofName t
  | none => usual

/-- The tag of a scalar. One between quotes is a text, unless its tag says nothing. -/
def scalarTag (p : Properties) (plain : Bool) (text : List Char) : Tag :=
  match p.tag with
  | some t => if t = ['!'] then .ofPlain text else .ofName t
  | none => if plain then .ofPlain text else .str

end Properties

/-- The fault of tokens that may not stand where they do. -/
def unexpected {α : Type} : List Token → Except YamlFault α
  | .broken f :: _ => .error f
  | _ => .error .malformed

/-- A tag in full. -/
def fullTag (names : Names) (handle : Option (List Char)) (suffix : List Char) :
    Except YamlFault (List Char) :=
  match names.tagName? handle suffix with
  | some t => .ok t
  | none => .error .malformed

/-- The properties in front of a node: name and tag in either order, each once at most. -/
def readProperties (names : Names) : List Token → Except YamlFault (Properties × List Token)
  | .anchor a :: .tag h s :: rest => do .ok (⟨some a, some (← fullTag names h s)⟩, rest)
  | .tag h s :: .anchor a :: rest => do .ok (⟨some a, some (← fullTag names h s)⟩, rest)
  | .anchor a :: rest => .ok (⟨some a, none⟩, rest)
  | .tag h s :: rest => do .ok (⟨none, some (← fullTag names h s)⟩, rest)
  | ts => .ok (⟨none, none⟩, ts)

/-- Gives a node the name that stood in front of it. -/
def register (p : Properties) (n : Node) (names : Names) : Names :=
  match p.anchor with
  | some a => { names with anchors := (a, n) :: names.anchors }
  | none => names

/-- Whether the name in front of a node is taken. -/
def isTaken (p : Properties) (names : Names) : Bool :=
  p.anchor.any fun a => (names.anchors.lookup a).isSome

/-- A scalar that is not written. -/
def absent : Node := .ofScalar .null []

/-- Where a node stands: in a flow collection, in a block, or where a block sequence need not be
indented. -/
inductive Setting where
  | flow
  | block
  | entry
  deriving DecidableEq, Repr

/-- The node of a collection, once its parts are known. -/
def finish (p : Properties) (n : Node) (names : Names) (ts : List Token) :
    Except YamlFault (Node × Names × List Token) :=
  .ok (n, register p n names, ts)

mutual

/-- A node. -/
def readNode : Nat → Setting → Names → List Token → Except YamlFault (Node × Names × List Token)
  | 0, _, _, _ => .error .malformed
  | fuel + 1, setting, names, ts =>
    match ts with
    | .alias a :: rest =>
      match names.anchors.lookup a with
      | some n => .ok (n, names, rest)
      | none => .error .malformed
    | ts =>
      match readProperties names ts with
      | .error f => .error f
      | .ok (p, rest) =>
        if isTaken p names then .error .malformed
        else readContent fuel setting p names rest

/-- A node behind its properties. -/
def readContent : Nat → Setting → Properties → Names → List Token →
    Except YamlFault (Node × Names × List Token)
  | 0, _, _, _, _ => .error .malformed
  | fuel + 1, setting, p, names, ts =>
    let items (read : Names → Except YamlFault (List Node × Names × List Token)) :=
      match read (register p (.knot false) names) with
      | .ok (items, names, rest) => finish p (.ofItems (p.collectionTag .seq) items) names rest
      | .error f => .error f
    let pairs (read : Names → Except YamlFault (List (Node × Node) × Names × List Token)) :=
      match read (register p (.knot true) names) with
      | .ok (pairs, names, rest) => finish p (.ofPairs (p.collectionTag .map) pairs) names rest
      | .error f => .error f
    match ts with
    | .scalar plain text :: rest => finish p (.ofScalar (p.scalarTag plain text) text) names rest
    | .flowSequenceStart :: rest => items fun names => readFlowItems fuel names [] rest
    | .flowMappingStart :: rest => pairs fun names => readFlowPairs fuel names [] rest
    | ts =>
      match setting, ts with
      | .entry, .blockEntry :: _ => items fun names => readEntries fuel false names [] ts
      | .flow, _ => readEmpty p names ts
      | _, .sequenceStart :: rest => items fun names => readEntries fuel true names [] rest
      | _, .mappingStart :: rest => pairs fun names => readPairs fuel names [] rest
      | _, _ => readEmpty p names ts

/-- An empty node, which must have properties. -/
def readEmpty (p : Properties) (names : Names) (ts : List Token) :
    Except YamlFault (Node × Names × List Token) :=
  if p.isEmpty then unexpected ts
  else finish p (.ofScalar (p.scalarTag p.isUntagged []) []) names ts

/-- The items of a block sequence, collected in reverse; `closed` tells whether a token ends it. -/
def readEntries : Nat → Bool → Names → List Node → List Token →
    Except YamlFault (List Node × Names × List Token)
  | 0, _, _, _, _ => .error .malformed
  | fuel + 1, closed, names, out, ts =>
    match ts with
    | .blockEntry :: rest =>
      let isAbsent := match rest with
        | .blockEntry :: _ => true
        | .blockEnd :: _ => true
        | .key :: _ => !closed
        | .value :: _ => !closed
        | _ => false
      if isAbsent then readEntries fuel closed names (absent :: out) rest
      else
        match readNode fuel .block names rest with
        | .ok (n, names, rest) => readEntries fuel closed names (n :: out) rest
        | .error f => .error f
    | ts =>
      if closed then
        match ts with
        | .blockEnd :: rest => .ok (out.reverse, names, rest)
        | ts => unexpected ts
      else .ok (out.reverse, names, ts)

/-- The pairs of a block mapping, collected in reverse. -/
def readPairs : Nat → Names → List (Node × Node) → List Token →
    Except YamlFault (List (Node × Node) × Names × List Token)
  | 0, _, _, _ => .error .malformed
  | fuel + 1, names, out, ts =>
    match ts with
    | .blockEnd :: rest => .ok (out.reverse, names, rest)
    | .key :: rest =>
      match readPart fuel names rest with
      | .error f => .error f
      | .ok (k, names, .value :: rest) =>
        match readPart fuel names rest with
        | .error f => .error f
        | .ok (v, names, rest) => readPairs fuel names ((k, v) :: out) rest
      | .ok (k, names, rest) => readPairs fuel names ((k, absent) :: out) rest
    | ts => unexpected ts

/-- A key or a value of a block mapping, which may be absent. -/
def readPart : Nat → Names → List Token → Except YamlFault (Node × Names × List Token)
  | 0, _, _ => .error .malformed
  | fuel + 1, names, ts =>
    match ts with
    | .key :: _ => .ok (absent, names, ts)
    | .value :: _ => .ok (absent, names, ts)
    | .blockEnd :: _ => .ok (absent, names, ts)
    | ts => readNode fuel .entry names ts

/-- The items of a flow sequence, collected in reverse. An item with a colon is a mapping of one
pair. -/
def readFlowItems : Nat → Names → List Node → List Token →
    Except YamlFault (List Node × Names × List Token)
  | 0, _, _, _ => .error .malformed
  | fuel + 1, names, out, ts =>
    match ts with
    | .flowSequenceEnd :: rest => .ok (out.reverse, names, rest)
    | .key :: rest =>
      match readFlowPair fuel .flowSequenceEnd names rest with
      | .ok (pair, names, rest) =>
        readFlowComma fuel names (.ofPairs .map [pair] :: out) rest
      | .error f => .error f
    | ts =>
      match readNode fuel .flow names ts with
      | .ok (n, names, rest) => readFlowComma fuel names (n :: out) rest
      | .error f => .error f

/-- What follows an item of a flow sequence. -/
def readFlowComma : Nat → Names → List Node → List Token →
    Except YamlFault (List Node × Names × List Token)
  | 0, _, _, _ => .error .malformed
  | fuel + 1, names, out, ts =>
    match ts with
    | .flowEntry :: rest => readFlowItems fuel names out rest
    | .flowSequenceEnd :: rest => .ok (out.reverse, names, rest)
    | ts => unexpected ts

/-- The pairs of a flow mapping, collected in reverse. A node without a colon is a key whose value is
absent. -/
def readFlowPairs : Nat → Names → List (Node × Node) → List Token →
    Except YamlFault (List (Node × Node) × Names × List Token)
  | 0, _, _, _ => .error .malformed
  | fuel + 1, names, out, ts =>
    let next (pair : Node × Node) (names : Names) (rest : List Token) :=
      match rest with
      | .flowEntry :: rest => readFlowPairs fuel names (pair :: out) rest
      | .flowMappingEnd :: rest => .ok ((pair :: out).reverse, names, rest)
      | ts => unexpected ts
    match ts with
    | .flowMappingEnd :: rest => .ok (out.reverse, names, rest)
    | .key :: rest =>
      match readFlowPair fuel .flowMappingEnd names rest with
      | .ok (pair, names, rest) => next pair names rest
      | .error f => .error f
    | ts =>
      match readNode fuel .flow names ts with
      | .ok (n, names, rest) => next (n, absent) names rest
      | .error f => .error f

/-- A key and its value in a flow collection that a given token ends; either may be absent. -/
def readFlowPair : Nat → Token → Names → List Token →
    Except YamlFault ((Node × Node) × Names × List Token)
  | 0, _, _, _ => .error .malformed
  | fuel + 1, last, names, ts =>
    match readFlowPart fuel true last names ts with
    | .error f => .error f
    | .ok (k, names, .value :: rest) =>
      match readFlowPart fuel false last names rest with
      | .error f => .error f
      | .ok (v, names, rest) => .ok ((k, v), names, rest)
    | .ok (k, names, rest) => .ok ((k, absent), names, rest)

/-- A key or a value in a flow collection, which may be absent. -/
def readFlowPart : Nat → Bool → Token → Names → List Token →
    Except YamlFault (Node × Names × List Token)
  | 0, _, _, _, _ => .error .malformed
  | fuel + 1, isKey, last, names, ts =>
    match ts with
    | t :: _ =>
      if t = .flowEntry ∨ t = last ∨ (isKey ∧ t = .value) then .ok (absent, names, ts)
      else readNode fuel .flow names ts
    | [] => unexpected ts

end

/-- Adds the handle that a directive declares, which must be a new one. -/
def declare (declared : List (List Char × List Char)) (handle leading : List Char) :
    Except YamlFault (List (List Char × List Char)) :=
  if (declared.lookup handle).isSome then .error .malformed
  else .ok (declared ++ [(handle, leading)])

/-- The directives in front of a document, of which one may state the version. -/
def readDirectives : Bool → List (List Char × List Char) → List Token →
    Except YamlFault (List (List Char × List Char) × List Token)
  | hasVersion, declared, .directive d :: rest =>
    match d with
    | .version major =>
      if hasVersion ∨ major ≠ 1 then .error .malformed else readDirectives true declared rest
    | .tag handle leading =>
      match declare declared handle leading with
      | .ok declared => readDirectives hasVersion declared rest
      | .error f => .error f
    | .other => readDirectives hasVersion declared rest
  | _, declared, ts => .ok (declared, ts)

/-- The root node of a document behind its start. -/
def readRoot (names : Names) (ts : List Token) : Except YamlFault (Node × Names × List Token) :=
  match ts with
  | [] => .ok (absent, names, ts)
  | .directive _ :: _ => .ok (absent, names, ts)
  | .documentStart :: _ => .ok (absent, names, ts)
  | .documentEnd :: _ => .ok (absent, names, ts)
  | ts => readNode (6 * ts.length + 8) .block names ts

/-- A document with a start of its own. -/
def readExplicit (ts : List Token) : Except YamlFault (Node × Names × List Token) := do
  let (declared, rest) ← readDirectives false [] ts
  match rest with
  | .documentStart :: rest => readRoot ⟨declared ++ Names.standardHandles, []⟩ rest
  | ts => unexpected ts

/-- The first document of a text, if there is one. -/
def readDocument (ts : List Token) : Except YamlFault (Option Node × List Token) :=
  match ts with
  | [] => .ok (none, [])
  | .directive _ :: _ | .documentStart :: _ => do
    let (n, _, rest) ← readExplicit ts
    .ok (some n, rest)
  | ts => do
    let (n, _, rest) ← readNode (6 * ts.length + 8) .block .standard ts
    .ok (some n, rest)

/-- The value of a text with one document at most; nothing for a text without one. -/
def read (s : List Char) : Except YamlFault Datum := do
  let (node, rest) ← readDocument (Token.ofText s)
  match rest.dropWhile (· = .documentEnd), node with
  | [], none => .ok .null
  | [], some n =>
    match n.value with
    | .ok d => .ok d
    | .error (_, f) => .error f
  | ts, _ => unexpected ts

example : (read "a: [1, b]\nc:\n- d".toList).toOption.map Datum.literal
    = some "\x7b'a': [1, 'b'], 'c': ['d']\x7d".toList := by decide +kernel

end LspHost.Yaml
