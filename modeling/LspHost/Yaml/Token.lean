import LspHost.Text.Utf8
import LspHost.Yaml.Scalar

/-!
The tokens of a YAML text.

Indentation turns into tokens of its own: a deeper column opens a block, a shallower one closes it.
Whether a word is a key shows only at the colon behind it, so the place of every word that may be a
key is remembered, and a key token is put there when the colon comes. A text that breaks the rules
ends in a `broken` token, at which every reading of the tokens fails.
-/

namespace LspHost.Yaml

/-- What a line that starts with a percent sign says. -/
inductive Directive where
  | version (major : Nat)
  | tag (handle leading : List Char)
  | other
  deriving DecidableEq, Repr

/-- A token. A tag without a handle is written out in full. -/
inductive Token where
  | directive (d : Directive)
  | documentStart
  | documentEnd
  | sequenceStart
  | mappingStart
  | blockEnd
  | flowSequenceStart
  | flowSequenceEnd
  | flowMappingStart
  | flowMappingEnd
  | blockEntry
  | flowEntry
  | key
  | value
  | alias (name : List Char)
  | anchor (name : List Char)
  | tag (handle : Option (List Char)) (suffix : List Char)
  | scalar (plain : Bool) (text : List Char)
  | broken (f : YamlFault)
  deriving DecidableEq, Repr

/-- Goes on if a condition holds; else the text is malformed. -/
def demand (b : Bool) : Except YamlFault Unit := if b then .ok () else .error .malformed

/-- A word of letters, digits, hyphens and underscores. -/
def readWord (c : Cursor) : Except YamlFault (List Char × Cursor) :=
  let (word, c) := c.span isWordChar
  if word.isEmpty then .error .malformed else .ok (word, c)

/-- The name of an alias or an anchor behind its sign. -/
def readName (c : Cursor) : Except YamlFault (List Char × Cursor) := do
  let (name, c) ← readWord c.forward
  demand (isGapOrEnd c.peek || "?:,]\x7d%@`".toList.contains c.peek)
  .ok (name, c)

/-- The characters that an address in a tag may hold. -/
def isTagChar (c : Char) : Bool := c.isAlphanum || "-;/?:@&=+$,_.!~*'()[]".toList.contains c

/-- The octets that a run of percent signs with two digits each stands for. -/
def tagOctets : Nat → Cursor → List UInt8 → Except YamlFault (List UInt8 × Cursor)
  | 0, c, out => .ok (out.reverse, c)
  | fuel + 1, c, out =>
    if c.peek = '%' then
      match Json.hexValue? (c.ahead 1), Json.hexValue? (c.ahead 2) with
      | some a, some b => tagOctets fuel (c.advance 3) ((a * 16 + b).toUInt8 :: out)
      | _, _ => .error .malformed
    else .ok (out.reverse, c)

/-- The address in a tag, collected in reverse. -/
def tagAddress : Nat → Cursor → List Char → Except YamlFault (List Char × Cursor)
  | 0, c, out => .ok (out.reverse, c)
  | fuel + 1, c, out =>
    if c.peek = '%' then
      match tagOctets (c.rest.length + 1) c [] with
      | .ok (bytes, c) =>
        match Text.Utf8.decode? bytes with
        | some s => tagAddress fuel c (s.reverse ++ out)
        | none => .error .malformed
      | .error e => .error e
    else if isTagChar c.peek then tagAddress fuel c.forward (c.peek :: out)
    else .ok (out.reverse, c)

/-- The address in a tag, which is not empty. -/
def readAddress (c : Cursor) : Except YamlFault (List Char × Cursor) := do
  let start := c
  let (address, c) ← tagAddress (c.rest.length + 1) c []
  demand (c.index ≠ start.index)
  .ok (address, c)

/-- The handle of a tag: an exclamation mark, or two around a word that may be empty. -/
def readHandle (c : Cursor) : Except YamlFault (List Char × Cursor) := do
  demand (c.peek = '!')
  if c.ahead 1 = ' ' then .ok (['!'], c.forward)
  else
    let (word, next) := c.forward.span isWordChar
    demand (next.peek = '!')
    .ok ('!' :: word ++ ['!'], next.forward)

/-- A tag: an address in angle brackets, a lone exclamation mark, or a handle and the rest. -/
def readTag (c : Cursor) : Except YamlFault (Token × Cursor) := do
  let (t, c) ←
    if c.ahead 1 = '<' then do
      let (address, c) ← readAddress (c.advance 2)
      demand (c.peek = '>')
      .ok (Token.tag none address, c.forward)
    else if isGapOrEnd (c.ahead 1) then .ok (Token.tag none ['!'], c.forward)
    else do
      let hasHandle := (c.rest.tail.takeWhile fun x => !isSpaceOrEnd x).contains '!'
      let (handle, c) ← if hasHandle then readHandle c else .ok (['!'], c.forward)
      let (address, c) ← readAddress c
      .ok (Token.tag (some handle) address, c)
  demand (isSpaceOrEnd c.peek)
  .ok (t, c)

/-- A number of a version. -/
def readVersionNumber (c : Cursor) : Except YamlFault (Nat × Cursor) := do
  let (ds, c) := c.span Char.isDigit
  demand (!ds.isEmpty)
  if Json.maxDigits < ds.length then .error (.misused .badValue)
  else .ok (Json.digitsValue ds, c)

/-- The rest of a directive's line after its name. -/
def readDirectiveValue (name : List Char) (c : Cursor) : Except YamlFault (Directive × Cursor) := do
  if name = "YAML".toList then
    let (major, c) ← readVersionNumber (c.skip (· = ' '))
    demand (c.peek = '.')
    let (_, c) ← readVersionNumber c.forward
    demand (isSpaceOrEnd c.peek)
    .ok (.version major, c)
  else if name = "TAG".toList then
    let (handle, c) ← readHandle (c.skip (· = ' '))
    demand (c.peek = ' ')
    let (address, c) ← readAddress (c.skip (· = ' '))
    demand (isSpaceOrEnd c.peek)
    .ok (.tag handle address, c)
  else .ok (.other, c.skip fun x => !isBreak x)

/-- A directive from its percent sign to the end of its line. -/
def readDirective (c : Cursor) : Except YamlFault (Token × Cursor) := do
  let (name, c) ← readWord c.forward
  demand (isSpaceOrEnd c.peek)
  let (d, c) ← readDirectiveValue name c
  let c ← c.endLine
  .ok (.directive d, c)

/-- A word that may turn out to be a key: how many tokens precede it, and where it starts. One that
starts a line of a block mapping must turn out to be one. -/
structure Candidate where
  place : Nat
  required : Bool
  index : Nat
  line : Nat
  column : Nat
  deriving DecidableEq, Repr

/-- The state between two tokens. Tokens are kept in reverse with their number. `candidates` holds
what may become a key in each collection that is open, the innermost one first; all but the last are
flow collections. `indents` are the columns of the blocks around the present one. -/
structure Scan where
  cursor : Cursor
  tokens : List Token
  count : Nat
  candidates : List (Option Candidate)
  indent : Int
  indents : List Int
  keyAllowed : Bool
  deriving Repr

namespace Scan

def ofText (s : List Char) : Scan := ⟨.ofText s, [], 0, [none], -1, [], true⟩

/-- Whether a flow collection is open. -/
def inFlow (s : Scan) : Bool := 1 < s.candidates.length

def push (s : Scan) (t : Token) : Scan :=
  { s with tokens := t :: s.tokens, count := s.count + 1 }

/-- Puts a token behind the first so many. -/
def insert (s : Scan) (place : Nat) (t : Token) : Scan :=
  { s with tokens := s.tokens.insertIdx (s.count - place) t, count := s.count + 1 }

/-- The sign of so many characters at the front becomes a token. -/
def sign (s : Scan) (size : Nat) (t : Token) : Scan :=
  push { s with cursor := s.cursor.advance size } t

def allowKey (s : Scan) (b : Bool) : Scan := { s with keyAllowed := b }

/-- The most characters that a key without its sign can have. -/
def longestKey : Nat := 1024

/-- Whether a candidate can no longer be a key: its line has ended, or it is too long. -/
def isStale (c : Cursor) (k : Candidate) : Bool :=
  k.line ≠ c.line || longestKey < c.index - k.index

/-- Gives up the candidates that are stale. -/
def dropStale (s : Scan) : Except YamlFault Scan := do
  let stale := s.candidates.filterMap fun k => k.filter (isStale s.cursor)
  demand (!stale.any Candidate.required)
  let candidates := s.candidates.map fun k => k.filter fun k => !isStale s.cursor k
  .ok { s with candidates }

/-- Gives up the candidate of the innermost collection. -/
def dropCandidate (s : Scan) : Except YamlFault Scan :=
  match s.candidates with
  | some k :: rest => if k.required then .error .malformed else .ok { s with candidates := none :: rest }
  | _ => .ok s

/-- Remembers the present place as one where a key may start. -/
def saveCandidate (s : Scan) : Except YamlFault Scan := do
  if s.keyAllowed then
    let required := !s.inFlow && s.indent = s.cursor.column
    let s ← s.dropCandidate
    let k := Candidate.mk s.count required s.cursor.index s.cursor.line s.cursor.column
    .ok { s with candidates := some k :: s.candidates.tail }
  else .ok s

/-- The blocks around that a column leaves, and those that it stays in. -/
def unwound (column : Int) : Int → List Int → Nat → Int × List Int × Nat
  | indent, [], n => (indent, [], n)
  | indent, outer :: rest, n =>
    if column < indent then unwound column outer rest (n + 1) else (indent, outer :: rest, n)

/-- Closes the blocks that are deeper than a column. -/
def unwind (s : Scan) (column : Int) : Scan :=
  if s.inFlow then s
  else
    let (indent, indents, n) := unwound column s.indent s.indents 0
    { s with
      tokens := List.replicate n .blockEnd ++ s.tokens
      count := s.count + n, indent, indents }

/-- Opens a block at a column that is deeper than the present one, with a token at a given place. -/
def deepen (s : Scan) (column place : Nat) (t : Token) : Scan :=
  if s.indent < column then
    { s with indents := s.indent :: s.indents, indent := column }.insert place t
  else s

/-- Past blanks, comments and line breaks; a key may start on a new line of a block. -/
def skipGaps : Nat → Scan → Scan
  | 0, s => s
  | fuel + 1, s =>
    let c := (s.cursor.skip (· = ' ')).skipComment
    if isBreak c.peek then
      skipGaps fuel { s with cursor := c.lineBreak.2, keyAllowed := s.keyAllowed || !s.inFlow }
    else { s with cursor := c }

/-- A token that ends what was open: a directive, or the start or end of a document. -/
def boundary (s : Scan) : Except YamlFault Scan := do
  let s ← (s.unwind (-1)).dropCandidate
  .ok (s.allowKey false)

/-- Opens a flow collection. -/
def openFlow (s : Scan) (t : Token) : Except YamlFault Scan := do
  let s ← s.saveCandidate
  .ok ((sign { s with candidates := none :: s.candidates } 1 t).allowKey true)

/-- Closes a flow collection. -/
def closeFlow (s : Scan) (t : Token) : Except YamlFault Scan := do
  demand s.inFlow
  let s ← s.dropCandidate
  .ok ((sign { s with candidates := s.candidates.tail } 1 t).allowKey false)

/-- The sign of an item or of a key in a block, which may open one. -/
def blockSign (s : Scan) (start t : Token) (keyFollows : Bool) : Except YamlFault Scan := do
  demand (s.inFlow || s.keyAllowed)
  let s := if s.inFlow then s else s.deepen s.cursor.column s.count start
  let s ← (s.allowKey keyFollows).dropCandidate
  .ok (s.sign 1 t)

/-- A colon: it makes a key of the candidate before it, or stands before a value without a key. -/
def valueSign (s : Scan) : Except YamlFault Scan :=
  match s.candidates with
  | some k :: rest =>
    let s := { s with candidates := none :: rest }.insert k.place .key
    let s := if s.inFlow then s else s.deepen k.column k.place .mappingStart
    .ok ((s.allowKey false).sign 1 .value)
  | _ => s.blockSign .mappingStart .value !s.inFlow

/-- A word that may be a key. -/
def word (s : Scan) (read : Cursor → Except YamlFault (Token × Cursor)) : Except YamlFault Scan := do
  let s ← s.saveCandidate
  let (t, c) ← read s.cursor
  .ok (push { s with cursor := c, keyAllowed := false } t)

/-- A plain scalar; a key may follow it on a new line. -/
def plainScalar (s : Scan) : Except YamlFault Scan := do
  let s ← s.saveCandidate
  let (text, keyAllowed, c) :=
    readPlain s.inFlow (s.indent + 1) (s.cursor.rest.length + 1) s.cursor [] [] false
  .ok (push { s with cursor := c, keyAllowed } (.scalar true text))

/-- A block scalar. -/
def blockScalar (s : Scan) (isFolded : Bool) : Except YamlFault Scan := do
  let s ← (s.allowKey true).dropCandidate
  let (text, c) ← readBlock isFolded s.indent s.cursor
  .ok (push { s with cursor := c } (.scalar false text))

/-- A scalar between quotes. -/
def quotedScalar (double : Bool) (c : Cursor) : Except YamlFault (Token × Cursor) := do
  let (text, c) ← readQuoted double (c.rest.length + 1) c.forward []
  .ok (.scalar false text, c)

/-- Whether a plain scalar starts at the front. -/
def startsPlain (s : Scan) : Bool :=
  let c := s.cursor.peek
  !(isGapOrEnd c || "-?:,[]\x7b\x7d#&*!|>'\"%@`".toList.contains c)
    || (!isGapOrEnd (s.cursor.ahead 1)
      && (c = '-' || (!s.inFlow && (c = '?' || c = ':'))))

/-- The token at the front, which is not the end. -/
def token (s : Scan) : Except YamlFault Scan :=
  let c := s.cursor
  let lineStart := c.column = 0
  let gapFollows := isGapOrEnd (c.ahead 1)
  if c.peek = '%' ∧ lineStart then do
    let s ← s.boundary
    let (t, c) ← readDirective s.cursor
    .ok (push { s with cursor := c } t)
  else if lineStart && c.marks '-' then do .ok ((← s.boundary).sign 3 .documentStart)
  else if lineStart && c.marks '.' then do .ok ((← s.boundary).sign 3 .documentEnd)
  else if c.peek = '[' then s.openFlow .flowSequenceStart
  else if c.peek = '\x7b' then s.openFlow .flowMappingStart
  else if c.peek = ']' then s.closeFlow .flowSequenceEnd
  else if c.peek = '\x7d' then s.closeFlow .flowMappingEnd
  else if c.peek = ',' then do .ok ((← (s.allowKey true).dropCandidate).sign 1 .flowEntry)
  else if c.peek = '-' ∧ gapFollows then s.blockSign .sequenceStart .blockEntry true
  else if c.peek = '?' ∧ (s.inFlow ∨ gapFollows) then s.blockSign .mappingStart .key !s.inFlow
  else if c.peek = ':' ∧ (s.inFlow ∨ gapFollows) then s.valueSign
  else if c.peek = '*' then
    s.word fun c => do let (name, c) ← readName c; .ok (.alias name, c)
  else if c.peek = '&' then
    s.word fun c => do let (name, c) ← readName c; .ok (.anchor name, c)
  else if c.peek = '!' then s.word readTag
  else if c.peek = '|' ∧ !s.inFlow then s.blockScalar false
  else if c.peek = '>' ∧ !s.inFlow then s.blockScalar true
  else if c.peek = '\'' then s.word (quotedScalar false)
  else if c.peek = '"' then s.word (quotedScalar true)
  else if s.startsPlain then s.plainScalar
  else .error .malformed

/-- All tokens up to the end, or up to where the rules are broken. Every turn takes a character. -/
def run : Nat → Scan → List Token
  | 0, s => s.tokens.reverse
  | fuel + 1, s =>
    let s := s.skipGaps (s.cursor.rest.length + 1)
    match s.dropStale with
    | .error f => (s.push (.broken f)).tokens.reverse
    | .ok s =>
      if s.cursor.atEnd then
        match s.boundary with
        | .ok s => s.tokens.reverse
        | .error f => (s.push (.broken f)).tokens.reverse
      else
        let s := s.unwind s.cursor.column
        match s.token with
        | .ok s => run fuel s
        | .error f => (s.push (.broken f)).tokens.reverse

end Scan

/-- The tokens of a text. A mark of the order of octets at the front is no part of it. -/
def Token.ofText (s : List Char) : List Token :=
  let scan := Scan.ofText s
  let scan := if s.head? = some '\uFEFF' then { scan with cursor := scan.cursor.forward } else scan
  if s.all isAllowed then scan.run (s.length + 1) else [.broken .malformed]

end LspHost.Yaml
