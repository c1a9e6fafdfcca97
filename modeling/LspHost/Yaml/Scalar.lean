import LspHost.Yaml.Cursor

/-!
The texts of scalars as they stand in a YAML text: plain, between quotes, or as an indented block.
Each reader yields the text and the place behind it. The fuel of a loop is the length of what is
left, which each of its turns shortens.
-/

namespace LspHost.Yaml

/-- Line breaks at the front with blanks between them, up to an indentation. -/
def blockBreaks (indent : Nat) : Nat → Cursor → List (List Char) → List (List Char) × Cursor
  | 0, c, out => (out.reverse, c)
  | fuel + 1, c, out =>
    let spaces := ((c.rest.take (indent - c.column)).takeWhile (· = ' ')).length
    let c := c.advance spaces
    if isBreak c.peek then
      let (b, c) := c.lineBreak
      blockBreaks indent fuel c (b :: out)
    else (out.reverse, c)

/-- Line breaks and blanks at the front, and the deepest column that a blank reaches. -/
def blockIndentation : Nat → Cursor → List (List Char) → Nat →
    List (List Char) × Nat × Cursor
  | 0, c, out, deepest => (out.reverse, deepest, c)
  | fuel + 1, c, out, deepest =>
    if c.peek = ' ' then
      let c := c.forward
      blockIndentation fuel c out (max deepest c.column)
    else if isBreak c.peek then
      let (b, c) := c.lineBreak
      blockIndentation fuel c (b :: out) deepest
    else (out.reverse, deepest, c)

/-- What happens to the line breaks at the end of a block: the last one stays, none do, or all. -/
inductive Chomping where
  | clip
  | strip
  | keep
  deriving DecidableEq, Repr

def chompingOf? (c : Char) : Option Chomping :=
  if c = '+' then some .keep else if c = '-' then some .strip else none

/-- The indicators of a block: its chomping and how much deeper than its parent it is. -/
def blockIndicators (c : Cursor) : Except YamlFault (Chomping × Option Nat × Cursor) :=
  let digit? (c : Cursor) : Except YamlFault (Option Nat × Cursor) :=
    if c.peek.isDigit then
      if c.peek = '0' then .error .malformed else .ok (some (c.peek.toNat - 48), c.forward)
    else .ok (none, c)
  let finish (k : Chomping) (n : Option Nat) (c : Cursor) :
      Except YamlFault (Chomping × Option Nat × Cursor) :=
    if isSpaceOrEnd c.peek then .ok (k, n, c) else .error .malformed
  match chompingOf? c.peek with
  | some k => do
    let (n, c) ← digit? c.forward
    finish k n c
  | none => do
    let (n, c) ← digit? c
    match n, chompingOf? c.peek with
    | some _, some k => finish k n c.forward
    | _, _ => finish .clip n c

/-- The lines of a block, collected in reverse, with the last line break and the breaks after it. -/
def blockLines (folded : Bool) (indent : Nat) : Nat → Cursor → List (List Char) →
    List (List Char) → List Char → List (List Char) × List Char × List (List Char) × Cursor
  | 0, c, breaks, out, last => (out, last, breaks, c)
  | fuel + 1, c, breaks, out, last =>
    if c.column = indent ∧ !c.atEnd then
      let out := breaks.reverse ++ out
      let flush := !(c.peek = ' ' ∨ c.peek = '\t')
      let (text, c) := c.span fun x => !isBreak x
      let out := text :: out
      let (b, c) := c.lineBreak
      let (breaks, c) := blockBreaks indent (c.rest.length + 1) c []
      if c.column = indent ∧ !c.atEnd then
        let out :=
          if folded && b = ['\n'] && flush && !(c.peek = ' ' ∨ c.peek = '\t') then
            if breaks.isEmpty then [' '] :: out else out
          else b :: out
        blockLines folded indent fuel c breaks out b
      else (out, b, breaks, c)
    else (out, last, breaks, c)

/-- The text of a block whose parent has a given indentation, from its indicator on. -/
def readBlock (folded : Bool) (parent : Int) (c : Cursor) : Except YamlFault (List Char × Cursor) := do
  let (chomping, increment, c) ← blockIndicators c.forward
  let c ← c.endLine
  let least := (max 1 (parent + 1)).toNat
  let fuel := c.rest.length + 1
  let (indent, breaks, c) := match increment with
    | none =>
      let (breaks, deepest, c) := blockIndentation fuel c [] 0
      (max least deepest, breaks, c)
    | some n =>
      let indent := least + n - 1
      let (breaks, c) := blockBreaks indent fuel c []
      (indent, breaks, c)
  let (out, last, breaks, c) := blockLines folded indent fuel c breaks [] []
  let out := if chomping = .strip then out else last :: out
  let out := if chomping = .keep then breaks.reverse ++ out else out
  .ok (out.reverse.flatten, c)

/-- The characters that a backslash and one letter stand for. -/
def quotedEscapes : List (Char × Char) :=
  [('0', '\x00'), ('a', '\x07'), ('b', '\x08'), ('t', '\t'), ('\t', '\t'), ('n', '\n'),
    ('v', '\x0b'), ('f', '\x0c'), ('r', '\r'), ('e', '\x1b'), (' ', ' '), ('"', '"'),
    ('\\', '\\'), ('/', '/'), ('N', '\x85'), ('_', '\u00a0'), ('L', '\u2028'), ('P', '\u2029')]

/-- How many digits follow an escape by number. -/
def numberEscapes : List (Char × Nat) := [('x', 2), ('u', 4), ('U', 8)]

/-- The number that digits of base sixteen write. -/
def hexNumber? (ds : List Char) : Option Nat :=
  ds.foldl (fun n d => do
    let n ← n
    let d ← Json.hexValue? d
    some (n * 16 + d)) (some 0)

/-- The character of a number; half a surrogate pair becomes U+FFFD. -/
def numbered (n : Nat) : Except YamlFault Char :=
  if 0x7FFFFFFF < n then .error (.misused .overflow)
  else if 0x10FFFF < n then .error (.misused .badValue)
  else .ok (Json.unitChar n)

/-- Line breaks inside quotes, with blanks and tabs around them; a document may not start or end
there. -/
def quotedBreaks : Nat → Cursor → List (List Char) → Except YamlFault (List (List Char) × Cursor)
  | 0, c, out => .ok (out.reverse, c)
  | fuel + 1, c, out =>
    if c.atSeparator then .error .malformed
    else
      let c := c.skip fun x => x = ' ' ∨ x = '\t'
      if isBreak c.peek then
        let (b, c) := c.lineBreak
        quotedBreaks fuel c (b :: out)
      else .ok (out.reverse, c)

/-- What a line break inside quotes or a plain scalar becomes: one alone a blank, of several the
first is dropped. -/
def folded (b : List Char) (breaks : List (List Char)) : List Char :=
  (if b = ['\n'] then (if breaks.isEmpty then [' '] else []) else b) ++ breaks.flatten

/-- The rest of a text between quotes, collected in reverse, up to the closing quote. -/
def readQuoted (double : Bool) : Nat → Cursor → List (List Char) →
    Except YamlFault (List Char × Cursor)
  | 0, _, _ => .error .malformed
  | fuel + 1, c, out =>
    let x := c.peek
    if !double && x = '\'' && c.ahead 1 = '\'' then readQuoted double fuel (c.advance 2) (['\''] :: out)
    else if x = (if double then '"' else '\'') then .ok (out.reverse.flatten, c.forward)
    else if c.atEnd then .error .malformed
    else if double && x = '\\' then
      let c := c.forward
      let e := c.peek
      match quotedEscapes.lookup e, numberEscapes.lookup e with
      | some r, _ => readQuoted double fuel c.forward ([r] :: out)
      | none, some count =>
        let c := c.forward
        let ds := c.rest.take count
        if ds.length = count then
          match hexNumber? ds with
          | some n =>
            match numbered n with
            | .ok r => readQuoted double fuel (c.advance count) ([r] :: out)
            | .error e => .error e
          | none => .error .malformed
        else .error .malformed
      | none, none =>
        if isBreak e then
          match quotedBreaks (c.rest.length + 1) c.lineBreak.2 [] with
          | .ok (breaks, c) => readQuoted double fuel c (breaks.flatten :: out)
          | .error e => .error e
        else .error .malformed
    else if x = ' ' ∨ x = '\t' ∨ isBreak x then
      let (blanks, c) := c.span fun x => x = ' ' ∨ x = '\t'
      if c.atEnd then .error .malformed
      else if isBreak c.peek then
        let (b, c) := c.lineBreak
        match quotedBreaks (c.rest.length + 1) c [] with
        | .ok (breaks, c) => readQuoted double fuel c (folded b breaks :: out)
        | .error e => .error e
      else readQuoted double fuel c (blanks :: out)
    else readQuoted double fuel c.forward ([x] :: out)

/-- Line breaks and blanks after a line of a plain scalar; nothing if a document starts or ends. -/
def plainBreaks : Nat → Cursor → List (List Char) → Option (List (List Char)) × Cursor
  | 0, c, out => (some out.reverse, c)
  | fuel + 1, c, out =>
    if c.peek = ' ' then plainBreaks fuel c.forward out
    else if isBreak c.peek then
      let (b, c) := c.lineBreak
      if c.atSeparator then (none, c) else plainBreaks fuel c (b :: out)
    else (some out.reverse, c)

/-- What stands between two words of a plain scalar, with whether it holds a line break; nothing
between them ends the scalar. -/
def plainSpaces (c : Cursor) : List Char × Bool × Cursor :=
  let (blanks, c) := c.span (· = ' ')
  if isBreak c.peek then
    let (b, c) := c.lineBreak
    if c.atSeparator then ([], true, c)
    else
      match plainBreaks (c.rest.length + 1) c [] with
      | (some breaks, c) => (folded b breaks, true, c)
      | (none, c) => ([], true, c)
  else (blanks, false, c)

/-- Whether a plain scalar ends before a character. -/
def endsPlain (inFlow : Bool) (c next : Char) : Bool :=
  isGapOrEnd c
    || (c = ':' && (isGapOrEnd next
      || (inFlow && (next = ',' || next = '[' || next = ']' || next = '\x7b' || next = '\x7d'))))
    || (inFlow && (c = ',' || c = '?' || c = '[' || c = ']' || c = '\x7b' || c = '\x7d'))

/-- The length of the word at the front of a plain scalar. -/
def plainLength (inFlow : Bool) : List Char → Nat
  | [] => 0
  | c :: rest =>
    if endsPlain inFlow c (rest.headD '\x00') then 0 else plainLength inFlow rest + 1

/-- The words of a plain scalar, collected in reverse with what stands between them; also whether a
line break was met, after which a key may follow. -/
def readPlain (inFlow : Bool) (indent : Int) : Nat → Cursor → List Char → List (List Char) → Bool →
    List Char × Bool × Cursor
  | 0, c, _, out, keyMayFollow => (out.reverse.flatten, keyMayFollow, c)
  | fuel + 1, c, spaces, out, keyMayFollow =>
    let stop := (out.reverse.flatten, keyMayFollow, c)
    if c.peek = '#' then stop
    else
      let length := plainLength inFlow c.rest
      if length = 0 then stop
      else
        let out := c.rest.take length :: spaces :: out
        let (spaces, broke, c) := plainSpaces (c.advance length)
        if spaces.isEmpty || c.peek = '#' || (!inFlow && (c.column : Int) < indent) then
          (out.reverse.flatten, broke, c)
        else readPlain inFlow indent fuel c spaces out broke

end LspHost.Yaml
