import LspHost.Fault

/-!
A place in a YAML text, and the character sets of its grammar. The end of the text reads as NUL,
which no text holds.
-/

namespace LspHost.Yaml

/-- Why a text cannot be read: it breaks the rules of the format, or a value in it breaks those of
its own kind. -/
inductive YamlFault where
  | malformed
  | misused (kind : PlainKind)
  deriving DecidableEq, Repr

/-- A line break. -/
def isBreak (c : Char) : Bool :=
  c = '\n' ∨ c = '\r' ∨ c = '\x85' ∨ c = '\u2028' ∨ c = '\u2029'

/-- A line break or the end. -/
def isBreakOrEnd (c : Char) : Bool := c = '\x00' ∨ isBreak c

/-- A blank, a line break or the end. -/
def isSpaceOrEnd (c : Char) : Bool := c = ' ' ∨ isBreakOrEnd c

/-- A blank, a tab, a line break or the end. -/
def isGapOrEnd (c : Char) : Bool := c = '\t' ∨ isSpaceOrEnd c

/-- A character that a text may hold at all. -/
def isAllowed (c : Char) : Bool :=
  let n := c.toNat
  n = 9 ∨ n = 10 ∨ n = 13 ∨ (0x20 ≤ n ∧ n ≤ 0x7E) ∨ n = 0x85 ∨ (0xA0 ≤ n ∧ n ≤ 0xD7FF)
    ∨ (0xE000 ≤ n ∧ n ≤ 0xFFFD) ∨ 0x10000 ≤ n

/-- A letter, digit, hyphen or underscore of ASCII. -/
def isWordChar (c : Char) : Bool := c.isAlphanum ∨ c = '-' ∨ c = '_'

/-- What is left of a text, and where it starts. -/
structure Cursor where
  rest : List Char
  index : Nat
  line : Nat
  column : Nat
  deriving DecidableEq, Repr

namespace Cursor

def ofText (s : List Char) : Cursor := ⟨s, 0, 0, 0⟩

/-- The character so many places ahead. -/
def ahead (c : Cursor) (n : Nat) : Char := (c.rest[n]?).getD '\x00'

/-- The next character. -/
def peek (c : Cursor) : Char := c.rest.headD '\x00'

def atEnd (c : Cursor) : Bool := c.rest.isEmpty

/-- One character further. A carriage return before a line feed does not end the line. -/
def forward (c : Cursor) : Cursor :=
  match c.rest with
  | [] => c
  | x :: rest =>
    if isBreak x && !(x = '\r' && rest.head? = some '\n') then ⟨rest, c.index + 1, c.line + 1, 0⟩
    else if x = '\uFEFF' then ⟨rest, c.index + 1, c.line, c.column⟩
    else ⟨rest, c.index + 1, c.line, c.column + 1⟩

/-- So many characters further. -/
def advance : Nat → Cursor → Cursor
  | 0, c => c
  | n + 1, c => advance n c.forward

/-- Past the characters of a set, which does not hold NUL. -/
def skip (c : Cursor) (p : Char → Bool) : Cursor := c.advance (c.rest.takeWhile p).length

/-- The characters of a set at the front, and the place behind them. -/
def span (c : Cursor) (p : Char → Bool) : List Char × Cursor :=
  (c.rest.takeWhile p, c.skip p)

/-- The line break at the front as it is read, and the place behind it. -/
def lineBreak (c : Cursor) : List Char × Cursor :=
  match c.rest with
  | '\r' :: '\n' :: _ => (['\n'], c.advance 2)
  | x :: _ =>
    if x = '\r' ∨ x = '\n' ∨ x = '\x85' then (['\n'], c.forward)
    else if x = '\u2028' ∨ x = '\u2029' then ([x], c.forward)
    else ([], c)
  | [] => ([], c)

/-- Whether a line of three such characters and then a gap stands at the front. -/
def marks (c : Cursor) (x : Char) : Bool :=
  c.ahead 0 = x && c.ahead 1 = x && c.ahead 2 = x && isGapOrEnd (c.ahead 3)

/-- Whether a document starts or ends at the front of a line. -/
def atSeparator (c : Cursor) : Bool := c.marks '-' || c.marks '.'

/-- Past a comment. -/
def skipComment (c : Cursor) : Cursor :=
  if c.peek = '#' then c.skip fun x => !isBreak x else c

/-- Past blanks, a comment and the line break after them, where nothing else may stand. -/
def endLine (c : Cursor) : Except YamlFault Cursor :=
  let c := (c.skip (· = ' ')).skipComment
  if isBreakOrEnd c.peek then .ok c.lineBreak.2 else .error .malformed

end Cursor

end LspHost.Yaml
