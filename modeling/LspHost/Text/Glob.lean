/-!
Shell patterns: `*` stands for any text, `?` for any character and `[…]` for one of a set, given by
characters and ranges and negated by a leading `!`. A bracket that is never closed stands for
itself, a range that runs backwards drops both its ends, and a set left without members matches
nothing (everything, if negated).
-/

namespace LspHost.Text

/-- A member of a set: a character or a closed range of them. -/
inductive ClassItem where
  | one (c : Char)
  | range (low high : Char)
  deriving DecidableEq, Repr

namespace ClassItem

def accepts : ClassItem → Char → Bool
  | .one c, x => x == c
  | .range low high, x => low ≤ x && x ≤ high

end ClassItem

/-- A piece of a pattern. -/
inductive GlobPiece where
  | star
  | any
  | literal (c : Char)
  | oneOf (negated : Bool) (items : List ClassItem)
  deriving DecidableEq, Repr

namespace GlobPiece

/-- Whether a piece other than the star matches a character. -/
def accepts : GlobPiece → Char → Bool
  | .star, _ => false
  | .any, _ => true
  | .literal c, x => x == c
  | .oneOf negated items, x => (items.any fun i => i.accepts x) != negated

end GlobPiece

/-- A pattern as a sequence of pieces. -/
abbrev Glob := List GlobPiece

namespace Glob

/-- What a set is written with: characters, and the hyphens that make a range. -/
inductive ClassToken where
  | char (c : Char)
  | hyphen
  deriving DecidableEq, Repr

/-- Cuts the inside of a set at the hyphens that make ranges. The two characters after such a
hyphen and the one before it are never such hyphens themselves; `skip` counts the characters still
exempt and `chunk` is the part being read, in reverse. -/
def chunksFrom : Nat → List Char → List (List Char) → List Char → List (List Char)
  | _, chunk, out, [] => (chunk.reverse :: out).reverse
  | skip, chunk, out, c :: cs =>
    if skip = 0 ∧ c = '-' then chunksFrom 2 [] (chunk.reverse :: out) cs
    else chunksFrom (skip - 1) (c :: chunk) out cs

/-- Joins a chunk to the chunks after it, of which the first may begin a range with its end. A
backward range is dropped together with its two ends. -/
def joinChunk (chunk : List Char) : List (List Char) → List (List Char)
  | [] => [chunk]
  | next :: rest =>
    match chunk.getLast?, next with
    | some a, b :: tail => if b < a then (chunk.dropLast ++ tail) :: rest else chunk :: next :: rest
    | _, _ => chunk :: next :: rest

/-- The chunks of a set without the backward ranges, resolved from the last to the first. -/
def mergeChunks (chunks : List (List Char)) : List (List Char) :=
  chunks.foldr joinChunk []

/-- An empty last chunk means that the hyphen before it stands for itself. -/
def absorbLast : List (List Char) → List (List Char)
  | [] => []
  | [chunk] => [chunk]
  | [chunk, []] => [chunk ++ ['-']]
  | chunk :: rest => chunk :: absorbLast rest

/-- The chunks as tokens, a hyphen between each two. -/
def classTokens : List (List Char) → List ClassToken
  | [] => []
  | [chunk] => chunk.map .char
  | chunk :: rest => chunk.map .char ++ .hyphen :: classTokens rest

/-- The members that tokens write. -/
def classItems : List ClassToken → List ClassItem
  | [] => []
  | .char a :: .hyphen :: .char b :: rest => .range a b :: classItems rest
  | .char a :: rest => .one a :: classItems rest
  | .hyphen :: rest => .one '-' :: classItems rest

/-- The set written by the text between two brackets. -/
def classPiece (inside : List Char) : GlobPiece :=
  let exempt := if inside.head? = some '!' then 2 else 1
  let chunks := mergeChunks (absorbLast (chunksFrom exempt [] [] inside))
  match classTokens chunks with
  | [] => .oneOf false []
  | [.char '!'] => .any
  | .char '!' :: rest => .oneOf true (classItems rest)
  | tokens => .oneOf false (classItems tokens)

/-- The text up to the bracket that closes a set and what follows that bracket. A closing bracket at
the very front, or right after the `!`, stands for itself. -/
def closeClass? (cs : List Char) : Option (List Char × List Char) :=
  let (lead, rest) := match cs with
    | '!' :: ']' :: rest => (['!', ']'], rest)
    | '!' :: rest => (['!'], rest)
    | ']' :: rest => ([']'], rest)
    | rest => ([], rest)
  match rest.span (· ≠ ']') with
  | (_, []) => none
  | (inside, _ :: after) => some (lead ++ inside, after)

/-- The pieces of a pattern; the fuel bounds their number. -/
def piecesFrom : Nat → List Char → Glob
  | 0, _ => []
  | _ + 1, [] => []
  | fuel + 1, c :: cs =>
    if c = '*' then .star :: piecesFrom fuel cs
    else if c = '?' then .any :: piecesFrom fuel cs
    else if c = '[' then
      match closeClass? cs with
      | some (inside, after) => classPiece inside :: piecesFrom fuel after
      | none => .literal '[' :: piecesFrom fuel cs
    else .literal c :: piecesFrom fuel cs

/-- The pieces of a pattern. -/
def ofPattern (pattern : List Char) : Glob :=
  piecesFrom pattern.length pattern

/-- For each end of a text, given whether each end matches: whether it or a shorter one does. -/
def anyShorter : List Bool → List Bool
  | [] => []
  | b :: bs => let rest := anyShorter bs; (b || rest.headD false) :: rest

/-- For each end of a text, given whether each end matches: whether its first character fits a piece
and what follows matches. -/
def oneLonger (piece : GlobPiece) : List Char → List Bool → List Bool
  | c :: cs, _ :: v :: vs => (piece.accepts c && v) :: oneLonger piece cs (v :: vs)
  | _, _ => [false]

/-- For each end of a text, the text itself first and the empty one last: whether it matches a
sequence of pieces. Every piece goes through the text once, so stars cost no more than letters. -/
def verdicts : Glob → List Char → List Bool
  | [], s => List.replicate s.length false ++ [true]
  | .star :: rest, s => anyShorter (verdicts rest s)
  | piece :: rest, s => oneLonger piece s (verdicts rest s)

/-- Whether a text as a whole matches a sequence of pieces. -/
def accepts (g : Glob) (s : List Char) : Bool := (verdicts g s).headD false

end Glob

/-- Whether a text matches a shell pattern. -/
def globMatches (pattern s : List Char) : Bool :=
  Glob.accepts (Glob.ofPattern pattern) s

example : globMatches "a*[!b-d]?".toList "axyez".toList = true := by decide +kernel
example : globMatches "[z-a]".toList "b".toList = false := by decide +kernel
example : globMatches "[]-a]".toList "^".toList = true := by decide +kernel

end LspHost.Text
