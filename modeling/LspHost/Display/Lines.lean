import LspHost.Text.Blank
import LspHost.Text.Split
import LspHost.Text.Width

/-!
Text in lines of a given width: between words where possible; a word that is too wide for any line
is folded into several or cut short.
-/

namespace LspHost.Display

/-- What happens to a word that is too wide for a line. -/
inductive Overflow where
  | fold
  | ellipsis
  deriving DecidableEq, Repr

/-- Where the lines of a text stand. -/
inductive Justify where
  | natural
  | left
  | right
  deriving DecidableEq, Repr

namespace Lines

/-- A tab reaches to the next multiple of this. -/
def tabSize : Nat := 8

/-- A line with blanks for tabs, collected in reverse, at a column. -/
def expandTabs : Nat → List Char → List Char → List Char
  | _, out, [] => out.reverse
  | column, out, c :: rest =>
    if c = '\t' then
      let count := tabSize - column % tabSize
      expandTabs (column + count) (List.replicate count ' ' ++ out) rest
    else expandTabs (column + Text.charWidth c) (c :: out) rest

/-- The words of a line, each with the blanks around it; a blank line has none. -/
def wordsFrom : Nat → List Char → List (List Char)
  | 0, _ => []
  | fuel + 1, s =>
    let before := s.takeWhile Text.isBlank
    let word := (s.drop before.length).takeWhile (!Text.isBlank ·)
    if word.isEmpty then []
    else
      let size := before.length + word.length
      let after := (s.drop size).takeWhile Text.isBlank
      (before ++ word ++ after) :: wordsFrom fuel (s.drop (size + after.length))

/-- A word in pieces of a width at most; `piece` is the present one, in reverse. -/
def chop (width : Nat) : Nat → List Char → List (List Char) → List Char → List (List Char)
  | _, piece, out, [] => (piece.reverse :: out).reverse
  | size, piece, out, c :: rest =>
    let w := Text.charWidth c
    if width < size + w then chop width w [c] (piece.reverse :: out) rest
    else chop width (size + w) (c :: piece) out rest

/-- The places before the pieces of a word that starts at a place; none before the first character
of a line. -/
def pieceBreaks : Nat → List (List Char) → List Nat
  | _, [] => []
  | start, piece :: rest =>
    (if start = 0 then [] else [start]) ++ pieceBreaks (start + piece.length) rest

/-- Where a line breaks: `start` is the place of the next word and `used` the width before it. -/
def breaks (width : Nat) (overflow : Overflow) : Nat → Nat → List (List Char) → List Nat
  | _, _, [] => []
  | start, used, word :: rest =>
    let next := start + word.length
    let size := Text.width (Text.trimRight word)
    let place := if start = 0 then [] else [start]
    if size + used ≤ width then breaks width overflow next (used + Text.width word) rest
    else if width < size then
      match overflow with
      | .fold =>
        let pieces := chop width 0 [] [] word
        let last := pieces.getLast?.getD []
        pieceBreaks start pieces ++ breaks width overflow next (Text.width last) rest
      | .ellipsis => place ++ breaks width overflow next (Text.width word) rest
    else if used = 0 then breaks width overflow next used rest
    else place ++ breaks width overflow next (Text.width word) rest

/-- Cuts a text at places that are given in rising order, `done` characters of it being gone. -/
def cutAt : Nat → List Nat → List Char → List (List Char)
  | _, [], s => [s]
  | gone, place :: rest, s =>
    s.take (place - gone) :: cutAt place rest (s.drop (place - gone))

/-- A line without the blanks at its end that stand beyond a number of characters. -/
def dropOverhang (width : Nat) (s : List Char) : List Char :=
  let blanks := (s.reverse.takeWhile Text.isBlank).length
  s.take (s.length - min blanks (s.length - width))

/-- The longest front of a text within a width; half of a wide character becomes a blank. -/
def cropFrom : Nat → List Char → List Char → List Char
  | _, out, [] => out.reverse
  | left, out, c :: rest =>
    let w := Text.charWidth c
    if w ≤ left then cropFrom (left - w) (c :: out) rest
    else (List.replicate left ' ' ++ out).reverse

def blanks (n : Nat) : List Char := List.replicate n ' '

/-- A line that is no wider than allowed. -/
def truncate (width : Nat) (overflow : Overflow) (s : List Char) : List Char :=
  if Text.width s ≤ width then s
  else
    match overflow with
    | .fold => cropFrom width [] s
    | .ellipsis => cropFrom (width - 1) [] s ++ ['…']

/-- A line put in its place. -/
def justified (width : Nat) (overflow : Overflow) (j : Justify) (s : List Char) : List Char :=
  match j with
  | .natural => truncate width overflow s
  | .left =>
    let s := truncate width overflow s
    s ++ blanks (width - Text.width s)
  | .right =>
    let s := truncate width overflow (Text.trimRight s)
    blanks (width - Text.width s) ++ s

/-- A text in lines. -/
def wrap (width : Nat) (overflow : Overflow) (j : Justify) (s : List Char) : List (List Char) :=
  (Text.splitOn '\n' s).flatMap fun line =>
    let line := expandTabs 0 [] line
    let places := breaks width overflow 0 0 (wordsFrom (line.length + 1) line)
    (cutAt 0 places line).map fun l => justified width overflow j (dropOverhang width l)

example : wrap 5 .fold .natural "ab cdefghij k".toList
    = ["ab ", "cdefg", "hij k"].map String.toList := by decide +kernel

end Lines

end LspHost.Display
