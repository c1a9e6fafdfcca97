/-!
Blank space: which characters count, how it is trimmed and how it divides words.
-/

namespace LspHost.Text

/-- Blank characters: the ASCII blanks, the four information separators, the next-line control and
the space separators of every script. -/
def isBlank (c : Char) : Bool :=
  let n := c.toNat
  (9 ≤ n ∧ n ≤ 13) ∨ (28 ≤ n ∧ n ≤ 32) ∨ n = 0x85 ∨ n = 0xA0 ∨ n = 0x1680
    ∨ (0x2000 ≤ n ∧ n ≤ 0x200A) ∨ n = 0x2028 ∨ n = 0x2029 ∨ n = 0x202F ∨ n = 0x205F ∨ n = 0x3000

def trimLeft (s : List Char) : List Char := s.dropWhile isBlank

def trimRight (s : List Char) : List Char := (s.reverse.dropWhile isBlank).reverse

/-- A text without the blanks at its two ends. -/
def trim (s : List Char) : List Char := trimRight (trimLeft s)

/-- Divides a text into words, given the word being read (in reverse) and the words before it. -/
def wordsFrom : List Char → List (List Char) → List Char → List (List Char)
  | [], out, [] => out.reverse
  | word, out, [] => (word.reverse :: out).reverse
  | word, out, c :: cs =>
    if isBlank c then
      match word with
      | [] => wordsFrom [] out cs
      | word => wordsFrom [] (word.reverse :: out) cs
    else wordsFrom (c :: word) out cs

/-- The words of a text, divided by any number of blanks. -/
def words (s : List Char) : List (List Char) := wordsFrom [] [] s

/-- The first word of a text and what follows the blanks after it, or nothing for a blank text. The
rest keeps the blanks at its end. -/
def firstWord? (s : List Char) : Option (List Char × List Char) :=
  match trimLeft s with
  | [] => none
  | s => some (s.takeWhile (!isBlank ·), trimLeft (s.dropWhile (!isBlank ·)))

/-- The last word of a text and what precedes the blanks before it, or nothing for a blank text. -/
def lastWord? (s : List Char) : Option (List Char × List Char) :=
  (firstWord? s.reverse).map fun (word, before) => (before.reverse, word.reverse)

example : words " a  bc ".toList = ["a".toList, "bc".toList] := by decide
example : lastWord? "a b  c ".toList = some ("a b".toList, "c".toList) := by decide

end LspHost.Text
