/-!
Cutting texts at single characters.
-/

namespace LspHost.Text

/-- The parts of a text between its dividers, the part being read collected in reverse. -/
def splitFrom (divider : Char) : List Char → List (List Char) → List Char → List (List Char)
  | part, out, [] => (part.reverse :: out).reverse
  | part, out, c :: cs =>
    if c = divider then splitFrom divider [] (part.reverse :: out) cs
    else splitFrom divider (c :: part) out cs

/-- The parts of a text between its dividers; a text without one is a single part. -/
def splitOn (divider : Char) (s : List Char) : List (List Char) :=
  splitFrom divider [] [] s

/-- What stands before and after the first divider, if there is one. -/
def cutAt? (divider : Char) (s : List Char) : Option (List Char × List Char) :=
  match s.span (· ≠ divider) with
  | (_, []) => none
  | (before, _ :: after) => some (before, after)

/-- Whether one text is the front of another. -/
def startsWith : List Char → List Char → Bool
  | [], _ => true
  | p :: ps, c :: cs => p == c && startsWith ps cs
  | _ :: _, [] => false

/-- An ASCII capital as its small letter, every other character as itself. -/
def lowerChar (c : Char) : Char :=
  if 'A' ≤ c ∧ c ≤ 'Z' then Char.ofNat (c.toNat + 32) else c

/-- A text with its ASCII capitals in lower case. -/
def asciiLower (s : List Char) : List Char := s.map lowerChar

end LspHost.Text
