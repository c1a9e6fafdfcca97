import LspHost.Display.Emoji
import LspHost.Display.Style
import LspHost.Fault

/-!
Markup: tags in square brackets that set styles, and emoji by their names between colons. What is
shown has no colours, so all that matters of a tag is that it does not show and that every closing
tag has something to close.
-/

namespace LspHost.Display

/-- A piece of markup, with its place where it matters. -/
inductive MarkupPiece where
  | text (s : List Char)
  | tag (place : Nat) (name : List Char) (parameters : Option (List Char))
  deriving DecidableEq, Repr

namespace Markup

/-- Whether a tag may start with a character. -/
def startsTag (c : Char) : Bool := ('a' ≤ c ∧ c ≤ 'z') ∨ c = '#' ∨ c = '/' ∨ c = '@'

/-- The inside of a tag behind its opening bracket, and what follows the tag. -/
def tagInside? (s : List Char) : Option (List Char × List Char) :=
  let inside := s.takeWhile fun c => c ≠ ']' ∧ c ≠ '['
  if s.head?.any startsTag && (s.drop inside.length).head? = some ']' then
    some (inside, s.drop (inside.length + 1))
  else none

/-- The backslashes and the inside of a tag at the front, and what follows. -/
def tagAhead? (s : List Char) : Option (Nat × List Char × List Char) :=
  let count := (s.takeWhile (· = '\\')).length
  match s.drop count with
  | '[' :: rest => (tagInside? rest).map fun (inside, rest) => (count, inside, rest)
  | _ => none

/-- A tag by its inside: its name up to an equals sign, and the parameters behind that. -/
def tagOf (place : Nat) (inside : List Char) : MarkupPiece :=
  match Text.cutAt? '=' inside with
  | some (name, parameters) => .tag place name (some parameters)
  | none => .tag place inside none

/-- The pieces of markup, collected in reverse; `plain` is the text before the present place, in
reverse. Of backslashes before a tag every second one stands, and an odd one makes the tag a text. -/
def piecesFrom : Nat → Nat → List Char → List MarkupPiece → List Char → List MarkupPiece
  | 0, _, plain, out, _ => (.text plain.reverse :: out).reverse
  | fuel + 1, place, plain, out, s =>
    match s with
    | [] => (.text plain.reverse :: out).reverse
    | c :: rest =>
      match tagAhead? s with
      | none => piecesFrom fuel (place + 1) (c :: plain) out rest
      | some (count, inside, rest) =>
        let out := .text (List.replicate (count / 2) '\\') :: .text plain.reverse :: out
        let piece :=
          if count % 2 = 1 then .text ('[' :: inside ++ [']'])
          else tagOf (place + count) inside
        piecesFrom fuel (place + count + inside.length + 2) [] (piece :: out) rest

def pieces (s : List Char) : List MarkupPiece := piecesFrom (s.length + 1) 0 [] [] s

/-- A text with every bracket behind a backslash freed from it. -/
def unescapeBrackets : List Char → List Char → List Char
  | out, [] => out.reverse
  | out, '\\' :: '[' :: rest => unescapeBrackets ('[' :: out) rest
  | out, c :: rest => unescapeBrackets (c :: out) rest

/-- A text with the names between colons replaced by the emoji that they stand for, collected in
reverse. Names without an emoji stay, and the colon behind them starts no other name. -/
def replaceEmoji : Nat → List Char → List Char → List Char
  | 0, out, _ => out.reverse
  | fuel + 1, out, s =>
    match s with
    | [] => out.reverse
    | ':' :: rest =>
      let name := rest.takeWhile fun c => c ≠ ':' ∧ !Text.isBlank c
      match rest.drop name.length with
      | ':' :: rest =>
        let shown := (emoji? name).getD (':' :: name ++ [':'])
        replaceEmoji fuel (shown.reverse ++ out) rest
      | _ => replaceEmoji fuel (':' :: out) rest
    | c :: rest => replaceEmoji fuel (c :: out) rest

/-- A text with its emoji. -/
def withEmoji (s : List Char) : List Char := replaceEmoji s.length [] s

/-- Controls that a terminal would act on; they are left out. -/
def isTerminalControl (c : Char) : Bool :=
  let n := c.toNat
  n = 7 ∨ n = 8 ∨ n = 11 ∨ n = 12 ∨ n = 13

/-- A tag as it is written. -/
def tagText (name : List Char) (parameters : Option (List Char)) : String :=
  String.ofList ('[' :: name ++ (match parameters with | some p => '=' :: p | none => []) ++ [']'])

def fault (text : String) : Fault := .plain .markup text

/-- Takes the innermost open tag of a name away. -/
def closeNamed (name : String) : List String → Option (List String)
  | [] => none
  | t :: rest => if t = name then some rest else (closeNamed name rest).map (t :: ·)

/-- The tags that are open after a closing tag, the innermost one first. -/
def close (place : Nat) (name : List Char) (parameters : Option (List Char)) (opened : List String) :
    Except Fault (List String) :=
  match Text.trim name.tail, opened with
  | [], _ :: rest => .ok rest
  | [], [] =>
    .error (fault ("closing tag '[/]' at position " ++ toString place ++ " has nothing to close"))
  | style, opened =>
    match closeNamed (Style.normalName style) opened with
    | some rest => .ok rest
    | none =>
      .error (fault ("closing tag '" ++ tagText name parameters ++ "' at position "
        ++ toString place ++ " doesn't match any open tag"))

/-- What is shown of pieces, collected in reverse, with the names of the tags that are open. -/
def shownFrom : List String → List (List Char) → List MarkupPiece → Except Fault (List Char)
  | _, out, [] => .ok out.reverse.flatten
  | opened, out, .text s :: rest =>
    shownFrom opened (withEmoji (unescapeBrackets [] s) :: out) rest
  | opened, out, .tag place name parameters :: rest =>
    if name.head? = some '/' then
      match close place name parameters opened with
      | .ok opened => shownFrom opened out rest
      | .error f => .error f
    else shownFrom (Style.normalName name :: opened) out rest

/-- What markup shows. -/
def shown (s : List Char) : Except Fault (List Char) :=
  (shownFrom [] [] (pieces s)).map fun t => t.filter fun c => !isTerminalControl c

/-- Text written so that markup shows it, collected in reverse. -/
def escapeFrom : Nat → List Char → List Char → List Char
  | 0, out, _ => out.reverse
  | fuel + 1, out, s =>
    match s with
    | [] => out.reverse
    | c :: rest =>
      match tagAhead? s with
      | none => escapeFrom fuel (c :: out) rest
      | some (count, inside, rest) =>
        let text := List.replicate (2 * count + 1) '\\' ++ '[' :: inside ++ [']']
        escapeFrom fuel (text.reverse ++ out) rest

/-- Text written so that markup shows it. A single backslash at the end is doubled. -/
def escape (s : List Char) : List Char :=
  let t := escapeFrom s.length [] s
  match t.reverse with
  | '\\' :: '\\' :: _ => t
  | '\\' :: _ => t ++ ['\\']
  | _ => t

example : (shown "a[b]c[/] \\[d] :100:".toList).toOption = some "ac [d] 💯".toList := by
  decide +kernel

end Markup

end LspHost.Display
