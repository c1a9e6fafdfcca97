import LspHost.Uri

/-!
File paths: their parts, their plain form, their absolute form and their language.
-/

namespace LspHost.Path

/-- The parts of a path that name something: neither empty nor a single point. -/
def names (path : List Char) : List (List Char) :=
  (Text.splitOn '/' path).filter fun p => !p.isEmpty && p != ['.']

/-- Parts joined by slashes. -/
def join : List (List Char) → List Char
  | [] => []
  | [a] => a
  | a :: rest => a ++ '/' :: join rest

/-- A path without empty parts and single points. Exactly two slashes at the front are kept. -/
def plain (path : List Char) : List Char :=
  let lead := match path with
    | '/' :: '/' :: '/' :: _ => ['/']
    | '/' :: '/' :: _ => ['/', '/']
    | '/' :: _ => ['/']
    | _ => []
  match lead ++ join (names path) with
  | [] => ['.']
  | p => p

/-- Whether a path starts at the root. -/
def isAbsolute (path : List Char) : Bool := path.head? = some '/'

/-- Walks through names from a place, given by its names in reverse: two points lead one step up,
and at the root nowhere. -/
def walk (place : List (List Char)) (steps : List (List Char)) : List (List Char) :=
  steps.foldl (fun here step => if step = ['.', '.'] then here.tail else step :: here) place

/-- The names of the absolute form of a path, seen from a working directory. -/
def resolveNames (cwd path : List Char) : List (List Char) :=
  let start := if isAbsolute path then [] else (names cwd).reverse
  (walk start (names path)).reverse

/-- The absolute form of a path, seen from a working directory; there are no links to follow. -/
def resolve (cwd path : List Char) : List Char :=
  '/' :: join (resolveNames cwd path)

/-- The last name of a path, empty for the root. -/
def lastName (path : List Char) : List Char :=
  ((names path).getLast?).getD []

/-- The ending of a file name, from its last point on; points at the front of the name do not
count. -/
def ending (path : List Char) : List Char :=
  let name := (path.reverse.takeWhile (· ≠ '/')).reverse
  let body := name.dropWhile (· = '.')
  if body.contains '.' then '.' :: (body.reverse.takeWhile (· ≠ '.')).reverse else []

/-- The languages of file endings. -/
def languages : List (String × String) :=
  [(".toml", "toml"), (".json", "json"), (".txt", "plaintext"), (".deval", "plaintext")]

/-- The language of a file, by its ending; capitals do not matter. Endings that are not listed
belong to plain text. Only ASCII letters have a small letter that occurs in a listed ending. -/
def languageId (path : List Char) : String :=
  (languages.lookup (String.ofList (Text.asciiLower (ending path)))).getD "plaintext"

/-- The uri of a path, seen from a working directory; a path with a NUL has none. -/
def toUri? (cwd path : List Char) : Option String :=
  if path.contains '\x00' then none else some (Uri.ofPath (resolve cwd path))

example : resolve "/w".toList "a/../../b/./c".toList = "/b/c".toList := by decide +kernel
example : languageId "x/.toml".toList = "plaintext" := by decide +kernel

end LspHost.Path
