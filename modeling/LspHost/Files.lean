import LspHost.Fault
import LspHost.Path

/-!
The files that a program sees: a working directory and the contents of files by absolute path.
Directories are those that lead to a file or to the working directory.
-/

namespace LspHost

/-- Files by absolute path, and the working directory that other paths start from. -/
structure Files where
  cwd : String
  contents : List (String × List UInt8)

/-- What a path leads to. -/
inductive FileEntry where
  | file (bytes : List UInt8)
  | directory
  deriving DecidableEq, Repr

namespace Files

/-- The most octets of one name in a path, and of a path with the octet after it. -/
def longestName : Nat := 255
def longestPath : Nat := 4096

/-- The file with these names from the root on. -/
def fileAt? (fs : Files) (names : List (List Char)) : Option (List UInt8) :=
  (fs.contents.find? fun p => Path.names p.1.toList = names).map Prod.snd

/-- Whether these names from the root on are those of a directory. -/
def isDirectory (fs : Files) (names : List (List Char)) : Bool :=
  names.isPrefixOf (Path.names fs.cwd.toList)
    || fs.contents.any fun p => names.isPrefixOf (Path.names p.1.toList).dropLast

/-- What these names from the root on lead to. -/
def entryAt? (fs : Files) (names : List (List Char)) : Option FileEntry :=
  match fs.fileAt? names with
  | some bytes => some (.file bytes)
  | none => if fs.isDirectory names then some .directory else none

def tooLong : Fault := .plain .osFault "[Errno 36] File name too long"

/-- Follows names from a place, given in reverse; each but the last must lead to a directory. -/
def follow (fs : Files) : List (List Char) → List (List Char) → Except Fault (Option FileEntry)
  | here, [] => .ok (fs.entryAt? here.reverse)
  | here, step :: rest =>
    if !fs.isDirectory here.reverse then .ok none
    else if longestName < (Text.Utf8.encode step).length then .error tooLong
    else if step = ['.', '.'] then follow fs here.tail rest
    else follow fs (step :: here) rest

/-- What a path leads to, if anything. A path with a NUL leads nowhere. -/
def find (fs : Files) (path : String) : Except Fault (Option FileEntry) :=
  let path := Path.plain path.toList
  if path.contains '\x00' then .ok none
  else if longestPath ≤ (Text.Utf8.encode path).length then .error tooLong
  else
    follow fs (if Path.isAbsolute path then [] else (Path.names fs.cwd.toList).reverse)
      (Path.names path)

/-- The names from the root on that a path stands for. -/
def namesOf (fs : Files) (path : String) : List (List Char) :=
  Path.resolveNames fs.cwd.toList path.toList

/-- The names in a directory, each once. -/
def list (fs : Files) (path : String) : List (List Char) :=
  let here := fs.namesOf path
  (fs.contents.filterMap fun p =>
    let names := Path.names p.1.toList
    if here.isPrefixOf names then names[here.length]? else none).eraseDups

/-- A text with every line end written as a line feed, collected in reverse. -/
def plainLines : List Char → List Char → List Char
  | out, [] => out.reverse
  | out, '\r' :: '\n' :: rest => plainLines ('\n' :: out) rest
  | out, '\r' :: rest => plainLines ('\n' :: out) rest
  | out, c :: rest => plainLines (c :: out) rest

/-- The words for octets that are no text. -/
def undecodable (p : Text.Utf8.Piece) : String :=
  let place :=
    if p.size = 1 then
      "byte 0x" ++ String.ofList [Json.hexDigit (p.first.toNat / 16), Json.hexDigit (p.first.toNat % 16)]
        ++ " in position " ++ toString p.position
    else
      "bytes in position " ++ toString p.position ++ "-" ++ toString (p.position + p.size - 1)
  let flaw := match p.flaw with
    | .strayStart => "invalid start byte"
    | .badContinuation => "invalid continuation byte"
    | .cutShort => "unexpected end of data"
  "'utf-8' codec can't decode " ++ place ++ ": " ++ flaw

/-- The text that octets of a file stand for. -/
def textOf (bytes : List UInt8) : Except Fault (List Char) :=
  match Text.Utf8.piece? bytes with
  | some p => .error (.plain .undecodable (undecodable p))
  | none => .ok (plainLines [] (Text.Utf8.decodeLossy bytes))

/-- The text of what a path leads to. -/
def textAt (e : FileEntry) : Except Fault (List Char) :=
  match e with
  | .file bytes => textOf bytes
  | .directory => .error (.plain .isDirectory "Is a directory")

end Files

end LspHost
