import LspHost.Text.Split
import LspHost.Text.Utf8
import LspHost.Json.Parser

/-!
Uris, as far as filters look at them: the scheme and the path.

`Uri.parse?` refuses only a host that breaks the bracket rules or that would contain a delimiter
once its compatibility characters are spelled out. `Uri.unescape` reads percent escapes and
`Uri.escape` writes them.
-/

namespace LspHost

/-- The two components of a uri that filters look at. -/
structure Uri where
  scheme : String
  path : String
  deriving DecidableEq, Repr

namespace Uri

/-- A digit of base sixteen. -/
def isHexDigit (c : Char) : Bool := (Json.hexValue? c).isSome

/-- Whether a text is a number of an address of four: up to 255, without leading zeros. -/
def isOctet (s : List Char) : Bool :=
  !s.isEmpty && s.all Char.isDigit && s.length ≤ 3 && (s == ['0'] || s.head? != some '0')
    && Json.digitsValue s ≤ 255

/-- Whether a text is an address of four numbers. -/
def isQuad (s : List Char) : Bool :=
  let parts := Text.splitOn '.' s
  parts.length = 4 && parts.all isOctet

/-- Whether a text is a group of an address of eight: one to four digits of base sixteen. -/
def isGroup (s : List Char) : Bool :=
  !s.isEmpty && s.length ≤ 4 && s.all isHexDigit

/-- The groups of an address of eight; an address of four at the end counts as two groups. -/
def groups? (s : List Char) : Option (List (List Char)) :=
  let parts := Text.splitOn ':' s
  match parts.getLast? with
  | some last =>
    if last.contains '.' then
      if isQuad last then some (parts.dropLast ++ [['0'], ['0']]) else none
    else some parts
  | none => none

/-- Whether the groups make an address of eight. One run of groups may be left out, which shows as
an empty group inside, or as two at an end. -/
def isGroupList (parts : List (List Char)) : Bool :=
  let inner := parts.tail.dropLast
  if 9 < parts.length then false
  else
    match inner.count [] with
    | 0 => parts.length = 8 && parts.all isGroup
    | 1 =>
      let opensEmpty := parts.head? = some []
      let closesEmpty := parts.getLast? = some []
      let before := inner.takeWhile (· ≠ [])
      let after := (inner.dropWhile (· ≠ [])).tail
      let before := if opensEmpty then before else parts.head?.toList ++ before
      let after := if closesEmpty then after else after ++ parts.getLast?.toList
      (!opensEmpty || before.isEmpty) && (!closesEmpty || after.isEmpty)
        && before.length + after.length ≤ 7
        && before.all isGroup && after.all isGroup
    | _ => false

/-- Whether a text is an address of eight groups, with a zone after a percent sign allowed. -/
def isGroupedAddress (s : List Char) : Bool :=
  let (address, zoneOk) := match Text.cutAt? '%' s with
    | none => (s, true)
    | some (address, zone) => (address, !zone.isEmpty && !zone.contains '%')
  zoneOk && 3 ≤ (Text.splitOn ':' address).length
    && (match groups? address with
      | some parts => isGroupList parts
      | none => false)

/-- Whether a text is an address of a later version: `v`, a number in base sixteen, a point and more. -/
def isFutureAddress : List Char → Bool
  | 'v' :: rest =>
    match Text.cutAt? '.' rest with
    | some (version, tail) => !version.isEmpty && version.all isHexDigit && !tail.isEmpty
    | none => false
  | _ => false

/-- What may stand between the brackets of a host. -/
def isBracketedHost (s : List Char) : Bool :=
  if s.head? = some 'v' then isFutureAddress s else isGroupedAddress s

/-- The characters that contain a delimiter when their compatibility form is spelled out. -/
def disguisedDelimiters : List Nat :=
  [0x2047, 0x2048, 0x2049, 0x2100, 0x2101, 0x2105, 0x2106, 0x2A74, 0xFE13, 0xFE16, 0xFE55, 0xFE56,
    0xFE5F, 0xFE6B, 0xFF03, 0xFF0F, 0xFF1A, 0xFF1F, 0xFF20]

/-- Whether a host is acceptable. -/
def isHost (host : List Char) : Bool :=
  let brackets :=
    match host.contains '[', host.contains ']' with
    | false, false => true
    | true, true =>
      match Text.cutAt? '[' host with
      | some (_, rest) => isBracketedHost (rest.takeWhile (· ≠ ']'))
      | none => false
    | _, _ => false
  brackets && !host.any fun c => disguisedDelimiters.contains c.toNat

/-- A character that may stand in a scheme. -/
def isSchemeChar (c : Char) : Bool :=
  c.isAlphanum || c == '+' || c == '-' || c == '.'

/-- Cuts a scheme off: letters first, then a colon. Its capitals are lowered. -/
def cutScheme (s : List Char) : List Char × List Char :=
  match s, Text.cutAt? ':' s with
  | c :: _, some (before, after) =>
    if c.isAlpha && before.all isSchemeChar then (Text.asciiLower before, after) else ([], s)
  | _, _ => ([], s)

/-- The schemes whose last path segment may carry parameters after a semicolon. -/
def schemesWithParameters : List String :=
  ["", "ftp", "hdl", "prospero", "http", "imap", "https", "shttp", "rtsp", "rtsps", "rtspu", "sip",
    "sips", "mms", "sftp", "tel"]

/-- A path without the parameters of its last segment. -/
def dropParameters (path : List Char) : List Char :=
  let last := (path.reverse.takeWhile (· ≠ '/')).reverse
  let before := path.take (path.length - last.length)
  before ++ last.takeWhile (· ≠ ';')

/-- The scheme and path of a uri, or nothing if its host is malformed. Blanks and controls at the
front and tabs and line breaks anywhere are no part of a uri. -/
def parse? (uri : String) : Option Uri :=
  let s := (uri.toList.dropWhile fun c => c.toNat ≤ 0x20).filter fun c =>
    c != '\t' && c != '\r' && c != '\n'
  let (scheme, rest) := cutScheme s
  let (host, rest) := match rest with
    | '/' :: '/' :: rest => rest.span fun c => c != '/' && c != '?' && c != '#'
    | rest => ([], rest)
  if isHost host then
    let path := (rest.takeWhile (· ≠ '#')).takeWhile (· ≠ '?')
    let scheme := String.ofList scheme
    some ⟨scheme, String.ofList
      (if schemesWithParameters.contains scheme then dropParameters path else path)⟩
  else none

/-- Reads the percent escapes of a text: `run` holds the octets of the ASCII run being read, in
reverse. The octets of one run are decoded together, malformed ones as U+FFFD. -/
def unescapeFrom : List UInt8 → List Char → List Char → List Char
  | run, out, [] => out.reverse ++ Text.Utf8.decodeLossy run.reverse
  | run, out, '%' :: a :: b :: rest =>
    match Json.hexValue? a, Json.hexValue? b with
    | some h, some l => unescapeFrom ((h * 16 + l).toUInt8 :: run) out rest
    | _, _ => unescapeFrom (37 :: run) out (a :: b :: rest)
  | run, out, c :: rest =>
    if c.toNat < 0x80 then unescapeFrom (c.toNat.toUInt8 :: run) out rest
    else unescapeFrom [] (c :: ((Text.Utf8.decodeLossy run.reverse).reverse ++ out)) rest

/-- A text with its percent escapes replaced by the characters that they stand for. -/
def unescape (s : List Char) : List Char := unescapeFrom [] [] s

/-- An octet that stands for itself in a path: letters, digits, `_`, `.`, `-`, `~` and the slash. -/
def isPlainOctet (b : UInt8) : Bool :=
  let c := Char.ofNat b.toNat
  b.toNat < 0x80 && (c.isAlphanum || c == '_' || c == '.' || c == '-' || c == '~' || c == '/')

/-- A digit of base sixteen, in upper case. -/
def upperHexDigit (n : Nat) : Char :=
  if n < 10 then Char.ofNat (48 + n) else Char.ofNat (55 + n)

/-- An octet as it stands in a path. -/
def escapeOctet (b : UInt8) : List Char :=
  if isPlainOctet b then [Char.ofNat b.toNat]
  else ['%', upperHexDigit (b.toNat / 16), upperHexDigit (b.toNat % 16)]

/-- A path with percent escapes for the octets that need them. -/
def escape (path : List Char) : List Char :=
  (Text.Utf8.encode path).flatMap escapeOctet

/-- The uri of an absolute path. -/
def ofPath (path : List Char) : String :=
  String.ofList ("file://".toList ++ escape path)

end Uri

end LspHost
