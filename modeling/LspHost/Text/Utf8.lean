/-!
UTF-8, read and written octet by octet.

`encode` writes characters as octets and `scan` reads octets back, reporting each maximal malformed
piece once. `decode?` accepts well-formed input only; `decodeLossy` puts U+FFFD in place of each
malformed piece.
-/

namespace LspHost.Text.Utf8

/-- The octets of one character, one to four of them by its size. -/
def encodeChar (c : Char) : List UInt8 :=
  let n := c.toNat
  if n < 0x80 then [n.toUInt8]
  else if n < 0x800 then [(0xC0 + n / 0x40).toUInt8, (0x80 + n % 0x40).toUInt8]
  else if n < 0x10000 then
    [(0xE0 + n / 0x1000).toUInt8, (0x80 + n / 0x40 % 0x40).toUInt8, (0x80 + n % 0x40).toUInt8]
  else
    [(0xF0 + n / 0x40000).toUInt8, (0x80 + n / 0x1000 % 0x40).toUInt8,
      (0x80 + n / 0x40 % 0x40).toUInt8, (0x80 + n % 0x40).toUInt8]

/-- The octets of a sequence of characters. -/
def encode (s : List Char) : List UInt8 :=
  s.flatMap encodeChar

/-- Where the reader stands: between characters, or inside one that still owes `owed + 1` octets,
the next of which lies between `low` and `high`; `value` holds the bits read so far. -/
inductive Place where
  | between
  | inside (owed : Nat) (low high : Nat) (value : Nat)
  deriving DecidableEq, Repr

/-- What a first octet announces: a whole character, the start of one, or nothing at all. -/
inductive Lead where
  | whole (c : Char)
  | opens (p : Place)
  | stray
  deriving DecidableEq

/-- Classifies an octet met between characters. The bounds on the second octet keep out overlong
forms, surrogates and values past U+10FFFF. -/
def lead (b : UInt8) : Lead :=
  let n := b.toNat
  if n < 0x80 then .whole (Char.ofNat n)
  else if n < 0xC2 then .stray
  else if n < 0xE0 then .opens (.inside 0 0x80 0xBF (n - 0xC0))
  else if n = 0xE0 then .opens (.inside 1 0xA0 0xBF 0)
  else if n = 0xED then .opens (.inside 1 0x80 0x9F 0xD)
  else if n < 0xF0 then .opens (.inside 1 0x80 0xBF (n - 0xE0))
  else if n = 0xF0 then .opens (.inside 2 0x90 0xBF 0)
  else if n < 0xF4 then .opens (.inside 2 0x80 0xBF (n - 0xF0))
  else if n = 0xF4 then .opens (.inside 2 0x80 0x8F 4)
  else .stray

/-- Puts the outcome of an octet met between characters on the reversed output. -/
def start (b : UInt8) (out : List (Option Char)) : Place × List (Option Char) :=
  match lead b with
  | .whole c => (.between, some c :: out)
  | .opens p => (p, out)
  | .stray => (.between, none :: out)

/-- Reads one octet. Inside a character, an octet that does not fit ends the malformed piece and is
read again as a first octet. -/
def step : Place → UInt8 → List (Option Char) → Place × List (Option Char)
  | .between, b, out => start b out
  | .inside owed low high value, b, out =>
    let n := b.toNat
    if low ≤ n ∧ n ≤ high then
      let value := value * 0x40 + n % 0x40
      match owed with
      | 0 => (.between, some (Char.ofNat value) :: out)
      | owed + 1 => (.inside owed 0x80 0xBF value, out)
    else start b (none :: out)

/-- Reads octets from a place, collecting the output in reverse; a character cut short by the end
counts as malformed. -/
def scanFrom : Place → List (Option Char) → List UInt8 → List (Option Char)
  | .between, out, [] => out
  | .inside _ _ _ _, out, [] => none :: out
  | p, out, b :: bs => let r := step p b out; scanFrom r.1 r.2 bs

/-- The characters of a sequence of octets, with `none` for each malformed piece. -/
def scan (bs : List UInt8) : List (Option Char) :=
  (scanFrom .between [] bs).reverse

/-- The characters of well-formed octets, and nothing for malformed ones. -/
def decode? (bs : List UInt8) : Option (List Char) :=
  let out := scan bs
  if out.all Option.isSome then some (out.filterMap id) else none

/-- The characters of any octets, each malformed piece read as U+FFFD. -/
def decodeLossy (bs : List UInt8) : List Char :=
  (scan bs).map fun c => c.getD '\uFFFD'

/-- What is wrong with a malformed piece. -/
inductive Flaw where
  | strayStart
  | badContinuation
  | cutShort
  deriving DecidableEq, Repr

/-- A malformed piece: where it starts, its first octet and its size. -/
structure Piece where
  position : Nat
  first : UInt8
  size : Nat
  flaw : Flaw
  deriving DecidableEq, Repr

/-- The first malformed piece from a place on. `position` is that of the next octet, and the pair the
first octet of the character being read with the number of its octets so far. -/
def pieceFrom? : Place → Nat → UInt8 × Nat → List UInt8 → Option Piece
  | .between, _, _, [] => none
  | .inside _ _ _ _, position, (first, size), [] => some ⟨position - size, first, size, .cutShort⟩
  | .between, position, _, b :: bs =>
    match lead b with
    | .whole _ => pieceFrom? .between (position + 1) (b, 0) bs
    | .opens p => pieceFrom? p (position + 1) (b, 1) bs
    | .stray => some ⟨position, b, 1, .strayStart⟩
  | .inside owed low high value, position, (first, size), b :: bs =>
    let n := b.toNat
    if low ≤ n ∧ n ≤ high then
      match owed with
      | 0 => pieceFrom? .between (position + 1) (b, 0) bs
      | owed + 1 => pieceFrom? (.inside owed 0x80 0xBF value) (position + 1) (first, size + 1) bs
    else some ⟨position - size, first, size, .badContinuation⟩

/-- The first malformed piece of a sequence of octets. -/
def piece? (bs : List UInt8) : Option Piece := pieceFrom? .between 0 (0, 0) bs

example : piece? [0x61, 0xE4, 0xB8] = some ⟨1, 0xE4, 2, .cutShort⟩ := by decide
example : decode? (encode ['a', 'é', '中', '😀']) = some ['a', 'é', '中', '😀'] := by decide
example : decode? [0xC0, 0xAF] = none := by decide
example : decodeLossy [0x61, 0xE4, 0xB8, 0x62] = ['a', '\uFFFD', 'b'] := by decide

end LspHost.Text.Utf8
