import LspHost.Protocol.Framing

/-!
Streams of octets from a process, read in pieces: up to a separator, or a given number.

A reader states its demand. `Stream.meets` tells whether a demand can be decided by what has arrived
so far, and once it can it stays so whatever arrives later; `Stream.take` decides it.
-/

namespace LspHost

/-- What a reader asks for. -/
inductive Demand where
  | until (separator : List UInt8)
  | exactly (count : Nat)
  deriving DecidableEq, Repr

/-- How a read ends. -/
inductive Taken where
  | piece (bytes : List UInt8)
  /-- The stream ended before; these octets were left. -/
  | ended (rest : List UInt8)
  /-- More octets than allowed, without the separator or before it. -/
  | tooLong (separatorFound : Bool) (before : Nat)
  deriving DecidableEq, Repr

/-- Octets that have arrived and were not read yet, and whether more can come; `waiter` is the ticket
of a reader that waits, with its demand. -/
structure Stream where
  buffer : List UInt8
  ended : Bool
  waiter : Option (Nat × Demand)
  deriving DecidableEq, Repr

namespace Stream

def empty : Stream := ⟨[], false, none⟩

/-- The most octets that may precede a separator. -/
def limit : Nat := 65536

/-- Where a separator first occurs, counting from a given place. -/
def find? (separator : List UInt8) : Nat → List UInt8 → Option Nat
  | _, [] => if separator.isEmpty then some 0 else none
  | place, b :: rest =>
    if separator.isPrefixOf (b :: rest) then some place else find? separator (place + 1) rest

/-- Whether so many octets without a separator are too many already. The last ones do not count, as
the separator may begin in them. -/
def isOverlong (separator : List UInt8) (count : Nat) : Bool :=
  separator.length ≤ count && limit < count + 1 - separator.length

/-- Decides a demand, if that is possible: how the read ends and what stays unread. -/
def decide? (s : Stream) : Demand → Option (Taken × List UInt8)
  | .until separator =>
    match find? separator 0 s.buffer with
    | some i =>
      if limit < i then some (.tooLong true i, s.buffer)
      else
        some (.piece (s.buffer.take (i + separator.length)),
          s.buffer.drop (i + separator.length))
    | none =>
      if isOverlong separator s.buffer.length then
        some (.tooLong false (s.buffer.length + 1 - separator.length), s.buffer)
      else if s.ended then some (.ended s.buffer, [])
      else none
  | .exactly count =>
    if count ≤ s.buffer.length then some (.piece (s.buffer.take count), s.buffer.drop count)
    else if s.ended then some (.ended s.buffer, [])
    else none

/-- Whether a demand can be decided. -/
def meets (s : Stream) (d : Demand) : Bool := (s.decide? d).isSome

/-- Decides a demand that can be decided, and takes what was read. -/
def take? (s : Stream) (d : Demand) : Option (Taken × Stream) :=
  (s.decide? d).map fun (taken, rest) => (taken, { s with buffer := rest })

/-- Octets arrive; after the end nothing does. -/
def feed (s : Stream) (bytes : List UInt8) : Stream :=
  if s.ended then s else { s with buffer := s.buffer ++ bytes }

/-- Nothing more will come. -/
def close (s : Stream) : Stream := { s with ended := true }

end Stream

end LspHost
