import LspHost.Protocol.Message
import LspHost.Json.Printer
import LspHost.Text.Utf8
import LspHost.Text.Integer
import LspHost.Text.Split

/-!
Frames: a header that states the length of the body in octets, an empty line, and the body.

`Framing.frame` writes a frame around a body and `Framing.contentLength?` reads the length from a
header. `Framing.readBody` reads the message of a body.
-/

namespace LspHost.Framing

/-- The octets of a text. -/
def octets (s : List Char) : List UInt8 := Text.Utf8.encode s

/-- What ends a header: an empty line. -/
def separator : List UInt8 := [13, 10, 13, 10]

/-- The header of a body of a given length, its end included. -/
def header (length : Nat) : List UInt8 :=
  octets ("Content-Length: ".toList ++ decimalDigits length) ++ separator

/-- A body with its header. -/
def frame (body : List UInt8) : List UInt8 :=
  header body.length ++ body

/-- An object as the body of a frame. -/
def bodyOf (m : Members) : List UInt8 := octets (Json.obj m).print

/-- A message as it goes over the wire. -/
def encode (m : Message) : List UInt8 := frame (bodyOf m.wireMembers)

/-- An octet of a header as a character; those outside ASCII are unreadable. -/
def headerChar (b : UInt8) : Char :=
  if b.toNat < 0x80 then Char.ofNat b.toNat else '\uFFFD'

/-- The lines of a header, divided by a carriage return and a line feed. -/
def linesFrom : List Char → List (List Char) → List Char → List (List Char)
  | line, out, [] => (line.reverse :: out).reverse
  | line, out, '\r' :: '\n' :: rest => linesFrom [] (line.reverse :: out) rest
  | line, out, c :: rest => linesFrom (c :: line) out rest

/-- The name and the value of a header line; without a colon there is no value. -/
def fieldOf (line : List Char) : List Char × List Char :=
  match Text.cutAt? ':' line with
  | some field => field
  | none => (line, [])

/-- Whether a header line states the length. -/
def statesLength (line : List Char) : Bool :=
  Text.asciiLower (Text.trim (fieldOf line).1) == "content-length".toList

/-- The length that a header states in the first line meant for it, if that line holds an integer. -/
def contentLength? (header : List UInt8) : Option Int :=
  match (linesFrom [] [] (header.map headerChar)).find? statesLength with
  | some line => Text.readInt? (Text.trim (fieldOf line).2)
  | none => none

/-- Why a body holds no message. -/
inductive BodyFault where
  | notText
  | notJson (e : Json.ParseError)
  | notMessage (e : MessageFault)
  deriving DecidableEq, Repr

/-- The message of a body. -/
def readBody (body : List UInt8) : Except BodyFault Message :=
  match Text.Utf8.decode? body with
  | none => .error .notText
  | some s =>
    match Json.parse s with
    | .error e => .error (.notJson e)
    | .ok v => (Message.ofJson v).mapError .notMessage

end LspHost.Framing
