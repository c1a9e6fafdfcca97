import LspHost.Fault
import LspHost.Process.Stream

/-!
Receiving messages: the header of a frame is read first, then its body.

`Stage.next` says what follows each piece that was read. `receiveAll` takes from a stream everything
that can be decided and goes on after bodies that hold no message, so a bad body never disturbs the
frames behind it.
-/

namespace LspHost

/-- What is read next: the header of a frame, or a body of a known length. -/
inductive Stage where
  | header
  | body (length : Nat)
  deriving DecidableEq, Repr

/-- What follows a piece: another one, or the outcome. -/
inductive Progress where
  | onward (s : Stage)
  | received (m : Message)
  | failed (f : Fault)

namespace Stage

/-- What to ask of the stream. -/
def demand : Stage → Demand
  | .header => .until Framing.separator
  | .body length => .exactly length

/-- What follows a header. -/
def afterHeader (header : List UInt8) : Progress :=
  match Framing.contentLength? header with
  | none => .failed (.transport (.badHeader header))
  | some n =>
    if n < 0 then .failed (.plain .badValue "readexactly size can not be less than zero")
    else .onward (.body n.toNat)

/-- What follows a body. -/
def afterBody (body : List UInt8) : Progress :=
  match Framing.readBody body with
  | .ok m => .received m
  | .error f => .failed (.transport (.undecodableBody f))

/-- What follows the end of a read. -/
def next : Stage → Taken → Progress
  | .header, .piece bytes => afterHeader bytes
  | .body _, .piece bytes => afterBody bytes
  | _, .ended _ => .failed (.closed .endOfOutput)
  | _, .tooLong separatorFound _ => .failed (.transport (.overlongHeader separatorFound))

end Stage

/-- Whether receiving goes on after a fault: a body that holds no message is passed over. -/
def Fault.isPassedOver : Fault → Bool
  | .transport (.undecodableBody _) => true
  | _ => false

/-- Where receiving stands: what is read next, and whether it has ended. -/
structure Reception where
  stream : Stream
  stage : Stage
  ended : Bool

namespace Reception

/-- Before anything was received. -/
def start : Reception := ⟨.empty, .header, false⟩

/-- Takes the next piece, if it can be decided, with the outcome if it brings one. -/
def step? (r : Reception) : Option (Option (Except Fault Message) × Reception) :=
  if r.ended then none
  else
    match r.stream.take? r.stage.demand with
    | none => none
    | some (taken, stream) =>
      match r.stage.next taken with
      | .onward stage => some (none, { r with stream := stream, stage := stage })
      | .received m => some (some (.ok m), ⟨stream, .header, false⟩)
      | .failed f => some (some (.error f), ⟨stream, .header, !f.isPassedOver⟩)

/-- Everything that can be decided, in at most so many steps. -/
def receiveWithin : Nat → Reception → List (Except Fault Message) × Reception
  | 0, r => ([], r)
  | fuel + 1, r =>
    match r.step? with
    | none => ([], r)
    | some (outcome, r) =>
      let (later, r) := receiveWithin fuel r
      match outcome with
      | some o => (o :: later, r)
      | none => (later, r)

/-- Everything that can be decided. Two steps take one frame, which has octets. -/
def receiveAll (r : Reception) : List (Except Fault Message) × Reception :=
  receiveWithin (2 * r.stream.buffer.length + 2) r

/-- The reception after more octets have arrived. -/
def feed (r : Reception) (bytes : List UInt8) : Reception := { r with stream := r.stream.feed bytes }

/-- The reception after the end of the stream. -/
def close (r : Reception) : Reception := { r with stream := r.stream.close }

end Reception

end LspHost
