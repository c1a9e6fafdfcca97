import LspHost.Proofs.Transport.Receiving

/-!
# How a call to receive ends

1. `Reception.CallEnds` lists the ways, by the octets that a call finds in front of it and by whether
   more can come: a frame, a header that states no length or a negative one, octets in which no header
   ends near enough, and the end of the stream inside or before a frame.
2. `Reception.callEnds_head`: the first outcome of a reception is one of these.
3. `Reception.CallEnds.accounted`: all of them are messages or faults of the connection, but for a
   header that states a negative length.
4. `Transport.call_ends`: a call ends so wherever it begins in a stream and however the octets come.
-/

namespace LspHost

theorem Stream.ended_feed (s : Stream) (bytes : List UInt8) : (s.feed bytes).ended = s.ended := by
  unfold Stream.feed
  split <;> rfl

namespace Reception

open Framing (separator contentLength?)

/-! ## The ways to end -/

/-- No header ends near enough in octets that are many enough to hold one. -/
def Endless (octets : List UInt8) : Prop :=
  Stream.limit + separator.length ≤ octets.length ∧
    ∀ i, Stream.find? separator 0 octets = some i → Stream.limit < i

/-- No header ends in the octets, but more of them might still end one. -/
def Headless (octets : List UInt8) : Prop :=
  Stream.find? separator 0 octets = none ∧ octets.length < Stream.limit + separator.length

/-- A header comes first that states a length, or none. -/
def Begins (octets : List UInt8) (length : Option Int) (rest : List UInt8) : Prop :=
  ∃ header, octets = header ++ rest ∧ IsHeader header ∧ contentLength? header = length

/-- The fault of a read of less than nothing. -/
def lessThanNothing : Fault := .plain .badValue "readexactly size can not be less than zero"

/-- How a call ends, by the octets that it finds and by whether the stream has ended behind them. -/
inductive CallEnds (octets : List UInt8) (ended : Bool) : Outcome → Prop where
  | frame {body rest : List UInt8} (begins : Begins octets (some (body.length : Int)) (body ++ rest)) :
    CallEnds octets ended (.ofBody body)
  | lengthless {header rest : List UInt8} (shape : octets = header ++ rest) (isHeader : IsHeader header)
    (lengthless : contentLength? header = none) :
    CallEnds octets ended (.error (.transport (.badHeader header)))
  | negative {n : Int} {rest : List UInt8} (begins : Begins octets (some n) rest) (negative : n < 0) :
    CallEnds octets ended (.error lessThanNothing)
  | endless (found : Bool) (endless : Endless octets) :
    CallEnds octets ended (.error (.transport (.overlongHeader found)))
  | headless (isOver : ended = true) (headless : Headless octets) :
    CallEnds octets ended (.error (.closed .endOfOutput))
  | cut {n : Nat} {part : List UInt8} (isOver : ended = true) (begins : Begins octets (some (n : Int)) part)
    (short : part.length < n) : CallEnds octets ended (.error (.closed .endOfOutput))

namespace Outcome

/-- A message, or a fault of the connection. -/
def IsTyped : Outcome → Prop
  | .ok _ => True
  | .error f => f.isTransport = true

theorem isTyped_ofBody (body : List UInt8) : (Outcome.ofBody body).IsTyped := by
  unfold Outcome.ofBody
  cases Framing.readBody body with
  | ok m => trivial
  | error f => rfl

end Outcome

/-! ## Reading a piece -/

theorem IsHeader.eq_of_append {header header' rest rest' : List UInt8} (h : IsHeader header)
    (h' : IsHeader header') (same : header ++ rest = header' ++ rest') : header = header' := by
  obtain ⟨i, found, ends, -⟩ := h
  obtain ⟨i', found', ends', -⟩ := h'
  have solid : separator ≠ [] := List.cons_ne_nil _ _
  have all := Stream.find?_append rest solid found
  rw [same, Stream.find?_append rest' solid found', Option.some.injEq] at all
  exact List.append_inj_left same (by omega)

/-- What a call finds where it reads a header. -/
theorem take?_until_cases {s rest : Stream} {taken : Taken}
    (took : s.take? (.until separator) = some (taken, rest)) :
    (∃ header, taken = .piece header ∧ IsHeader header ∧ s.buffer = header ++ rest.buffer ∧
      rest.ended = s.ended) ∨
    (∃ found before, taken = .tooLong found before ∧ Endless s.buffer) ∨
    ∃ left, taken = .ended left ∧ s.ended = true ∧ Headless s.buffer := by
  have solid : separator ≠ [] := List.cons_ne_nil _ _
  have four : separator.length = 4 := rfl
  obtain ⟨⟨taken', buffer⟩, decided, e⟩ := Option.map_eq_some_iff.mp took
  cases e
  simp only [Stream.decide?] at decided
  rcases found : Stream.find? separator 0 s.buffer with _ | i
  · rw [found] at decided
    dsimp only at decided
    split at decided
    · next long =>
      cases decided
      simp only [Stream.isOverlong, Bool.and_eq_true, decide_eq_true_eq] at long
      exact .inr (.inl ⟨_, _, rfl, by omega, fun i found' => by rw [found] at found'; cases found'⟩)
    · next short =>
      split at decided
      · next ended =>
        cases decided
        simp only [Stream.isOverlong, Bool.and_eq_true, decide_eq_true_eq, not_and] at short
        refine .inr (.inr ⟨_, rfl, ended, found, ?_⟩)
        by_cases few : separator.length ≤ s.buffer.length
        · have := short few
          omega
        · have limit : Stream.limit = 65536 := rfl
          omega
      · cases decided
  · have bound := (Stream.find?_bound solid found).2
    rw [found] at decided
    dsimp only at decided
    split at decided
    · next long =>
      cases decided
      refine .inr (.inl ⟨_, _, rfl, by omega, fun i' found' => ?_⟩)
      rw [found, Option.some.injEq] at found'
      exact found' ▸ long
    · next near =>
      cases decided
      have length : (s.buffer.take (i + separator.length)).length = i + separator.length := by
        rw [List.length_take]
        omega
      have found' : Stream.find? separator 0
          (s.buffer.take (i + separator.length) ++ s.buffer.drop (i + separator.length)) = some i := by
        rw [List.take_append_drop]
        exact found
      have within := Stream.find?_within solid found' (by omega)
      exact .inl ⟨_, rfl, ⟨i, within, by omega, by omega⟩, (List.take_append_drop ..).symm, rfl⟩

/-- What a call finds where it reads a body. -/
theorem take?_exactly_cases {s rest : Stream} {n : Nat} {taken : Taken}
    (took : s.take? (.exactly n) = some (taken, rest)) :
    (∃ body, taken = .piece body ∧ body.length = n ∧ s.buffer = body ++ rest.buffer) ∨
    ∃ left, taken = .ended left ∧ s.ended = true ∧ s.buffer.length < n := by
  obtain ⟨⟨taken', buffer⟩, decided, e⟩ := Option.map_eq_some_iff.mp took
  cases e
  simp only [Stream.decide?] at decided
  split at decided
  · cases decided
    exact .inl ⟨_, rfl, by rw [List.length_take]; omega, (List.take_append_drop ..).symm⟩
  · split at decided
    · next ended => cases decided; exact .inr ⟨_, rfl, ended, by omega⟩
    · cases decided

/-! ## The first outcome -/

/-- The first outcome of a reception that awaits a body. -/
theorem callEnds_body {octets : List UInt8} {n : Nat} {s : Stream} {o : Outcome} {later : List Outcome}
    (begins : Begins octets (some (n : Int)) s.buffer)
    (all : (⟨s, .body n, false⟩ : Reception).receiveAll.1 = o :: later) : CallEnds octets s.ended o := by
  rcases step : (⟨s, .body n, false⟩ : Reception).step? with _ | ⟨o', r'⟩
  · rw [receiveAll_of_stuck step] at all
    cases all
  · obtain ⟨-, taken, rest, took, next⟩ := step?_eq_some_iff.mp step
    rw [receiveAll_of_step step] at all
    rcases take?_exactly_cases took with ⟨body, rfl, length, shape⟩ | ⟨left, rfl, ended, short⟩
    · have first : o' = some (Outcome.ofBody body) := by
        simp only [Stage.next, Stage.afterBody] at next
        unfold Outcome.ofBody
        cases read : Framing.readBody body <;> rw [read] at next <;> cases next <;> rfl
      subst first
      cases all
      have begins' : Begins octets (some (body.length : Int)) (body ++ rest.buffer) := by
        rwa [length, ← shape]
      exact .frame begins'
    · cases next
      cases all
      exact .cut ended begins short

/-- The first outcome of a reception is one that the octets and the end of the stream account for. -/
theorem callEnds_head {s : Stream} {o : Outcome} {later : List Outcome}
    (all : (⟨s, .header, false⟩ : Reception).receiveAll.1 = o :: later) : CallEnds s.buffer s.ended o := by
  rcases step : (⟨s, .header, false⟩ : Reception).step? with _ | ⟨o', r'⟩
  · rw [receiveAll_of_stuck step] at all
    cases all
  · obtain ⟨-, taken, rest, took, next⟩ := step?_eq_some_iff.mp step
    rw [receiveAll_of_step step] at all
    rcases take?_until_cases took with ⟨header, rfl, isHeader, shape, ended⟩ | ⟨found, before, rfl, endless⟩ |
      ⟨left, rfl, ended, headless⟩
    · simp only [Stage.next, Stage.afterHeader] at next
      rcases length : contentLength? header with _ | n
      · rw [length] at next
        cases next
        cases all
        exact .lengthless shape isHeader length
      · rw [length] at next
        dsimp only at next
        split at next
        · next negative =>
          cases next
          cases all
          exact .negative ⟨header, shape, isHeader, length⟩ negative
        · next natural =>
          cases next
          have same : ((n.toNat : Nat) : Int) = n := Int.toNat_of_nonneg (by omega)
          rw [← ended]
          exact callEnds_body ⟨header, shape, isHeader, by rw [same]; exact length⟩ all
    · cases next
      cases all
      exact .endless found endless
    · cases next
      cases all
      exact .headless ended headless

/-- Only where no header ends near enough is a header said to be too long. -/
theorem CallEnds.endless_or {octets : List UInt8} {ended : Bool} {o : Outcome}
    (ends : CallEnds octets ended o) :
    Endless octets ∧ (∃ found, o = .error (.transport (.overlongHeader found))) ∨
    ∀ found, o ≠ .error (.transport (.overlongHeader found)) := by
  cases ends with
  | @frame body rest begins =>
    obtain ⟨header, -, isHeader, length⟩ := begins
    exact .inr (Complete.frame isHeader length).short
  | lengthless => exact .inr fun found e => by cases e
  | negative => exact .inr fun found e => by cases e
  | endless found endless => exact .inl ⟨endless, found, rfl⟩
  | headless => exact .inr fun found e => by cases e
  | cut => exact .inr fun found e => by cases e

/-- The words about a header that is too long do not matter for how a call ends. -/
theorem CallEnds.of_leveled {octets : List UInt8} {ended : Bool} {o o' : Outcome}
    (ends : CallEnds octets ended o) (same : o'.leveled = o.leveled) : CallEnds octets ended o' := by
  rcases ends.endless_or with ⟨endless, found, rfl⟩ | short
  · by_cases long : ∃ found', o' = .error (.transport (.overlongHeader found'))
    · obtain ⟨found', rfl⟩ := long
      exact .endless found' endless
    · have equal := Outcome.eq_of_leveled same.symm fun found' e => long ⟨found', e⟩
      exact equal ▸ ends
  · exact Outcome.eq_of_leveled same short ▸ ends

/-- A header comes first that states a negative length. -/
def BeginsNegative (octets : List UInt8) : Prop := ∃ n rest, Begins octets (some n) rest ∧ n < 0

theorem Begins.length_eq {octets rest rest' : List UInt8} {n n' : Option Int} (h : Begins octets n rest)
    (h' : Begins octets n' rest') : n = n' := by
  obtain ⟨header, shape, isHeader, rfl⟩ := h
  obtain ⟨header', shape', isHeader', rfl⟩ := h'
  rw [isHeader.eq_of_append isHeader' (shape.symm.trans shape')]

theorem Begins.find? {octets rest : List UInt8} {n : Option Int} (h : Begins octets n rest) :
    ∃ i, Stream.find? separator 0 octets = some i ∧ i ≤ Stream.limit := by
  obtain ⟨header, rfl, ⟨i, found, -, near⟩, -⟩ := h
  exact ⟨i, Stream.find?_append rest (List.cons_ne_nil _ _) found, near⟩

/-- A message or a fault of the connection, if no negative length comes first, and else the fault of a
read of less than nothing. -/
def Accounted (octets : List UInt8) (o : Outcome) : Prop :=
  ¬ BeginsNegative octets ∧ o.IsTyped ∨ BeginsNegative octets ∧ o = .error lessThanNothing

theorem CallEnds.accounted {octets : List UInt8} {ended : Bool} {o : Outcome}
    (ends : CallEnds octets ended o) : Accounted octets o := by
  -- a length that is not negative excludes a negative one, and so does no header at all
  cases ends with
  | @frame body rest begins =>
    refine .inl ⟨?_, Outcome.isTyped_ofBody body⟩
    rintro ⟨n, rest', begins', negative⟩
    cases begins.length_eq begins'
    omega
  | @lengthless header rest shape isHeader none =>
    refine .inl ⟨?_, rfl⟩
    rintro ⟨n, rest', begins', -⟩
    cases Begins.length_eq ⟨header, shape, isHeader, none⟩ begins'
  | @negative n rest begins negative => exact .inr ⟨⟨n, rest, begins, negative⟩, rfl⟩
  | endless found endless =>
    refine .inl ⟨?_, rfl⟩
    rintro ⟨n, rest', begins', -⟩
    obtain ⟨i, found', near⟩ := begins'.find?
    have far := endless.2 i found'
    omega
  | headless isOver headless =>
    refine .inl ⟨?_, rfl⟩
    rintro ⟨n, rest', begins', -⟩
    obtain ⟨i, found', -⟩ := begins'.find?
    rw [headless.1] at found'
    cases found'
  | @cut n part isOver begins short =>
    refine .inl ⟨?_, rfl⟩
    rintro ⟨n', rest', begins', negative⟩
    cases begins.length_eq begins'
    omega

/-! ## Chunks -/

/-- Chunk by chunk, what a reception brings begins as a call ends that finds all of them at once. -/
theorem callEnds_of_map_leveled {s : Stream} {o : Outcome} {later : List Outcome}
    (same : (o :: later).map Outcome.leveled =
      (⟨s, .header, false⟩ : Reception).receiveAll.1.map Outcome.leveled) : CallEnds s.buffer s.ended o := by
  rcases first : (⟨s, .header, false⟩ : Reception).receiveAll.1 with _ | ⟨o', later'⟩
  · rw [first] at same
    cases same
  · rw [first, List.map_cons, List.map_cons, List.cons.injEq] at same
    exact (callEnds_head first).of_leveled same.1

/-- What a reception brings that begins anywhere in a stream and goes on as chunks come. -/
def receivedFrom (s : Stream) (chunks : List (List UInt8)) : List Outcome × Reception :=
  let now := (⟨s, .header, false⟩ : Reception).receiveAll
  (now.1 ++ (receiveChunks chunks now.2).1, (receiveChunks chunks now.2).2)

theorem receivedFrom_eq (s : Stream) (chunks : List (List UInt8)) :
    (receivedFrom s chunks).1.map Outcome.leveled =
      (⟨s.feed chunks.flatten, .header, false⟩ : Reception).receiveAll.1.map Outcome.leveled ∧
    (receivedFrom s chunks).2 = (⟨s.feed chunks.flatten, .header, false⟩ : Reception).receiveAll.2 := by
  obtain ⟨now, stands⟩ := receiveChunks_flatten chunks
    (step?_receiveAll (⟨s, .header, false⟩ : Reception))
  obtain ⟨all, same⟩ := receiveAll_feed (⟨s, .header, false⟩ : Reception) chunks.flatten
  refine ⟨?_, stands.trans same.symm⟩
  rw [receivedFrom, List.map_append, now, ← List.map_append]
  exact all.symm

theorem receivedFrom_ne_nil {s : Stream} {chunks : List (List UInt8)}
    (ended : (receivedFrom s chunks).2.ended = true) : (receivedFrom s chunks).1 ≠ [] := by
  obtain ⟨now, stands⟩ := receivedFrom_eq s chunks
  obtain ⟨before, -, last⟩ := receiveAll_ends (⟨s.feed chunks.flatten, .header, false⟩ : Reception) rfl
  rw [← stands, if_pos ended] at last
  obtain ⟨f, -, all⟩ := last
  intro nothing
  rw [nothing, all] at now
  cases before <;> cases now

/-- After the end of the stream something was received, if nothing was before. -/
theorem receivedFrom_close (s : Stream) (chunks : List (List UInt8)) :
    ∃ o later, (receivedFrom s chunks).1 ++ (receivedFrom s chunks).2.close.receiveAll.1 = o :: later ∧
      CallEnds (s.feed chunks.flatten).buffer true o := by
  let whole : Reception := ⟨s.feed chunks.flatten, .header, false⟩
  obtain ⟨now, stands⟩ := receivedFrom_eq s chunks
  have all : ((receivedFrom s chunks).1 ++ (receivedFrom s chunks).2.close.receiveAll.1).map
      Outcome.leveled = whole.close.receiveAll.1.map Outcome.leveled := by
    rw [receiveAll_close whole, List.map_append, List.map_append, now, stands]
  obtain ⟨before, -, last⟩ := receiveAll_ends whole.close rfl
  rw [ended_receiveAll whole.close rfl, if_pos rfl] at last
  obtain ⟨f, -, ends⟩ := last
  rcases e : (receivedFrom s chunks).1 ++ (receivedFrom s chunks).2.close.receiveAll.1 with _ | ⟨o, later⟩
  · rw [e, ends] at all
    cases before <;> cases all
  · rw [e] at all
    exact ⟨o, later, rfl, callEnds_of_map_leveled all⟩

end Reception

namespace Transport

open Reception

variable {s : World} {id server n : Nat} {output : Stream}

/-- Calls that begin anywhere in a stream stand where a reception does that begins there. -/
theorem stands_receivedFrom (offers : Offers id server output s) (free : output.waiter = none) (n : Nat)
    (chunks : List (List UInt8)) :
    Stands id server n (receivedFrom output chunks).1 (receivedFrom output chunks).2
      (callsAmong id server n s (chunks.map Server.emit)) := by
  have first : Stands id server n ([] ++ (⟨output, .header, false⟩ : Reception).receiveAll.1)
      (⟨output, .header, false⟩ : Reception).receiveAll.2
      ((proceed id server n [] ⟨output, .header, false⟩).advance fate s) := stands_proceed offers free
  have calls : receiveMany id n [] = proceed id server n [] ⟨output, .header, false⟩ :=
    receiveMany_eq id server n [] output (Nat.zero_le n)
  rw [← calls] at first
  exact stands_chunks chunks first

/-- A call to receive, wherever in a stream it begins and however the octets come that follow, ends in
one of the listed ways: as soon as the octets decide it, and at the latest when the stream ends. It ends
with a message or with a fault of the connection, unless the first header states a negative length. -/
theorem call_ends (offers : Offers id server output s) (free : output.waiter = none)
    (chunks : List (List UInt8)) :
    (∀ os, heardOpen? id server 1 s chunks = some os → ∃ o, os = [o] ∧
      CallEnds (output.feed chunks.flatten).buffer output.ended o ∧
      Accounted (output.feed chunks.flatten).buffer o) ∧
    ∃ o, heardClosed? id server 1 s chunks = some [o] ∧
      CallEnds (output.feed chunks.flatten).buffer true o ∧
      Accounted (output.feed chunks.flatten).buffer o := by
  have stands := stands_receivedFrom offers free 1 chunks
  constructor
  · intro os ended
    rw [heardOpen?, stands.heard?] at ended
    split at ended
    · next enough =>
      rcases all : (receivedFrom output chunks).1 with _ | ⟨o, later⟩
      · rcases enough with enough | finished
        · simp [all] at enough
        · exact absurd all (receivedFrom_ne_nil finished)
      · rw [all] at ended
        cases ended
        have now := (receivedFrom_eq output chunks).1
        rw [all] at now
        have ends := callEnds_of_map_leveled now
        rw [Stream.ended_feed] at ends
        exact ⟨o, rfl, ends, ends.accounted⟩
    · cases ended
  · obtain ⟨o, later, all, ends⟩ := receivedFrom_close output chunks
    have closed : Stands id server 1
        ((receivedFrom output chunks).1 ++ (receivedFrom output chunks).2.close.receiveAll.1)
        (receivedFrom output chunks).2.close.receiveAll.2
        (arrive server Server.closeOutput (callsAmong id server 1 s (chunks.map Server.emit))) :=
      stands_arrive .closeOutput stands
    have finished := ended_receiveAll (receivedFrom output chunks).2.close rfl
    refine ⟨o, ?_, ends, ends.accounted⟩
    rw [heardClosed?, callsAmong, List.foldl_append]
    refine closed.heard?.trans ((if_pos (.inr finished)).trans ?_)
    rw [all]
    rfl

/-- The octets of a header that states the length minus one. -/
def belowZero : List UInt8 := Framing.octets "Content-Length: -1\r\n\r\n".toList

theorem beginsNegative_belowZero : BeginsNegative belowZero := by
  have isHeader : IsHeader belowZero := ⟨18, by decide +kernel, by decide +kernel, by decide +kernel⟩
  have length : Framing.contentLength? belowZero = some (-1) := by decide +kernel
  exact ⟨-1, [], ⟨belowZero, (List.append_nil _).symm, isHeader, length⟩, by decide⟩

/-- A call that finds a negative length ends with a fault that is none of the connection. -/
theorem call_ends_belowZero :
    Offers 0 0 .empty quietWorld ∧ Stream.empty.waiter = none ∧
    heardClosed? 0 0 1 quietWorld [belowZero] = some [.error lessThanNothing] ∧
    lessThanNothing.isTransport = false := by
  obtain ⟨o, heard, -, accounted⟩ := (call_ends offers_quietWorld rfl [belowZero]).2
  have octets : (Stream.empty.feed [belowZero].flatten).buffer = belowZero := List.append_nil _
  rw [octets] at accounted
  have untyped : o = .error lessThanNothing :=
    accounted.elim (fun h => absurd beginsNegative_belowZero h.1) fun h => h.2
  exact ⟨offers_quietWorld, rfl, untyped ▸ heard, rfl⟩

end Transport

end LspHost
