import LspHost.Proofs.Json.RoundTrip
import LspHost.Proofs.Text.Utf8
import LspHost.Proofs.Transport.Receiving

/-!
# Frames stay aligned

A frame as any peer may write it (`Framing.Frame`) has header lines of which the first one named
content-length states how long the body is, in decimal digits; the body may be anything.

1. `Frame.contentLength?_header`, `Frame.isHeader_header`: such a header states the length of the body,
   and it ends where its empty line does, whatever else its lines say.
2. `Reception.owed_ofBody`: what is due for a body depends on the body alone. It is the message that the
   body holds, or that the body cannot be decoded.
3. `Transport.heard_frames`: calls to receive end with what is due for the bodies, one by one, however
   the octets are cut and whatever follows the frames.
-/

namespace LspHost

namespace Framing

/-! ## Frames -/

/-- A character of a header line as it is written: within ASCII, and no carriage return. -/
def IsPlainChar (c : Char) : Prop := c.toNat < 0x80 ∧ c ≠ '\r'

instance (c : Char) : Decidable (IsPlainChar c) := inferInstanceAs (Decidable (c.toNat < 0x80 ∧ c ≠ '\r'))

/-- A header line: at least one character, all within ASCII, and none that ends a line. -/
def IsLine (line : List Char) : Prop :=
  line ≠ [] ∧ ∀ c ∈ line, IsPlainChar c ∧ c ≠ '\n'

-- the characters of the line are gone through, not all characters
instance (line : List Char) : Decidable (IsLine line) :=
  haveI := List.decidableBAll (fun c => IsPlainChar c ∧ c ≠ '\n') line
  inferInstanceAs (Decidable (line ≠ [] ∧ ∀ c ∈ line, IsPlainChar c ∧ c ≠ '\n'))

/-- What a header line is named: all before its first colon, blanks at the ends apart and in small
letters. A line without a colon is a name only. -/
def nameOf (line : List Char) : List Char :=
  Text.asciiLower (Text.trim (line.takeWhile (· ≠ ':')))

/-- What a header line says behind its first colon, blanks at the ends apart. -/
def valueOf (line : List Char) : List Char :=
  Text.trim ((line.dropWhile (· ≠ ':')).drop 1)

/-- A number in decimal digits, with zeros in front or without, of no more digits than can be read. -/
structure IsDecimal (ds : List Char) (n : Nat) : Prop where
  solid : ds ≠ []
  digits : ∀ c ∈ ds, c.isDigit = true
  value : Nat.ofDigitChars 10 ds 0 = n
  short : ds.length ≤ Json.maxDigits

/-- What ends a line of a header. -/
def lineEnd : List Char := ['\r', '\n']

/-- The characters of a header: lines, each with its end, and an empty line. -/
def blockOf (lines : List (List Char)) : List Char :=
  lines.flatMap (· ++ lineEnd) ++ lineEnd

/-- A frame: header lines before and behind the one that states the length of the body, and the body. -/
structure Frame where
  before : List (List Char)
  line : List Char
  after : List (List Char)
  body : List UInt8
  isLine : ∀ l ∈ before ++ line :: after, IsLine l
  others : ∀ l ∈ before, nameOf l ≠ "content-length".toList
  named : nameOf line = "content-length".toList
  states : IsDecimal (valueOf line) body.length
  near : (octets (blockOf (before ++ line :: after))).length ≤ Stream.limit + separator.length

namespace Frame

def lines (f : Frame) : List (List Char) := f.before ++ f.line :: f.after

/-- The header of a frame as it goes over the wire. -/
def header (f : Frame) : List UInt8 := octets (blockOf f.lines)

/-- A frame as it goes over the wire. -/
def wire (f : Frame) : List UInt8 := f.header ++ f.body

end Frame

/-! ## Lines -/

theorem isDigit_bounds {c : Char} (h : c.isDigit = true) : 48 ≤ c.toNat ∧ c.toNat ≤ 57 :=
  Char.isDigit_iff_toNat.mp h

theorem octets_of_isPlainChar {s : List Char} (h : ∀ c ∈ s, IsPlainChar c) :
    octets s = s.map fun c => c.toNat.toUInt8 := by
  induction s with
  | nil => rfl
  | cons c s ih =>
    have first : Text.Utf8.encodeChar c = [c.toNat.toUInt8] := by
      simp only [Text.Utf8.encodeChar, if_pos (h c List.mem_cons_self).1]
    have rest := ih fun c mem => h c (List.mem_cons_of_mem _ mem)
    simp only [octets, Text.Utf8.encode] at rest ⊢
    rw [List.flatMap_cons, first, rest]
    rfl

theorem map_headerChar_octets {s : List Char} (h : ∀ c ∈ s, IsPlainChar c) :
    (octets s).map headerChar = s := by
  rw [octets_of_isPlainChar h, List.map_map]
  refine (List.map_congr_left fun c mem => ?_).trans (List.map_id s)
  have small := (h c mem).1
  simp only [Function.comp_apply, headerChar, Text.Utf8.toNat_toUInt8 (show c.toNat < 256 by omega),
    if_pos small, Char.ofNat_toNat, id]

/-- A line without a carriage return is read to its end. -/
theorem linesFrom_line {s : List Char} (line : List Char) (out : List (List Char)) (rest : List Char)
    (h : '\r' ∉ s) : linesFrom line out (s ++ rest) = linesFrom (s.reverse ++ line) out rest := by
  induction s generalizing line with
  | nil => rfl
  | cons c s ih =>
    simp only [List.mem_cons, not_or] at h
    have step : linesFrom line out (c :: (s ++ rest)) = linesFrom (c :: line) out (s ++ rest) := by
      rw [linesFrom]
      rintro _ rfl
      exact absurd rfl h.1
    rw [List.cons_append, step, ih _ h.2]
    simp

/-- A line is cut at its first divider. -/
theorem cutAt?_append {divider : Char} {before : List Char} (after : List Char) (h : divider ∉ before) :
    Text.cutAt? divider (before ++ divider :: after) = some (before, after) := by
  have others : ∀ c ∈ before, decide (c ≠ divider) = true := by
    intro c mem
    exact decide_eq_true fun same => h (same ▸ mem)
  simp only [Text.cutAt?, List.span_eq_takeWhile_dropWhile, List.takeWhile_append_of_pos others,
    List.dropWhile_append_of_pos others]
  simp

theorem isBlank_of_isDigit {c : Char} (h : c.isDigit = true) : Text.isBlank c = false := by
  have bounds := isDigit_bounds h
  simp only [Text.isBlank, decide_eq_false_iff_not]
  omega

/-- Digits have no blanks at their ends. -/
theorem trim_digits {ds : List Char} (h : ∀ c ∈ ds, c.isDigit = true) : Text.trim ds = ds := by
  have dropWhile_self : ∀ cs : List Char, (∀ c ∈ cs, c.isDigit = true) → cs.dropWhile Text.isBlank = cs := by
    intro cs digits
    cases cs with
    | nil => rfl
    | cons c cs =>
      have solid := isBlank_of_isDigit (digits c List.mem_cons_self)
      exact List.dropWhile_cons_of_neg (by simp [solid])
  have left : Text.trimLeft ds = ds := dropWhile_self ds h
  have right : ds.reverse.dropWhile Text.isBlank = ds.reverse :=
    dropWhile_self _ fun c mem => h c (List.mem_reverse.mp mem)
  rw [Text.trim, left, Text.trimRight, right, List.reverse_reverse]

theorem groupedDigits?_digits {ds : List Char} (afterDigit : Bool) (out : List Nat)
    (h : ∀ c ∈ ds, c.isDigit = true) (some' : afterDigit = true ∨ ds ≠ []) :
    Text.groupedDigits? Text.digitValue? afterDigit out ds =
      some ((ds.map fun c => c.toNat - 48).reverse ++ out) := by
  induction ds generalizing afterDigit out with
  | nil =>
    have after : afterDigit = true := some'.resolve_right fun h => h rfl
    simp [Text.groupedDigits?, after]
  | cons c ds ih =>
    have digit := h c List.mem_cons_self
    have bounds := isDigit_bounds digit
    have notGroup : c ≠ '_' := by
      rintro rfl
      exact absurd digit (by decide)
    have value : Text.digitValue? c = some (c.toNat - 48) := by
      simp only [Text.digitValue?, if_pos (show c.toNat < 0x80 by omega), digit, if_true]
    rw [Text.groupedDigits?, if_neg notGroup, value]
    simp only [ih true ((c.toNat - 48) :: out) (fun c mem => h c (List.mem_cons_of_mem _ mem))
      (.inl rfl), List.map_cons, List.reverse_cons, List.append_assoc, List.singleton_append]

theorem fieldOf_eq (line : List Char) :
    fieldOf line = (line.takeWhile (· ≠ ':'), (line.dropWhile (· ≠ ':')).drop 1) := by
  simp only [fieldOf, Text.cutAt?, List.span_eq_takeWhile_dropWhile]
  rcases e : line.dropWhile (fun c => decide (c ≠ ':')) with _ | ⟨c, rest⟩
  · have all : line.takeWhile (fun c => decide (c ≠ ':')) = line := by
      have parts := List.takeWhile_append_dropWhile (p := fun c => decide (c ≠ ':')) (l := line)
      rwa [e, List.append_nil] at parts
    simp only [all, List.drop_nil]
  · simp only [List.drop_succ_cons, List.drop_zero]

theorem statesLength_iff (line : List Char) :
    statesLength line = true ↔ nameOf line = "content-length".toList := by
  rw [statesLength, fieldOf_eq, beq_iff_eq, nameOf]

theorem readInt?_decimal {s : List Char} {n : Nat} (h : IsDecimal (Text.trim s) n) :
    Text.readInt? s = some (n : Int) := by
  obtain ⟨solid, digits, value, short⟩ := h
  rcases e : Text.trim s with _ | ⟨c, rest⟩
  · exact absurd e solid
  · rw [e] at digits value short
    have first : c.isDigit = true := digits c List.mem_cons_self
    have unsigned : Text.splitSign (c :: rest) = (false, c :: rest) := by
      rw [Text.splitSign]
      · rintro rest' ⟨⟩
        exact absurd first (by decide)
      · rintro rest' ⟨⟩
        exact absurd first (by decide)
    have total : ((c :: rest).map fun c => c.toNat - 48).foldl (fun n d => n * 10 + d) 0 = n := by
      rw [List.foldl_map]
      exact (Json.digitsValue_eq (c :: rest)).trans value
    simp only [Text.readInt?, e, Text.readIntWith?, unsigned]
    rw [groupedDigits?_digits false [] digits (.inr (List.cons_ne_nil _ _))]
    simp only [List.append_nil, Option.bind_eq_bind, Option.bind_some, List.length_reverse,
      List.length_map, if_neg (Nat.not_lt.mpr short), Text.ofReversedDigits, List.reverse_reverse, total]
    rfl

/-- The lines of a header are read as they were written, and then the empty line and what is behind. -/
theorem linesFrom_block {lines : List (List Char)} (out : List (List Char))
    (isLine : ∀ l ∈ lines, IsLine l) :
    linesFrom [] out (blockOf lines) = out.reverse ++ lines ++ [[], []] := by
  induction lines generalizing out with
  | nil => simp [blockOf, lineEnd, linesFrom]
  | cons l lines ih =>
    have solid : '\r' ∉ l := fun mem => ((isLine l List.mem_cons_self).2 _ mem).1.2 rfl
    have shape : blockOf (l :: lines) = l ++ '\r' :: '\n' :: blockOf lines := by
      simp [blockOf, lineEnd]
    rw [shape, linesFrom_line [] out _ solid, linesFrom, List.append_nil, List.reverse_reverse,
      ih _ fun l mem => isLine l (List.mem_cons_of_mem _ mem)]
    simp

/-! ## Headers -/

theorem octets_append (s s' : List Char) : octets (s ++ s') = octets s ++ octets s' := by
  simp only [octets, Text.Utf8.encode, List.flatMap_append]

theorem octets_blockOf_cons (l : List Char) (lines : List (List Char)) :
    octets (blockOf (l :: lines)) = octets l ++ 13 :: 10 :: octets (blockOf lines) := by
  have shape : blockOf (l :: lines) = l ++ (lineEnd ++ blockOf lines) := by
    simp [blockOf]
  rw [shape, octets_append, octets_append]
  rfl

/-- No octet of a header line ends the line. -/
theorem ne_return_of_mem_octets {l : List Char} (isLine : IsLine l) : ∀ b ∈ octets l, b ≠ 13 := by
  rw [octets_of_isPlainChar fun c mem => (isLine.2 c mem).1]
  intro b mem
  obtain ⟨c, inLine, rfl⟩ := List.mem_map.mp mem
  obtain ⟨small, noReturn⟩ := (isLine.2 c inLine).1
  intro same
  have value := congrArg UInt8.toNat same
  rw [Text.Utf8.toNat_toUInt8 (by omega)] at value
  exact noReturn (Char.toNat_inj.mp value)

/-- The end of a header does not begin in a line. -/
theorem find?_behind_line {line : List UInt8} (place : Nat) (rest : List UInt8)
    (h : ∀ b ∈ line, b ≠ 13) :
    Stream.find? separator place (line ++ rest) = Stream.find? separator (place + line.length) rest := by
  induction line generalizing place with
  | nil => rfl
  | cons b line ih =>
    have differs : separator.isPrefixOf (b :: (line ++ rest)) = false := by
      have first : ((13 : UInt8) == b) = false :=
        beq_eq_false_iff_ne.mpr fun same => h b List.mem_cons_self same.symm
      simp only [separator, List.isPrefixOf, first, Bool.false_and]
    rw [List.cons_append, Stream.find?, differs, if_neg Bool.false_ne_true,
      ih (place + 1) fun b mem => h b (List.mem_cons_of_mem _ mem), List.length_cons]
    congr 1
    omega

/-- Nor does it begin in the end of a line that another line follows. -/
theorem find?_behind_lineEnd (place : Nat) {b : UInt8} (rest : List UInt8) (h : b ≠ 13) :
    Stream.find? separator place (13 :: 10 :: b :: rest) =
      Stream.find? separator (place + 2) (b :: rest) := by
  have other : ((13 : UInt8) == b) = false := beq_eq_false_iff_ne.mpr (Ne.symm h)
  have first : separator.isPrefixOf (13 :: 10 :: b :: rest) = false := by
    simp only [separator, List.isPrefixOf, other, Bool.false_and, Bool.and_false]
  have second : separator.isPrefixOf (10 :: b :: rest) = false := by
    simp only [separator, List.isPrefixOf, show ((13 : UInt8) == 10) = false from rfl, Bool.false_and]
  rw [Stream.find?, first, if_neg Bool.false_ne_true, Stream.find?, second, if_neg Bool.false_ne_true]

/-- The end of a header is found behind its last line. -/
theorem find?_block {lines : List (List Char)} (place : Nat) (some' : lines ≠ [])
    (isLine : ∀ l ∈ lines, IsLine l) :
    ∃ i, Stream.find? separator place (octets (blockOf lines)) = some (place + i) ∧
      i + separator.length = (octets (blockOf lines)).length := by
  induction lines generalizing place with
  | nil => exact absurd rfl some'
  | cons l lines ih =>
    have solid := ne_return_of_mem_octets (isLine l List.mem_cons_self)
    rw [octets_blockOf_cons, find?_behind_line place _ solid]
    cases lines with
    | nil => exact ⟨(octets l).length, rfl, by simp [blockOf, lineEnd, octets]; rfl⟩
    | cons l' lines =>
      have isLine' : ∀ x ∈ l' :: lines, IsLine x := fun x mem => isLine x (List.mem_cons_of_mem _ mem)
      obtain ⟨i, found, ends⟩ := ih (place + (octets l).length + 2) (List.cons_ne_nil _ _) isLine'
      -- the next line begins with an octet of its own
      obtain ⟨b, rest, shape, differs⟩ : ∃ b rest, octets (blockOf (l' :: lines)) = b :: rest ∧ b ≠ 13 := by
        have solid' := ne_return_of_mem_octets (isLine' l' List.mem_cons_self)
        have plain := octets_of_isPlainChar fun c mem => ((isLine' l' List.mem_cons_self).2 c mem).1
        rcases e : octets l' with _ | ⟨b, rest⟩
        · rw [plain, List.map_eq_nil_iff] at e
          exact absurd e (isLine' l' List.mem_cons_self).1
        · exact ⟨b, _, by rw [octets_blockOf_cons, e]; rfl, solid' b (e ▸ List.mem_cons_self)⟩
      refine ⟨(octets l).length + 2 + i, ?_, ?_⟩
      · rw [shape] at found ⊢
        rw [find?_behind_lineEnd _ rest differs, found]
        congr 1
        omega
      · simp only [List.length_append, List.length_cons]
        omega

/-- The characters of a header are read as they were written. -/
theorem map_headerChar_block {lines : List (List Char)} (isLine : ∀ l ∈ lines, IsLine l) :
    (octets (blockOf lines)).map headerChar = blockOf lines := by
  induction lines with
  | nil => rfl
  | cons l lines ih =>
    have first := map_headerChar_octets fun c mem => ((isLine l List.mem_cons_self).2 c mem).1
    rw [octets_blockOf_cons, List.map_append, first, List.map_cons, List.map_cons,
      ih fun l mem => isLine l (List.mem_cons_of_mem _ mem)]
    simp [blockOf, lineEnd, headerChar]

namespace Frame

variable (f : Frame)

/-- A header states the length of the body that it was written for, whatever else it says. -/
theorem contentLength?_header : contentLength? f.header = some (f.body.length : Int) := by
  have isLine : ∀ l ∈ f.lines, IsLine l := f.isLine
  have read : linesFrom [] [] (f.header.map headerChar) = f.before ++ f.line :: (f.after ++ [[], []]) := by
    rw [header, map_headerChar_block isLine, linesFrom_block [] isLine]
    simp [lines]
  have others : f.before.find? statesLength = none := by
    refine List.find?_eq_none.mpr fun l mem states => ?_
    exact f.others l mem ((statesLength_iff l).mp states)
  have found : (f.before ++ f.line :: (f.after ++ [[], []])).find? statesLength = some f.line := by
    rw [List.find?_append, others, Option.none_or,
      List.find?_cons_of_pos ((statesLength_iff _).mpr f.named)]
  have value : Text.readInt? (Text.trim (fieldOf f.line).2) = some (f.body.length : Int) := by
    rw [fieldOf_eq]
    exact readInt?_decimal (trim_digits f.states.digits ▸ f.states)
  simp only [contentLength?, read, found, value]

/-- A header ends where its empty line does. -/
theorem isHeader_header : Reception.IsHeader f.header := by
  have lines : f.lines ≠ [] := by simp [Frame.lines]
  obtain ⟨i, found, ends⟩ := find?_block 0 lines f.isLine
  rw [Nat.zero_add] at found
  have near : f.header.length ≤ Stream.limit + separator.length := f.near
  exact ⟨i, found, ends, by rw [header] at near; omega⟩

theorem complete : Reception.Complete f.wire (.ofBody f.body) :=
  .frame f.isHeader_header f.contentLength?_header

end Frame

/-- A body holds a message: it is the UTF-8 of a JSON text, whose value is an object with the members of
the message. -/
def Holds (body : List UInt8) (m : Message) : Prop :=
  ∃ text members, Text.Utf8.decode? body = some text ∧ Json.parse text = .ok (.obj members) ∧
    Message.ofMembers members = .ok m

theorem readBody_eq_ok_iff {body : List UInt8} {m : Message} : readBody body = .ok m ↔ Holds body m := by
  constructor
  · intro read
    simp only [readBody] at read
    split at read
    · cases read
    · next text decoded =>
      split at read
      · cases read
      · next v parsed =>
        cases v with
        | obj members =>
          rcases fits : Message.ofMembers members with e | m'
          · simp [Message.ofJson, fits, Except.mapError] at read
          · simp only [Message.ofJson, fits, Except.mapError, Except.ok.injEq] at read
            exact ⟨text, members, decoded, parsed, read ▸ fits⟩
        | _ => cases read
  · rintro ⟨text, members, decoded, parsed, fits⟩
    simp only [readBody, decoded, parsed, Message.ofJson, fits, Except.mapError]

end Framing

namespace Reception

/-- What is due for a body: the message that it holds, or that it cannot be decoded. -/
inductive Owed (body : List UInt8) : Outcome → Prop where
  | message {m : Message} (holds : Framing.Holds body m) : Owed body (.ok m)
  | undecodable (f : Framing.BodyFault) (empty : ∀ m, ¬ Framing.Holds body m) :
    Owed body (.error (.transport (.undecodableBody f)))

theorem owed_ofBody (body : List UInt8) : Owed body (.ofBody body) := by
  unfold Outcome.ofBody
  rcases read : Framing.readBody body with f | m
  · refine .undecodable f fun m holds => ?_
    rw [Framing.readBody_eq_ok_iff.mpr holds] at read
    cases read
  · exact .message (Framing.readBody_eq_ok_iff.mp read)

theorem receiveAll_wires (frames : List Framing.Frame) (more : List UInt8) :
    (start.feed (frames.flatMap Framing.Frame.wire ++ more)).receiveAll =
      (frames.map (fun f => Outcome.ofBody f.body) ++ (start.feed more).receiveAll.1,
        (start.feed more).receiveAll.2) := by
  induction frames with
  | nil => rfl
  | cons f frames ih =>
    have first := receiveAll_frame (frames.flatMap Framing.Frame.wire ++ more) f.isHeader_header
      f.contentLength?_header
    rw [List.flatMap_cons, List.append_assoc, Framing.Frame.wire, first, ih]
    rfl

/-- What is due for the bodies of frames is received first, whatever follows them. -/
theorem received_wires {frames : List Framing.Frame} {chunks : List (List UInt8)}
    (front : frames.flatMap Framing.Frame.wire <+: chunks.flatten) :
    ∃ later, received chunks = frames.map (fun f => Outcome.ofBody f.body) ++ later := by
  obtain ⟨more, cut⟩ := front
  have leveled := (receiveChunks_flatten chunks step?_start).1
  rw [← cut, receiveAll_wires, List.map_append] at leveled
  obtain ⟨first, later, parts, same, -⟩ := List.map_eq_append_iff.mp leveled
  refine ⟨later, parts.trans (congrArg (· ++ later) (eq_of_map_leveled same fun o mem found => ?_))⟩
  obtain ⟨f, -, rfl⟩ := List.mem_map.mp mem
  exact f.complete.short found

end Reception

namespace Transport

/-- Calls to receive end with what is due for the bodies of the frames that come first, one by one: the
message that a body holds, or that it cannot be decoded. It makes no difference how the octets are cut,
what the other bodies are, what follows the frames, and whether the stream ends. -/
theorem heard_frames {s : World} {id server : Nat} (silent : Offers id server .empty s)
    {frames : List Framing.Frame} {chunks : List (List UInt8)}
    (front : frames.flatMap Framing.Frame.wire <+: chunks.flatten) :
    (∀ f ∈ frames, Reception.Owed f.body (.ofBody f.body)) ∧
    ∀ n ≤ frames.length,
      heardOpen? id server n s chunks =
        some ((frames.take n).map fun f => Reception.Outcome.ofBody f.body) ∧
      heardClosed? id server n s chunks =
        some ((frames.take n).map fun f => Reception.Outcome.ofBody f.body) := by
  refine ⟨fun f _ => Reception.owed_ofBody f.body, fun n most => ?_⟩
  obtain ⟨later, received⟩ := Reception.received_wires front
  have enough : n ≤ (Reception.received chunks).length := by simp [received]; omega
  have first : (Reception.received chunks).take n =
      (frames.take n).map fun f => Reception.Outcome.ofBody f.body := by
    rw [received, List.take_append_of_le_length (by simpa using most), List.map_take]
  constructor
  · rw [heardOpen?_eq silent, if_pos (.inl enough), first]
  · rw [heardClosed?_eq silent, Reception.outcomes, List.take_append_of_le_length enough, first]

/-- A text that looks like the end of a header and another header. -/
def headerText : List Char := "\r\n\r\nContent-Length: 2\r\n\r\n".toList

/-- A frame around that text. Its length stands among other lines, with blanks and zeros. -/
def misleading : Framing.Frame where
  before := ["X-Content-Length: 7".toList, "note".toList]
  line := " CONTENT-length\t:  0025 ".toList
  after := ["Content-Length: 1".toList]
  body := Framing.octets headerText
  isLine := by decide +kernel
  others := by decide +kernel
  named := by decide +kernel
  states := ⟨by decide, List.all_eq_true.mp (by decide +kernel), by decide +kernel, by decide +kernel⟩
  near := by decide +kernel

/-- A frame around an empty object. -/
def plain : Framing.Frame where
  before := ["Content-Type: application/json".toList]
  line := "Content-Length: 2".toList
  after := []
  body := [123, 125]
  isLine := by decide +kernel
  others := by decide +kernel
  named := by decide +kernel
  states := ⟨by decide, List.all_eq_true.mp (by decide +kernel), by decide +kernel, by decide +kernel⟩
  near := by decide +kernel

theorem ofBody_misleading : Reception.Outcome.ofBody misleading.body =
    .error (.transport (.undecodableBody (.notJson .malformed))) := by
  have decoded : Text.Utf8.decode? misleading.body = some headerText := Text.Utf8.decode?_encode _
  have parsed : Json.parse headerText = .error .malformed := by decide +kernel
  have read : Framing.readBody misleading.body = .error (.notJson .malformed) := by
    simp only [Framing.readBody, decoded, parsed]
  rw [Reception.Outcome.ofBody, read]
  rfl

/-- A frame around a text that looks like a header does not disturb the frame behind it. -/
theorem heard_misleading :
    Offers 0 0 .empty quietWorld ∧
    heardOpen? 0 0 2 quietWorld [misleading.wire.take 30, misleading.wire.drop 30 ++ plain.wire] =
      some [.error (.transport (.undecodableBody (.notJson .malformed))),
        .ok (.response ⟨none, none, none⟩)] := by
  have cut : [misleading.wire.take 30, misleading.wire.drop 30 ++ plain.wire].flatten =
      [misleading, plain].flatMap Framing.Frame.wire := by
    rw [List.flatten_cons, List.flatten_cons, List.flatten_nil, List.append_nil, ← List.append_assoc,
      List.take_append_drop, List.flatMap_cons, List.flatMap_cons, List.flatMap_nil, List.append_nil]
  have front : [misleading, plain].flatMap Framing.Frame.wire <+:
      [misleading.wire.take 30, misleading.wire.drop 30 ++ plain.wire].flatten := cut ▸ List.prefix_rfl
  have heard := ((heard_frames offers_quietWorld front).2 2 (Nat.le_refl 2)).1
  have empty : Reception.Outcome.ofBody plain.body = .ok (.response ⟨none, none, none⟩) := by rfl
  rw [List.take_succ_cons, List.take_succ_cons, List.take_zero, List.map_cons, List.map_cons,
    List.map_nil, ofBody_misleading, empty] at heard
  exact ⟨offers_quietWorld, heard⟩

end Transport

end LspHost
