import LspHost.Proofs.Protocol.Frames

/-!
# Messages that were sent are received

`readBody_bodyOf`: the body of a message is read as that message, whatever members it has, if nothing in
it says null that might as well be left out (`Message.IsPlain`) and its values can be read back.

`frameOf`: a body goes over the wire in a frame that states its length.

`heard_messages`: messages that are written one behind the other are received in the same order,
however their octets are cut into chunks, and then the end of the stream is found.
-/

namespace LspHost

/-! ## Members -/

namespace Schema

variable {α : Type} {m : Members} {name : String} {read : Json → Option α} {a : α}

theorem required_of {v : Json} (found : m.get? name = some v) (fits : read v = some a) :
    required m name read = .ok a := by
  simp only [required, found, Option.bind_some, fits]

theorem withDefault_of {v : Json} {other : α} (found : m.get? name = some v) (fits : read v = some a) :
    withDefault m name read other = .ok a := by
  simp only [withDefault, found, fits]

theorem optional_of_none (found : m.get? name = none) : optional m name read = .ok none := by
  simp only [optional, withDefault, found]

theorem optional_of_some {v : Json} (found : m.get? name = some v) (present : v ≠ .null)
    (fits : read v = some a) : optional m name read = .ok (some a) := by
  have fits' : nullable read v = some (some a) := by
    cases v <;> simp_all [nullable]
  simp only [optional, withDefault, found, fits']

end Schema

@[simp] theorem RequestId.ofJson?_toJson (id : RequestId) : ofJson? id.toJson = some id := by
  cases id <;> rfl

theorem RequestId.toJson_ne_null (id : RequestId) : id.toJson ≠ .null := by
  cases id <;> simp [toJson]

@[simp] theorem Params.ofJson?_toJson (p : Params) : ofJson? p.toJson = some p := by
  cases p <;> rfl

theorem Params.toJson_ne_null (p : Params) : p.toJson ≠ .null := by
  cases p <;> simp [toJson]

/-- Nothing says null that can be left out. -/
def Message.IsPlain : Message → Prop
  | .response r => r.result ≠ some .null ∧ ∀ e, r.error = some e → e.data ≠ some .null
  | _ => True

theorem version_of {m : Members} (found : m.get? "jsonrpc" = some (.str "2.0")) :
    Schema.withDefault m "jsonrpc" protocolVersion? () = .ok () :=
  Schema.withDefault_of found rfl

theorem params_of {m : Members} (params : Option Params)
    (found : m.get? "params" = params.map Params.toJson) :
    Schema.optional m "params" Params.ofJson? = .ok params := by
  cases params with
  | none => exact Schema.optional_of_none found
  | some p => exact Schema.optional_of_some found p.toJson_ne_null (Params.ofJson?_toJson p)

/-! ## Messages -/

theorem Request.ofMembers_toMembers (r : Request) : ofMembers (r.toMembers .omitted) = .ok r := by
  obtain ⟨id, method, params⟩ := r
  have hasId : Schema.required (toMembers ⟨id, method, params⟩ .omitted) "id" RequestId.ofJson? =
      .ok id := Schema.required_of rfl id.ofJson?_toJson
  have hasMethod : Schema.required (toMembers ⟨id, method, params⟩ .omitted) "method" Schema.text? =
      .ok method := Schema.required_of rfl rfl
  have hasParams := params_of (m := toMembers ⟨id, method, params⟩ .omitted) params
    (by cases params <;> rfl)
  rw [ofMembers, version_of rfl, hasId, hasMethod, hasParams]
  rfl

theorem Notification.ofMembers_toMembers (n : Notification) :
    ofMembers (n.toMembers .omitted) = .ok n := by
  obtain ⟨method, params⟩ := n
  have hasMethod : Schema.required (toMembers ⟨method, params⟩ .omitted) "method" Schema.text? =
      .ok method := Schema.required_of rfl rfl
  have hasParams := params_of (m := toMembers ⟨method, params⟩ .omitted) params
    (by cases params <;> rfl)
  rw [ofMembers, version_of rfl, hasMethod, hasParams]
  rfl

/-- A field of any value that is left out, or is not null. -/
theorem any_of {m : Members} {name : String} {v : Option Json} (plain : v ≠ some .null)
    (found : m.get? name = v ∨ v = none ∧ m.get? name = some .null) :
    Schema.optional m name Schema.any? = .ok v := by
  rcases found with found | ⟨rfl, found⟩
  · cases v with
    | none => exact Schema.optional_of_none found
    | some v => exact Schema.optional_of_some found (fun null => plain (null ▸ rfl)) rfl
  · exact Schema.withDefault_of found rfl

theorem ResponseError.ofMembers_toMembers (e : ResponseError) (plain : e.data ≠ some .null) :
    ofMembers (e.toMembers .omitted) = .ok e := by
  obtain ⟨code, message, data⟩ := e
  have hasCode : Schema.required (toMembers ⟨code, message, data⟩ .omitted) "code" Schema.integer? =
      .ok code := Schema.required_of rfl rfl
  have hasMessage : Schema.required (toMembers ⟨code, message, data⟩ .omitted) "message"
      Schema.text? = .ok message := Schema.required_of rfl rfl
  have hasData : Schema.optional (toMembers ⟨code, message, data⟩ .omitted) "data" Schema.any? =
      .ok data := any_of plain (.inl (by cases data <;> rfl))
  rw [ofMembers, hasCode, hasMessage, hasData]
  rfl

theorem Response.ofMembers_wireMembers (r : Response) (plain : (Message.response r).IsPlain) :
    ofMembers r.wireMembers = .ok r := by
  obtain ⟨id, result, error⟩ := r
  have hasId : Schema.optional (wireMembers ⟨id, result, error⟩) "id" RequestId.ofJson? = .ok id := by
    cases id with
    | none => exact Schema.optional_of_none (by cases result <;> cases error <;> rfl)
    | some id => exact Schema.optional_of_some rfl id.toJson_ne_null id.ofJson?_toJson
  have hasResult : Schema.optional (wireMembers ⟨id, result, error⟩) "result" Schema.any? =
      .ok result := by
    refine any_of plain.1 ?_
    -- without an error a result that is missing is written as null
    cases result with
    | some v => exact .inl (by cases id <;> cases error <;> rfl)
    | none =>
      cases error with
      | some e => exact .inl (by cases id <;> rfl)
      | none => exact .inr ⟨rfl, by cases id <;> rfl⟩
  have hasError : Schema.optional (wireMembers ⟨id, result, error⟩) "error" ResponseError.ofJson? =
      .ok error := by
    cases error with
    | none => exact Schema.optional_of_none (by cases id <;> cases result <;> rfl)
    | some e =>
      have fits : ResponseError.ofJson? (.obj (e.toMembers .omitted)) = some e := by
        simp only [ResponseError.ofJson?, Schema.members?, Option.bind_some,
          e.ofMembers_toMembers (plain.2 e rfl), Except.toOption]
      exact Schema.optional_of_some (v := .obj (e.toMembers .omitted))
        (by cases id <;> cases result <;> rfl) (by simp) fits
  rw [ofMembers, version_of rfl, hasId, hasResult, hasError]
  rfl

theorem Message.ofMembers_wireMembers (m : Message) (plain : m.IsPlain) :
    ofMembers m.wireMembers = .ok m := by
  cases m with
  | request r =>
    have asked : ofMembers (r.toMembers .omitted) =
        (Request.ofMembers (r.toMembers .omitted)).map .request := rfl
    rw [wireMembers, asked, r.ofMembers_toMembers]
    rfl
  | notification n =>
    have anonymous : (n.toMembers .omitted).get? "id" = none := by
      obtain ⟨method, params⟩ := n
      cases params <;> rfl
    have told : ofMembers (n.toMembers .omitted) =
        (Notification.ofMembers (n.toMembers .omitted)).map .notification := by
      rw [ofMembers, anonymous]
      rfl
    rw [wireMembers, told, n.ofMembers_toMembers]
    rfl
  | response r =>
    have nameless : r.wireMembers.get? "method" = none := by
      obtain ⟨id, result, error⟩ := r
      cases id <;> cases result <;> cases error <;> rfl
    rw [wireMembers, ofMembers, nameless, r.ofMembers_wireMembers plain]
    rfl

namespace Framing

/-- A body is read as the message that it was written for. -/
theorem readBody_bodyOf {m : Message} (plain : m.IsPlain) (writable : (Json.obj m.wireMembers).Writable) :
    readBody (bodyOf m.wireMembers) = .ok m := by
  have decoded : Text.Utf8.decode? (bodyOf m.wireMembers) = some (Json.obj m.wireMembers).print :=
    Text.Utf8.decode?_encode _
  have parsed := Json.parse_print writable
  simp only [readBody, decoded, parsed, Message.ofJson, m.ofMembers_wireMembers plain]
  rfl

/-! ## Headers -/

theorem isDigit_decimalDigits (n : Nat) : ∀ c ∈ decimalDigits n, c.isDigit = true :=
  fun _ mem => Nat.isDigit_of_mem_toDigits (by omega) (by omega) mem

/-- The line that states a length. -/
def lengthLine (n : Nat) : List Char := "Content-Length: ".toList ++ decimalDigits n

theorem isLine_lengthLine (n : Nat) : IsLine (lengthLine n) := by
  refine ⟨List.cons_ne_nil _ _, fun c mem => ?_⟩
  rcases List.mem_append.mp mem with name | digits
  · have all : IsLine "Content-Length: ".toList := by decide +kernel
    exact all.2 c name
  · have bounds := isDigit_bounds (isDigit_decimalDigits n c digits)
    refine ⟨⟨by omega, ?_⟩, ?_⟩
    · rintro rfl
      exact absurd bounds.1 (by decide)
    · rintro rfl
      exact absurd bounds.1 (by decide)

theorem fieldOf_lengthLine (n : Nat) :
    fieldOf (lengthLine n) = ("Content-Length".toList, ' ' :: decimalDigits n) := by
  have cut := cutAt?_append (' ' :: decimalDigits n) (show ':' ∉ "Content-Length".toList by decide)
  have shape : lengthLine n = "Content-Length".toList ++ ':' :: ' ' :: decimalDigits n := rfl
  rw [fieldOf, shape, cut]

theorem nameOf_lengthLine (n : Nat) : nameOf (lengthLine n) = "content-length".toList := by
  have field := fieldOf_lengthLine n
  rw [fieldOf_eq, Prod.mk.injEq] at field
  rw [nameOf, field.1]
  decide

theorem isDecimal_valueOf_lengthLine {n : Nat} (short : (decimalDigits n).length ≤ Json.maxDigits) :
    IsDecimal (valueOf (lengthLine n)) n := by
  have field := fieldOf_lengthLine n
  rw [fieldOf_eq, Prod.mk.injEq] at field
  have unspaced : Text.trim (' ' :: decimalDigits n) = decimalDigits n :=
    trim_digits (isDigit_decimalDigits n)
  obtain ⟨c, rest, e, -⟩ := Json.startsNumber_decimalDigits n
  rw [valueOf, field.2, unspaced]
  exact ⟨e ▸ List.cons_ne_nil _ _, isDigit_decimalDigits n,
    Nat.ofDigitChars_toDigits (by omega) (by omega), short⟩

theorem octets_blockOf_lengthLine (n : Nat) : octets (blockOf [lengthLine n]) = header n := by
  rw [octets_blockOf_cons]
  rfl

theorem length_blockOf_lengthLine {n : Nat} (short : (decimalDigits n).length ≤ Json.maxDigits) :
    (octets (blockOf [lengthLine n])).length ≤ Stream.limit + separator.length := by
  have plain := octets_of_isPlainChar fun c mem => ((isLine_lengthLine n).2 c mem).1
  have name : "Content-Length: ".toList.length = 16 := by decide
  have parts : (lengthLine n).length = "Content-Length: ".toList.length + (decimalDigits n).length :=
    List.length_append
  have most : Json.maxDigits = 4300 := rfl
  have limit : Stream.limit = 65536 := rfl
  rw [octets_blockOf_lengthLine]
  show (octets (lengthLine n) ++ separator).length ≤ _
  rw [List.length_append, plain, List.length_map]
  omega

/-- A body in its frame, if its length has no more digits than can be read. -/
def frameOf (body : List UInt8) (short : (decimalDigits body.length).length ≤ Json.maxDigits) : Frame where
  before := []
  line := lengthLine body.length
  after := []
  body := body
  isLine := List.forall_mem_singleton.mpr (isLine_lengthLine body.length)
  others := List.forall_mem_nil _
  named := nameOf_lengthLine body.length
  states := isDecimal_valueOf_lengthLine short
  near := length_blockOf_lengthLine short

theorem wire_frameOf {body : List UInt8} (short : (decimalDigits body.length).length ≤ Json.maxDigits) :
    (frameOf body short).wire = frame body := by
  have block := octets_blockOf_lengthLine body.length
  rw [Frame.wire, Frame.header, frame, ← block]
  rfl

end Framing

namespace Message

/-- The values that a message carries. -/
def carried : Message → List Json
  | .request r => r.id.toJson :: (r.params.map Params.toJson).toList
  | .notification n => (n.params.map Params.toJson).toList
  | .response r =>
    (r.id.map RequestId.toJson).toList ++ r.result.toList ++
      match r.error with
      | some e => .int e.code :: e.data.toList
      | none => []

/-- A message that can be sent: nothing in it says null that can be left out, its values can be read
back, and the length of its body has no more digits than are read. -/
structure Sendable (m : Message) : Prop where
  plain : m.IsPlain
  writable : ∀ v ∈ m.carried, v.Writable
  short : (decimalDigits (Framing.bodyOf m.wireMembers).length).length ≤ Json.maxDigits

theorem writable_toMembers {e : ResponseError} (code : (Json.int e.code).Writable)
    (data : ∀ v ∈ e.data, v.Writable) : (Json.obj (e.toMembers .omitted)).Writable := by
  obtain ⟨number, message, data'⟩ := e
  cases data' with
  | none => exact ⟨show ["code", "message"].Nodup by decide, code, trivial, trivial⟩
  | some v =>
    exact ⟨show ["code", "message", "data"].Nodup by decide, code, trivial, data v rfl, trivial⟩

/-- The members of a message are written so that they can be read back. -/
theorem writable_wireMembers {m : Message} (writable : ∀ v ∈ m.carried, v.Writable) :
    (Json.obj m.wireMembers).Writable := by
  cases m with
  | request r =>
    obtain ⟨id, method, params⟩ := r
    have hasId : id.toJson.Writable := writable _ List.mem_cons_self
    cases params with
    | none =>
      exact ⟨show ["jsonrpc", "id", "method"].Nodup by decide, trivial, hasId, trivial, trivial⟩
    | some p =>
      have hasParams : p.toJson.Writable := writable _ (List.mem_cons_of_mem _ List.mem_cons_self)
      exact ⟨show ["jsonrpc", "id", "method", "params"].Nodup by decide, trivial, hasId, trivial,
        hasParams, trivial⟩
  | notification n =>
    obtain ⟨method, params⟩ := n
    cases params with
    | none => exact ⟨show ["jsonrpc", "method"].Nodup by decide, trivial, trivial, trivial⟩
    | some p =>
      have hasParams : p.toJson.Writable := writable _ List.mem_cons_self
      exact ⟨show ["jsonrpc", "method", "params"].Nodup by decide, trivial, trivial, hasParams,
        trivial⟩
  | response r =>
    obtain ⟨id, result, error⟩ := r
    have hasId : ∀ i, id = some i → i.toJson.Writable := by
      rintro i rfl
      exact writable _ List.mem_cons_self
    have hasResult : ∀ v, result = some v → v.Writable := by
      rintro v rfl
      exact writable _ (by simp [carried])
    have hasError : ∀ e, error = some e → (Json.obj (e.toMembers .omitted)).Writable := by
      rintro e rfl
      exact writable_toMembers (writable _ (by simp [carried]))
        fun v mem => writable v (by simp_all [carried])
    cases id <;> cases result <;> cases error <;>
      simp_all [wireMembers, Response.wireMembers, Gaps.field, Json.Writable, Json.WritableMembers]

end Message

namespace Reception

/-- A message that was written is received, and then what stands behind it. -/
theorem receiveAll_encode {m : Message} (sendable : m.Sendable) (more : List UInt8) :
    (start.feed (Framing.encode m ++ more)).receiveAll =
      (.ok m :: (start.feed more).receiveAll.1, (start.feed more).receiveAll.2) := by
  have body : Outcome.ofBody (Framing.bodyOf m.wireMembers) = .ok m := by
    rw [Outcome.ofBody, Framing.readBody_bodyOf sendable.plain
      (Message.writable_wireMembers sendable.writable)]
    rfl
  let f := Framing.frameOf (Framing.bodyOf m.wireMembers) sendable.short
  have wire : Framing.encode m = f.wire := (Framing.wire_frameOf sendable.short).symm
  rw [wire, ← body]
  exact receiveAll_frame more f.isHeader_header f.contentLength?_header

theorem receiveAll_encodes {ms : List Message} (sendable : ∀ m ∈ ms, m.Sendable) :
    (start.feed (ms.flatMap Framing.encode)).receiveAll = (ms.map .ok, start) := by
  induction ms with
  | nil => rfl
  | cons m ms ih =>
    rw [List.flatMap_cons, receiveAll_encode (sendable m List.mem_cons_self),
      ih fun m mem => sendable m (List.mem_cons_of_mem _ mem)]
    rfl

/-- Messages that are written one behind the other are received, each as it was, in the same order, and
after them the end of the stream, wherever their octets are cut. -/
theorem outcomes_encode {ms : List Message} {chunks : List (List UInt8)}
    (sendable : ∀ m ∈ ms, m.Sendable) (cut : chunks.flatten = ms.flatMap Framing.encode) :
    outcomes chunks = ms.map .ok ++ [.error (.closed .endOfOutput)] := by
  have all : (start.feed chunks.flatten).close.receiveAll.1 =
      ms.map .ok ++ [.error (.closed .endOfOutput)] := by
    rw [cut, receiveAll_close, receiveAll_encodes sendable]
    rfl
  have leveled := outcomes_flatten chunks
  rw [all] at leveled
  refine eq_of_map_leveled leveled fun o mem found => ?_
  rcases List.mem_append.mp mem with message | last
  · obtain ⟨m, -, rfl⟩ := List.mem_map.mp message
    rintro ⟨⟩
  · rw [List.mem_singleton.mp last]
    rintro ⟨⟩

end Reception

namespace Transport

/-- Calls to receive end with the messages that were written, each as it was and in the same order, and
then with the end of the stream, wherever the octets of the messages are cut. -/
theorem heard_messages {s : World} {id server : Nat} (silent : Offers id server .empty s)
    {ms : List Message} {chunks : List (List UInt8)} (sendable : ∀ m ∈ ms, m.Sendable)
    (cut : chunks.flatten = ms.flatMap Framing.encode) (n : Nat) :
    heardClosed? id server n s chunks =
      some (List.take n (ms.map .ok ++ [.error (.closed .endOfOutput)])) := by
  rw [heardClosed?_eq silent, Reception.outcomes_encode sendable cut]

/-- A request with a null inside and a letter of two octets, and the response null. -/
def exchange : List Message := [
  .request ⟨.number 1, "hover", some (.named [("at", .null), ("text", .str "é")])⟩,
  .response ⟨some (.number 1), none, none⟩]

theorem sendable_exchange : ∀ m ∈ exchange, m.Sendable := by
  intro m mem
  have one : (Json.int 1).Writable := show (decimalDigits 1).length ≤ Json.maxDigits by decide
  rcases List.mem_cons.mp mem with rfl | rest
  · refine ⟨trivial, fun v carried => ?_, by decide +kernel⟩
    rcases List.mem_cons.mp carried with rfl | params
    · exact one
    · rw [List.mem_singleton.mp params]
      exact ⟨show ["at", "text"].Nodup by decide, trivial, trivial, trivial⟩
  · rw [List.mem_singleton.mp rest]
    refine ⟨⟨by simp, by simp⟩, fun v carried => ?_, by decide +kernel⟩
    rw [List.mem_singleton.mp carried]
    exact one

/-- The octets of both, cut in the middle of the first header and of the letter. -/
def exchangeChunks : List (List UInt8) :=
  let octets := exchange.flatMap Framing.encode
  [octets.take 5, (octets.drop 5).take 97, (octets.drop 5).drop 97]

theorem flatten_exchangeChunks : exchangeChunks.flatten = exchange.flatMap Framing.encode := by
  simp only [exchangeChunks, List.flatten_cons, List.flatten_nil, List.append_nil, List.take_append_drop]

theorem heard_exchange :
    heardClosed? 0 0 3 quietWorld exchangeChunks =
      some (exchange.map .ok ++ [.error (.closed .endOfOutput)]) :=
  heard_messages offers_quietWorld sendable_exchange flatten_exchangeChunks 3

end Transport

end LspHost
