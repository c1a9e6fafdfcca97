import Mathlib.Data.List.Forall2
import LspHost.Session.Calls
import LspHost.Proofs.Protocol.RoundTrip
import LspHost.Proofs.Wording

/-!
# The selector in a handshake

The scope of a client is told to the server in the handshake, filter by filter and without the parts that are not set
(`DocumentScope.toSelector`). It is read back as it was (`DocumentScope.ofDatum_toSelector`), and a server that reads the
body of the handshake finds it there whatever else the client says of itself (`Session.selector?_greeting`).
-/

namespace LspHost

/-- An entry is found by its key, as a member is. -/
theorem Datum.entry?_ofMembers (m : Members) (key : String) :
    entry? (ofMembers m) key = (m.get? key).map ofJson := by
  induction m with
  | nil => rfl
  | cons e m ih =>
    obtain ⟨k, v⟩ := e
    simp only [ entry?, Members.get?, ofMembers, List.find?_cons, agrees_str, List.lookup_cons] at ih ⊢
    rw [show (key == k) = (k == key) from Bool.beq_comm]
    cases k == key with
    | true => rfl
    | false => exact ih

theorem Datum.ofItems_eq (items : List Json) : ofItems items = items.map ofJson := by
  induction items with
  | nil => rfl
  | cons a rest ih => rw [ofItems, ih, List.map_cons]

namespace DocumentFilter

theorem part_of {m : Members} {name : String} {value : Option String} (h : m.get? name = value.map .str) :
    part (Datum.ofMembers m) name = .ok value := by
  rw [part, Datum.entry?_ofMembers, h]
  cases value <;> rfl

theorem isTextKey_ofMembers (m : Members) : (Datum.ofMembers m).all isTextKey = true := by
  induction m with
  | nil => rfl
  | cons e m ih => exact ih

/-- The part of a filter with a name, if it is set. -/
def part? (f : DocumentFilter) : String → Option String
  | "scheme" => f.scheme
  | "language" => f.language
  | "pattern" => f.pattern
  | _ => none

/-- A filter has the members that are set, and no others. -/
theorem get?_toMembers (f : DocumentFilter) (name : String) :
    (f.toMembers .omitted).get? name = (f.part? name).map .str := by
  obtain ⟨scheme, language, pattern⟩ := f
  unfold part?
  split
  · cases scheme <;> cases language <;> cases pattern <;> rfl
  · cases scheme <;> cases language <;> cases pattern <;> rfl
  · cases scheme <;> cases language <;> cases pattern <;> rfl
  · next first second third =>
    -- Any other name is none of those that can be set.
    cases scheme <;> cases language <;> cases pattern <;>
      simp [toMembers, Gaps.field, Members.get?, List.lookup_cons, beq_false_of_ne first, beq_false_of_ne second,
        beq_false_of_ne third]

theorem ofDatum_toMembers (f : DocumentFilter) : ofDatum (.ofJson (.obj (f.toMembers .omitted))) = .ok f := by
  rw [Datum.ofJson, ofDatum, ofEntries, if_pos (isTextKey_ofMembers _), part_of (f.get?_toMembers "scheme"),
    part_of (f.get?_toMembers "language"), part_of (f.get?_toMembers "pattern")]
  rfl

end DocumentFilter

namespace DocumentScope

/-- The scope that is read from what a server is told is the scope itself. -/
theorem ofDatum_toSelector (s : DocumentScope) : ofDatum (.ofJson (toSelector s)) = .ok s := by
  rw [toSelector, Datum.ofJson, Datum.ofItems_eq]
  show ofItems _ = _
  induction s with
  | nil => rfl
  | cons f s ih => rw [List.map_cons, List.map_cons, ofItems, DocumentFilter.ofDatum_toMembers, ih]

/-- A selector tells a scope. -/
structure IsToldBy (s : DocumentScope) (selector : Json) : Prop where
  /-- It is read back as the scope, filter by filter. -/
  read : ofDatum (.ofJson selector) = .ok s
  /-- Each filter has the parts that are set, and no others. -/
  parts : ∃ items : List Members, selector = .arr (items.map .obj) ∧
    List.Forall₂ (fun (f : DocumentFilter) m => ∀ name, Members.get? m name = (f.part? name).map .str) s items

theorem isToldBy_toSelector (s : DocumentScope) : IsToldBy s (toSelector s) where
  read := ofDatum_toSelector s
  parts := by
    refine ⟨s.map fun f => f.toMembers .omitted, by rw [toSelector, List.map_map]; rfl, ?_⟩
    exact List.forall₂_map_right_iff.mpr (List.forall₂_same.mpr fun f _ => f.get?_toMembers)

end DocumentScope

/-! ## Handshakes -/

/-- What stands in a value under keys, one inside the other. -/
def Json.under? : List String → Json → Option Json
  | [], v => some v
  | key :: keys, .obj m => (Members.get? m key).bind (under? keys)
  | _, _ => none

/-- What a server finds in the octets of a handshake where a selector is to be. -/
def Framing.selector? (body : List UInt8) : Option Json := do
  let text ← Text.Utf8.decode? body
  let v ← (Json.parse text).toOption
  v.under? ["params", "initializationOptions", "documentSelector"]

namespace Session

/-- The request that opens the handshake. -/
def greeting (n : Nat) (p : InitializeParams) : Request :=
  ⟨.number n, "initialize", some (.named (p.toMembers .omitted))⟩

variable {cwd : String} {o : SessionOptions} {p : InitializeParams}

theorem handshakeParams_cases (h : handshakeParams cwd o = .ok p) : ∃ w : Option (String × String), p =
    { processId := some World.clientPid
      clientInfo := some ⟨clientName, o.clientVersion⟩
      rootUri := w.map Prod.fst
      capabilities := ClientCapabilities.members
      initializationOptions := some [("documentSelector", DocumentScope.toSelector o.scope)]
      workspaceFolders := w.map fun w => [[("uri", w.1), ("name", w.2)]] } := by
  unfold handshakeParams at h
  cases e : workspaceOf cwd o.workspaceDir with
  | error f => rw [e] at h; cases h
  | ok w => rw [e] at h; cases h; exact ⟨w, rfl⟩

theorem writable_capabilities : (Json.obj ClientCapabilities.members).Writable := by
  simp [ClientCapabilities.members, ClientCapabilities.tokenTypes, Json.Writable, Json.WritableMembers,
    Json.WritableItems]

theorem writable_toMembers (f : DocumentFilter) : (Json.obj (f.toMembers .omitted)).Writable := by
  obtain ⟨scheme, language, pattern⟩ := f
  cases scheme <;> cases language <;> cases pattern <;>
    simp [DocumentFilter.toMembers, Gaps.field, Json.Writable, Json.WritableMembers]

theorem writable_toSelector (s : DocumentScope) : (DocumentScope.toSelector s).Writable := by
  show Json.WritableItems _
  induction s with
  | nil => trivial
  | cons f s ih => exact ⟨writable_toMembers f, ih⟩

theorem writable_params (h : handshakeParams cwd o = .ok p) : (Json.obj (p.toMembers .omitted)).Writable := by
  obtain ⟨w, rfl⟩ := handshakeParams_cases h
  have pid : (decimalDigits World.clientPid.natAbs).length ≤ Json.maxDigits := by decide
  have capabilities := writable_capabilities
  have selector := writable_toSelector o.scope
  cases w <;> cases version : o.clientVersion <;>
    simp [InitializeParams.toMembers, InitializeParams.folderToJson, PeerInfo.toMembers, Gaps.field, Json.Writable,
      Json.WritableMembers, Json.WritableItems, pid, selector] <;>
    exact capabilities

theorem writable_greeting (h : handshakeParams cwd o = .ok p) {n : Nat} (readable : (Json.int n).Writable) :
    (Json.obj (Message.request (greeting n p)).wireMembers).Writable := by
  refine Message.writable_wireMembers fun v mem => ?_
  rcases List.mem_cons.mp mem with rfl | mem
  · exact readable
  · obtain rfl := List.mem_singleton.mp mem
    exact writable_params h

/-- The selector is where a server looks for it. -/
theorem under?_greeting (h : handshakeParams cwd o = .ok p) (n : Nat) :
    (Json.obj (Message.request (greeting n p)).wireMembers).under?
      ["params", "initializationOptions", "documentSelector"] = some (DocumentScope.toSelector o.scope) := by
  obtain ⟨w, rfl⟩ := handshakeParams_cases h
  cases w <;> cases o.clientVersion <;> rfl

theorem selector?_greeting (h : handshakeParams cwd o = .ok p) {n : Nat} (readable : (Json.int n).Writable) :
    Framing.selector? (Framing.bodyOf (Message.request (greeting n p)).wireMembers) =
      some (DocumentScope.toSelector o.scope) := by
  -- Octets, text and value are read one after the other, each back as it was written.
  have text : Text.Utf8.decode? (Framing.bodyOf (Message.request (greeting n p)).wireMembers) =
      some (Json.obj (Message.request (greeting n p)).wireMembers).print := Text.Utf8.decode?_encode _
  have value := Json.parse_print (writable_greeting h readable)
  simp only [Framing.selector?, text, value, Option.bind_eq_bind, Option.bind_some, Except.toOption, under?_greeting h]

end Session

end LspHost
