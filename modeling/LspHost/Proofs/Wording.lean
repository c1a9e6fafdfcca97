import LspHost.Proofs.Conversation

/-!
# What the client's messages say

The members that the client writes are read back as a part of a conversation (`Said.of?`) and as a
change of documents (`Note.of?`): requests and notifications by their methods, responses not at all.
-/

namespace LspHost

/-! ## Written members -/

/-- The journal leaves out the version of the protocol, which no reader asks for. -/
def Members.logged (m : Members) : Members := m.filter fun e => e.1 ≠ "jsonrpc"

theorem Members.get?_logged (m : Members) (key : String) (h : key ≠ "jsonrpc") :
    m.logged.get? key = m.get? key := by
  induction m with
  | nil => rfl
  | cons e rest ih =>
    obtain ⟨k, v⟩ := e
    by_cases version : k = "jsonrpc"
    · subst version
      have skip : (key == "jsonrpc") = false := by simpa using h
      have dropped : Members.logged (("jsonrpc", v) :: rest) = Members.logged rest := rfl
      rw [dropped, ih]
      simp only [Members.get?, List.lookup_cons, skip]
    · have kept : Members.logged ((k, v) :: rest) = (k, v) :: Members.logged rest := by
        simp [Members.logged, version]
      rw [kept]
      simp only [Members.get?, List.lookup_cons] at ih ⊢
      rw [ih]

@[simp] theorem Said.of?_logged (m : Members) : Said.of? m.logged = Said.of? m := by
  simp only [Said.of?, Members.get?_logged m "method" (by decide),
    Members.get?_logged m "id" (by decide)]

@[simp] theorem Note.of?_logged (m : Members) : Note.of? m.logged = Note.of? m := by
  simp only [Note.of?, Members.get?_logged m "method" (by decide),
    Members.get?_logged m "params" (by decide)]

/-! ## Requests, notifications and responses -/

theorem Said.of?_request (r : Request) :
    Said.of? (Message.request r).wireMembers = some (Said.ofRequest r.method) := by
  obtain ⟨id, method, params⟩ := r
  simp [Said.of?, Message.wireMembers, Request.toMembers, Members.get?, List.lookup_cons]

theorem Said.of?_notification (n : Notification) :
    Said.of? (Message.notification n).wireMembers = some (Said.ofNotification n.method) := by
  obtain ⟨method, _ | params⟩ := n <;>
    simp [Said.of?, Message.wireMembers, Notification.toMembers, Members.get?, List.lookup_cons, Gaps.field]

theorem Said.of?_response (r : Response) : Said.of? (Message.response r).wireMembers = none := by
  obtain ⟨_ | id, _ | result, _ | error⟩ := r <;>
    simp [Said.of?, Message.wireMembers, Response.wireMembers, Members.get?, List.lookup_cons, Gaps.field]

theorem Note.of?_response (r : Response) : Note.of? (Message.response r).wireMembers = none := by
  obtain ⟨_ | id, _ | result, _ | error⟩ := r <;>
    simp [Note.of?, Message.wireMembers, Response.wireMembers, Members.get?, List.lookup_cons, Gaps.field]

/-- What is no change of documents by its method tells of none. -/
theorem Note.of?_request {r : Request} (h : r.method ∉ Said.documentMethods) :
    Note.of? (Message.request r).wireMembers = none := by
  obtain ⟨id, method, params⟩ := r
  simp only [Said.documentMethods, List.mem_cons, List.not_mem_nil, or_false, not_or] at h
  simp [Note.of?, Message.wireMembers, Request.toMembers, Members.get?, List.lookup_cons, h]

theorem Note.of?_notification {n : Notification} (h : n.method ∉ Said.documentMethods) :
    Note.of? (Message.notification n).wireMembers = none := by
  obtain ⟨method, params⟩ := n
  simp only [Said.documentMethods, List.mem_cons, List.not_mem_nil, or_false, not_or] at h
  simp [Note.of?, Message.wireMembers, Notification.toMembers, Members.get?, List.lookup_cons, h]

/-! ## How they are made -/

/-- Parameters by name, or none. -/
def Params.json : Option Members → Json
  | some m => .obj m
  | none => .null

theorem Request.ofMembers_made (n : Nat) (method : String) (params : Option Members) :
    Request.ofMembers [("id", .int n), ("method", .str method), ("params", Params.json params)] =
      .ok ⟨.number n, method, params.map .named⟩ := by
  cases params <;> rfl

theorem Notification.ofMembers_made (method : String) (params : Option Members) :
    Notification.ofMembers [("method", .str method), ("params", Params.json params)] =
      .ok ⟨method, params.map .named⟩ := by
  cases params <;> rfl

theorem TextDocumentItem.ofMembers_made (uri languageId : String) (version : Int) (text : String) :
    TextDocumentItem.ofMembers [("uri", .str uri), ("languageId", .str languageId),
      ("version", .int version), ("text", .str text)] = .ok ⟨uri, languageId, version, text⟩ := rfl

/-! ## Changes of documents -/

theorem Note.of?_opened (uri languageId text : String) (version : Nat) :
    Note.of? (Message.notification ⟨"textDocument/didOpen", some (.named [("textDocument",
      .obj (TextDocumentItem.toMembers ⟨uri, languageId, version, text⟩))])⟩).wireMembers =
      some (.opened ⟨uri, languageId, version, .str text⟩) := rfl

theorem Note.of?_changed (uri : String) (version : Nat) (text : Json) :
    Note.of? (Message.notification ⟨"textDocument/didChange", some (.named [("textDocument",
      .obj [("uri", .str uri), ("version", .int version)]),
      ("contentChanges", .arr [.obj [("text", text)]])])⟩).wireMembers =
      some (.changed uri version text) := rfl

theorem Note.of?_closed (uri : String) :
    Note.of? (Message.notification ⟨"textDocument/didClose", some (.named [("textDocument",
      .obj [("uri", .str uri)])])⟩).wireMembers = some (.closed uri) := rfl

end LspHost
