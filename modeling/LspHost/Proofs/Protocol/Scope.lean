import LspHost.Supervisor.Documents
import LspHost.Proofs.Sample
import LspHost.Proofs.Task.Only
import LspHost.Proofs.Text.Glob
import LspHost.Proofs.Uri

/-!
# Which documents belong to a scope

`DocumentFilter.Satisfied` says of a filter, part by part, what it asks of a document. Whether a document belongs to
a scope is decided for every uri that can be read; one that cannot be read is a fault as soon as there is a filter,
whatever the filter asks (`scope_decides`). The uri of a path can always be read, and filters see the path in it
(`uri_names_path`).
-/

namespace LspHost

/-- A document is what the set parts of a filter ask for. -/
structure DocumentFilter.Satisfied (f : DocumentFilter) (uri : Uri) (languageId : String) : Prop where
  scheme : ∀ s, f.scheme = some s → s = uri.scheme
  language : ∀ l, f.language = some l → l = languageId
  pattern : ∀ p, f.pattern = some p → Text.ShellMatches p.toList (Uri.unescape uri.path.toList)

/-- The fault of a uri that cannot be read. -/
def Uri.malformed : Fault := .plain .badValue "Invalid IPv6 URL"

/-! ## Filters -/

namespace DocumentFilter

theorem accepts_iff {part : Option String} {test : String → Bool} :
    accepts part test = true ↔ ∀ s, part = some s → test s = true := by
  cases part <;> simp [accepts]

theorem matchesUri_iff {f : DocumentFilter} {uri : Uri} {languageId : String} :
    f.matchesUri uri languageId = true ↔ f.Satisfied uri languageId := by
  simp only [matchesUri, Bool.and_eq_true, accepts_iff, beq_iff_eq, Text.globMatches_iff]
  exact ⟨fun h => ⟨h.1.1, h.1.2, h.2⟩, fun h => ⟨⟨h.scheme, h.language⟩, h.pattern⟩⟩

end DocumentFilter

/-! ## Scopes -/

namespace DocumentScope

theorem contains_of_parse? {uri : String} {u : Uri} (read : Uri.parse? uri = some u) (scope : DocumentScope)
    (languageId : String) : contains scope uri languageId = .ok (scope.any fun f => f.matchesUri u languageId) := by
  induction scope with
  | nil => rfl
  | cons f scope ih =>
    simp only [contains, DocumentFilter.matchesDocument, read, List.any_cons]
    cases f.matchesUri u languageId with
    | true => rfl
    | false => exact ih

theorem contains_of_malformed {uri : String} (unread : Uri.parse? uri = none) {scope : DocumentScope}
    (some : scope ≠ []) (languageId : String) : contains scope uri languageId = .error Uri.malformed := by
  cases scope with
  | nil => exact absurd rfl some
  | cons f scope => simp only [contains, DocumentFilter.matchesDocument, unread, Uri.malformed]

/-- A scope cannot decide only on a uri that cannot be read. -/
theorem malformed_of_contains {uri languageId : String} {scope : DocumentScope} {f : Fault}
    (undecided : contains scope uri languageId = .error f) : Uri.parse? uri = none ∧ f = Uri.malformed := by
  rcases read : Uri.parse? uri with _ | u
  · cases scope with
    | nil => cases undecided
    | cons g scope =>
      exact ⟨rfl, Except.error.inj (undecided.symm.trans (contains_of_malformed read (List.cons_ne_nil g scope) languageId))⟩
  · cases (contains_of_parse? read scope languageId).symm.trans undecided

end DocumentScope

/-! ## What the host is told -/

namespace Supervisor

variable {w : World} {uri languageId : String} {outcome? : World → Nat → Option (Except Fault Json)}

/-- A scope decides on every uri that can be read. -/
theorem handles_of_parse? {u : Uri} (read : Uri.parse? uri = some u) : ∃ b,
    w.supervisor.handles uri languageId = .ok b ∧
      (b = true ↔ ∃ f ∈ w.supervisor.scope, f.Satisfied u languageId) := by
  refine ⟨_, DocumentScope.contains_of_parse? read _ _, ?_⟩
  simp only [List.any_eq_true, DocumentFilter.matchesUri_iff]

theorem openDocument_fault (text : Json) {f : Fault} (h : w.supervisor.handles uri languageId = .error f) :
    (openDocument uri languageId text).advance outcome? w = (w, .failed f) := by
  show (Program.bind (.ofExcept (w.supervisor.handles uri languageId)) _).advance outcome? w = _
  rw [h]
  rfl

theorem openDocument_ignored (text : Json) (h : w.supervisor.handles uri languageId = .ok false) :
    (openDocument uri languageId text).advance outcome? w = (w, .done false) := by
  show (Program.bind (.ofExcept (w.supervisor.handles uri languageId)) _).advance outcome? w = _
  rw [h]
  rfl

/-- Whatever happens while a document of the scope is opened, the host is never told that it is ignored. -/
theorem openDocument_served (text : Json) (h : w.supervisor.handles uri languageId = .ok true) :
    ((openDocument uri languageId text).advance outcome? w).2.Returns (· = true) := by
  show ((Program.bind (.ofExcept (w.supervisor.handles uri languageId)) _).advance outcome? w).2.Returns _
  rw [h]
  -- Past the check, all ways through the program end in the same answer.
  refine Program.Returns.advance (.bind fun _ => .ensure (.bind fun v => ?_) _) outcome? w
  split
  · rfl
  · exact .bind fun _ => .bind fun _ => rfl

end Supervisor

namespace Path

/-- The uri of a path can be read, and filters see in it the absolute path itself. So paths share their uri if and
only if they share their absolute form. -/
theorem uri_names_path (cwd path : List Char) (plain : '\x00' ∉ path) : ∃ uri u,
    toUri? cwd path = some uri ∧ Uri.parse? uri = some u ∧
    u.scheme = "file" ∧ Uri.unescape u.path.toList = resolve cwd path ∧
    (∀ cwd' path', '\x00' ∉ path' → (toUri? cwd' path' = some uri ↔ resolve cwd' path' = resolve cwd path)) ∧
    ∀ (g languageId : String), (DocumentFilter.mk (some "file") none (some g)).matchesDocument uri languageId =
      .ok (Text.globMatches g.toList (resolve cwd path)) := by
  have written {cwd path : List Char} (plain : '\x00' ∉ path) :
      toUri? cwd path = some (Uri.ofPath (resolve cwd path)) := by
    rw [toUri?, if_neg (by simpa using plain)]
  have read : Uri.parse? (Uri.ofPath (resolve cwd path)) =
      some ⟨"file", String.ofList (Uri.escape (resolve cwd path))⟩ :=
    Uri.parse?_ofPath _
  have unescaped : Uri.unescape (String.ofList (Uri.escape (resolve cwd path))).toList = resolve cwd path := by
    rw [String.toList_ofList, Uri.unescape_escape]
  refine ⟨_, _, written plain, read, rfl, unescaped, fun cwd' path' plain' => ?_, fun g languageId => ?_⟩
  · -- Both are written, and what is written is read back.
    rw [written plain', Option.some_inj]
    exact ⟨Uri.ofPath_injective, congrArg Uri.ofPath⟩
  · rw [DocumentFilter.matchesDocument, read]
    simp [DocumentFilter.matchesUri, DocumentFilter.accepts, Uri.unescape_escape]

/-- A name with a blank, marks that mean something in uris, a letter beyond ASCII and a line break. -/
theorem uri_names_path_of_marks : '\x00' ∉ "a b%41#?;[é]\n".toList ∧ ∃ u,
    toUri? "/w".toList "a b%41#?;[é]\n".toList = some "file:///w/a%20b%2541%23%3F%3B%5B%C3%A9%5D%0A" ∧
    Uri.parse? "file:///w/a%20b%2541%23%3F%3B%5B%C3%A9%5D%0A" = some u ∧
    u.scheme = "file" ∧ Uri.unescape u.path.toList = "/w/a b%41#?;[é]\n".toList := by
  have plain : '\x00' ∉ "a b%41#?;[é]\n".toList := by decide
  have here : toUri? "/w".toList "a b%41#?;[é]\n".toList =
      some "file:///w/a%20b%2541%23%3F%3B%5B%C3%A9%5D%0A" := by decide +kernel
  obtain ⟨uri, u, written, read, scheme, path, -⟩ := uri_names_path "/w".toList "a b%41#?;[é]\n".toList plain
  obtain rfl := Option.some.inj (here.symm.trans written)
  exact ⟨plain, u, here, read, scheme, path⟩

end Path

end LspHost
