import LspHost.Display.Notice
import LspHost.Proofs.Display.Markup
import LspHost.Proofs.Display.Table

/-!
# Notices that show their texts

A message is put into markup behind its sign, and the cells of tables are markup, so a notice shows the texts that it is
made of where these mean nothing in markup and there is room for them (`notices_verbatim`). Nothing in them is escaped.
For other texts more or less than they say is shown:
* A closing tag has nothing to close, so a message with one is not shown at all (`message_stray`).
* The source of a diagnostic stands in brackets, as a tag does, and most sources are lost in the table (`shown_sourced`).
* The name of an emoji between two colons is shown as the emoji, and a number may be one.
-/

namespace LspHost.Display.Notice

variable {width : Nat}

/-! ## Messages -/

/-- The sign of a message as it is shown. -/
def mark : Severity → Char
  | .info => 'ℹ'
  | .warning => '⚠'
  | .error => '✗'

/-- The style of a sign. -/
def signStyle : Severity → List Char
  | .info => "cyan".toList
  | .warning => "yellow".toList
  | .error => "bold red".toList

theorem close_sign (severity : Severity) (place : Nat) :
    Markup.close place ('/' :: signStyle severity) none [Style.normalName (signStyle severity)] = .ok [] := by
  have trimmed : Text.trim (signStyle severity) = signStyle severity := by
    cases severity <;> decide
  have written : signStyle severity ≠ [] := by
    cases severity <;> decide
  unfold Markup.close
  rw [List.tail_cons, trimmed]
  split
  · next empty _ => exact absurd empty written
  · next empty _ => exact absurd empty written
  · simp [Markup.closeNamed]

theorem isStyle_sign (severity : Severity) : Markup.IsStyle (signStyle severity) := by
  cases severity
  all_goals exact ⟨by decide, by decide, fun _ => rfl, fun _ => rfl, close_sign _⟩

theorem sign_eq (severity : Severity) : (sign severity).toList = '[' :: (signStyle severity ++ ']' :: mark severity ::
    '[' :: ('/' :: signStyle severity ++ [']', ' '])) := by
  cases severity <;> decide

theorem ordinary_mark (severity : Severity) : Markup.Ordinary (mark severity) := by
  cases severity <;> exact ⟨by decide, by decide, by decide, by decide⟩

theorem ordinary_blank : Markup.Ordinary ' ' := ⟨by decide, by decide, by decide, by decide⟩

theorem shown_signed (severity : Severity) {t : String} (plain : Markup.Plain t.toList) :
    Markup.shown (sign severity ++ t).toList = .ok (mark severity :: ' ' :: t.toList) := by
  have styled := Markup.shown_styled (isStyle_sign severity) (ordinary_mark severity) (plain.cons ordinary_blank)
  rw [String.toList_append, sign_eq]
  simpa [Markup.styled] using styled

/-- The lines of a notice, printed one after the other. -/
def printed (lines : List (List Char)) : List Char := lines.flatMap (· ++ ['\n'])

theorem message_verbatim (severity : Severity) {t : String} (plain : Markup.Plain t.toList)
    (fits : Lines.Fits width (mark severity :: ' ' :: t.toList)) :
    text width (.message severity t) = .ok (printed [mark severity :: ' ' :: t.toList]) := by
  have whole : Lines.justified width .fold .natural (mark severity :: ' ' :: t.toList) =
      mark severity :: ' ' :: t.toList :=
    Lines.truncate_narrow fits.narrow .fold
  rw [text, markupText, shown_signed severity plain]
  simp only [Except.map, paragraph, printed, Lines.wrap_fitting fits, whole]

/-- A closing tag in a message has nothing to close, so the message is not shown, whatever else is in it. -/
theorem message_stray (severity : Severity) {before name : String} (ordinary : ∀ c ∈ before.toList, Markup.Ordinary c)
    (whole : ∀ c ∈ name.toList, c ≠ ']' ∧ c ≠ '[') (after : String) :
    ∃ w, text width (.message severity (before ++ "[/" ++ name ++ "]" ++ after)) = .error (.plain .markup w) := by
  have front : ∀ c ∈ ' ' :: before.toList, Markup.Ordinary c := List.forall_mem_cons.mpr ⟨ordinary_blank, ordinary⟩
  obtain ⟨w, stray⟩ := Markup.shown_stray (isStyle_sign severity) (ordinary_mark severity) front whole after.toList
  have whole : (sign severity ++ (before ++ "[/" ++ name ++ "]" ++ after)).toList =
      Markup.styled (signStyle severity) (mark severity)
        (' ' :: before.toList ++ '[' :: ('/' :: name.toList ++ ']' :: after.toList)) := by
    simp [String.toList_append, sign_eq, Markup.styled]
  refine ⟨w, ?_⟩
  rw [text, markupText, whole, stray]
  rfl

/-! ## Cells -/

/-- A text that a cell shows as it is. -/
structure Cell (s : String) : Prop where
  plain : Markup.Plain s.toList
  level : Table.Level s.toList

theorem cell_iff {s : String} : Cell s ↔ Markup.Plain s.toList ∧ Table.Level s.toList :=
  ⟨fun h => ⟨h.plain, h.level⟩, fun h => ⟨h.1, h.2⟩⟩

instance {s : String} : Decidable (Cell s) := decidable_of_iff _ cell_iff.symm

/-- A character that no cell takes for anything else. -/
structure IsFigure (c : Char) : Prop where
  ordinary : Markup.Ordinary c
  noBlank : Text.isBlank c = false
  noEnd : Table.endsLine c = false

theorem isFigure_of_isDigit {c : Char} (digit : c.isDigit = true) : IsFigure c := by
  obtain ⟨low, high⟩ : 48 ≤ c.toNat ∧ c.toNat ≤ 57 := by
    simpa [Char.isDigit, UInt32.le_iff_toNat_le] using digit
  have other (d : Char) (far : d.toNat < 48 ∨ 57 < d.toNat) : c ≠ d := by
    rintro rfl
    omega
  refine ⟨⟨other _ (by decide), other _ (by decide), other _ (by decide), ?_⟩, ?_, ?_⟩
  · simp [Markup.isTerminalControl]
    omega
  · simp [Text.isBlank]
    omega
  · simp [Table.endsLine]
    omega

theorem figures_toString (n : Int) : ∀ c ∈ (toString n).toList, IsFigure c := by
  have digits (n : Nat) : ∀ c ∈ n.repr.toList, IsFigure c := by
    intro c mem
    rw [Nat.toList_repr] at mem
    exact isFigure_of_isDigit (Nat.isDigit_of_mem_toDigits (by omega) (by omega) mem)
  intro c mem
  cases n with
  | ofNat n => exact digits n c mem
  | negSucc n =>
    have written : (toString (Int.negSucc n)).toList = '-' :: (n + 1).repr.toList := by
      show ("-" ++ (n + 1).repr).toList = _
      rw [String.toList_append]
      rfl
    rw [written] at mem
    rcases List.mem_cons.mp mem with rfl | mem
    · exact ⟨⟨by decide, by decide, by decide, by decide⟩, by decide, by decide⟩
    · exact digits _ c mem

theorem level_of_figures {s : List Char} (h : ∀ c ∈ s, IsFigure c ∨ c = ':') : Table.Level s := by
  have each (c : Char) (mem : c ∈ s) : Text.isBlank c = false ∧ Table.endsLine c = false := by
    rcases h c mem with figure | rfl
    · exact ⟨figure.noBlank, figure.noEnd⟩
    · decide
  refine ⟨fun c mem => (each c mem).2, fun mem => ?_, .inr fun c mem => (each c (List.mem_of_getLast? mem)).1⟩
  exact absurd (each _ mem).1 (by decide)

theorem cell_number (n : Int) : Cell (toString n) where
  plain := by simpa using Markup.plain_nil.append fun c mem => (figures_toString n c mem).ordinary
  level := level_of_figures fun c mem => .inl (figures_toString n c mem)

theorem toList_placeText (line character : Int) : (placeText line character).toList =
    (toString (line + 1)).toList ++ ':' :: (toString (character + 1)).toList := by
  simp [placeText]

theorem cell_place (line character : Int) : Cell (placeText line character) where
  plain := by
    have column := figures_toString (character + 1)
    have behind : Markup.Plain (toString (character + 1)).toList := by
      simpa using Markup.plain_nil.append fun c mem => (column c mem).ordinary
    have noColon : ':' ∉ (toString (character + 1)).toList := fun mem => (column ':' mem).ordinary.noColon rfl
    rw [toList_placeText]
    exact (behind.cons_colon noColon).append fun c mem => (figures_toString (line + 1) c mem).ordinary
  level := by
    rw [toList_placeText]
    refine level_of_figures fun c mem => ?_
    rcases List.mem_append.mp mem with front | behind
    · exact .inl (figures_toString _ c front)
    · rcases List.mem_cons.mp behind with colon | behind
      · exact .inr colon
      · exact .inl (figures_toString _ c behind)

theorem noBlank_last_number (n : Int) : ∀ c ∈ (toString n).toList.getLast?, Text.isBlank c = false :=
  fun c mem => (figures_toString n c (List.mem_of_getLast? mem)).noBlank

theorem noBlank_last_place (line character : Int) :
    ∀ c ∈ (placeText line character).toList.getLast?, Text.isBlank c = false := by
  intro c mem
  rw [toList_placeText] at mem
  rcases List.mem_append.mp (List.mem_of_getLast? mem) with front | behind
  · exact (figures_toString _ c front).noBlank
  · rcases List.mem_cons.mp behind with rfl | behind
    · decide
    · exact (figures_toString _ c behind).noBlank

/-- A diagnostic without the name of its source. -/
def unsourced (x : Diagnostic) : Diagnostic := { x with source := none }

/-- The source of a diagnostic is a tag, so a cell shows the diagnostic as if it had none. -/
theorem shown_sourced {x : Diagnostic} {source : String} (sourced : x.source = some source)
    (tag : Markup.IsInside source.toList) (opens : source.toList.head? ≠ some '/')
    (plain : Markup.Plain (unsourced x).format.toList) :
    Markup.shown x.format.toList = .ok (' ' :: (unsourced x).format.toList) := by
  have written : source.isEmpty = false := by
    refine Bool.eq_false_iff.mpr fun empty => ?_
    obtain rfl := String.isEmpty_iff.mp empty
    cases tag.starts
  have parts : x.format.toList =
      '[' :: (source.toList ++ ']' :: ' ' :: (unsourced x).format.toList) := by
    simp [Diagnostic.format, unsourced, sourced, written]
  rw [parts]
  exact Markup.shown_tagged tag opens (plain.cons ordinary_blank)

/-! ## Tables -/

/-- A row that a table shows as it is: a cell for each column, and no blanks at the end of one that stands on the
right. -/
structure Shown (columns : List Column) (row : List String) : Prop where
  length : row.length = columns.length
  cells : ∀ s ∈ row, Cell s
  settled : ∀ x ∈ columns.zip row, x.1.justify = .right → ∀ c ∈ x.2.toList.getLast?, Text.isBlank c = false

theorem mapM_shown {row : List String} (cells : ∀ s ∈ row, Cell s) :
    row.mapM (fun c => Markup.shown c.toList) = .ok (row.map String.toList) := by
  induction row with
  | nil => rfl
  | cons s row ih =>
    rw [List.mapM_cons, Markup.shown_plain (cells s List.mem_cons_self).plain,
      ih fun r mem => cells r (List.mem_cons_of_mem _ mem)]
    rfl

theorem mapM_rows {columns : List Column} {rows : List (List String)} (shown : ∀ row ∈ rows, Shown columns row) :
    rows.mapM (fun row => row.mapM fun c => Markup.shown c.toList) =
      .ok (rows.map fun row => row.map String.toList) := by
  induction rows with
  | nil => rfl
  | cons row rows ih =>
    rw [List.mapM_cons, mapM_shown (shown row List.mem_cons_self).cells,
      ih fun r mem => shown r (List.mem_cons_of_mem _ mem)]
    rfl

/-- The table of rows of texts. -/
def tableOf (columns : List Column) (rows : List (List String)) : Table :=
  ⟨columns, rows.map fun row => row.map String.toList⟩

/-- A table with the room that it asks for shows every row in a line. -/
theorem tableText_rows {columns : List Column} {rows : List (List String)} (two : 2 ≤ columns.length)
    (shown : ∀ row ∈ rows, Shown columns row) (room : (tableOf columns rows).HasRoom width) :
    ∃ lines, tableText width columns rows = .ok (printed lines) ∧
      ∀ row ∈ rows, ∃ line ∈ lines, Table.IsRow (row.map String.toList) line := by
  refine ⟨(tableOf columns rows).lines width, ?_, fun row mem => ?_⟩
  · unfold tableText
    rw [mapM_rows shown]
    rfl
  · have here := shown row mem
    refine Table.exists_row_line room two (List.mem_map_of_mem mem) ?_ ?_ ?_
    · rw [List.length_map]
      exact here.length
    · intro s inside
      obtain ⟨cell, mem, rfl⟩ := List.mem_map.mp inside
      exact (here.cells cell mem).level
    · intro x mem
      rw [List.zip_map_right] at mem
      obtain ⟨y, inside, rfl⟩ := List.mem_map.mp mem
      exact here.settled y inside

theorem shown_diagnostic {uri : String} {x : Diagnostic} (document : Cell uri) (message : Cell x.format) :
    Shown diagnosticColumns (diagnosticRow uri x) where
  length := rfl
  cells s mem := by
    simp only [diagnosticRow, List.mem_cons, List.not_mem_nil, or_false] at mem
    rcases mem with rfl | rfl | rfl
    · exact document
    · exact cell_place _ _
    · exact message
  settled y mem right := by
    simp only [diagnosticColumns, diagnosticRow, List.zip_cons_cons, List.zip_nil_left, List.mem_cons,
      List.not_mem_nil, or_false] at mem
    rcases mem with rfl | rfl | rfl
    · cases right
    · exact noBlank_last_place _ _
    · cases right

theorem shown_token {x : SemanticToken} (type : Cell x.tokenType) (modifiers : Cell (", ".intercalate x.modifiers)) :
    Shown tokenColumns (tokenRow x) where
  length := rfl
  cells s mem := by
    simp only [tokenRow, List.mem_cons, List.not_mem_nil, or_false] at mem
    rcases mem with rfl | rfl | rfl | rfl
    · exact cell_place _ _
    · exact cell_number _
    · exact type
    · exact modifiers
  settled y mem right := by
    simp only [tokenColumns, tokenRow, List.zip_cons_cons, List.zip_nil_left, List.mem_cons, List.not_mem_nil,
      or_false] at mem
    rcases mem with rfl | rfl | rfl | rfl
    · exact noBlank_last_place _ _
    · exact noBlank_last_number _
    · cases right
    · cases right

/-- The rows of a table of diagnostics. -/
def diagnosticRows (d : List (String × List Diagnostic)) : List (List String) :=
  d.flatMap fun (uri, ds) => ds.map (diagnosticRow uri)

theorem mem_diagnosticRows {d : List (String × List Diagnostic)} {row : List String} :
    row ∈ diagnosticRows d ↔ ∃ p ∈ d, ∃ x ∈ p.2, diagnosticRow p.1 x = row := by
  simp [diagnosticRows]

theorem diagnostics_verbatim {d : List (String × List Diagnostic)} (told : ∃ p ∈ d, p.2 ≠ [])
    (cells : ∀ p ∈ d, ∀ x ∈ p.2, Cell p.1 ∧ Cell x.format)
    (room : (tableOf diagnosticColumns (diagnosticRows d)).HasRoom width) :
    ∃ lines, text width (.diagnostics d) = .ok (printed lines) ∧
      ∀ p ∈ d, ∀ x ∈ p.2, ∃ line ∈ lines, Table.IsRow ((diagnosticRow p.1 x).map String.toList) line := by
  have table : text width (.diagnostics d) = tableText width diagnosticColumns (diagnosticRows d) := by
    obtain ⟨p, mem, written⟩ := told
    exact if_neg fun all => written (List.isEmpty_iff.mp (List.all_eq_true.mp all p mem))
  have shown : ∀ row ∈ diagnosticRows d, Shown diagnosticColumns row := by
    intro row mem
    obtain ⟨p, here, x, inside, rfl⟩ := mem_diagnosticRows.mp mem
    exact shown_diagnostic (cells p here x inside).1 (cells p here x inside).2
  obtain ⟨lines, prints, each⟩ := tableText_rows (by decide) shown room
  exact ⟨lines, table.trans prints, fun p mem x inside =>
    each _ (mem_diagnosticRows.mpr ⟨p, mem, x, inside, rfl⟩)⟩

theorem tokens_verbatim {ts : List SemanticToken} (told : ts ≠ [])
    (cells : ∀ x ∈ ts, Cell x.tokenType ∧ Cell (", ".intercalate x.modifiers))
    (room : (tableOf tokenColumns (ts.map tokenRow)).HasRoom width) :
    ∃ lines, text width (.tokens ts) = .ok (printed lines) ∧
      ∀ x ∈ ts, ∃ line ∈ lines, Table.IsRow ((tokenRow x).map String.toList) line := by
  have table : text width (.tokens ts) = tableText width tokenColumns (ts.map tokenRow) :=
    if_neg fun empty => told (List.isEmpty_iff.mp empty)
  have shown : ∀ row ∈ ts.map tokenRow, Shown tokenColumns row := by
    intro row mem
    obtain ⟨x, inside, rfl⟩ := List.mem_map.mp mem
    exact shown_token (cells x inside).1 (cells x inside).2
  obtain ⟨lines, prints, each⟩ := tableText_rows (by decide) shown room
  exact ⟨lines, table.trans prints, fun x inside => each _ (List.mem_map_of_mem inside)⟩

end LspHost.Display.Notice
