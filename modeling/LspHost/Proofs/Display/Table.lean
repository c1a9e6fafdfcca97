import LspHost.Display.Table
import LspHost.Proofs.Display.Lines
import LspHost.Proofs.Text.Words
import Mathlib.Data.List.Forall2

/-!
# Tables with room for their cells

A table asks for as much room as its widest cells take. If there is that much room, every row is one line with the cells
of the row between its dividers, blanks around them (`exists_row_line`).
-/

namespace LspHost.Display.Table

variable {t : Table} {width room : Nat} {s : List Char} {row : List (List Char)} {j : Justify}

/-- A text that stands in a cell as it is: of one line, without a tab. Where marks that take no room make it longer than
it is wide, no blank is to stand at its end. -/
structure Level (s : List Char) : Prop where
  oneLine : ∀ c ∈ s, endsLine c = false
  noTab : '\t' ∉ s
  settled : s.length ≤ Text.width s ∨ ∀ c ∈ s.getLast?, Text.isBlank c = false

theorem level_iff : Level s ↔ s.all (fun c => !endsLine c) = true ∧ '\t' ∉ s ∧
    (s.length ≤ Text.width s ∨ s.getLast?.all (fun c => !Text.isBlank c) = true) := by
  simp only [List.all_eq_true, Option.all_eq_true, Bool.not_eq_true']
  exact ⟨fun h => ⟨h.oneLine, h.noTab, h.settled⟩, fun ⟨oneLine, noTab, settled⟩ => ⟨oneLine, noTab, settled⟩⟩

instance : Decidable (Level s) := decidable_of_iff _ level_iff.symm

theorem Level.fits (h : Level s) (narrow : Text.width s ≤ room) : Lines.Fits room s where
  oneLine mem := absurd (h.oneLine '\n' mem) (by decide)
  noTab := h.noTab
  narrow := narrow
  settled := h.settled.imp_left fun short => Nat.le_trans short narrow

/-! ## Widths -/

/-- The widths that the columns of a table ask for. -/
def asked (t : Table) (width : Nat) : List Nat :=
  t.columnCells.map fun c => max 1 (columnWidth (width - t.frameWidth) c)

/-- There is as much room as the columns ask for. -/
def HasRoom (t : Table) (width : Nat) : Prop := total (t.asked width) ≤ width - t.frameWidth

instance : Decidable (t.HasRoom width) := inferInstanceAs (Decidable (_ ≤ _))

theorem widths_of_hasRoom (h : t.HasRoom width) : t.widths width = t.asked width := if_pos h

theorem length_asked (t : Table) (width : Nat) : (t.asked width).length = t.columns.length := by
  simp [asked, columnCells]

theorem widestFrom_oneLine (oneLine : ∀ c ∈ s, endsLine c = false) (now widest : Nat) :
    widestFrom now widest s = max (now + Text.width s) widest := by
  induction s generalizing now with
  | nil => simp [widestFrom]
  | cons c s ih =>
    have here : endsLine c = false := oneLine c List.mem_cons_self
    rw [widestFrom, here, if_neg Bool.false_ne_true, ih fun d mem => oneLine d (List.mem_cons_of_mem _ mem),
      Text.width_cons, Nat.add_assoc]

theorem start_le_foldl_max (ns : List Nat) (start : Nat) : start ≤ ns.foldl max start := by
  induction ns generalizing start with
  | nil => exact Nat.le_refl start
  | cons n ns ih => exact Nat.le_trans (Nat.le_max_left start n) (ih _)

theorem le_foldl_max {n : Nat} {ns : List Nat} (mem : n ∈ ns) (start : Nat) : n ≤ ns.foldl max start := by
  induction ns generalizing start with
  | nil => cases mem
  | cons m ns ih =>
    rcases List.mem_cons.mp mem with rfl | mem
    · exact Nat.le_trans (Nat.le_max_right start n) (start_le_foldl_max ns _)
    · exact ih mem _

theorem cellWidth_le_columnWidth {cells : List (List Char)} (mem : s ∈ cells) :
    cellWidth room s ≤ columnWidth room cells := le_foldl_max (List.mem_map_of_mem mem) 0

theorem length_le_sum {ws : List Nat} (positive : ∀ w ∈ ws, 1 ≤ w) : ws.length ≤ ws.sum := by
  induction ws with
  | nil => exact Nat.le_refl 0
  | cons w ws ih =>
    have first := positive w List.mem_cons_self
    have others := ih fun v mem => positive v (List.mem_cons_of_mem _ mem)
    rw [List.length_cons, List.sum_cons]
    omega

/-- A width is less than all of them together, if there is another. -/
theorem lt_total {ws : List Nat} (positive : ∀ w ∈ ws, 1 ≤ w) (two : 2 ≤ ws.length) {w : Nat} (mem : w ∈ ws) :
    w < total ws := by
  obtain ⟨before, behind, rfl⟩ := List.append_of_mem mem
  have front := length_le_sum fun v mem => positive v (List.mem_append_left _ mem)
  have back := length_le_sum fun v mem => positive v (List.mem_append_right _ (List.mem_cons_of_mem _ mem))
  have all : total (before ++ w :: behind) = before.sum + (w + behind.sum) := by
    rw [total, ← List.sum_eq_foldl, List.sum_append, List.sum_cons]
  simp only [List.length_append, List.length_cons] at two
  omega

/-- A column is wide enough for each of its cells. -/
theorem width_le_asked (h : t.HasRoom width) (two : 2 ≤ t.columns.length) (member : row ∈ t.rows) {i : Nat}
    (column : i < (t.asked width).length) (cell : row[i]? = some s) (level : Level s) :
    Text.width s + padding ≤ (t.asked width)[i] := by
  have positive : ∀ w ∈ t.asked width, 1 ≤ w := by
    intro w mem
    obtain ⟨cells, -, rfl⟩ := List.mem_map.mp mem
    exact Nat.le_max_left 1 _
  have less : (t.asked width)[i] < total (t.asked width) :=
    lt_total positive (by rw [length_asked]; exact two) (List.getElem_mem column)
  have holds : cellWidth (width - t.frameWidth) s ≤ (t.asked width)[i] := by
    have place : i < t.columnCells.length := by simpa [asked] using column
    have here : s ∈ t.columnCells[i] := by
      simp only [columnCells, List.getElem_map, List.getElem_zipIdx, Nat.zero_add]
      exact List.mem_cons_of_mem _ (List.mem_map.mpr ⟨row, member, by rw [cell]; rfl⟩)
    have wide : cellWidth (width - t.frameWidth) s ≤ columnWidth (width - t.frameWidth) t.columnCells[i] :=
      cellWidth_le_columnWidth here
    simp only [asked, List.getElem_map]
    exact Nat.le_trans wide (Nat.le_max_right 1 _)
  have room : total (t.asked width) ≤ width - t.frameWidth := h
  -- The cell asks for less than all of the room, so what it asks for is not cut.
  unfold cellWidth at holds
  rw [widestFrom_oneLine level.oneLine] at holds
  split at holds
  · omega
  · omega

/-! ## Cells -/

@[simp] theorem width_blanks (n : Nat) : Text.width (Lines.blanks n) = n := by
  induction n with
  | zero => rfl
  | succ n ih =>
    have step : Lines.blanks (n + 1) = ' ' :: Lines.blanks n := rfl
    rw [step, Text.width_cons, ih]
    exact Nat.add_comm 1 n

/-- A text with blanks around it. -/
def Padded (s part : List Char) : Prop := ∃ m n, part = Lines.blanks (m + 1) ++ s ++ Lines.blanks (n + 1)

theorem blanks_add (m n : Nat) : Lines.blanks (m + n) = Lines.blanks m ++ Lines.blanks n :=
  List.replicate_add m n ' '

/-- Where there is room, a line is put in its place by blanks around it. -/
theorem justified_fitting (narrow : Text.width s ≤ room) (o : Overflow)
    (last : j = .right → ∀ c ∈ s.getLast?, Text.isBlank c = false) :
    ∃ m n, Lines.justified room o j s = Lines.blanks m ++ s ++ Lines.blanks n ∧ m + Text.width s + n ≤ room := by
  cases j with
  | natural => exact ⟨0, 0, by simp [Lines.justified, Lines.truncate_narrow narrow, Lines.blanks], by omega⟩
  | left =>
    refine ⟨0, room - Text.width s, ?_, by omega⟩
    simp [Lines.justified, Lines.truncate_narrow narrow, Lines.blanks]
  | right =>
    refine ⟨room - Text.width s, 0, ?_, by omega⟩
    simp [Lines.justified, Text.trimRight_of_last (last rfl), Lines.truncate_narrow narrow, Lines.blanks]

theorem cellLines_fitting (level : Level s) (last : j = .right → ∀ c ∈ s.getLast?, Text.isBlank c = false)
    (narrow : Text.width s + padding ≤ width) : ∃ part, cellLines width j s = [part] ∧ Padded s part := by
  have two : padding = 2 := rfl
  have inner : Text.width s ≤ width - padding := by omega
  obtain ⟨m, n, placed, sizes⟩ := justified_fitting inner .ellipsis last
  have size : Text.width (Lines.blanks m ++ s ++ Lines.blanks n) = m + Text.width s + n := by
    rw [Text.width_append, Text.width_append, width_blanks, width_blanks]
  have blank : Text.charWidth ' ' = 1 := rfl
  unfold cellLines
  dsimp only
  rw [Lines.wrap_fitting (level.fits inner), placed]
  have whole : Lines.truncate (width - padding) .fold (Lines.blanks m ++ s ++ Lines.blanks n) =
      Lines.blanks m ++ s ++ Lines.blanks n :=
    Lines.truncate_narrow (by omega) .fold
  simp only [List.map_cons, List.map_nil, whole]
  rw [Lines.truncate_narrow]
  · refine ⟨_, rfl, m, n + (width - padding - Text.width (Lines.blanks m ++ s ++ Lines.blanks n)), ?_⟩
    rw [Nat.add_comm m 1, blanks_add, blanks_add, blanks_add]
    simp [Lines.blanks]
  · simp only [List.cons_append, Text.width_cons, Text.width_append, width_blanks, Text.width_nil, blank]
    omega

/-! ## Rows -/

theorem foldl_max_one {ns : List Nat} (h : ∀ n ∈ ns, n = 1) : ns.foldl max 1 = 1 := by
  induction ns with
  | nil => rfl
  | cons n ns ih =>
    obtain rfl := h n List.mem_cons_self
    exact ih fun m mem => h m (List.mem_cons_of_mem _ mem)

/-- The line of a cell that has one. -/
def cellLine (x : (Column × Nat) × List Char) : List Char := (cellLines x.1.2 x.1.1.justify x.2).headD []

/-- A row whose cells have one line each is one line. -/
theorem rowLines_single {P : List Char → List Char → Prop} {columns : List Column} {widths : List Nat}
    (divider : Char) (lengths : columns.length = widths.length) (lengths' : row.length = columns.length)
    (each : ∀ x ∈ (columns.zip widths).zip row, ∃ part, cellLines x.1.2 x.1.1.justify x.2 = [part] ∧ P x.2 part) :
    ∃ parts, rowLines divider columns widths row = [divider :: [divider].intercalate parts ++ [divider]] ∧
      List.Forall₂ P row parts := by
  have single : ∀ x ∈ (columns.zip widths).zip row,
      cellLines x.1.2 x.1.1.justify x.2 = [cellLine x] ∧ P x.2 (cellLine x) := by
    intro x mem
    obtain ⟨part, lines, holds⟩ := each x mem
    have here : cellLine x = part := by
      rw [cellLine, lines]
      rfl
    exact ⟨here ▸ lines, here ▸ holds⟩
  refine ⟨((columns.zip widths).zip row).map cellLine, ?_, ?_⟩
  · unfold rowLines
    dsimp only
    rw [foldl_max_one]
    · have parts : ((columns.zip widths).zip row).map
          ((fun x : Nat × List (List Char) => (x.2[0]?).getD (Lines.blanks x.1)) ∘
            fun x => (x.1.2, cellLines x.1.2 x.1.1.justify x.2)) = ((columns.zip widths).zip row).map cellLine :=
        List.map_congr_left fun x mem => by
          rw [Function.comp_apply, (single x mem).1]
          rfl
      simp only [List.range_one, List.map_cons, List.map_nil, List.map_map]
      rw [← parts]
    · intro n mem
      simp only [List.map_map, List.mem_map] at mem
      obtain ⟨x, inside, rfl⟩ := mem
      exact congrArg List.length (single x inside).1
  · have cells : row = ((columns.zip widths).zip row).map Prod.snd := by
      rw [List.map_snd_zip]
      simp [lengths, lengths']
    nth_rewrite 1 [cells]
    rw [List.forall₂_map_left_iff, List.forall₂_map_right_iff, List.forall₂_same]
    exact fun x mem => (single x mem).2

/-- A line with the cells of a row between dividers. -/
def IsRow (row : List (List Char)) (line : List Char) : Prop :=
  ∃ parts, line = '│' :: ['│'].intercalate parts ++ ['│'] ∧ List.Forall₂ Padded row parts

/-- Where a table has the room that it asks for, each of its rows is one of its lines. -/
theorem exists_row_line (h : t.HasRoom width) (two : 2 ≤ t.columns.length) (member : row ∈ t.rows)
    (lengths : row.length = t.columns.length) (level : ∀ s ∈ row, Level s)
    (last : ∀ x ∈ t.columns.zip row, x.1.justify = .right → ∀ c ∈ x.2.getLast?, Text.isBlank c = false) :
    ∃ line ∈ t.lines width, IsRow row line := by
  have widths := length_asked t width
  obtain ⟨parts, single, padded⟩ := rowLines_single (P := Padded) '│' widths.symm lengths fun x mem => by
    obtain ⟨i, inside, rfl⟩ := List.mem_iff_getElem.mp mem
    have place : i < row.length := by
      simp only [List.length_zip] at inside
      omega
    simp only [List.getElem_zip]
    have here : row[i] ∈ row := List.getElem_mem place
    refine cellLines_fitting (level _ here) (fun right => ?_) ?_
    · have short : i < (t.columns.zip row).length := by
        rw [List.length_zip]
        omega
      have pair : (t.columns[i], row[i]) ∈ t.columns.zip row :=
        List.mem_iff_getElem.mpr ⟨i, short, List.getElem_zip⟩
      exact last _ pair right
    · exact width_le_asked h two member (by omega) (List.getElem?_eq_getElem place) (level _ here)
  refine ⟨_, ?_, parts, rfl, padded⟩
  have shown : '│' :: ['│'].intercalate parts ++ ['│'] ∈ t.rows.flatMap (rowLines '│' t.columns (t.widths width)) := by
    refine List.mem_flatMap.mpr ⟨row, member, ?_⟩
    rw [widths_of_hasRoom h, single]
    exact List.mem_singleton_self _
  unfold lines
  exact List.mem_append_left _ (List.mem_append_right _ shown)

end LspHost.Display.Table
