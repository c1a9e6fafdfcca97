import LspHost.Display.Lines
import LspHost.Proofs.Path
import Mathlib.Algebra.GroupWithZero.Nat

/-!
# Lines that fit

A text of one line that is no wider than there is room for is neither broken nor cut (`wrap_fitting`).
-/

namespace LspHost

namespace Text

theorem width_eq_sum (s : List Char) : width s = (s.map charWidth).sum := by
  rw [width, List.sum_eq_foldl, List.foldl_map]

@[simp] theorem width_nil : width [] = 0 := rfl

@[simp] theorem width_cons (c : Char) (s : List Char) : width (c :: s) = charWidth c + width s := by
  simp [width_eq_sum]

@[simp] theorem width_append (s t : List Char) : width (s ++ t) = width s + width t := by
  simp [width_eq_sum]

theorem width_reverse (s : List Char) : width s.reverse = width s := by
  simp [width_eq_sum, List.sum_reverse]

theorem width_trimRight (s : List Char) : width (trimRight s) ≤ width s := by
  have parts := congrArg width (List.takeWhile_append_dropWhile (p := isBlank) (l := s.reverse))
  rw [width_append, width_reverse] at parts
  rw [trimRight, width_reverse]
  omega

end Text

namespace Display.Lines

variable {s : List Char} {room : Nat}

/-- A text of one line without a tab that fits. Where marks that take no room make it longer than it is wide, blanks at
its end may be taken for overhang. -/
structure Fits (room : Nat) (s : List Char) : Prop where
  oneLine : '\n' ∉ s
  noTab : '\t' ∉ s
  narrow : Text.width s ≤ room
  settled : s.length ≤ room ∨ ∀ c ∈ s.getLast?, Text.isBlank c = false

theorem fits_iff : Fits room s ↔ '\n' ∉ s ∧ '\t' ∉ s ∧ Text.width s ≤ room ∧
    (s.length ≤ room ∨ s.getLast?.all (fun c => !Text.isBlank c) = true) := by
  simp only [Option.all_eq_true, Bool.not_eq_true']
  constructor
  · exact fun h => ⟨h.oneLine, h.noTab, h.narrow, h.settled⟩
  · exact fun ⟨oneLine, noTab, narrow, settled⟩ => ⟨oneLine, noTab, narrow, settled⟩

instance : Decidable (Fits room s) := decidable_of_iff _ fits_iff.symm

theorem expandTabs_of_noTab (noTab : '\t' ∉ s) (column : Nat) (out : List Char) :
    expandTabs column out s = out.reverse ++ s := by
  induction s generalizing column out with
  | nil => simp [expandTabs]
  | cons c s ih =>
    have other : c ≠ '\t' := fun same => noTab (same ▸ List.mem_cons_self)
    rw [expandTabs, if_neg other, ih fun mem => noTab (List.mem_cons_of_mem _ mem)]
    simp

/-- A text is its front of characters of one kind and what is left when as many are dropped. -/
theorem width_front (p : Char → Bool) (s : List Char) :
    Text.width (s.takeWhile p) + Text.width (s.drop (s.takeWhile p).length) = Text.width s := by
  rw [← Text.width_append]
  exact congrArg Text.width (List.prefix_iff_eq_append.mp (List.takeWhile_prefix p))

theorem sum_width_wordsFrom (fuel : Nat) (s : List Char) : ((wordsFrom fuel s).map Text.width).sum ≤ Text.width s := by
  induction fuel generalizing s with
  | zero => simp [wordsFrom]
  | succ fuel ih =>
    unfold wordsFrom
    dsimp only
    split
    · simp
    · have first := width_front Text.isBlank s
      have second := width_front (!Text.isBlank ·) (s.drop (s.takeWhile Text.isBlank).length)
      rw [List.drop_drop] at second
      have third := width_front Text.isBlank (s.drop ((s.takeWhile Text.isBlank).length +
        ((s.drop (s.takeWhile Text.isBlank).length).takeWhile (!Text.isBlank ·)).length))
      rw [List.drop_drop] at third
      rw [List.map_cons, List.sum_cons, Text.width_append, Text.width_append]
      exact Nat.le_trans (Nat.add_le_add_left (ih _) _) (by omega)

/-- Words that fit beside each other are not broken. -/
theorem breaks_fitting (o : Overflow) (words : List (List Char)) (start used : Nat)
    (narrow : used + (words.map Text.width).sum ≤ room) : breaks room o start used words = [] := by
  induction words generalizing start used with
  | nil => rfl
  | cons word words ih =>
    rw [List.map_cons, List.sum_cons] at narrow
    have trimmed := Text.width_trimRight word
    have fits : Text.width (Text.trimRight word) + used ≤ room := by omega
    unfold breaks
    simp only [fits, if_true]
    exact ih _ _ (by omega)

theorem dropOverhang_fitting (h : Fits room s) : dropOverhang room s = s := by
  unfold dropOverhang
  refine List.take_of_length_le ?_
  rcases h.settled with short | last
  · omega
  · have none : s.reverse.takeWhile Text.isBlank = [] := by
      cases reversed : s.reverse with
      | nil => rfl
      | cons c rest =>
        have plain : Text.isBlank c = false := last c (by simp [← List.head?_reverse, reversed])
        simp [plain]
    simp [none]

theorem truncate_narrow (narrow : Text.width s ≤ room) (o : Overflow) : truncate room o s = s := by
  unfold truncate
  rw [if_pos narrow]

theorem wrap_fitting (h : Fits room s) (o : Overflow) (j : Justify) : wrap room o j s = [justified room o j s] := by
  have whole : breaks room o 0 0 (wordsFrom (s.length + 1) s) = [] := by
    refine breaks_fitting o _ 0 0 ?_
    have together := sum_width_wordsFrom (s.length + 1) s
    have narrow := h.narrow
    omega
  have expanded : expandTabs 0 [] s = s := expandTabs_of_noTab h.noTab 0 []
  unfold wrap
  rw [Text.splitOn_whole h.oneLine, List.flatMap_singleton]
  simp only [expanded, whole, cutAt, List.map_cons, List.map_nil, dropOverhang_fitting h]

end Display.Lines

end LspHost
