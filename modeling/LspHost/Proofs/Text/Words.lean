import LspHost.Text.Blank
import Mathlib.Data.List.TakeWhile

/-!
# Words

A text is cut at its blanks in three ways: the first word is taken off its front, the last one off its end, or all words
are read at once. What the three see of a text that is put together from words and blanks is said here.
-/

namespace LspHost.Text

/-- A word: characters without a blank. -/
structure IsWord (w : List Char) : Prop where
  written : w ≠ []
  whole : ∀ c ∈ w, isBlank c = false

/-- A text without blanks at its ends. -/
structure Trimmed (s : List Char) : Prop where
  written : s ≠ []
  first : ∀ c ∈ s.head?, isBlank c = false
  last : ∀ c ∈ s.getLast?, isBlank c = false

variable {s t w : List Char} {c : Char}

theorem isWord_iff : IsWord w ↔ w ≠ [] ∧ w.all (fun c => !isBlank c) = true := by
  simp only [List.all_eq_true, Bool.not_eq_true']
  exact ⟨fun h => ⟨h.written, h.whole⟩, fun ⟨written, whole⟩ => ⟨written, whole⟩⟩

instance : Decidable (IsWord w) := decidable_of_iff _ isWord_iff.symm

theorem trimmed_iff : Trimmed s ↔
    s ≠ [] ∧ s.head?.all (fun c => !isBlank c) = true ∧ s.getLast?.all (fun c => !isBlank c) = true := by
  simp only [Option.all_eq_true, Bool.not_eq_true']
  exact ⟨fun h => ⟨h.written, h.first, h.last⟩, fun ⟨written, first, last⟩ => ⟨written, first, last⟩⟩

instance : Decidable (Trimmed s) := decidable_of_iff _ trimmed_iff.symm

theorem IsWord.trimmed (h : IsWord w) : Trimmed w :=
  ⟨h.written, fun c mem => h.whole c (List.mem_of_mem_head? mem), fun c mem => h.whole c (List.mem_of_mem_getLast? mem)⟩

/-- Of two texts with something between them only the outer ends count. -/
theorem Trimmed.append (hs : Trimmed s) (ht : Trimmed t) (between : List Char) : Trimmed (s ++ between ++ t) := by
  have front : (s ++ between ++ t).head? = s.head? := by
    rw [List.append_assoc, List.head?_append, List.head?_eq_some_head hs.written]
    rfl
  have back : (s ++ between ++ t).getLast? = t.getLast? := by
    rw [List.getLast?_append, List.getLast?_eq_some_getLast ht.written]
    rfl
  exact ⟨by simp [hs.written], front ▸ hs.first, back ▸ ht.last⟩

/-! ## Trimming -/

theorem trimLeft_of_head (first : ∀ c ∈ s.head?, isBlank c = false) : trimLeft s = s := by
  cases s with
  | nil => rfl
  | cons c s =>
    have plain : isBlank c = false := first c rfl
    rw [trimLeft, List.dropWhile_cons, plain]
    rfl

theorem trimLeft_cons (blank : isBlank c = true) : trimLeft (c :: s) = trimLeft s := by
  rw [trimLeft, List.dropWhile_cons, blank]
  rfl

theorem trimRight_of_last (last : ∀ c ∈ s.getLast?, isBlank c = false) : trimRight s = s := by
  have reversed : trimRight s = (trimLeft s.reverse).reverse := rfl
  rw [reversed, trimLeft_of_head (by simpa using last), List.reverse_reverse]

theorem Trimmed.trim (h : Trimmed s) : trim s = s := by
  rw [Text.trim, trimLeft_of_head h.first, trimRight_of_last h.last]

/-! ## The first word and the last -/

theorem firstWord?_append (h : IsWord w) (blank : isBlank c = true) (rest : List Char) :
    firstWord? (w ++ c :: rest) = some (w, trimLeft rest) := by
  have front : trimLeft (w ++ c :: rest) = w ++ c :: rest := by
    refine trimLeft_of_head ?_
    rw [List.head?_append, List.head?_eq_some_head h.written]
    exact fun d mem => h.whole d (Option.mem_some.mp mem ▸ List.head_mem h.written)
  have word : (w ++ c :: rest).takeWhile (!isBlank ·) = w := by
    rw [List.takeWhile_append_of_pos fun d mem => by simp [h.whole d mem], List.takeWhile_cons, blank]
    simp
  have behind : (w ++ c :: rest).dropWhile (!isBlank ·) = c :: rest := by
    rw [List.dropWhile_append_of_pos fun d mem => by simp [h.whole d mem], List.dropWhile_cons, blank]
    simp
  unfold firstWord?
  rw [front]
  split
  · next empty => simp at empty
  · rw [word, behind, trimLeft_cons blank]

theorem lastWord?_append (h : IsWord w) (blank : isBlank c = true) (last : ∀ d ∈ s.getLast?, isBlank d = false) :
    lastWord? (s ++ c :: w) = some (s, w) := by
  have reversed : IsWord w.reverse := ⟨by simpa using h.written, fun d mem => h.whole d (List.mem_reverse.mp mem)⟩
  have turned : (s ++ c :: w).reverse = w.reverse ++ c :: s.reverse := by simp
  rw [lastWord?, turned, firstWord?_append reversed blank, trimLeft_of_head (by simpa using last)]
  simp

/-! ## All words -/

theorem wordsFrom_plain (plain : isBlank c = false) (word : List Char) (out : List (List Char)) (s : List Char) :
    wordsFrom word out (c :: s) = wordsFrom (c :: word) out s := by
  cases word <;> simp [wordsFrom, plain]

theorem wordsFrom_blank (blank : isBlank c = true) (word : List Char) (out : List (List Char)) (s : List Char) :
    wordsFrom word out (c :: s) = wordsFrom [] (if word = [] then out else word.reverse :: out) s := by
  cases word <;> simp [wordsFrom, blank]

theorem wordsFrom_out (word : List Char) (out : List (List Char)) (s : List Char) :
    wordsFrom word out s = out.reverse ++ wordsFrom word [] s := by
  induction s generalizing word out with
  | nil => cases word <;> simp [wordsFrom]
  | cons c s ih =>
    cases blank : isBlank c with
    | false => rw [wordsFrom_plain blank, wordsFrom_plain blank, ih]
    | true =>
      rw [wordsFrom_blank blank, wordsFrom_blank blank, ih, ih [] (if word = [] then [] else _)]
      split <;> simp

theorem wordsFrom_append (blank : isBlank c = true) (word s t : List Char) :
    wordsFrom word [] (s ++ c :: t) = wordsFrom word [] s ++ words t := by
  induction s generalizing word with
  | nil =>
    rw [List.nil_append, wordsFrom_blank blank, wordsFrom_out]
    cases word <;> rfl
  | cons d s ih =>
    rw [List.cons_append]
    cases here : isBlank d with
    | false => rw [wordsFrom_plain here, wordsFrom_plain here, ih]
    | true =>
      rw [wordsFrom_blank here, wordsFrom_blank here, wordsFrom_out, wordsFrom_out [] _ s, ih, List.append_assoc]

/-- A blank divides the words before it from those behind it. -/
theorem words_append (blank : isBlank c = true) (s t : List Char) : words (s ++ c :: t) = words s ++ words t :=
  wordsFrom_append blank [] s t

theorem wordsFrom_whole (whole : ∀ c ∈ w, isBlank c = false) (word : List Char) (written : word.reverse ++ w ≠ []) :
    wordsFrom word [] w = [word.reverse ++ w] := by
  induction w generalizing word with
  | nil =>
    cases word with
    | nil => exact absurd rfl written
    | cons d word => simp [wordsFrom]
  | cons c w ih =>
    have plains : ∀ d ∈ w, isBlank d = false := fun d mem => whole d (List.mem_cons_of_mem _ mem)
    rw [wordsFrom_plain (whole c List.mem_cons_self), ih plains _ (by simp)]
    simp

theorem IsWord.words (h : IsWord w) : words w = [w] := wordsFrom_whole h.whole [] (by simpa using h.written)

theorem wordsFrom_ne_nil (word : List Char) (some : word ≠ [] ∨ ∃ c ∈ s, isBlank c = false) :
    wordsFrom word [] s ≠ [] := by
  induction s generalizing word with
  | nil =>
    cases word with
    | nil => simp at some
    | cons d word => simp [wordsFrom]
  | cons d s ih =>
    cases blank : isBlank d with
    | false =>
      rw [wordsFrom_plain blank]
      exact ih _ (.inl (List.cons_ne_nil _ _))
    | true =>
      rw [wordsFrom_blank blank, wordsFrom_out]
      cases word with
      | nil => exact ih [] (by simpa [blank] using some)
      | cons e word => simp

/-- A trimmed text with a blank inside has more than one word. -/
theorem Trimmed.two_words (h : Trimmed s) (mem : c ∈ s) (blank : isBlank c = true) : 2 ≤ (Text.words s).length := by
  obtain ⟨before, behind, rfl⟩ := List.append_of_mem mem
  have first : Text.words before ≠ [] := by
    cases before with
    | nil => simp [h.first c rfl] at blank
    | cons d before => exact wordsFrom_ne_nil [] (.inr ⟨d, List.mem_cons_self, h.first d rfl⟩)
  have last : Text.words behind ≠ [] := by
    cases ending : behind.getLast? with
    | none =>
      obtain rfl := List.getLast?_eq_none_iff.mp ending
      have plain : isBlank c = false := h.last c (by simp)
      simp [plain] at blank
    | some d =>
      have plain : isBlank d = false := h.last d (by simp [List.getLast?_cons, ending])
      exact wordsFrom_ne_nil [] (.inr ⟨d, List.mem_of_getLast? ending, plain⟩)
  rw [words_append blank, List.length_append]
  have := List.length_pos_iff.mpr first
  have := List.length_pos_iff.mpr last
  omega

end LspHost.Text
