import LspHost.Process.Stream

/-!
# Demands that can be decided stay so

A reader is woken as soon as its demand can be decided, and reads later. Meanwhile more octets may
arrive, or the stream may end: the demand can still be decided, and a line that was too long is still
too long (`grows_feed`, `grows_close`).
-/

namespace LspHost.Stream

/-- A stream holds a line that is too long to be read. -/
def Overlong (s : Stream) : Prop :=
  ∃ found before rest, s.decide? (.until [10]) = some (.tooLong found before, rest)

/-- A stream that can be decided at least as well as another one. -/
structure Grows (a b : Stream) : Prop where
  meets : ∀ d, a.meets d = true → b.meets d = true
  overlong : a.Overlong → b.Overlong

theorem Grows.refl (a : Stream) : Grows a a := ⟨fun _ h => h, fun h => h⟩

theorem Grows.trans {a b c : Stream} (h : Grows a b) (h' : Grows b c) : Grows a c :=
  ⟨fun d m => h'.meets d (h.meets d m), fun o => h'.overlong (h.overlong o)⟩

/-- Who waits for a stream does not decide anything. -/
theorem grows_of_eq {a b : Stream} (buffer : b.buffer = a.buffer) (ended : b.ended = a.ended) :
    Grows a b := by
  have same (d : Demand) : b.decide? d = a.decide? d := by
    cases d <;> simp only [decide?, buffer, ended]
  exact ⟨fun d h => by simpa only [meets, same] using h, fun h => by simpa only [Overlong, same] using h⟩

/-! ## Separators -/

theorem isPrefixOf_append {a b : List UInt8} (c : List UInt8) (h : a.length ≤ b.length) :
    a.isPrefixOf (b ++ c) = a.isPrefixOf b := by
  induction a generalizing b with
  | nil => simp
  | cons x a ih =>
    cases b with
    | nil => simp at h
    | cons y b =>
      simp only [List.length_cons, Nat.add_le_add_iff_right] at h
      simp [List.isPrefixOf, ih h]

/-- A separator that is found is found with all its octets. -/
theorem find?_bound {separator bytes : List UInt8} {place i : Nat} (solid : separator ≠ [])
    (h : find? separator place bytes = some i) :
    place ≤ i ∧ i + separator.length ≤ place + bytes.length := by
  induction bytes generalizing place with
  | nil => simp [find?, solid] at h
  | cons b rest ih =>
    simp only [find?] at h
    split at h
    · next isPrefix =>
      cases h
      exact ⟨Nat.le_refl _, Nat.add_le_add_left (List.isPrefixOf_iff_prefix.mp isPrefix).length_le _⟩
    · have := ih h
      simp only [List.length_cons]
      omega

theorem find?_append {separator bytes : List UInt8} {place i : Nat} (more : List UInt8)
    (solid : separator ≠ []) (h : find? separator place bytes = some i) :
    find? separator place (bytes ++ more) = some i := by
  induction bytes generalizing place with
  | nil => simp [find?, solid] at h
  | cons b rest ih =>
    have bound := (find?_bound solid h).2
    simp only [find?, List.cons_append] at h ⊢
    rw [← List.cons_append]
    split at h
    · next isPrefix =>
      have fits := (List.isPrefixOf_iff_prefix.mp isPrefix).length_le
      rw [isPrefixOf_append more fits, if_pos isPrefix]
      exact h
    · next notPrefix =>
      have later := find?_bound solid h
      have fits : separator.length ≤ (b :: rest).length := by
        simp only [List.length_cons] at bound ⊢; omega
      rw [isPrefixOf_append more fits, if_neg notPrefix]
      exact ih h

theorem exists_find?_nil (place : Nat) (bytes : List UInt8) : ∃ i, find? [] place bytes = some i := by
  cases bytes <;> simp [find?]

/-- A single octet that was not found before is found only behind. -/
theorem find?_behind {b : UInt8} {bytes more : List UInt8} {place i : Nat}
    (absent : find? [b] place bytes = none) (h : find? [b] place (bytes ++ more) = some i) :
    place + bytes.length ≤ i := by
  induction bytes generalizing place with
  | nil => exact (find?_bound (by simp) h).1
  | cons c rest ih =>
    simp only [find?, List.cons_append] at absent h
    split at absent
    · cases absent
    · next notPrefix =>
      have differs : [b].isPrefixOf (c :: (rest ++ more)) = [b].isPrefixOf (c :: rest) := by
        simp [List.isPrefixOf]
      rw [differs, if_neg notPrefix] at h
      have := ih absent h
      simp only [List.length_cons]
      omega

/-! ## Octets that arrive -/

theorem isOverlong_mono {separator : List UInt8} {m n : Nat} (h : m ≤ n)
    (stopped : isOverlong separator m = true) : isOverlong separator n = true := by
  simp only [isOverlong, Bool.and_eq_true, decide_eq_true_eq] at stopped ⊢
  omega

theorem meets_feed {s : Stream} {d : Demand} (bytes : List UInt8) (h : s.meets d = true) :
    (s.feed bytes).meets d = true := by
  unfold feed
  split
  · exact h
  · next open' =>
    simp only [Bool.not_eq_true] at open'
    cases d with
    | exactly count =>
      simp only [meets, decide?, open'] at h ⊢
      split at h
      · rw [if_pos (by simp only [List.length_append]; omega)]; rfl
      · simp at h
    | «until» separator =>
      rcases found : find? separator 0 (s.buffer ++ bytes) with _ | i
      · have absent : find? separator 0 s.buffer = none := by
          rcases e : find? separator 0 s.buffer with _ | i
          · rfl
          · by_cases solid : separator = []
            · subst solid
              obtain ⟨i, e'⟩ := exists_find?_nil 0 (s.buffer ++ bytes)
              rw [found] at e'; cases e'
            · rw [find?_append bytes solid e] at found; cases found
        simp only [meets, decide?, absent, open', found] at h ⊢
        split at h
        · next stopped =>
          rw [if_pos (isOverlong_mono (by simp) stopped)]; rfl
        · simp at h
      · simp only [meets, decide?, found]
        split <;> rfl

theorem overlong_feed {s : Stream} (bytes : List UInt8) (h : s.Overlong) : (s.feed bytes).Overlong := by
  unfold feed
  split
  · exact h
  · next open' =>
    obtain ⟨found, before, rest, decided⟩ := h
    simp only [Overlong, decide?] at decided ⊢
    rcases e : find? [10] 0 s.buffer with _ | i
    · rw [e] at decided
      dsimp only at decided
      split at decided
      · next stopped =>
        simp only [isOverlong, Bool.and_eq_true, decide_eq_true_eq, List.length_singleton] at stopped
        rcases e' : find? [10] 0 (s.buffer ++ bytes) with _ | i
        · have stopped' : isOverlong [10] (s.buffer ++ bytes).length = true := by
            simp only [isOverlong, Bool.and_eq_true, decide_eq_true_eq, List.length_singleton,
              List.length_append]
            omega
          exact ⟨_, _, _, by rw [if_pos stopped']⟩
        · have behind := find?_behind e e'
          have long : limit < i := by omega
          exact ⟨_, _, _, by dsimp only; rw [if_pos long]⟩
      · cases decided
    · rw [e] at decided
      rw [find?_append bytes (by simp) e]
      dsimp only at decided ⊢
      split at decided
      · next long => exact ⟨_, _, _, by rw [if_pos long]⟩
      · cases decided

theorem grows_feed (s : Stream) (bytes : List UInt8) : Grows s (s.feed bytes) :=
  ⟨fun _ h => meets_feed bytes h, overlong_feed bytes⟩

theorem grows_close (s : Stream) : Grows s s.close := by
  refine ⟨fun d h => ?_, fun ⟨found, before, rest, decided⟩ => ⟨found, before, rest, ?_⟩⟩
  · cases d with
    | exactly count =>
      simp only [meets, decide?, close] at h ⊢
      split <;> rfl
    | «until» separator =>
      simp only [meets, decide?, close] at h ⊢
      split
      · split <;> rfl
      · split <;> rfl
  · simp only [decide?, close] at decided ⊢
    split at decided
    · exact decided
    · split at decided
      · next stopped => rw [if_pos stopped]; exact decided
      · split at decided <;> cases decided

end LspHost.Stream
