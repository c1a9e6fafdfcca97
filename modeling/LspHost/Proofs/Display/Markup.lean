import LspHost.Display.Markup
import Mathlib.Data.List.Infix
import Mathlib.Data.List.TakeDrop
import Mathlib.Data.List.TakeWhile

/-!
# Texts that markup leaves alone

Texts are put into markup as they are, and most of them are shown as they are: those without tags, brackets behind a
backslash, names of emoji and controls of the terminal (`shown_plain`). A sign in a style in front does not change that
(`shown_styled`). Of the others, a tag in front of a text is lost (`shown_tagged`), and a closing tag that has nothing
to close keeps the whole from being shown (`shown_stray`).
-/

namespace LspHost.Display.Markup

/-- A text that means nothing but itself in markup. -/
structure Plain (s : List Char) : Prop where
  noTag : ∀ before behind, s = before ++ behind → tagAhead? behind = none
  noEscape : ∀ before behind, s ≠ before ++ '\\' :: '[' :: behind
  noEmoji : ∀ before name behind, s = before ++ ':' :: (name ++ ':' :: behind) →
    (∀ c ∈ name, c ≠ ':' ∧ Text.isBlank c = false) → emoji? name = none
  noControl : ∀ c ∈ s, isTerminalControl c = false

variable {s t : List Char} {c : Char}

theorem Plain.behind (h : Plain (s ++ t)) : Plain t where
  noTag before rest split := h.noTag (s ++ before) rest (by rw [split, List.append_assoc])
  noEscape before rest split := h.noEscape (s ++ before) rest (by rw [split, List.append_assoc])
  noEmoji before name rest split := h.noEmoji (s ++ before) name rest (by rw [split, List.append_assoc])
  noControl c mem := h.noControl c (List.mem_append_right _ mem)

theorem Plain.tail (h : Plain (c :: s)) : Plain s := by
  have split : Plain ([c] ++ s) := h
  exact split.behind

theorem tagAhead?_of_ne (noSlash : c ≠ '\\') (noBracket : c ≠ '[') (s : List Char) : tagAhead? (c :: s) = none := by
  unfold tagAhead?
  simp only [List.takeWhile_cons, noSlash, decide_false, Bool.false_eq_true, if_false, List.length_nil, List.drop_zero]
  split
  · next rest same => exact absurd (List.cons.inj same).1 noBracket
  · rfl

/-- A character that markup gives no meaning to. -/
structure Ordinary (c : Char) : Prop where
  noSlash : c ≠ '\\'
  noBracket : c ≠ '['
  noColon : c ≠ ':'
  noControl : isTerminalControl c = false

theorem Plain.cons (h : Plain s) (ordinary : Ordinary c) : Plain (c :: s) where
  noTag before behind split := by
    cases before with
    | nil =>
      obtain rfl : c :: s = behind := split
      exact tagAhead?_of_ne ordinary.noSlash ordinary.noBracket s
    | cons d before => exact h.noTag before behind (List.cons.inj split).2
  noEscape before behind split := by
    cases before with
    | nil => exact ordinary.noSlash (List.cons.inj split).1
    | cons d before => exact h.noEscape before behind (List.cons.inj split).2
  noEmoji before name behind split := by
    cases before with
    | nil => exact absurd (List.cons.inj split).1 ordinary.noColon
    | cons d before => exact h.noEmoji before name behind (List.cons.inj split).2
  noControl d mem := by
    rcases List.mem_cons.mp mem with rfl | mem
    · exact ordinary.noControl
    · exact h.noControl d mem

theorem plain_nil : Plain [] where
  noTag before behind split := by
    obtain rfl := (List.append_eq_nil_iff.mp split.symm).2
    rfl
  noEscape before behind split := by simp at split
  noEmoji before name behind split := by simp at split
  noControl c mem := by cases mem

/-- A single colon names nothing. -/
theorem Plain.cons_colon (h : Plain s) (noColon : ':' ∉ s) : Plain (':' :: s) where
  noTag before behind split := by
    cases before with
    | nil =>
      obtain rfl : ':' :: s = behind := split
      exact tagAhead?_of_ne (by decide) (by decide) s
    | cons d before => exact h.noTag before behind (List.cons.inj split).2
  noEscape before behind split := by
    cases before with
    | nil => cases (List.cons.inj split).1
    | cons d before => exact h.noEscape before behind (List.cons.inj split).2
  noEmoji before name behind split := by
    cases before with
    | nil => exact absurd ((List.cons.inj split).2 ▸ List.mem_append_right _ List.mem_cons_self) noColon
    | cons d before => exact h.noEmoji before name behind (List.cons.inj split).2
  noControl d mem := by
    rcases List.mem_cons.mp mem with rfl | mem
    · decide
    · exact h.noControl d mem

theorem Plain.append (h : Plain t) (ordinary : ∀ c ∈ s, Ordinary c) : Plain (s ++ t) := by
  induction s with
  | nil => exact h
  | cons c s ih =>
    exact (ih fun d mem => ordinary d (List.mem_cons_of_mem _ mem)).cons (ordinary c List.mem_cons_self)

/-- The name between colons at the front of a text. -/
def nameAhead? : List Char → Option (List Char)
  | ':' :: s =>
    let name := s.takeWhile fun c => c ≠ ':' ∧ !Text.isBlank c
    if (s.drop name.length).head? = some ':' then some name else none
  | _ => none

theorem nameAhead?_eq_some {name : List Char} : nameAhead? s = some name ↔
    ∃ behind, s = ':' :: (name ++ ':' :: behind) ∧ ∀ c ∈ name, c ≠ ':' ∧ Text.isBlank c = false := by
  constructor
  · intro found
    unfold nameAhead? at found
    split at found
    · obtain ⟨ends, same⟩ := Option.ite_none_right_eq_some.mp found
      obtain rfl := Option.some.inj same
      obtain ⟨behind, split⟩ := List.head?_eq_some_iff.mp ends
      refine ⟨behind, ?_, fun c mem => by simpa using List.mem_takeWhile_imp mem⟩
      rw [← split, List.prefix_iff_eq_append.mp (List.takeWhile_prefix _)]
    · cases found
  · rintro ⟨behind, rfl, named⟩
    have front : (name ++ ':' :: behind).takeWhile (fun c => c ≠ ':' ∧ !Text.isBlank c) = name := by
      rw [List.takeWhile_append_of_pos fun c mem => by simpa using named c mem]
      simp
    unfold nameAhead?
    simp only [front, List.drop_left, List.head?_cons, if_true]

/-- A text is plain if nothing that markup has a meaning for starts anywhere in it. -/
theorem plain_iff : Plain s ↔
    (∀ t ∈ s.tails, tagAhead? t = none ∧ ¬ "\\[".toList <+: t ∧ (nameAhead? t).bind emoji? = none) ∧
      s.all (fun c => !isTerminalControl c) = true := by
  simp only [List.all_eq_true, Bool.not_eq_true']
  constructor
  · intro plain
    refine ⟨fun t mem => ?_, plain.noControl⟩
    obtain ⟨before, rfl⟩ := (List.mem_tails t s).mp mem
    refine ⟨plain.noTag _ _ rfl, ?_, ?_⟩
    · rintro ⟨behind, rfl⟩
      exact plain.noEscape _ _ rfl
    · refine Option.bind_eq_none_iff.mpr fun name found => ?_
      obtain ⟨behind, rfl, named⟩ := nameAhead?_eq_some.mp found
      exact plain.noEmoji _ _ _ rfl named
  · rintro ⟨each, noControl⟩
    have behind (before t : List Char) (split : s = before ++ t) :=
      each t ((List.mem_tails t s).mpr ⟨before, split.symm⟩)
    refine ⟨fun before t split => (behind before t split).1, ?_, ?_, noControl⟩
    · exact fun before t split => (behind before _ split).2.1 ⟨t, rfl⟩
    · intro before name t split named
      exact Option.bind_eq_none_iff.mp (behind before _ split).2.2 name (nameAhead?_eq_some.mpr ⟨t, rfl, named⟩)

instance : Decidable (Plain s) := decidable_of_iff _ plain_iff.symm

example : Plain "a[1] at 12:30: b".toList := by decide

/-! ## Pieces -/

theorem piecesFrom_plain (noTag : ∀ before behind, s = before ++ behind → tagAhead? behind = none) {fuel : Nat}
    (enough : s.length < fuel) (place : Nat) (plain : List Char) (out : List MarkupPiece) :
    piecesFrom fuel place plain out s = (.text (plain.reverse ++ s) :: out).reverse := by
  induction s generalizing fuel place plain with
  | nil =>
    obtain ⟨fuel, rfl⟩ : ∃ n, fuel = n + 1 := Nat.exists_eq_succ_of_ne_zero (by omega)
    simp [piecesFrom]
  | cons c s ih =>
    obtain ⟨fuel, rfl⟩ : ∃ n, fuel = n + 1 := Nat.exists_eq_succ_of_ne_zero (by omega)
    have left : s.length < fuel := by
      simp only [List.length_cons] at enough
      omega
    have here : tagAhead? (c :: s) = none := noTag [] _ rfl
    have noTags : ∀ before behind, s = before ++ behind → tagAhead? behind = none :=
      fun before behind split => noTag (c :: before) behind (by rw [split]; rfl)
    simp only [piecesFrom, here]
    rw [ih noTags left]
    simp

/-- The inside of a tag. -/
structure IsInside (inside : List Char) : Prop where
  starts : inside.head?.any startsTag = true
  whole : ∀ c ∈ inside, c ≠ ']' ∧ c ≠ '['

theorem isInside_iff {inside : List Char} : IsInside inside ↔
    inside.head?.any startsTag = true ∧ inside.all (fun c => c ≠ ']' ∧ c ≠ '[') = true := by
  simp only [List.all_eq_true, decide_eq_true_eq]
  exact ⟨fun h => ⟨h.starts, h.whole⟩, fun ⟨starts, whole⟩ => ⟨starts, whole⟩⟩

instance {inside : List Char} : Decidable (IsInside inside) := decidable_of_iff _ isInside_iff.symm

theorem isInside_slash {name : List Char} (whole : ∀ c ∈ name, c ≠ ']' ∧ c ≠ '[') : IsInside ('/' :: name) := by
  refine ⟨rfl, fun c mem => ?_⟩
  rcases List.mem_cons.mp mem with rfl | mem
  · decide
  · exact whole c mem

theorem tagInside?_tag {inside : List Char} (h : IsInside inside) (rest : List Char) :
    tagInside? (inside ++ ']' :: rest) = some (inside, rest) := by
  have front : (inside ++ ']' :: rest).takeWhile (fun c => c ≠ ']' ∧ c ≠ '[') = inside := by
    rw [List.takeWhile_append_of_pos fun c mem => by simpa using h.whole c mem]
    simp
  have starts : (inside ++ ']' :: rest).head?.any startsTag = true := by
    have starts := h.starts
    cases inside with
    | nil => cases starts
    | cons c inside => exact starts
  have behind : (inside ++ ']' :: rest).drop inside.length = ']' :: rest := List.drop_left
  have after : (inside ++ ']' :: rest).drop (inside.length + 1) = rest := by
    rw [← List.drop_drop, behind]
    rfl
  unfold tagInside?
  simp only [front, starts, behind, after]
  rfl

theorem tagAhead?_tag {inside : List Char} (h : IsInside inside) (rest : List Char) :
    tagAhead? ('[' :: (inside ++ ']' :: rest)) = some (0, inside, rest) := by
  unfold tagAhead?
  simp [tagInside?_tag h]

theorem piecesFrom_tag {inside : List Char} (h : IsInside inside) (fuel place : Nat) (plain : List Char)
    (out : List MarkupPiece) (rest : List Char) :
    piecesFrom (fuel + 1) place plain out ('[' :: (inside ++ ']' :: rest)) =
      piecesFrom fuel (place + inside.length + 2) [] (tagOf place inside :: .text [] :: .text plain.reverse :: out)
        rest := by
  simp [piecesFrom, tagAhead?_tag h]

theorem piecesFrom_ordinary (ordinary : Ordinary c) (fuel place : Nat) (plain : List Char) (out : List MarkupPiece)
    (rest : List Char) :
    piecesFrom (fuel + 1) place plain out (c :: rest) = piecesFrom fuel (place + 1) (c :: plain) out rest := by
  simp only [piecesFrom, tagAhead?_of_ne ordinary.noSlash ordinary.noBracket]

theorem piecesFrom_out (fuel place : Nat) (plain : List Char) (out : List MarkupPiece) (s : List Char) :
    piecesFrom fuel place plain out s = out.reverse ++ piecesFrom fuel place plain [] s := by
  induction fuel generalizing place plain out s with
  | zero => simp [piecesFrom]
  | succ fuel ih =>
    cases s with
    | nil => simp [piecesFrom]
    | cons c s =>
      cases ahead : tagAhead? (c :: s) with
      | none =>
        simp only [piecesFrom, ahead]
        exact ih _ _ out s
      | some found =>
        obtain ⟨count, inside, rest⟩ := found
        simp only [piecesFrom, ahead]
        rw [ih _ _ (_ :: _ :: _ :: out), ih _ _ [_, _, _]]
        simp

/-! ## What is shown -/

theorem unescapeBrackets_plain (noEscape : ∀ before behind, s ≠ before ++ '\\' :: '[' :: behind) (out : List Char) :
    unescapeBrackets out s = out.reverse ++ s := by
  induction s generalizing out with
  | nil => simp [unescapeBrackets]
  | cons c s ih =>
    have still : ∀ before behind, s ≠ before ++ '\\' :: '[' :: behind :=
      fun before behind split => noEscape (c :: before) behind (by rw [split]; rfl)
    rw [unescapeBrackets, ih still]
    · simp
    · intro rest slash bracket
      exact noEscape [] rest (by rw [slash, bracket]; rfl)

theorem replaceEmoji_plain (h : Plain s) {fuel : Nat} (enough : s.length ≤ fuel) (out : List Char) :
    replaceEmoji fuel out s = out.reverse ++ s := by
  induction fuel generalizing s out with
  | zero =>
    obtain rfl : s = [] := List.length_eq_zero_iff.mp (by omega)
    simp [replaceEmoji]
  | succ fuel ih =>
    cases s with
    | nil => simp [replaceEmoji]
    | cons c s =>
      have left : s.length ≤ fuel := by simpa using enough
      by_cases colon : c = ':'
      · subst colon
        simp only [replaceEmoji]
        split
        · next rest found =>
          -- The name, known or not, is passed over with both of its colons.
          have split : s.takeWhile (fun c => c ≠ ':' ∧ !Text.isBlank c) ++ ':' :: rest = s := by
            rw [← found]
            exact List.prefix_iff_eq_append.mp (List.takeWhile_prefix _)
          have unknown := h.noEmoji [] _ rest (by rw [split]; rfl) fun c mem => by
            simpa using List.mem_takeWhile_imp mem
          have after : Plain rest := (split ▸ h.tail).behind.tail
          have fewer : rest.length ≤ fuel := by
            have size := congrArg List.length split
            simp only [List.length_append, List.length_cons] at size
            omega
          rw [unknown, Option.getD_none, ih after fewer]
          simpa using split
        · rw [ih h.tail left]
          simp
      · rw [replaceEmoji, ih h.tail left]
        · simp
        · simpa using colon

theorem text_plain (h : Plain s) : withEmoji (unescapeBrackets [] s) = s := by
  rw [unescapeBrackets_plain h.noEscape]
  exact replaceEmoji_plain h (Nat.le_refl _) []

theorem filter_plain (h : Plain s) : s.filter (fun c => !isTerminalControl c) = s :=
  List.filter_eq_self.mpr fun c mem => by simp [h.noControl c mem]

/-- A text without a meaning in markup is shown as it is. -/
theorem shown_plain (h : Plain s) : shown s = .ok s := by
  have whole : pieces s = [.text s] := piecesFrom_plain h.noTag (Nat.lt_succ_self _) 0 [] []
  unfold shown
  rw [whole, shownFrom, text_plain h, shownFrom]
  simp [Except.map, filter_plain h]

/-- The inside of a tag that sets a style until a tag with a slash in front of it. -/
structure IsStyle (inside : List Char) : Prop where
  tag : IsInside inside
  opens : inside.head? ≠ some '/'
  named : ∀ place, tagOf place inside = .tag place inside none
  closingNamed : ∀ place, tagOf place ('/' :: inside) = .tag place ('/' :: inside) none
  closes : ∀ place, close place ('/' :: inside) none [Style.normalName inside] = .ok []

/-- The pieces of a character in a style. -/
def styledPieces (inside : List Char) (c : Char) : List MarkupPiece :=
  [.text [], .text [], .tag 0 inside none, .text [c], .text [], .tag (inside.length + 3) ('/' :: inside) none]

/-- A text behind a character in a style. -/
def styled (inside : List Char) (c : Char) (s : List Char) : List Char :=
  '[' :: (inside ++ ']' :: c :: '[' :: ('/' :: inside ++ ']' :: s))

theorem pieces_styled {inside : List Char} (style : IsStyle inside) (ordinary : Ordinary c) (s : List Char) :
    ∃ fuel place, s.length < fuel ∧
      pieces (styled inside c s) = styledPieces inside c ++ piecesFrom fuel place [] [] s := by
  obtain ⟨fuel, size, enough⟩ : ∃ fuel, (styled inside c s).length + 1 = fuel + 3 ∧ s.length < fuel := by
    refine ⟨2 * inside.length + s.length + 4, ?_, by omega⟩
    simp only [styled, List.length_cons, List.length_append]
    omega
  refine ⟨fuel, 0 + inside.length + 2 + 1 + ('/' :: inside).length + 2, enough, ?_⟩
  rw [pieces, size, styled, piecesFrom_tag style.tag, piecesFrom_ordinary ordinary,
    piecesFrom_tag (isInside_slash style.tag.whole), piecesFrom_out, style.named, style.closingNamed]
  simp [styledPieces]

theorem shownFrom_styled {inside : List Char} (style : IsStyle inside) (ordinary : Ordinary c)
    (ps : List MarkupPiece) : shownFrom [] [] (styledPieces inside c ++ ps) = shownFrom [] [[], [c], [], []] ps := by
  have mark : withEmoji (unescapeBrackets [] [c]) = [c] := text_plain (plain_nil.cons ordinary)
  have nothing : withEmoji (unescapeBrackets [] []) = [] := rfl
  simp only [styledPieces, List.cons_append, List.nil_append, shownFrom, nothing, mark, style.opens, if_false,
    List.head?_cons, if_true, style.closes]

/-- A character in a style stands in front of a text as if it had none. -/
theorem shown_styled {inside : List Char} (style : IsStyle inside) (ordinary : Ordinary c) (h : Plain s) :
    shown (styled inside c s) = .ok (c :: s) := by
  obtain ⟨fuel, place, enough, cut⟩ := pieces_styled style ordinary s
  unfold shown
  rw [cut, shownFrom_styled style ordinary, piecesFrom_plain h.noTag enough]
  simp [shownFrom, text_plain h, Except.map, ordinary.noControl, filter_plain h]

/-! ## Tags that do not show -/

theorem piecesFrom_ordinaries {before : List Char} (ordinary : ∀ c ∈ before, Ordinary c) (fuel place : Nat)
    (plain : List Char) (out : List MarkupPiece) (s : List Char) :
    piecesFrom (fuel + before.length) place plain out (before ++ s) =
      piecesFrom fuel (place + before.length) (before.reverse ++ plain) out s := by
  induction before generalizing place plain with
  | nil => rfl
  | cons c before ih =>
    have first := ordinary c List.mem_cons_self
    rw [List.length_cons, ← Nat.add_assoc, List.cons_append, piecesFrom_ordinary first,
      ih fun d mem => ordinary d (List.mem_cons_of_mem _ mem)]
    simp [Nat.add_assoc, Nat.add_comm 1]

/-- A tag starts as its inside does. -/
theorem exists_tagOf {inside : List Char} (h : IsInside inside) (place : Nat) : ∃ name parameters,
    tagOf place inside = .tag place name parameters ∧ name.head? = inside.head? := by
  unfold tagOf Text.cutAt?
  rw [List.span_eq_takeWhile_dropWhile]
  split
  · next name parameters cut =>
    refine ⟨name, some parameters, rfl, ?_⟩
    split at cut
    · cases cut
    · next front behind rest parts =>
      obtain ⟨rfl, -⟩ : front = name ∧ rest = parameters := by simpa using cut
      obtain ⟨rfl, -⟩ := Prod.mk.inj parts
      have starts := h.starts
      cases inside with
      | nil => cases starts
      | cons c inside =>
        have other : c ≠ '=' := by
          rintro rfl
          have unstarted : startsTag '=' = false := by decide
          simp [unstarted] at starts
        simp [other]
  · exact ⟨inside, none, rfl, rfl⟩

/-- Where no tag is open, a closing tag is a fault. -/
theorem close_nothing (place : Nat) (name : List Char) (parameters : Option (List Char)) :
    ∃ w, close place name parameters [] = .error (fault w) := by
  unfold close
  cases Text.trim name.tail with
  | nil => exact ⟨_, rfl⟩
  | cons c style => exact ⟨_, rfl⟩

/-- A tag in front of a text leaves no trace. -/
theorem shown_tagged {inside : List Char} (h : IsInside inside) (opens : inside.head? ≠ some '/') (plain : Plain s) :
    shown ('[' :: (inside ++ ']' :: s)) = .ok s := by
  obtain ⟨name, parameters, tag, first⟩ := exists_tagOf h 0
  obtain ⟨fuel, size, enough⟩ : ∃ fuel,
      ('[' :: (inside ++ ']' :: s)).length + 1 = fuel + 1 ∧ s.length < fuel := by
    refine ⟨_, rfl, ?_⟩
    simp only [List.length_cons, List.length_append]
    omega
  have cut : pieces ('[' :: (inside ++ ']' :: s)) = [.text [], .text [], .tag 0 name parameters, .text s] := by
    rw [pieces, size, piecesFrom_tag h, piecesFrom_plain plain.noTag enough, tag]
    simp
  have nothing : withEmoji (unescapeBrackets [] []) = [] := rfl
  unfold shown
  rw [cut]
  simp only [shownFrom, nothing, text_plain plain, first, opens, if_false]
  simp [Except.map, filter_plain plain]

/-- Behind a character in a style, a closing tag without an open one is a fault, whatever follows it. -/
theorem shown_stray {inside before name : List Char} (style : IsStyle inside) (ordinary : Ordinary c)
    (plain : ∀ d ∈ before, Ordinary d) (whole : ∀ d ∈ name, d ≠ ']' ∧ d ≠ '[') (after : List Char) :
    ∃ w, shown (styled inside c (before ++ '[' :: ('/' :: name ++ ']' :: after))) = .error (fault w) := by
  obtain ⟨fuel, place, enough, cut⟩ :=
    pieces_styled style ordinary (before ++ '[' :: ('/' :: name ++ ']' :: after))
  obtain ⟨fuel, rfl⟩ : ∃ n, fuel = n + 1 + before.length := by
    refine ⟨fuel - 1 - before.length, ?_⟩
    simp only [List.length_append, List.length_cons] at enough
    omega
  obtain ⟨closing, parameters, tag, first⟩ := exists_tagOf (isInside_slash whole) (place + before.length)
  obtain ⟨w, stray⟩ := close_nothing (place + before.length) closing parameters
  refine ⟨w, ?_⟩
  unfold shown
  rw [cut, shownFrom_styled style ordinary, piecesFrom_ordinaries plain, piecesFrom_tag (isInside_slash whole),
    piecesFrom_out, tag]
  simp [shownFrom, first, stray, Except.map]

end LspHost.Display.Markup
