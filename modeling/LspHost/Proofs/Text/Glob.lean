import Mathlib.Data.List.TakeDrop
import LspHost.Text.Glob

/-!
# What shell patterns match

`ShellMatches` are the rules of shell patterns, one for each thing that a pattern can begin with. A pattern is cut into
pieces first, and then each piece goes through the text once, from its end: `Tells` says what the verdicts on the ends of
the text mean. `globMatches_iff`: what is decided this way is what the rules say.
-/

namespace LspHost.Text

/-- A text as a whole matches a shell pattern. -/
inductive ShellMatches : List Char → List Char → Prop
  | nil : ShellMatches [] []
  | star {pattern text : List Char} (skipped : List Char) (rest : ShellMatches pattern text) :
    ShellMatches ('*' :: pattern) (skipped ++ text)
  | any {pattern text : List Char} (c : Char) (rest : ShellMatches pattern text) :
    ShellMatches ('?' :: pattern) (c :: text)
  | set {opened inside pattern text : List Char} {c : Char}
    (closed : Glob.closeClass? opened = some (inside, pattern)) (accepts : (Glob.classPiece inside).accepts c = true)
    (rest : ShellMatches pattern text) : ShellMatches ('[' :: opened) (c :: text)
  | bracket {pattern text : List Char} (unclosed : Glob.closeClass? pattern = none)
    (rest : ShellMatches pattern text) : ShellMatches ('[' :: pattern) ('[' :: text)
  | literal {pattern text : List Char} {c : Char} (plain : c ≠ '*' ∧ c ≠ '?' ∧ c ≠ '[')
    (rest : ShellMatches pattern text) : ShellMatches (c :: pattern) (c :: text)

namespace Glob

/-! ## Pieces -/

/-- A text as a whole matches a sequence of pieces. -/
inductive Matches : Glob → List Char → Prop
  | nil : Matches [] []
  | star {g : Glob} {text : List Char} (skipped : List Char) (rest : Matches g text) :
    Matches (.star :: g) (skipped ++ text)
  | piece {g : Glob} {p : GlobPiece} {c : Char} {text : List Char} (accepts : p.accepts c = true)
    (rest : Matches g text) : Matches (p :: g) (c :: text)

variable {P Q : List Char → Prop} {s : List Char} {bs : List Bool} {g : Glob}

/-- Verdicts on the ends of a text, the whole text first and the empty one last. -/
def Tells (P : List Char → Prop) : List Char → List Bool → Prop
  | [], bs => ∃ b, bs = [b] ∧ (b = true ↔ P [])
  | c :: s, bs => ∃ b rest, bs = b :: rest ∧ (b = true ↔ P (c :: s)) ∧ Tells P s rest

theorem Tells.head (h : Tells P s bs) : bs.headD false = true ↔ P s := by
  cases s with
  | nil =>
    obtain ⟨b, rfl, means⟩ := h
    exact means
  | cons c s =>
    obtain ⟨b, rest, rfl, means, -⟩ := h
    exact means

theorem Tells.congr (h : Tells P s bs) (same : ∀ t, P t ↔ Q t) : Tells Q s bs := by
  rwa [← show P = Q from funext fun t => propext (same t)]

/-- No pieces match the empty end and no other. -/
theorem tells_nil (s : List Char) : Tells (Matches []) s (verdicts [] s) := by
  induction s with
  | nil => exact ⟨true, rfl, ⟨fun _ => .nil, fun _ => rfl⟩⟩
  | cons c s ih =>
    refine ⟨false, verdicts [] s, ?_, ⟨nofun, nofun⟩, ih⟩
    cases s <;> simp [verdicts, List.replicate_succ]

/-- Whether an end or a shorter one does. -/
theorem Tells.anyShorter (h : Tells P s bs) :
    Tells (fun t => ∃ skipped rest, t = skipped ++ rest ∧ P rest) s (anyShorter bs) := by
  induction s generalizing bs with
  | nil =>
    obtain ⟨b, rfl, means⟩ := h
    refine ⟨b, by simp [Glob.anyShorter], ⟨fun e => ⟨[], [], rfl, means.mp e⟩, ?_⟩⟩
    rintro ⟨skipped, rest, e, p⟩
    obtain ⟨-, rfl⟩ := List.append_eq_nil_iff.mp e.symm
    exact means.mpr p
  | cons c s ih =>
    obtain ⟨b, rest, rfl, means, below⟩ := h
    refine ⟨b || (Glob.anyShorter rest).headD false, Glob.anyShorter rest, rfl, ?_, ih below⟩
    rw [Bool.or_eq_true, means, (ih below).head]
    constructor
    · rintro (p | ⟨skipped, rest, rfl, p⟩)
      · exact ⟨[], c :: s, rfl, p⟩
      · exact ⟨c :: skipped, rest, rfl, p⟩
    · rintro ⟨skipped, rest, e, p⟩
      cases skipped with
      | nil => exact .inl (by rwa [e])
      | cons d skipped =>
        obtain ⟨-, rfl⟩ := List.cons.inj e
        exact .inr ⟨skipped, rest, rfl, p⟩

/-- Whether a piece takes the first character of an end and the rest does. -/
theorem Tells.oneLonger (h : Tells P s bs) (p : GlobPiece) :
    Tells (fun t => ∃ c rest, t = c :: rest ∧ p.accepts c = true ∧ P rest) s (oneLonger p s bs) := by
  induction s generalizing bs with
  | nil =>
    refine ⟨false, by simp [Glob.oneLonger], ⟨nofun, ?_⟩⟩
    rintro ⟨c, rest, e, -⟩
    cases e
  | cons c s ih =>
    obtain ⟨b, rest, rfl, -, below⟩ := h
    have head := below.head
    -- There is always a verdict below, if only the one on the empty end.
    obtain ⟨v, vs, rfl⟩ : ∃ v vs, rest = v :: vs := by
      cases s with
      | nil => obtain ⟨v, rfl, -⟩ := below; exact ⟨v, [], rfl⟩
      | cons => obtain ⟨v, vs, rfl, -⟩ := below; exact ⟨v, vs, rfl⟩
    refine ⟨p.accepts c && v, Glob.oneLonger p s (v :: vs), rfl, ?_, ih below⟩
    rw [Bool.and_eq_true, show v = true ↔ P s from head]
    constructor
    · exact fun ⟨accepts, p⟩ => ⟨c, s, rfl, accepts, p⟩
    · rintro ⟨d, rest, e, accepts, p⟩
      cases e
      exact ⟨accepts, p⟩

theorem matches_star (text : List Char) :
    Matches (.star :: g) text ↔ ∃ skipped rest, text = skipped ++ rest ∧ Matches g rest := by
  constructor
  · intro h
    cases h with
    | star skipped rest => exact ⟨skipped, _, rfl, rest⟩
    | piece accepts => cases accepts
  · rintro ⟨skipped, rest, rfl, h⟩
    exact .star skipped h

theorem matches_piece {p : GlobPiece} (other : p ≠ .star) (text : List Char) :
    Matches (p :: g) text ↔ ∃ c rest, text = c :: rest ∧ p.accepts c = true ∧ Matches g rest := by
  constructor
  · intro h
    cases h with
    | star => exact absurd rfl other
    | piece accepts rest => exact ⟨_, _, rfl, accepts, rest⟩
  · rintro ⟨c, rest, rfl, accepts, h⟩
    exact .piece accepts h

/-- The verdicts on the ends of a text are right. -/
theorem tells_verdicts (g : Glob) (s : List Char) : Tells (Matches g) s (verdicts g s) := by
  induction g with
  | nil => exact tells_nil s
  | cons p g ih =>
    cases p with
    | star => exact ih.anyShorter.congr fun t => (matches_star t).symm
    | any | literal | oneOf => exact (ih.oneLonger _).congr fun t => (matches_piece (by simp) t).symm

theorem accepts_iff (g : Glob) (s : List Char) : g.accepts s = true ↔ Matches g s := (tells_verdicts g s).head

/-! ## Patterns -/

/-- What follows a set is shorter than what follows its opening bracket. -/
theorem length_of_closeClass? {opened inside after : List Char} (h : closeClass? opened = some (inside, after)) :
    after.length < opened.length := by
  unfold closeClass? at h
  split at h
  next lead rest front =>
  -- What is searched for the closing bracket is a tail of what follows the opening one.
  have shorter : rest.length ≤ opened.length := by
    split at front <;> cases front <;> grind
  have found := (List.dropWhile_sublist (l := rest) (· ≠ ']')).length_le
  rw [List.span_eq_takeWhile_dropWhile] at h
  split at h
  · cases h
  next close searched =>
    cases h
    rw [(Prod.mk.inj searched).2, List.length_cons] at found
    omega

/-- More fuel than characters makes no difference. -/
theorem piecesFrom_eq {fuel fuel' : Nat} {pattern : List Char} (enough : pattern.length ≤ fuel)
    (enough' : pattern.length ≤ fuel') : piecesFrom fuel pattern = piecesFrom fuel' pattern := by
  induction fuel generalizing fuel' pattern with
  | zero =>
    obtain rfl := List.eq_nil_of_length_eq_zero (Nat.le_zero.mp enough)
    cases fuel' <;> rfl
  | succ fuel ih =>
    cases pattern with
    | nil => cases fuel' <;> rfl
    | cons c cs =>
      cases fuel' with
      | zero => cases enough'
      | succ fuel' =>
        have rest := ih (Nat.le_of_succ_le_succ enough) (Nat.le_of_succ_le_succ enough')
        simp only [piecesFrom, rest]
        -- The recursion goes on behind a set, which is further than one character.
        cases closed : closeClass? cs with
        | none => rfl
        | some found =>
          have shorter := length_of_closeClass? closed
          simp only [List.length_cons] at enough enough'
          have := @ih fuel' found.2 (by omega) (by omega)
          simp only [this]

theorem ofPattern_cons (c : Char) (cs : List Char) : ofPattern (c :: cs) =
    if c = '*' then .star :: ofPattern cs
    else if c = '?' then .any :: ofPattern cs
    else if c = '[' then
      match closeClass? cs with
      | some (inside, after) => classPiece inside :: ofPattern after
      | none => .literal '[' :: ofPattern cs
    else .literal c :: ofPattern cs := by
  show piecesFrom (cs.length + 1) (c :: cs) = _
  rw [piecesFrom]
  cases closed : closeClass? cs with
  | none => rfl
  | some found =>
    simp only [ofPattern, piecesFrom_eq (Nat.le_of_lt (length_of_closeClass? closed)) (Nat.le_refl _)]

theorem classPiece_ne_star (inside : List Char) : classPiece inside ≠ .star := by
  unfold classPiece
  dsimp only
  split <;> simp

theorem matches_ofPattern_of (pattern text : List Char) (h : ShellMatches pattern text) :
    Matches (ofPattern pattern) text := by
  induction h with
  | nil => exact .nil
  | star skipped _ ih => exact ofPattern_cons .. ▸ .star skipped ih
  | any c _ ih => exact ofPattern_cons .. ▸ .piece rfl ih
  | set closed accepts _ ih =>
    rw [ofPattern_cons, closed]
    exact .piece accepts ih
  | bracket unclosed _ ih =>
    rw [ofPattern_cons, unclosed]
    exact .piece (by simp [GlobPiece.accepts]) ih
  | literal plain _ ih =>
    rw [ofPattern_cons, if_neg plain.1, if_neg plain.2.1, if_neg plain.2.2]
    exact .piece (by simp [GlobPiece.accepts]) ih

/-- The pieces of a pattern match what the pattern matches. The recursion is on what is left of the pattern, as what
follows a set is no tail of the pattern by one character. -/
theorem shellMatches_of (pattern : List Char) {text : List Char} (h : Matches (ofPattern pattern) text) :
    ShellMatches pattern text := by
  match pattern with
  | [] =>
    cases h
    exact .nil
  | c :: cs =>
    rw [ofPattern_cons] at h
    split at h
    · next star =>
      obtain ⟨skipped, rest, rfl, tail⟩ := (matches_star _).mp h
      exact star ▸ .star skipped (shellMatches_of cs tail)
    · next star =>
      split at h
      · next any =>
        obtain ⟨d, rest, rfl, -, tail⟩ := (matches_piece (by simp) _).mp h
        exact any ▸ .any d (shellMatches_of cs tail)
      · next any =>
        split at h
        · next bracket =>
          subst bracket
          cases closed : closeClass? cs with
          | none =>
            rw [closed] at h
            obtain ⟨d, rest, rfl, same, tail⟩ := (matches_piece (by simp) _).mp h
            obtain rfl : d = '[' := by simpa [GlobPiece.accepts] using same
            exact .bracket closed (shellMatches_of cs tail)
          | some found =>
            have := length_of_closeClass? closed
            rw [closed] at h
            obtain ⟨d, rest, rfl, accepts, tail⟩ := (matches_piece (classPiece_ne_star _) _).mp h
            exact .set closed accepts (shellMatches_of found.2 tail)
        · next bracket =>
          obtain ⟨d, rest, rfl, same, tail⟩ := (matches_piece (by simp) _).mp h
          obtain rfl : d = c := by simpa [GlobPiece.accepts] using same
          exact .literal ⟨star, any, bracket⟩ (shellMatches_of cs tail)
termination_by pattern.length

end Glob

/-- Whether a text matches a pattern is decided by the rules of shell patterns. -/
theorem globMatches_iff (pattern text : List Char) : globMatches pattern text = true ↔ ShellMatches pattern text := by
  rw [globMatches, Glob.accepts_iff]
  exact ⟨Glob.shellMatches_of pattern, Glob.matches_ofPattern_of pattern text⟩

end LspHost.Text
