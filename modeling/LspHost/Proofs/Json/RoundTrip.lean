import Mathlib.Data.List.TakeDrop
import Mathlib.Data.List.TakeWhile
import LspHost.Json.Parser
import LspHost.Json.Printer

/-!
# Values that were printed can be read

`parse_print`: the text of a value is read back as that value, if its objects have different keys, its
integers are not too long to be read and its floating-point numbers read back by themselves
(`Json.Writable`).

Every reader is shown to read what the printer wrote in front of a text that does not go on with it
(`Fresh`), with fuel for twice the characters written.
-/

namespace LspHost

namespace Members

theorem insert_new {m : Members} {k : String} (v : Json) (h : k ∉ m.map Prod.fst) :
    m.insert k v = m ++ [(k, v)] := by
  induction m with
  | nil => rfl
  | cons p m ih =>
    simp only [List.map_cons, List.mem_cons, not_or] at h
    rw [insert, if_neg (Ne.symm h.1), ih h.2]
    rfl

theorem foldl_insert {m : Members} (front : Members) (distinct : ((front ++ m).map Prod.fst).Nodup) :
    m.foldl (fun m p => m.insert p.1 p.2) front = front ++ m := by
  induction m generalizing front with
  | nil => simp
  | cons p m ih =>
    have new : p.1 ∉ front.map Prod.fst := by
      simp only [List.map_append, List.map_cons] at distinct
      exact fun mem => (List.nodup_append.mp distinct).2.2 _ mem _ List.mem_cons_self rfl
    have distinct' : ((front ++ [(p.1, p.2)] ++ m).map Prod.fst).Nodup := by simpa using distinct
    rw [List.foldl_cons, insert_new _ new, ih _ distinct']
    simp

/-- Members with different keys are what they make in reading order. -/
theorem ofPairs_self {m : Members} (distinct : (m.map Prod.fst).Nodup) : ofPairs m = m := by
  have all := foldl_insert [] (by simpa using distinct : (([] ++ m).map Prod.fst).Nodup)
  simpa [ofPairs] using all

end Members

namespace Json

/-! ## Numbers -/

/-- What may follow a value: nothing, the next item, or the end of a list or object. -/
def Fresh (rest : List Char) : Prop := ∀ c ∈ rest.head?, c = ',' ∨ c = ']' ∨ c = '}'

theorem Fresh.nil : Fresh [] := by simp [Fresh]

theorem Fresh.isDigit {rest : List Char} (h : Fresh rest) : ∀ c ∈ rest.head?, c.isDigit = false := by
  intro c mem
  rcases h c mem with rfl | rfl | rfl <;> rfl

variable {cs r rest : List Char}

/-- Digits end where they ended before. -/
theorem spanDigits_append (h : Fresh rest) {ds : List Char} (read : spanDigits cs = (ds, r)) :
    spanDigits (cs ++ rest) = (ds, r ++ rest) := by
  unfold spanDigits at read ⊢
  rw [List.span_eq_takeWhile_dropWhile] at read ⊢
  cases read
  induction cs with
  | nil =>
    cases rest with
    | nil => rfl
    | cons c rest => simp [h.isDigit c (by simp)]
  | cons c cs ih =>
    simp only [Prod.mk.injEq] at ih
    cases digit : c.isDigit <;> simp [digit, ih]

/-- A whole part that does not start with a zero, and a fraction behind its point, are digits. -/
theorem some_digits_iff {ds : List Char} :
    (match spanDigits cs with
      | ([], _) => none
      | r => some r) = some (ds, r) ↔ spanDigits cs = (ds, r) ∧ ds ≠ [] := by
  rcases spanDigits cs with ⟨_ | ⟨d, ds'⟩, r'⟩
  · simp only [reduceCtorEq, Prod.mk.injEq, false_iff, not_and, not_not, and_imp]
    exact fun e _ => e.symm
  · simp only [Option.some.injEq, Prod.mk.injEq, ne_eq, iff_self_and, and_imp]
    rintro rfl - ⟨⟩

theorem wholePart?_append (h : Fresh rest) {ds : List Char} (read : wholePart? cs = some (ds, r)) :
    wholePart? (cs ++ rest) = some (ds, r ++ rest) := by
  unfold wholePart? at read
  split at read
  · cases read; rfl
  · next notZero =>
    obtain ⟨span, solid⟩ := some_digits_iff.mp read
    have span' := spanDigits_append h span
    unfold wholePart?
    split
    · next zeros e =>
      cases cs with
      | nil => cases span; exact absurd rfl solid
      | cons c cs =>
        cases e
        exact absurd rfl (notZero cs)
    · exact some_digits_iff.mpr ⟨span', solid⟩

/-- A fraction is there before a fresh text iff it is there without one. -/
theorem fraction?_append (h : Fresh rest) :
    fraction? (r ++ rest) = (fraction? r).map fun p => (p.1, p.2 ++ rest) := by
  match r with
  | [] =>
    match rest with
    | [] => rfl
    | c :: rest => rcases h c (by simp) with rfl | rfl | rfl <;> rfl
  | c :: r =>
    by_cases point : c = '.'
    · subst point
      rcases span : spanDigits r with ⟨_ | ⟨d, ds⟩, r'⟩ <;>
        simp [fraction?, span, spanDigits_append h span]
    · simp [fraction?, point]

/-- An exponent is there before a fresh text iff it is there without one. -/
theorem exponent?_append (h : Fresh rest) :
    exponent? (r ++ rest) = (exponent? r).map fun p => (p.1, p.2 ++ rest) := by
  match r with
  | [] =>
    match rest with
    | [] => rfl
    | c :: rest => rcases h c (by simp) with rfl | rfl | rfl <;> rfl
  | e :: r =>
    by_cases mark : e = 'e' ∨ e = 'E'
    · match r with
      | [] =>
        match rest with
        | [] => simp [exponent?, mark]
        | c :: rest => rcases h c (by simp) with rfl | rfl | rfl <;> simp [exponent?, mark] <;> rfl
      | c :: r =>
        by_cases minus : c = '-'
        · subst minus
          rcases span : spanDigits r with ⟨_ | ⟨d, ds⟩, r'⟩ <;>
            simp [exponent?, mark, span, spanDigits_append h span]
        · by_cases plus : c = '+'
          · subst plus
            rcases span : spanDigits r with ⟨_ | ⟨d, ds⟩, r'⟩ <;>
              simp [exponent?, mark, span, spanDigits_append h span]
          · rcases span : spanDigits (c :: r) with ⟨_ | ⟨d, ds⟩, r'⟩ <;>
              have span' := spanDigits_append h span <;>
              rw [List.cons_append] at span' <;>
              simp [exponent?, mark, minus, plus, span, span']
    · simp [exponent?, mark]

/-- A number ends where it ended before. -/
theorem readNumber_append (h : Fresh rest) {negative : Bool} {v : Json}
    (read : readNumber negative cs = .ok (v, r)) :
    readNumber negative (cs ++ rest) = .ok (v, r ++ rest) := by
  unfold readNumber at read ⊢
  rcases whole : wholePart? cs with _ | ⟨ds, behind⟩
  · rw [whole] at read; cases read
  · rw [whole] at read
    have fraction : (fraction? (behind ++ rest)).getD ([], behind ++ rest) =
        (((fraction? behind).getD ([], behind)).1, ((fraction? behind).getD ([], behind)).2 ++ rest) := by
      rw [fraction?_append h]
      cases fraction? behind <;> rfl
    rw [wholePart?_append h whole]
    dsimp only at read ⊢
    rw [fraction]
    generalize (fraction? behind).getD ([], behind) = p at read
    obtain ⟨fs, behind'⟩ := p
    dsimp only at read ⊢
    rw [exponent?_append h]
    rcases exp : exponent? behind' with _ | ⟨e, behind''⟩
    · cases fs with
      | nil =>
        simp only [exp, Option.map_none] at read ⊢
        split at read
        · cases read
        · next short => cases read; rw [if_neg short]
      | cons f fs =>
        simp only [exp, Option.getD_none, Option.map_none] at read ⊢
        cases read
        rfl
    · simp only [exp, Option.getD_some, Option.map_some] at read ⊢
      cases read
      rfl

/-- A number starts with a digit. -/
theorem readNumber_digit {negative : Bool} {v : Json} (read : readNumber negative cs = .ok (v, r)) :
    ∃ c rest, cs = c :: rest ∧ c.isDigit = true := by
  unfold readNumber at read
  rcases whole : wholePart? cs with _ | ⟨ds, behind⟩
  · rw [whole] at read; cases read
  · unfold wholePart? at whole
    split at whole
    · exact ⟨_, _, rfl, rfl⟩
    · obtain ⟨span, solid⟩ := some_digits_iff.mp whole
      unfold spanDigits at span
      rw [List.span_eq_takeWhile_dropWhile] at span
      cases cs with
      | nil => cases span; exact absurd rfl solid
      | cons c cs =>
        refine ⟨c, cs, rfl, ?_⟩
        cases digit : c.isDigit with
        | true => rfl
        | false =>
          rw [List.takeWhile_cons_of_neg (by simp [digit])] at span
          cases span
          exact absurd rfl solid

theorem digitsValue_eq (ds : List Char) : digitsValue ds = Nat.ofDigitChars 10 ds 0 := by
  unfold digitsValue Nat.ofDigitChars
  congr 1
  funext n c
  rw [Nat.mul_comm]
  rfl

/-- A positive number does not start with a zero. -/
theorem head?_decimalDigits {n : Nat} (positive : 0 < n) : (decimalDigits n).head? ≠ some '0' := by
  induction n using Nat.strongRecOn with
  | ind n ih =>
    unfold decimalDigits at ih ⊢
    by_cases small : n < 10
    · rw [Nat.toDigits_of_lt_base small]
      have digit := Nat.toNat_digitChar_of_lt_ten small
      intro zero
      have same : n.digitChar = '0' := by simpa using zero
      rw [same] at digit
      simp at digit
      omega
    · rw [Nat.toDigits_of_base_le (by omega) (by omega)]
      have front := ih (n / 10) (by omega) (by omega)
      rcases e : Nat.toDigits 10 (n / 10) with _ | ⟨d, ds⟩
      · exact absurd e Nat.toDigits_ne_nil
      · rw [e] at front
        simpa using front

/-- The text of a natural number is read as that number. -/
theorem readNumber_decimalDigits (negative : Bool) {n : Nat}
    (short : (decimalDigits n).length ≤ maxDigits) :
    readNumber negative (decimalDigits n) = .ok (.int (if negative then -n else n), []) := by
  have value : digitsValue (decimalDigits n) = n :=
    (digitsValue_eq _).trans (Nat.ofDigitChars_toDigits (by omega) (by omega))
  have whole : wholePart? (decimalDigits n) = some (decimalDigits n, []) := by
    rcases Nat.eq_zero_or_pos n with rfl | positive
    · rfl
    · have span : spanDigits (decimalDigits n) = (decimalDigits n, []) := by
        have digits : ∀ c ∈ decimalDigits n, c.isDigit = true :=
          fun c mem => Nat.isDigit_of_mem_toDigits (by omega) (by omega) mem
        unfold spanDigits
        rw [List.span_eq_takeWhile_dropWhile, List.takeWhile_eq_self_iff.mpr digits,
          List.dropWhile_eq_nil_iff.mpr digits]
      unfold wholePart?
      split
      · next zeros e => exact absurd (by rw [e]; rfl) (head?_decimalDigits positive)
      · exact some_digits_iff.mpr ⟨span, Nat.toDigits_ne_nil⟩
  unfold readNumber
  rw [whole]
  show (if maxDigits < (decimalDigits n).length then _ else _) = _
  rw [if_neg (Nat.not_lt.mpr short), value]

end Json

/-- A floating-point number that is read back from its text. -/
def Binary64.ReadsBack (x : Binary64) : Prop :=
  (∃ negative m q, x.reading = .finite negative m q) ∧ Json.readAtom x.text = .ok (.float x, [])

namespace Json

/-! ## Words and numbers -/

/-- What starts a number. -/
def StartsNumber (cs : List Char) : Prop :=
  (∃ c rest, cs = c :: rest ∧ c.isDigit = true) ∨ ∃ c rest, cs = '-' :: c :: rest ∧ c.isDigit = true

/-- What starts a number starts no word. -/
theorem StartsNumber.readWord (h : StartsNumber cs) : readWord cs = none := by
  have other {c : Char} (digit : c.isDigit = true) (d : Char) (letter : d.isDigit = false) : d ≠ c := by
    rintro rfl
    rw [digit] at letter
    cases letter
  rcases h with ⟨c, rest, rfl, digit⟩ | ⟨c, rest, rfl, digit⟩
  · simp [Json.readWord, words, after?, other digit 'n' rfl, other digit 't' rfl, other digit 'f' rfl,
      other digit 'N' rfl, other digit 'I' rfl, other digit '-' rfl]
  · simp [Json.readWord, words, after?, other digit 'I' rfl]

/-- A number ends where it ended before, also one with a sign. -/
theorem readAtom_append (h : Fresh rest) {v : Json} (number : readWord cs = none)
    (read : readAtom cs = .ok (v, [])) :
    StartsNumber cs ∧ readAtom (cs ++ rest) = .ok (v, rest) := by
  simp only [readAtom, number] at read
  split at read
  · next r =>
    obtain ⟨c, behind, rfl, digit⟩ := readNumber_digit read
    have starts : StartsNumber ('-' :: c :: behind) := .inr ⟨c, behind, rfl, digit⟩
    have starts' : StartsNumber ('-' :: c :: behind ++ rest) := .inr ⟨c, behind ++ rest, rfl, digit⟩
    refine ⟨starts, ?_⟩
    simp only [readAtom, starts'.readWord]
    exact readNumber_append h read
  · next notMinus =>
    obtain ⟨c, behind, rfl, digit⟩ := readNumber_digit read
    have starts : StartsNumber (c :: behind) := .inl ⟨c, behind, rfl, digit⟩
    have starts' : StartsNumber (c :: behind ++ rest) := .inl ⟨c, behind ++ rest, rfl, digit⟩
    refine ⟨starts, ?_⟩
    simp only [readAtom, starts'.readWord]
    split
    · next e => cases e; exact absurd rfl (notMinus behind)
    · exact readNumber_append h read

theorem startsNumber_decimalDigits (n : Nat) :
    ∃ c rest, decimalDigits n = c :: rest ∧ c.isDigit = true := by
  rcases e : decimalDigits n with _ | ⟨c, rest⟩
  · exact absurd e Nat.toDigits_ne_nil
  · exact ⟨c, rest, rfl, Nat.isDigit_of_mem_toDigits (by omega) (by omega) (e ▸ List.mem_cons_self)⟩

theorem startsNumber_intText (n : Int) : StartsNumber (intText n) := by
  obtain ⟨c, rest, e, digit⟩ := startsNumber_decimalDigits n.natAbs
  unfold intText
  split
  · exact .inr ⟨c, rest, by rw [e], digit⟩
  · exact .inl ⟨c, rest, e, digit⟩

theorem readAtom_intText (h : Fresh rest) {n : Int}
    (short : (decimalDigits n.natAbs).length ≤ maxDigits) :
    readAtom (intText n ++ rest) = .ok (.int n, rest) := by
  have word := (startsNumber_intText n).readWord
  refine (readAtom_append h word ?_).2
  simp only [readAtom, word]
  by_cases negative : n < 0
  · have value : -(n.natAbs : Int) = n := by omega
    rw [intText, if_pos negative]
    show readNumber true (decimalDigits n.natAbs) = _
    rw [readNumber_decimalDigits true short, if_pos rfl, value]
  · have value : (n.natAbs : Int) = n := by omega
    rw [intText, if_neg negative]
    obtain ⟨c, rest, e, digit⟩ := startsNumber_decimalDigits n.natAbs
    split
    · next minus => rw [e] at minus; cases minus; cases digit
    · rw [readNumber_decimalDigits false short, if_neg Bool.false_ne_true, value]

theorem readAtom_floatText (h : Fresh rest) {x : Binary64} (readsBack : x.ReadsBack) :
    StartsNumber (floatText x) ∧ readAtom (floatText x ++ rest) = .ok (.float x, rest) := by
  obtain ⟨⟨negative, m, q, finite⟩, read⟩ := readsBack
  have text : floatText x = x.text := by simp only [floatText, finite]
  rw [text]
  refine readAtom_append h ?_ read
  -- a word would be read as a number that is not finite
  rcases word : readWord x.text with _ | ⟨v, r⟩
  · rfl
  · have same : (v, r) = (.float x, []) := by
      unfold readAtom at read
      rw [word] at read
      exact Except.ok.inj read
    cases same
    obtain ⟨⟨w, v⟩, mem, found⟩ := List.exists_of_findSome?_eq_some word
    simp only [Option.map_eq_some_iff] at found
    obtain ⟨_, -, e⟩ := found
    cases e
    simp only [words, List.mem_cons, Prod.mk.injEq, List.not_mem_nil, or_false, reduceCtorEq, and_false,
      false_or, Json.float.injEq] at mem
    rcases mem with ⟨-, rfl⟩ | ⟨-, rfl⟩ | ⟨-, rfl⟩ <;> cases finite

/-! ## Strings -/

theorem hexValue?_hexDigit : ∀ d < 16, hexValue? (hexDigit d) = some d := by decide

theorem hexQuad?_hexQuad {n : Nat} (small : n < 0x10000) (rest : List Char) :
    hexQuad? (hexQuad n ++ rest) = some (n, rest) := by
  have value : (((n / 4096 % 16) * 16 + n / 256 % 16) * 16 + n / 16 % 16) * 16 + n % 16 = n := by omega
  simp only [hexQuad, List.cons_append, List.nil_append, hexQuad?,
    hexValue?_hexDigit _ (Nat.mod_lt _ (by omega : 0 < 16)), Option.bind_eq_bind, Option.bind_some, value]

/-- What is written for a character is read as that character. -/
theorem readString_escapeChar (fuel : Nat) (out : List Char) (c : Char) (rest : List Char) :
    readString (fuel + 1) out (escapeChar c ++ rest) = readString fuel (c :: out) rest := by
  unfold escapeChar
  split
  · next e => subst e; rfl
  split
  · next e => subst e; rfl
  split
  · next e => subst e; rfl
  split
  · next e => subst e; rfl
  split
  · next e => subst e; rfl
  split
  · next e => subst e; rfl
  split
  · next e => subst e; rfl
  split
  · next control =>
    have unit : unitChar c.toNat = c := by
      rw [unitChar, if_neg (by omega), Char.ofNat_toNat]
    simp only [List.cons_append, readString, hexQuad?_hexQuad (show c.toNat < 0x10000 by omega)]
    simp only [Char.reduceEq, if_false, if_true]
    rw [if_neg (by omega), unit]
  · next quote backslash _ _ _ _ _ control =>
    simp only [List.cons_append, List.nil_append, readString]
    rw [if_neg quote, if_neg backslash, if_neg control]

/-- A string is read up to its closing quote. -/
theorem readString_escaped {fuel : Nat} (out s rest : List Char) (enough : s.length < fuel) :
    readString fuel out (s.flatMap escapeChar ++ '"' :: rest) =
      .ok (String.ofList (out.reverse ++ s), rest) := by
  induction s generalizing fuel out with
  | nil =>
    cases fuel with
    | zero => omega
    | succ fuel => simp [readString]
  | cons c s ih =>
    cases fuel with
    | zero => omega
    | succ fuel =>
      simp only [List.length_cons] at enough
      rw [List.flatMap_cons, List.append_assoc, readString_escapeChar, ih _ (by omega)]
      simp

theorem length_le_escaped (s : List Char) : s.length ≤ (s.flatMap escapeChar).length := by
  induction s with
  | nil => rfl
  | cons c s ih =>
    have some' : 0 < (escapeChar c).length := by
      unfold escapeChar
      repeat' split
      all_goals simp
    simp only [List.length_cons, List.flatMap_cons, List.length_append]
    omega

theorem quoted_append (s : String) (rest : List Char) :
    quoted s ++ rest = '"' :: (s.toList.flatMap escapeChar ++ '"' :: rest) := by
  simp [quoted]

/-- A string is read back from between its quotes. -/
theorem readString_quoted (s : String) (rest : List Char) :
    readString ((s.toList.flatMap escapeChar ++ '"' :: rest).length + 1) []
      (s.toList.flatMap escapeChar ++ '"' :: rest) = .ok (s, rest) := by
  have enough := length_le_escaped s.toList
  rw [readString_escaped _ _ _ (by simp only [List.length_append]; omega)]
  simp

/-! ## Values -/

mutual

/-- A value that is read back from its text. -/
def Writable : Json → Prop
  | .int n => (decimalDigits n.natAbs).length ≤ maxDigits
  | .float x => x.ReadsBack
  | .arr items => WritableItems items
  | .obj members => (members.map Prod.fst).Nodup ∧ WritableMembers members
  | _ => True

def WritableItems : List Json → Prop
  | [] => True
  | v :: rest => Writable v ∧ WritableItems rest

def WritableMembers : List (String × Json) → Prop
  | [] => True
  | (_, v) :: rest => Writable v ∧ WritableMembers rest

end

/-- What the text of a value starts with. -/
def StartsValue (cs : List Char) : Prop :=
  ∃ c rest, cs = c :: rest ∧ isBlank c = false ∧ c ≠ ']' ∧ c ≠ '}' ∧ c ≠ '\uFEFF'

theorem StartsValue.append (h : StartsValue cs) (more : List Char) : StartsValue (cs ++ more) := by
  obtain ⟨c, rest, rfl, fits⟩ := h
  exact ⟨c, rest ++ more, rfl, fits⟩

theorem StartsValue.skipBlank (h : StartsValue cs) : skipBlank cs = cs := by
  obtain ⟨c, rest, rfl, solid, -⟩ := h
  simp [Json.skipBlank, solid]

theorem StartsNumber.startsValue (h : StartsNumber cs) : StartsValue cs := by
  rcases h with ⟨c, rest, rfl, digit⟩ | ⟨c, rest, rfl, digit⟩
  · have other (d : Char) (letter : d.isDigit = false) : c ≠ d := by
      rintro rfl
      rw [digit] at letter
      cases letter
    refine ⟨c, rest, rfl, ?_, other _ rfl, other _ rfl, other _ rfl⟩
    simp [isBlank, other ' ' rfl, other '\t' rfl, other '\n' rfl, other '\r' rfl]
  · exact ⟨'-', _, rfl, rfl, by decide, by decide, by decide⟩

theorem startsValue_print {v : Json} (h : Writable v) : StartsValue (print v) := by
  cases v with
  | null => exact ⟨'n', _, rfl, rfl, by decide, by decide, by decide⟩
  | bool b => cases b <;> exact ⟨_, _, rfl, rfl, by decide, by decide, by decide⟩
  | int n => exact (startsNumber_intText n).startsValue
  | float x => exact (readAtom_floatText Fresh.nil h).1.startsValue
  | str s => exact ⟨'"', _, rfl, rfl, by decide, by decide, by decide⟩
  | arr items => exact ⟨'[', _, rfl, rfl, by decide, by decide, by decide⟩
  | obj members => exact ⟨'{', _, rfl, rfl, by decide, by decide, by decide⟩

theorem startsValue_printItems {v : Json} (items : List Json) (h : Writable v) :
    StartsValue (printItems (v :: items)) := by
  cases items with
  | nil => exact startsValue_print h
  | cons w items => exact (startsValue_print h).append _

theorem startsValue_printMembers (k : String) (v : Json) (members : List (String × Json)) :
    ∃ cs, printMembers ((k, v) :: members) = '"' :: cs := by
  cases members with
  | nil => exact ⟨_, rfl⟩
  | cons p members => exact ⟨_, rfl⟩

theorem StartsNumber.ne (h : StartsNumber cs) {d : Char} (letter : d.isDigit = false) (sign : d ≠ '-')
    (r : List Char) : cs ≠ d :: r := by
  rintro rfl
  rcases h with ⟨c, rest, e, digit⟩ | ⟨c, rest, e, -⟩ <;> cases e
  · rw [digit] at letter
    cases letter
  · exact sign rfl

/-- Numbers are read as numbers. -/
theorem readValue_number {fuel : Nat} {v : Json} (starts : StartsNumber cs)
    (read : readAtom (cs ++ rest) = .ok (v, rest)) : readValue (fuel + 1) (cs ++ rest) = .ok (v, rest) := by
  have starts' : StartsNumber (cs ++ rest) := by
    rcases starts with ⟨c, cs, rfl, digit⟩ | ⟨c, cs, rfl, digit⟩
    · exact .inl ⟨c, cs ++ rest, rfl, digit⟩
    · exact .inr ⟨c, cs ++ rest, rfl, digit⟩
  rw [readValue, read]
  · exact fun r e => starts'.ne rfl (by decide) r e
  · exact fun r e => starts'.ne rfl (by decide) r e
  · exact fun r e => starts'.ne rfl (by decide) r e

/-- One member is read, and then what follows it decides. -/
theorem readMembers_member {v : Json} {fuel : Nat} {more : List Char} (k : String)
    (out : List (String × Json)) (starts : StartsValue (print v ++ more))
    (read : readValue fuel (print v ++ more) = .ok (v, more)) :
    readMembers (fuel + 1) out (quoted k ++ ':' :: ' ' :: print v ++ more) =
      match skipBlank more with
      | ',' :: rest => readMembers fuel ((k, v) :: out) (skipBlank rest)
      | '}' :: rest => .ok (.obj (Members.ofPairs ((k, v) :: out).reverse), rest)
      | _ => .error .malformed := by
  have shape : quoted k ++ ':' :: ' ' :: print v ++ more = '"' :: (k.toList.flatMap escapeChar ++
      '"' :: ':' :: ' ' :: (print v ++ more)) := by simp [quoted]
  have colon (cs : List Char) : skipBlank (':' :: cs) = ':' :: cs := rfl
  have blank : skipBlank (' ' :: (print v ++ more)) = print v ++ more := starts.skipBlank
  rw [shape, readMembers, readString_quoted]
  simp only [colon, blank, read]
  all_goals rfl

mutual

/-- The text of a value in front of a fresh text is read as that value. -/
theorem readValue_print : ∀ (v : Json) (fuel : Nat) (rest : List Char), Writable v → Fresh rest →
    2 * (print v).length ≤ fuel → readValue fuel (print v ++ rest) = .ok (v, rest)
  | v, 0, rest, writable, _, enough => by
    obtain ⟨c, cs, e, -⟩ := startsValue_print writable
    rw [e] at enough
    simp at enough
  | .null, fuel + 1, rest, _, _, _ => by simp [readValue, readAtom, readWord, words, after?, print]
  | .bool b, fuel + 1, rest, _, _, _ => by
    cases b <;> simp [readValue, readAtom, readWord, words, after?, print]
  | .int n, fuel + 1, rest, short, fresh, _ =>
    readValue_number (startsNumber_intText n) (readAtom_intText fresh short)
  | .float x, fuel + 1, rest, readsBack, fresh, _ =>
    let read := readAtom_floatText fresh readsBack
    readValue_number read.1 read.2
  | .str s, fuel + 1, rest, _, _, _ => by
    rw [print, quoted_append, readValue, readString_quoted]
  | .arr [], fuel + 1, rest, _, _, _ => by rfl
  | .arr (v :: items), fuel + 1, rest, writable, fresh, enough => by
    simp only [print, List.length_append, List.length_cons, List.length_nil] at enough
    have read := readItems_print v items [] fuel rest writable.1 writable.2 (by omega)
    have starts := (startsValue_printItems items writable.1).append (']' :: rest)
    have shape : print (.arr (v :: items)) ++ rest = '[' :: (printItems (v :: items) ++ ']' :: rest) := by
      simp [print]
    rw [shape, readValue, starts.skipBlank]
    obtain ⟨c, cs, e, -, noEnd, -⟩ := starts
    rw [e] at read ⊢
    split
    · next e' => cases e'; exact absurd rfl noEnd
    · exact read
  | .obj [], fuel + 1, rest, _, _, _ => by rfl
  | .obj ((k, v) :: members), fuel + 1, rest, writable, fresh, enough => by
    simp only [print, List.length_append, List.length_cons, List.length_nil] at enough
    have read := readMembers_print k v members [] fuel rest writable.2.1 writable.2.2 (by omega)
    have shape : print (.obj ((k, v) :: members)) ++ rest =
        '{' :: (printMembers ((k, v) :: members) ++ '}' :: rest) := by simp [print]
    rw [shape, readValue]
    obtain ⟨cs, e⟩ := startsValue_printMembers k v members
    rw [e] at read ⊢
    rw [List.reverse_nil, List.nil_append, Members.ofPairs_self writable.1] at read
    exact read

theorem readItems_print : ∀ (v : Json) (items out : List Json) (fuel : Nat) (rest : List Char),
    Writable v → WritableItems items → 2 * (printItems (v :: items)).length < fuel →
    readItems fuel out (printItems (v :: items) ++ ']' :: rest) =
      .ok (.arr (out.reverse ++ v :: items), rest)
  | v, items, out, 0, rest, _, _, enough => by omega
  | v, [], out, fuel + 1, rest, writable, _, enough => by
    simp only [printItems] at enough ⊢
    have fresh : Fresh (']' :: rest) := by simp [Fresh]
    rw [readItems, readValue_print v fuel _ writable fresh (by omega)]
    simp [skipBlank, isBlank]
  | v, w :: items, out, fuel + 1, rest, writable, others, enough => by
    simp only [printItems, List.length_append, List.length_cons] at enough
    have fresh : Fresh (',' :: ' ' :: (printItems (w :: items) ++ ']' :: rest)) := by simp [Fresh]
    have shape : printItems (v :: w :: items) ++ ']' :: rest =
        print v ++ ',' :: ' ' :: (printItems (w :: items) ++ ']' :: rest) := by simp [printItems]
    have starts := (startsValue_printItems items others.1).append (']' :: rest)
    rw [shape, readItems, readValue_print v fuel _ writable fresh (by omega)]
    have read := readItems_print w items (v :: out) fuel rest others.1 others.2 (by omega)
    have blank : skipBlank (' ' :: (printItems (w :: items) ++ ']' :: rest)) =
        printItems (w :: items) ++ ']' :: rest := starts.skipBlank
    show readItems fuel (v :: out) (skipBlank (' ' :: _)) = _
    rw [blank, read]
    simp

theorem readMembers_print : ∀ (k : String) (v : Json) (members out : List (String × Json)) (fuel : Nat)
    (rest : List Char), Writable v → WritableMembers members →
    2 * (printMembers ((k, v) :: members)).length < fuel →
    readMembers fuel out (printMembers ((k, v) :: members) ++ '}' :: rest) =
      .ok (.obj (Members.ofPairs (out.reverse ++ (k, v) :: members)), rest)
  | k, v, members, out, 0, rest, _, _, enough => by omega
  | k, v, [], out, fuel + 1, rest, writable, _, enough => by
    simp only [printMembers, List.length_append, List.length_cons] at enough ⊢
    have fresh : Fresh ('}' :: rest) := by simp [Fresh]
    rw [readMembers_member k out ((startsValue_print writable).append _)
      (readValue_print v fuel _ writable fresh (by omega))]
    simp [skipBlank, isBlank]
  | k, v, (l, w) :: members, out, fuel + 1, rest, writable, others, enough => by
    simp only [printMembers, List.length_append, List.length_cons] at enough
    have fresh : Fresh (',' :: ' ' :: (printMembers ((l, w) :: members) ++ '}' :: rest)) := by
      simp [Fresh]
    have shape : printMembers ((k, v) :: (l, w) :: members) ++ '}' :: rest = quoted k ++ ':' :: ' ' ::
        print v ++ ',' :: ' ' :: (printMembers ((l, w) :: members) ++ '}' :: rest) := by
      simp [printMembers]
    have read := readMembers_print l w members ((k, v) :: out) fuel rest others.1 others.2 (by omega)
    obtain ⟨cs, e⟩ := startsValue_printMembers l w members
    have comma (cs : List Char) : skipBlank (',' :: cs) = ',' :: cs := rfl
    have blank : skipBlank (' ' :: (printMembers ((l, w) :: members) ++ '}' :: rest)) =
        printMembers ((l, w) :: members) ++ '}' :: rest := by rw [e]; rfl
    rw [shape, readMembers_member k out ((startsValue_print writable).append _)
      (readValue_print v fuel _ writable fresh (by omega))]
    simp only [comma, blank, read]
    simp

end

/-- The text of a value is read back as that value. -/
theorem parse_print {v : Json} (h : Writable v) : parse (print v) = .ok v := by
  obtain ⟨c, cs, e, solid, -, -, mark⟩ := startsValue_print h
  have read := readValue_print v (2 * (print v).length + 2) [] h Fresh.nil (by omega)
  rw [List.append_nil] at read
  have blank : skipBlank (print v) = print v := (startsValue_print h).skipBlank
  unfold parse
  split
  · next rest e' => rw [e] at e'; cases e'; exact absurd rfl mark
  · rw [blank, read]
    rfl

end Json

end LspHost
