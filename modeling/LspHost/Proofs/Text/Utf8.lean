import LspHost.Text.Utf8

/-!
# Octets that were written can be read

`decode?_encode`: every text is read back from its octets. A first octet announces how many octets
follow and keeps overlong forms, surrogates and values past the last character out by the bounds on
the second one, so there is one case for each range of first octets.
-/

namespace LspHost.Text.Utf8

theorem toNat_toUInt8 {n : Nat} (h : n < 256) : n.toUInt8.toNat = n := by
  simp only [Nat.toUInt8, UInt8.toNat_ofNat', Nat.reducePow]
  exact Nat.mod_eq_of_lt h

/-- An octet within its bounds that is not the last of its character. -/
theorem step_more {owed low high value n : Nat} (out : List (Option Char)) (small : n < 256)
    (bounds : low ≤ n ∧ n ≤ high) :
    step (.inside (owed + 1) low high value) n.toUInt8 out =
      (.inside owed 0x80 0xBF (value * 0x40 + n % 0x40), out) := by
  simp only [step, toNat_toUInt8 small, if_pos bounds]

/-- The last octet of a character. -/
theorem step_last {low high value n : Nat} (out : List (Option Char)) (small : n < 256)
    (bounds : low ≤ n ∧ n ≤ high) :
    step (.inside 0 low high value) n.toUInt8 out =
      (.between, some (Char.ofNat (value * 0x40 + n % 0x40)) :: out) := by
  simp only [step, toNat_toUInt8 small, if_pos bounds]

/-! ## First octets -/

theorem lead_one {n : Nat} (h : n < 0x80) : lead n.toUInt8 = .whole (Char.ofNat n) := by
  simp only [lead, toNat_toUInt8 (show n < 256 by omega), if_pos h]

theorem lead_two {n : Nat} (low : 0xC2 ≤ n) (high : n < 0xE0) :
    lead n.toUInt8 = .opens (.inside 0 0x80 0xBF (n - 0xC0)) := by
  simp only [lead, toNat_toUInt8 (show n < 256 by omega)]
  rw [if_neg (by omega), if_neg (by omega), if_pos high]

/-- The bounds on the second of three octets. -/
theorem lead_three {n : Nat} (low : 0xE0 ≤ n) (high : n < 0xF0) :
    lead n.toUInt8 = .opens (.inside 1 (if n = 0xE0 then 0xA0 else 0x80)
      (if n = 0xED then 0x9F else 0xBF) (n - 0xE0)) := by
  simp only [lead, toNat_toUInt8 (show n < 256 by omega)]
  rw [if_neg (by omega), if_neg (by omega), if_neg (by omega)]
  by_cases first : n = 0xE0
  · subst first; rfl
  · by_cases surrogates : n = 0xED
    · subst surrogates; rfl
    · rw [if_neg first, if_neg surrogates, if_pos high, if_neg first, if_neg surrogates]

/-- The bounds on the second of four octets. -/
theorem lead_four {n : Nat} (low : 0xF0 ≤ n) (high : n ≤ 0xF4) :
    lead n.toUInt8 = .opens (.inside 2 (if n = 0xF0 then 0x90 else 0x80)
      (if n = 0xF4 then 0x8F else 0xBF) (n - 0xF0)) := by
  have cases : n = 0xF0 ∨ n = 0xF1 ∨ n = 0xF2 ∨ n = 0xF3 ∨ n = 0xF4 := by omega
  rcases cases with rfl | rfl | rfl | rfl | rfl <;> rfl

theorem start_opens {n : Nat} {p : Place} (out : List (Option Char)) (h : lead n.toUInt8 = .opens p) :
    step .between n.toUInt8 out = (p, out) := by
  simp only [step, start, h]

/-! ## Characters -/

/-- The octets of a character are read as that character. -/
theorem scanFrom_encodeChar (c : Char) (out : List (Option Char)) (bs : List UInt8) :
    scanFrom .between out (encodeChar c ++ bs) = scanFrom .between (some c :: out) bs := by
  have valid : c.toNat < 0xD800 ∨ 0xDFFF < c.toNat ∧ c.toNat < 0x110000 := c.valid
  have self : Char.ofNat c.toNat = c := Char.ofNat_toNat c
  unfold encodeChar
  generalize c.toNat = n at valid self
  subst self
  dsimp only
  split
  · next one =>
    have whole : step .between n.toUInt8 out = (.between, some (Char.ofNat n) :: out) := by
      simp only [step, start, lead_one one]
    simp only [List.cons_append, List.nil_append, scanFrom, whole]
  · split
    · next many two =>
      have value : (0xC0 + n / 0x40 - 0xC0) * 0x40 + (0x80 + n % 0x40) % 0x40 = n := by omega
      simp only [List.cons_append, List.nil_append, scanFrom,
        start_opens out (lead_two (n := 0xC0 + n / 0x40) (by omega) (by omega))]
      rw [step_last, value] <;> omega
    · split
      · next many two three =>
        have value : ((0xE0 + n / 0x1000 - 0xE0) * 0x40 + (0x80 + n / 0x40 % 0x40) % 0x40) * 0x40 +
            (0x80 + n % 0x40) % 0x40 = n := by omega
        simp only [List.cons_append, List.nil_append, scanFrom,
          start_opens out (lead_three (n := 0xE0 + n / 0x1000) (by omega) (by omega))]
        have second : (if 0xE0 + n / 0x1000 = 0xE0 then 0xA0 else 0x80) ≤ 0x80 + n / 0x40 % 0x40 ∧
            0x80 + n / 0x40 % 0x40 ≤ if 0xE0 + n / 0x1000 = 0xED then 0x9F else 0xBF :=
          ⟨by split <;> omega, by split <;> omega⟩
        rw [step_more _ (by omega) second]
        dsimp only
        rw [step_last, value] <;> omega
      · next many two three =>
        have value : (((0xF0 + n / 0x40000 - 0xF0) * 0x40 + (0x80 + n / 0x1000 % 0x40) % 0x40) * 0x40 +
            (0x80 + n / 0x40 % 0x40) % 0x40) * 0x40 + (0x80 + n % 0x40) % 0x40 = n := by omega
        simp only [List.cons_append, List.nil_append, scanFrom,
          start_opens out (lead_four (n := 0xF0 + n / 0x40000) (by omega) (by omega))]
        have second : (if 0xF0 + n / 0x40000 = 0xF0 then 0x90 else 0x80) ≤ 0x80 + n / 0x1000 % 0x40 ∧
            0x80 + n / 0x1000 % 0x40 ≤ if 0xF0 + n / 0x40000 = 0xF4 then 0x8F else 0xBF :=
          ⟨by split <;> omega, by split <;> omega⟩
        rw [step_more _ (by omega) second]
        dsimp only
        rw [step_more _ (by omega) (by omega)]
        dsimp only
        rw [step_last, value] <;> omega

theorem scanFrom_encode (s : List Char) (out : List (Option Char)) :
    scanFrom .between out (encode s) = (s.reverse.map some) ++ out := by
  induction s generalizing out with
  | nil => rfl
  | cons c s ih =>
    rw [encode, List.flatMap_cons, scanFrom_encodeChar, ← encode, ih]
    simp

theorem scan_encode (s : List Char) : scan (encode s) = s.map some := by
  rw [scan, scanFrom_encode, List.append_nil, ← List.map_reverse, List.reverse_reverse]

/-- Every text is read back from its octets. -/
theorem decode?_encode (s : List Char) : decode? (encode s) = some s := by
  simp [decode?, scan_encode]

theorem decodeLossy_encode (s : List Char) : decodeLossy (encode s) = s := by
  simp [decodeLossy, scan_encode, Function.comp_def]

end LspHost.Text.Utf8
