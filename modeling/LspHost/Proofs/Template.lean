import Mathlib.Data.List.TakeWhile
import LspHost.Template.Fill

/-!
# Templates made of texts and named fields

Most templates are texts with a few named values between them. `Piece.written` writes such a template down, every brace
of a text twice, and filling it shows what the pieces show, one after the other (`fill_written`). The first piece that
shows nothing decides the fault; where fields are no more than names, that is the first name without a value
(`fill_bare`).
-/

namespace LspHost.Template

/-! ## Pieces -/

/-- A text as a template writes it: every brace twice. -/
def doubled (s : List Char) : List Char := s.flatMap fun c => if c = '{' ∨ c = '}' then [c, c] else [c]

/-- A field behind its opening brace. -/
def Field.body (f : Field) : List Char :=
  f.name ++ (match f.conversion with | some c => ['!', c] | none => []) ++
    (if f.spec.isEmpty then [] else ':' :: f.spec) ++ ['}']

/-- A field asks for a value by its name alone, not for a part of it or by number, and takes no field into its
specification. -/
structure Field.Plain (f : Field) : Prop where
  name : ∀ c ∈ f.name, c ∉ ['{', '}', ':', '!', '.', '[']
  noNumber : ∃ c ∈ f.name, Text.digitValue? c = none
  spec : ∀ c ∈ f.spec, c ≠ '{' ∧ c ≠ '}'

/-- A piece of a template. -/
inductive Piece where
  | text (s : List Char)
  | field (f : Field)
  deriving DecidableEq, Repr

/-- The fault of a name without a value. -/
def unnamed : Fault := .plain .unknownKey "no such value"

/-- What a field shows: the value of its name, converted and laid out. -/
def Field.shown (values : Members) (f : Field) : Except Fault (List Char) :=
  match Members.get? values (String.ofList f.name) with
  | none => .error unnamed
  | some v => do render (← convert (.value v) f.conversion) f.spec

namespace Piece

/-- A piece as it stands in a template. -/
def written : Piece → List Char
  | .text s => doubled s
  | .field f => '{' :: f.body

def shown (values : Members) : Piece → Except Fault (List Char)
  | .text s => .ok s
  | .field f => f.shown values

def Plain : Piece → Prop
  | .text _ => True
  | .field f => f.Plain

/-- A field that is no more than a name. -/
def Bare : Piece → Prop
  | .text _ => True
  | .field f => f.conversion = none ∧ f.spec = []

/-- Whether nothing is missing: a field has a value. -/
def isGiven (values : Members) : Piece → Bool
  | .text _ => true
  | .field f => (Members.get? values (String.ofList f.name)).isSome

/-- What people see of a piece: a text, or the value of its name as it is. -/
def face (values : Members) : Piece → List Char
  | .text s => s
  | .field f => ((Members.get? values (String.ofList f.name)).map Json.display).getD []

end Piece

/-- No number among the values is too long for a text. -/
def Writable (values : Members) : Prop := ∀ p ∈ values, (Datum.ofJson p.2).isWritable = true

variable {values : Members} {f : Field}

/-! ## Reading a field -/

theorem fieldName_append {name rest : List Char} {last : Char}
    (ends : last = '}' ∨ last = ':' ∨ last = '!') (plain : ∀ c ∈ name, c ∉ ['{', '}', ':', '!', '.', '['])
    (out : List Char) :
    fieldName false out (name ++ last :: rest) = .ok (out.reverse ++ name, last, rest) := by
  induction name generalizing out with
  | nil =>
    have noBrace : last ≠ '{' := by rcases ends with rfl | rfl | rfl <;> decide
    simp [fieldName, noBrace, ends]
  | cons c name ih =>
    have other := plain c List.mem_cons_self
    simp only [List.mem_cons, List.not_mem_nil, or_false, not_or] at other
    obtain ⟨opening, closing, colon, bang, -, bracket⟩ := other
    rw [List.cons_append, fieldName]
    simp only [opening, closing, colon, bang, or_self, if_false, bracket, decide_false]
    rw [ih fun c mem => plain c (List.mem_cons_of_mem _ mem)]
    simp

theorem fieldSpec_append {spec : List Char} (plain : ∀ c ∈ spec, c ≠ '{' ∧ c ≠ '}') (out rest : List Char) :
    fieldSpec 0 out (spec ++ '}' :: rest) = .ok (out.reverse ++ spec, rest) := by
  induction spec generalizing out with
  | nil => simp [fieldSpec]
  | cons c spec ih =>
    obtain ⟨opening, closing⟩ := plain c List.mem_cons_self
    rw [List.cons_append, fieldSpec]
    simp only [opening, closing, if_false]
    rw [ih fun c mem => plain c (List.mem_cons_of_mem _ mem)]
    simp

/-- A plain field is read back. -/
theorem readField_body (plain : f.Plain) (rest : List Char) : readField (f.body ++ rest) = .ok (f, rest) := by
  obtain ⟨name, conversion, spec⟩ := f
  have names (last : Char) (ends : last = '}' ∨ last = ':' ∨ last = '!') (rest : List Char) :
      fieldName false [] (name ++ last :: rest) = .ok (name, last, rest) :=
    fieldName_append ends plain.name []
  have specs (rest : List Char) : fieldSpec 0 [] (spec ++ '}' :: rest) = .ok (spec, rest) :=
    fieldSpec_append plain.spec [] rest
  -- The four ways in which a field is written, by what stands behind its name.
  rcases conversion with _ | c <;> rcases spec with _ | ⟨d, spec⟩
  · have body : (Field.mk name none []).body ++ rest = name ++ '}' :: rest := by simp [Field.body]
    rw [body, readField, names _ (.inl rfl)]
    rfl
  · have body : (Field.mk name none (d :: spec)).body ++ rest = name ++ ':' :: (d :: spec ++ '}' :: rest) := by
      simp [Field.body]
    rw [body, readField, names _ (.inr (.inl rfl))]
    simp only [bind, Except.bind, Char.reduceEq, if_false, if_true, specs]
  · have body : (Field.mk name (some c) []).body ++ rest = name ++ '!' :: (c :: '}' :: rest) := by simp [Field.body]
    rw [body, readField, names _ (.inr (.inr rfl))]
    rfl
  · have body : (Field.mk name (some c) (d :: spec)).body ++ rest =
        name ++ '!' :: (c :: ':' :: (d :: spec ++ '}' :: rest)) := by
      simp [Field.body]
    rw [body, readField, names _ (.inr (.inr rfl))]
    simp only [bind, Except.bind, Char.reduceEq, if_false, specs]

/-! ## Filling -/

/-- A plain field stands for the value of its name. -/
theorem resolve_name (plain : f.Plain) :
    resolve values f.name =
      (Members.get? values (String.ofList f.name)).elim (.error unnamed) fun v => .ok (.value v) := by
  obtain ⟨digitless, mem, noDigit⟩ := plain.noNumber
  have whole : f.name.takeWhile (fun c => c ≠ '.' ∧ c ≠ '[') = f.name := by
    refine List.takeWhile_eq_self_iff.mpr fun c mem => ?_
    have other := plain.name c mem
    simp only [List.mem_cons, List.not_mem_nil, or_false, not_or] at other
    simpa using other.2.2.2.2
  have noIndex : index? f.name = .ok none := by
    rw [index?, if_pos]
    refine .inr (List.any_eq_true.mpr ⟨digitless, mem, ?_⟩)
    simp [noDigit]
  have some : f.name.isEmpty = false := List.isEmpty_eq_false_iff.mpr (List.ne_nil_of_mem mem)
  unfold resolve
  simp only [whole, noIndex, bind, Except.bind, some, Bool.false_eq_true, Option.isSome_none, or_self, if_false,
    List.drop_length]
  cases Members.get? values (String.ofList f.name) with
  | none => rfl
  | some v =>
    -- Nothing stands behind the name, so no part of the value is asked for.
    cases f.name.length <;> rfl

theorem fillFrom_field (values : Members) (expand : List Char → Except Fault (List Char)) (plain : f.Plain) (fuel : Nat)
    (out : List (List Char)) (rest : List Char) :
    fillFrom values expand (fuel + 1) out ('{' :: f.body ++ rest) =
      f.shown values >>= fun text => fillFrom values expand fuel (text :: out) rest := by
  have read := readField_body plain rest
  obtain ⟨c, tail, body, opening⟩ : ∃ c tail, f.body ++ rest = c :: tail ∧ c ≠ '{' := by
    obtain ⟨d, mem, -⟩ := plain.noNumber
    rcases name : f.name with _ | ⟨c, name'⟩
    · rw [name] at mem
      cases mem
    · refine ⟨c, _, by rw [Field.body, name]; rfl, ?_⟩
      rintro rfl
      exact plain.name '{' (name ▸ List.mem_cons_self) List.mem_cons_self
  have noFields : f.spec.contains '{' = false := by simpa using fun mem => (plain.spec _ mem).1 rfl
  rw [List.cons_append, body, fillFrom]
  · rw [← body, read]
    simp only [resolve_name plain, noFields, Bool.false_eq_true, if_false, Field.shown]
    cases Members.get? values (String.ofList f.name) with
    | none => rfl
    | some v =>
      simp only [Option.elim_some, bind, Except.bind]
      cases convert (.value v) f.conversion with
      | error fault => rfl
      | ok s =>
        dsimp only
        cases render s f.spec <;> rfl
  · simpa using opening
  · simp

/-- A text passes through, whatever its braces. -/
theorem fillFrom_doubled (values : Members) (expand : List Char → Except Fault (List Char)) (s rest : List Char)
    {fuel : Nat} (out : List (List Char)) (enough : (doubled s ++ rest).length ≤ fuel) : ∃ fuel' out',
      rest.length ≤ fuel' ∧ out'.reverse.flatten = out.reverse.flatten ++ s ∧
      fillFrom values expand fuel out (doubled s ++ rest) = fillFrom values expand fuel' out' rest := by
  induction s generalizing fuel out with
  | nil => exact ⟨fuel, out, enough, by simp, rfl⟩
  | cons c s ih =>
    have behind : doubled (c :: s) ++ rest = (if c = '{' ∨ c = '}' then [c, c] else [c]) ++ (doubled s ++ rest) := by
      simp [doubled]
    rw [behind] at enough ⊢
    obtain ⟨fuel, rfl⟩ : ∃ n, fuel = n + 1 := Nat.exists_eq_succ_of_ne_zero (by
      rintro rfl
      split at enough <;> simp at enough)
    have left : (doubled s ++ rest).length ≤ fuel := by
      split at enough <;> simp at enough ⊢ <;> omega
    have step : fillFrom values expand (fuel + 1) out
        ((if c = '{' ∨ c = '}' then [c, c] else [c]) ++ (doubled s ++ rest)) =
        fillFrom values expand fuel ([c] :: out) (doubled s ++ rest) := by
      split
      · next brace => rcases brace with rfl | rfl <;> rfl
      · next other =>
        obtain ⟨opening, closing⟩ := not_or.mp other
        rw [List.singleton_append, fillFrom] <;> simp [opening, closing]
    obtain ⟨fuel', out', enough', shown, same⟩ := ih ([c] :: out) left
    refine ⟨fuel', out', enough', ?_, step.trans same⟩
    rw [shown]
    simp

theorem fillFrom_written (expand : List Char → Except Fault (List Char)) (ps : List Piece)
    (plain : ∀ p ∈ ps, p.Plain) {fuel : Nat} (out : List (List Char))
    (enough : (ps.flatMap Piece.written).length ≤ fuel) :
    fillFrom values expand fuel out (ps.flatMap Piece.written) =
      (ps.mapM (Piece.shown values)).map fun texts => out.reverse.flatten ++ texts.flatten := by
  induction ps generalizing fuel out with
  | nil => cases fuel <;> simp [fillFrom, pure, Except.pure, Except.map]
  | cons p ps ih =>
    have plains : ∀ q ∈ ps, q.Plain := fun q mem => plain q (List.mem_cons_of_mem _ mem)
    rw [List.flatMap_cons] at enough ⊢
    rw [List.mapM_cons]
    cases p with
    | text s =>
      obtain ⟨fuel', out', enough', shown, same⟩ := fillFrom_doubled values expand s _ out enough
      simp only [Piece.written, Piece.shown, bind, Except.bind]
      rw [same, ih plains out' enough']
      cases ps.mapM (Piece.shown values) with
      | error f => rfl
      | ok texts => simp [Except.map, pure, Except.pure, shown]
    | field f =>
      obtain ⟨fuel, rfl⟩ : ∃ n, fuel = n + 1 := Nat.exists_eq_succ_of_ne_zero (by
        rintro rfl
        simp [Piece.written] at enough)
      have left : (ps.flatMap Piece.written).length ≤ fuel := by
        simp only [Piece.written, List.length_append, List.length_cons] at enough
        omega
      have step := fillFrom_field values expand (plain _ List.mem_cons_self) fuel out
        (ps.flatMap Piece.written)
      simp only [Piece.written, Piece.shown, bind, Except.bind] at step ⊢
      rw [step]
      cases f.shown values with
      | error fault => rfl
      | ok text =>
        simp only [ih plains (text :: out) left]
        cases ps.mapM (Piece.shown values) with
        | error fault => rfl
        | ok texts => simp [Except.map, pure, Except.pure]

/-- A template of plain pieces shows what they show, one after the other. -/
theorem fill_written {ps : List Piece} (plain : ∀ p ∈ ps, p.Plain) :
    fill values (ps.flatMap Piece.written) = (ps.mapM (Piece.shown values)).map List.flatten := by
  rw [fill, fillFrom_written _ ps plain [] (Nat.le_refl _)]
  rfl

/-! ## Fields that are names -/

theorem Writable.get? (writable : Writable values) {name : String} {v : Json}
    (found : Members.get? values name = some v) : (Datum.ofJson v).isWritable = true := by
  obtain ⟨before, behind, split, -⟩ := List.lookup_eq_some_iff.mp found
  exact writable (name, v) (split ▸ List.mem_append_right _ List.mem_cons_self)

theorem Piece.shown_given (writable : Writable values) {p : Piece} (bare : p.Bare) (given : p.isGiven values = true) :
    p.shown values = .ok (p.face values) := by
  cases p with
  | text s => rfl
  | field f =>
    obtain ⟨name, conversion, spec⟩ := f
    obtain ⟨rfl, rfl⟩ := bare
    obtain ⟨v, found⟩ := Option.isSome_iff_exists.mp given
    unfold Piece.shown Field.shown Piece.face
    simp only [found]
    have short : (Shown.value v).isWritable = true := writable.get? found
    show Shown.text Shown.display (.value v) = _
    rw [Shown.text, if_pos short]
    rfl

theorem Piece.shown_missing {p : Piece} (missing : p.isGiven values = false) : p.shown values = .error unnamed := by
  cases p with
  | text s => cases missing
  | field f =>
    have absent : Members.get? values (String.ofList f.name) = none :=
      Option.isNone_iff_eq_none.mp (Option.isSome_eq_false_iff.mp missing)
    unfold Piece.shown Field.shown
    simp only [absent]

theorem mapM_shown_bare (writable : Writable values) {ps : List Piece} (bare : ∀ p ∈ ps, p.Bare) :
    ps.mapM (Piece.shown values) =
      if ps.all (Piece.isGiven values) then .ok (ps.map (Piece.face values)) else .error unnamed := by
  induction ps with
  | nil => rfl
  | cons p ps ih =>
    rw [List.mapM_cons, List.all_cons, ih fun q mem => bare q (List.mem_cons_of_mem _ mem)]
    cases given : p.isGiven values with
    | false =>
      rw [Piece.shown_missing given]
      rfl
    | true =>
      rw [Piece.shown_given writable (bare p List.mem_cons_self) given]
      cases ps.all (Piece.isGiven values) <;> rfl

/-- A template with no more than names in its fields shows its texts and the values of the names. If a name has no
value, that is its fault. -/
theorem fill_bare (writable : Writable values) {ps : List Piece} (plain : ∀ p ∈ ps, p.Plain) (bare : ∀ p ∈ ps, p.Bare) :
    fill values (ps.flatMap Piece.written) =
      if ps.all (Piece.isGiven values) then .ok (ps.flatMap (Piece.face values)) else .error unnamed := by
  rw [fill_written plain, mapM_shown_bare writable bare]
  split
  · rw [List.flatMap_def]
    rfl
  · rfl

end LspHost.Template
