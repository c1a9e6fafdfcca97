import LspHost.Task.Program

/-!
# What all changes of a program have in common, and all its values

`Program.Only P p` says that every change that a program may make has the property `P`, whatever the
state is and whatever the tickets that it waits for are settled with. It is proved along the program, one
lemma for each way of putting programs together. `Program.Returns P p` says the same of the values that
a program may end with.
-/

namespace LspHost.Program

variable {σ ε α β : Type} {P Q : (σ → σ) → Prop}

/-- A program changes the state only in ways that have a property. -/
def Only (P : (σ → σ) → Prop) : Program σ ε α → Prop
  | .done _ => True
  | .fail _ => True
  | .look next => ∀ s, Only P (next s)
  | .change f next => P f ∧ Only P next
  | .wait _ next => ∀ r, Only P (next r)
  | .pause next => ∀ r, Only P (next r)

namespace Only

theorem mono {p : Program σ ε α} (h : Only P p) (imp : ∀ f, P f → Q f) : Only Q p := by
  induction p with
  | done _ => trivial
  | fail _ => trivial
  | look _ ih => exact fun s => ih s (h s)
  | change f _ ih => exact ⟨imp f h.1, ih h.2⟩
  | wait _ _ ih => exact fun r => ih r (h r)
  | pause _ ih => exact fun r => ih r (h r)

theorem done (a : α) : Only P (pure a : Program σ ε α) := trivial

theorem fail (e : ε) : Only P (.fail e : Program σ ε α) := trivial

theorem bind {p : Program σ ε α} {f : α → Program σ ε β} (first : Only P p) (next : ∀ a, Only P (f a)) :
    Only P (p >>= f) := by
  show Only P (Program.bind p f)
  induction p with
  | done a => exact next a
  | fail _ => trivial
  | look _ ih => exact fun s => ih s (first s)
  | change _ _ ih => exact ⟨first.1, ih first.2⟩
  | wait _ _ ih => exact fun r => ih r (first r)
  | pause _ ih => exact fun r => ih r (first r)

theorem attempt {p : Program σ ε α} (h : Only P p) : Only P (Program.attempt p) := by
  induction p with
  | done _ => trivial
  | fail _ => trivial
  | look _ ih => exact fun s => ih s (h s)
  | change _ _ ih => exact ⟨h.1, ih h.2⟩
  | wait _ _ ih => exact fun r => ih r (h r)
  | pause _ ih => exact fun r => ih r (h r)

theorem ofExcept (r : Except ε α) : Only P (.ofExcept r : Program σ ε α) := by
  cases r <;> trivial

theorem peek (f : σ → α) : Only P (.peek f : Program σ ε α) := fun _ => trivial

theorem look (f : σ → α) {next : α → Program σ ε β} (h : ∀ a, Only P (next a)) :
    Only P (.peek f >>= next) := bind (peek f) h

theorem update {f : σ → σ} (h : P f) : Only P (.update f : Program σ ε Unit) := ⟨h, trivial⟩

theorem yield {f : σ → α × σ} (h : P fun s => (f s).2) : Only P (.yield f : Program σ ε α) :=
  fun _ => ⟨h, trivial⟩

theorem await (ticket : Nat) : Only P (.await ticket : Program σ ε Json) := fun r => ofExcept r

theorem rest : Only P (.rest : Program σ ε Unit) := fun r => by cases r <;> trivial

theorem ensure {p : Program σ ε α} {last : Program σ ε Unit} (first : Only P p) (next : Only P last) :
    Only P (Program.ensure p last) :=
  bind first.attempt fun r => bind next fun _ => ofExcept r

end Only

/-- A program that ends with a value ends with one that has a property. -/
def Returns (P : α → Prop) : Program σ ε α → Prop
  | .done a => P a
  | .fail _ => True
  | .look next => ∀ s, Returns P (next s)
  | .change _ next => Returns P next
  | .wait _ next => ∀ r, Returns P (next r)
  | .pause next => ∀ r, Returns P (next r)

namespace Returns

variable {P : β → Prop}

theorem bind {p : Program σ ε α} {f : α → Program σ ε β} (next : ∀ a, Returns P (f a)) :
    Returns P (p >>= f) := by
  show Returns P (Program.bind p f)
  induction p with
  | done a => exact next a
  | fail _ => trivial
  | look _ ih => exact fun s => ih s
  | change _ _ ih => exact ih
  | wait _ _ ih => exact fun r => ih r
  | pause _ ih => exact fun r => ih r

/-- Two programs in turn, by what holds of the value between them. -/
theorem seq {Q : α → Prop} {p : Program σ ε α} {f : α → Program σ ε β} (first : Returns Q p)
    (next : ∀ a, Q a → Returns P (f a)) : Returns P (p >>= f) := by
  show Returns P (Program.bind p f)
  induction p with
  | done a => exact next a first
  | fail _ => trivial
  | look _ ih => exact fun s => ih s (first s)
  | change _ _ ih => exact ih first
  | wait _ _ ih => exact fun r => ih r (first r)
  | pause _ ih => exact fun r => ih r (first r)

theorem attempt {p : Program σ ε β} (h : Returns P p) :
    Returns (fun r => ∀ a, r = .ok a → P a) (Program.attempt p) := by
  induction p with
  | done a =>
    rintro _ ⟨⟩
    exact h
  | fail _ =>
    rintro _ ⟨⟩
  | look _ ih => exact fun s => ih s (h s)
  | change _ _ ih => exact ih h
  | wait _ _ ih => exact fun r => ih r (h r)
  | pause _ ih => exact fun r => ih r (h r)

theorem ensure {p : Program σ ε β} (h : Returns P p) (last : Program σ ε Unit) :
    Returns P (Program.ensure p last) :=
  seq (attempt h) fun r ended => bind fun _ =>
    match r with
    | .ok a => ended a rfl
    | .error _ => trivial

end Returns

/-- A program that returns what has a property does so when it goes on. -/
def Stop.Returns (P : α → Prop) : Stop σ ε α → Prop
  | .done a => P a
  | .failed _ => True
  | .waiting _ next => ∀ r, (next r).Returns P
  | .pausing next => ∀ r, (next r).Returns P

theorem Returns.advance {P : α → Prop} {p : Program σ ε α} (h : p.Returns P)
    (outcome? : σ → Nat → Option (Except ε Json)) (s : σ) : (p.advance outcome? s).2.Returns P := by
  induction p generalizing s with
  | done a => exact h
  | fail e => trivial
  | look k ih => exact ih s (h s) s
  | change g k ih => exact ih h (g s)
  | wait t k ih =>
    simp only [Program.advance]
    split
    · next r _ => exact ih r (h r) s
    · exact h
  | pause k _ => exact h

end LspHost.Program
