import LspHost.Proofs.Task.History

/-!
# Programs of tasks among other tasks

A turn of a task is a program over the shared world. Between two waits nobody else runs, and while a
task waits the others may change the world. A `Discipline` says how far: `Rely t` is what task `t`
counts on while others run, `Acts t` is how it may change the world, `Stops` is what it must leave behind
when it waits, and `Resumes` is what it finds when it goes on. The proof carries a ghost value next to the world, which every change of the
world may change as well.

`wp D t p Q γ s` says: from ghost `γ` and world `s`, task `t` runs `p` among tasks of the discipline `D`,
never changes what another task counts on, and ends with `Q`.

Results:
1. `wp_bind`, `wp_attempt`, `wp_ensure`: programs are verified piece by piece.
2. `wp_advance`: one segment of a program, up to its next wait, does nothing but what its task may do,
   and the rest of the program is verified for whatever the others do meanwhile.
-/

namespace LspHost

/-- How tasks may treat each other. The ghost values are of type `Γ`. -/
structure Discipline (Γ : Type) where
  /-- What a task counts on while the others run. -/
  Rely : Nat → Γ × World → Γ × World → Prop
  /-- How a task may change the world, and what becomes of the ghost value by that. -/
  Acts : Nat → (World → World) → Γ × World → Γ → Prop :=
    fun t f a γ' => ∀ u, u ≠ t → Rely u a (γ', f a.2)
  /-- What a task leaves behind to wait for a ticket, or to let the others go first. -/
  Stops : Nat → Option Nat → Γ → World → Prop
  /-- What a task finds when it goes on with an outcome. -/
  Resumes : Nat → Option Nat → Except Fault Json → Γ → World → Prop

namespace Discipline

variable {Γ : Type} (D : Discipline Γ) (t : Nat)

/-- A change of world and ghost by task `t` that no other task minds. -/
def Spares (a b : Γ × World) : Prop := ∀ u, u ≠ t → D.Rely u a b

/-- A waiting task may go on: whatever the others have done that it counts on, `P` holds of the outcome. -/
def Ready (on : Option Nat) (P : Except Fault Json → Γ → World → Prop) (γ : Γ) (s : World) : Prop :=
  ∀ γ' s' r, D.Rely t (γ, s) (γ', s') → D.Resumes t on r γ' s' → P r γ' s'

/-- Task `t` may run a program, and ends with `Q`. -/
def wp {α : Type} :
    Act α → (Except Fault α → Γ → World → Prop) → Γ → World → Prop
  | .done a, Q, γ, s => Q (.ok a) γ s
  | .fail f, Q, γ, s => Q (.error f) γ s
  | .look k, Q, γ, s => wp (k s) Q γ s
  | .change f k, Q, γ, s => ∃ γ', D.Acts t f (γ, s) γ' ∧ wp k Q γ' (f s)
  | .wait ticket k, Q, γ, s =>
    match s.loop.outcome? ticket with
    | some r => wp (k r) Q γ s
    | none =>
      D.Stops t (some ticket) γ s ∧ D.Ready t (some ticket) (fun r => wp (k r) Q) γ s
  | .pause k, Q, γ, s =>
    D.Stops t none γ s ∧ D.Ready t none (fun r => wp (k r) Q) γ s

end Discipline

namespace Wp

open Discipline

variable {Γ α β : Type} {D : Discipline Γ} {t : Nat} {γ : Γ} {s : World}

theorem mono {p : Act α} {P Q : Except Fault α → Γ → World → Prop}
    (h : D.wp t p P γ s) (imp : ∀ r γ' s', P r γ' s' → Q r γ' s') : D.wp t p Q γ s := by
  induction p generalizing γ s with
  | done a => exact imp _ _ _ h
  | fail f => exact imp _ _ _ h
  | look k ih => exact ih s h
  | change f k ih =>
    obtain ⟨γ', acts, rest⟩ := h
    exact ⟨γ', acts, ih rest⟩
  | wait ticket k ih =>
    simp only [wp] at h ⊢
    split at h
    · exact ih _ h
    · exact ⟨h.1, fun γ' s' r rely resumes => ih r (h.2 γ' s' r rely resumes)⟩
  | pause k ih =>
    exact ⟨h.1, fun γ' s' r rely resumes => ih r (h.2 γ' s' r rely resumes)⟩

/-- What every change and every wait keeps is kept from the beginning to the end. -/
theorem keeping {K : Γ × World → Γ × World → Prop} (refl : ∀ a, K a a)
    (trans : ∀ a b c, K a b → K b c → K a c) (acts : ∀ f a γ', D.Acts t f a γ' → K a (γ', f a.2))
    (rely : ∀ a b, D.Rely t a b → K a b) {p : Act α} {Q : Except Fault α → Γ → World → Prop}
    (h : D.wp t p Q γ s) : D.wp t p (fun r γ' s' => Q r γ' s' ∧ K (γ, s) (γ', s')) γ s := by
  have after {a : Γ × World} {q : Act α} {γ' : Γ} {s' : World} (first : K a (γ', s'))
      (rest : D.wp t q (fun r γ'' s'' => Q r γ'' s'' ∧ K (γ', s') (γ'', s'')) γ' s') :
      D.wp t q (fun r γ'' s'' => Q r γ'' s'' ∧ K a (γ'', s'')) γ' s' := by
    refine mono rest ?_
    rintro r γ'' s'' ⟨post, kept⟩
    exact ⟨post, trans _ _ _ first kept⟩
  induction p generalizing γ s with
  | done a => exact ⟨h, refl _⟩
  | fail f => exact ⟨h, refl _⟩
  | look k ih => exact ih s h
  | change f k ih =>
    obtain ⟨γ', acted, rest⟩ := h
    exact ⟨γ', acted, after (acts _ _ _ acted) (ih rest)⟩
  | wait ticket k ih =>
    simp only [wp] at h ⊢
    split at h
    · exact ih _ h
    · exact ⟨h.1, fun γ' s' r relied resumes =>
        after (rely _ _ relied) (ih r (h.2 γ' s' r relied resumes))⟩
  | pause k ih =>
    exact ⟨h.1, fun γ' s' r relied resumes =>
      after (rely _ _ relied) (ih r (h.2 γ' s' r relied resumes))⟩

/-- What follows a program: another one after its value, or the end with its fault. -/
def After (D : Discipline Γ) (t : Nat) (f : α → Act β) (Q : Except Fault β → Γ → World → Prop) :
    Except Fault α → Γ → World → Prop
  | .ok a => D.wp t (f a) Q
  | .error e => Q (.error e)

theorem after_ok {f : α → Act β} {Q : Except Fault β → Γ → World → Prop} {a : α} :
    After D t f Q (.ok a) γ s = D.wp t (f a) Q γ s := rfl

theorem bind {p : Act α} {f : α → Act β} {Q : Except Fault β → Γ → World → Prop}
    (h : D.wp t p (After D t f Q) γ s) : D.wp t (p >>= f) Q γ s := by
  show D.wp t (Program.bind p f) Q γ s
  induction p generalizing γ s with
  | done a => exact h
  | fail e => exact h
  | look k ih => exact ih s h
  | change g k ih =>
    obtain ⟨γ', acts, rest⟩ := h
    exact ⟨γ', acts, ih rest⟩
  | wait ticket k ih =>
    simp only [wp, Program.bind] at h ⊢
    split at h
    · exact ih _ h
    · exact ⟨h.1, fun γ' s' r rely resumes => ih r (h.2 γ' s' r rely resumes)⟩
  | pause k ih =>
    exact ⟨h.1, fun γ' s' r rely resumes => ih r (h.2 γ' s' r rely resumes)⟩

/-- Two programs in turn, by what holds between them. -/
theorem seq {p : Act α} {f : α → Act β} {P : Except Fault α → Γ → World → Prop}
    {Q : Except Fault β → Γ → World → Prop} (first : D.wp t p P γ s)
    (next : ∀ a γ' s', P (.ok a) γ' s' → D.wp t (f a) Q γ' s')
    (fails : ∀ e γ' s', P (.error e) γ' s' → Q (.error e) γ' s') : D.wp t (p >>= f) Q γ s :=
  bind <| mono first fun r γ' s' h =>
    match r with
    | .ok a => next a γ' s' h
    | .error e => fails e γ' s' h

theorem attempt {p : Act α} {Q : Except Fault (Except Fault α) → Γ → World → Prop}
    (h : D.wp t p (fun r => Q (.ok r)) γ s) : D.wp t (Program.attempt p) Q γ s := by
  induction p generalizing γ s with
  | done a => exact h
  | fail e => exact h
  | look k ih => exact ih s h
  | change g k ih =>
    obtain ⟨γ', acts, rest⟩ := h
    exact ⟨γ', acts, ih rest⟩
  | wait ticket k ih =>
    simp only [wp, Program.attempt] at h ⊢
    split at h
    · exact ih _ h
    · exact ⟨h.1, fun γ' s' r rely resumes => ih r (h.2 γ' s' r rely resumes)⟩
  | pause k ih =>
    exact ⟨h.1, fun γ' s' r rely resumes => ih r (h.2 γ' s' r rely resumes)⟩

/-- A program whose outcome is then looked at, whatever it is. -/
theorem attempt_seq {p : Act α} {f : Except Fault α → Act β}
    {P : Except Fault α → Γ → World → Prop} {Q : Except Fault β → Γ → World → Prop}
    (first : D.wp t p P γ s) (next : ∀ r γ' s', P r γ' s' → D.wp t (f r) Q γ' s') :
    D.wp t (Program.attempt p >>= f) Q γ s :=
  bind <| attempt <| mono first next

/-- A program and a last one that does not fail. -/
theorem ensure {p : Act α} {last : Act Unit} {P Q : Except Fault α → Γ → World → Prop}
    (first : D.wp t p P γ s)
    (next : ∀ r γ' s', P r γ' s' →
      D.wp t last (fun r' γ'' s'' =>
        match r' with
        | .ok () => Q r γ'' s''
        | .error e => Q (.error e) γ'' s'') γ' s') :
    D.wp t (Program.ensure p last) Q γ s := by
  refine attempt_seq first fun r γ' s' h => bind (mono (next r γ' s' h) ?_)
  intro r' γ'' s'' h'
  match r', r with
  | .ok (), .ok a => exact h'
  | .ok (), .error e => exact h'
  | .error e, _ => exact h'

theorem done {a : α} {Q : Except Fault α → Γ → World → Prop} (h : Q (.ok a) γ s) :
    D.wp t (pure a : Act α) Q γ s := h

theorem fail {f : Fault} {Q : Except Fault α → Γ → World → Prop} (h : Q (.error f) γ s) :
    D.wp t (Program.fail f : Act α) Q γ s := h

theorem ofExcept {r : Except Fault α} {Q : Except Fault α → Γ → World → Prop} (h : Q r γ s) :
    D.wp t (Program.ofExcept r : Act α) Q γ s := by
  cases r <;> exact h

theorem peek {f : World → α} {Q : Except Fault α → Γ → World → Prop} (h : Q (.ok (f s)) γ s) :
    D.wp t (Program.peek f : Act α) Q γ s := h

theorem look {f : World → α} {g : α → Act β} {Q : Except Fault β → Γ → World → Prop}
    (h : D.wp t (g (f s)) Q γ s) : D.wp t ((Program.peek f : Act α) >>= g) Q γ s :=
  bind h

theorem update {f : World → World} {Q : Except Fault Unit → Γ → World → Prop} (γ' : Γ)
    (acts : D.Acts t f (γ, s) γ') (h : Q (.ok ()) γ' (f s)) :
    D.wp t (Program.update f : Act Unit) Q γ s := ⟨γ', acts, h⟩

theorem change {f : World → World} {g : Unit → Act β} {Q : Except Fault β → Γ → World → Prop}
    (γ' : Γ) (acts : D.Acts t f (γ, s) γ') (h : D.wp t (g ()) Q γ' (f s)) :
    D.wp t ((Program.update f : Act Unit) >>= g) Q γ s :=
  bind (update γ' acts h)

theorem yield {f : World → α × World} {g : α → Act β} {Q : Except Fault β → Γ → World → Prop}
    (γ' : Γ) (acts : D.Acts t (fun s => (f s).2) (γ, s) γ') (h : D.wp t (g (f s).1) Q γ' (f s).2) :
    D.wp t ((Program.yield f : Act α) >>= g) Q γ s :=
  bind ⟨γ', acts, h⟩

/-- Waiting for a ticket: it is settled, or the task may stop and is ready for every outcome. -/
theorem await {ticket : Nat} {Q : Except Fault Json → Γ → World → Prop}
    (settled : ∀ r, s.loop.outcome? ticket = some r → Q r γ s)
    (stops : s.loop.outcome? ticket = none → D.Stops t (some ticket) γ s)
    (ready : s.loop.outcome? ticket = none → D.Ready t (some ticket) Q γ s) :
    D.wp t (Program.await ticket : Act Json) Q γ s := by
  simp only [Program.await, wp]
  split
  · next r h => exact ofExcept (settled r h)
  · next h =>
    exact ⟨stops h, fun γ' s' r rely resumes => ofExcept (ready h γ' s' r rely resumes)⟩

theorem rest {Q : Except Fault Unit → Γ → World → Prop} (stops : D.Stops t none γ s)
    (ready : D.Ready t none (fun r => Q (r.map fun _ => ())) γ s) :
    D.wp t (Program.rest : Act Unit) Q γ s := by
  refine ⟨stops, fun γ' s' r rely resumes => ?_⟩
  have h := ready γ' s' r rely resumes
  cases r <;> exact h

/-- What the rest of a program is verified for, at the place where it stops. -/
def AtStop (D : Discipline Γ) (t : Nat) (Q : Except Fault α → Γ → World → Prop)
    (γ : Γ) (s : World) : Program.Stop World Fault α → Prop
  | .done a => Q (.ok a) γ s
  | .failed f => Q (.error f) γ s
  | .waiting ticket k =>
    D.Stops t (some ticket) γ s ∧ D.Ready t (some ticket) (fun r => D.wp t (k r) Q) γ s
  | .pausing k => D.Stops t none γ s ∧ D.Ready t none (fun r => D.wp t (k r) Q) γ s

/-- A segment of a verified program does what its task may do, and leaves the rest verified. What follows
from the changes one by one holds of the whole segment. -/
theorem advance {K : List Deed → Γ × World → Γ × World → Prop} (still : ∀ a, K [] a a)
    (more : ∀ f a γ' ds b, D.Acts t f a γ' → K ds (γ', f a.2) b → K (⟨t, f, a.2⟩ :: ds) a b) {p : Act α}
    {Q : Except Fault α → Γ → World → Prop} (h : D.wp t p Q γ s) :
    ∃ γ', K (p.deeds t s) (γ, s) (γ', (p.advance (fun s t => s.loop.outcome? t) s).1) ∧
      AtStop D t Q γ' (p.advance (fun s t => s.loop.outcome? t) s).1
        (p.advance (fun s t => s.loop.outcome? t) s).2 := by
  induction p generalizing γ s with
  | done a => exact ⟨γ, still _, h⟩
  | fail f => exact ⟨γ, still _, h⟩
  | look k ih => exact ih s h
  | change f k ih =>
    obtain ⟨γ', acts, rest⟩ := h
    obtain ⟨γ'', kept, stop⟩ := ih rest
    exact ⟨γ'', more _ _ _ _ _ acts kept, stop⟩
  | wait ticket k ih =>
    simp only [wp, Program.advance, Program.deeds] at h ⊢
    split at h
    · next r hr => simpa only [hr] using ih r h
    · next hr =>
      simp only [hr]
      exact ⟨γ, still _, h⟩
  | pause k ih => exact ⟨γ, still _, h⟩

end Wp

end LspHost
