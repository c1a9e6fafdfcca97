import LspHost.Proofs.Account
import LspHost.Proofs.Changes

/-!
# What a task knows and keeps

A task knows something of an account that its own changes of a class keep and the others leave alone
(`Account.Care`). Then it knows it after every program that makes only such changes (`Care.wp`), and after whatever is done
with sessions (`Care.repertoire`). Of a task that is
only woken with a fault if it is cancelled (`Account.Upkeep`) more is known: the lock of a pipe is taken and given back by
such changes, and whoever waits for it and fails was cancelled (`Upkeep.acquire`).
-/

namespace LspHost

open Act Discipline Program

/-- A task knows `I`, whatever it changes by `R` and whatever the others do. -/
structure Account.Care {Γ : Type} (A : Account Γ) (R : World → World → Prop) (t : Nat) (I : Γ → World → Prop) : Prop where
  step : ∀ f γ s, R s (f s) → I γ s → ∃ γ', A.Acts t f (γ, s) γ' ∧ I γ' (f s)
  waits : ∀ γ s, I γ s → A.Holds γ s ∧ ∀ on, A.Waits t on γ s
  again : ∀ γ s γ' s', I γ s → A.Rely t (γ, s) (γ', s') → A.Holds γ' s' → A.Known s' → I γ' s'

/-- Such a task that only fails to wait if it is cancelled. -/
structure Account.Upkeep {Γ : Type} (A : Account Γ) (R : World → World → Prop) (t : Nat) (I : Γ → World → Prop) : Prop
    extends A.Care R t I where
  cancelled : ∀ γ s r, I γ s → (∀ κ, s.loop.kind? t = some κ → A.Woken κ r) → ∀ f, r = .error f → f = .cancelled

/-- A relation that holds across whatever is done with the lock of a pipe. -/
structure World.Piping (R : World → World → Prop) : Prop where
  refl : ∀ s, R s s
  onLoop : ∀ {s : World} {l : Loop}, s.loop.Grows l → R s { s with loop := l }
  setTransport : ∀ (s : World) (id : Nat) (f : Transport → Transport), R s (s.setTransport id f)

theorem Lenient.piping {R : World → World → Prop} (K : Lenient R) : World.Piping R := ⟨K.refl, K.onLoop, K.setTransport⟩

/-- A program after which a task still knows something. -/
def Account.Keeps {Γ α : Type} (A : Account Γ) (t : Nat) (I : Γ → World → Prop) (p : Act α) : Prop :=
  ∀ γ s, I γ s → A.discipline.wp t p (fun _ => I) γ s

namespace Account.Care

variable {Γ : Type} {A : Account Γ} {R : World → World → Prop} {t : Nat} {I : Γ → World → Prop}

/-- A program that only makes such changes. -/
theorem wp {α : Type} {p : Act α} {γ : Γ} {s : World} (U : A.Care R t I) (only : Across R p) (h : I γ s) :
    A.discipline.wp t p (fun _ => I) γ s :=
  Account.wp_only (fun f γ s changes h => U.step f γ s (changes s) h) U.waits U.again only h

/-- Whatever is done with sessions keeps it. -/
theorem repertoire (U : A.Care R t I) (K : Permissive R) : Repertoire Eq (fun _ p => A.Keeps t I p) fun f => ∀ s, R s (f s) :=
  { K.toLenient.repertoire with
    done := fun _ _ _ h => h
    fail := fun _ _ _ h => h
    bind := fun first next γ s h => Wp.seq (first γ s h) (fun a γ' s' h' => next a γ' s' h') fun _ _ _ h' => h'
    attempt := fun first γ s h => Wp.attempt (first γ s h)
    view := fun _ _ _ next γ s h => Wp.look (next _ γ s h)
    rest := fun _ _ h => U.wp .rest h
    await := fun ticket _ _ h => U.wp (.await ticket) h
    update := fun changes _ _ h => U.wp (.update changes) h
    yield := fun _ changes _ _ h => U.wp (.yield changes) h
    born := fun pid script s => K.born s pid script
    attempts := fun n s => K.attempts s n
    record := fun wire _ s => K.record s wire
    greet := fun greets s => K.record s greets.isWire
    getOn := fun id _ options transport diagnostics s => K.setSession s id options transport diagnostics }

end Account.Care

namespace Account.Upkeep

variable {Γ α : Type} {A : Account Γ} {R : World → World → Prop} {t : Nat} {I : Γ → World → Prop} {γ : Γ} {s : World}

/-- One such change. -/
theorem update {f : World → World} (U : A.Upkeep R t I) (changes : R s (f s)) (h : I γ s) :
    A.discipline.wp t (Program.update f) (fun r γ' s' => r = .ok () ∧ s' = f s ∧ I γ' s') γ s := by
  obtain ⟨γ', acts, kept⟩ := U.step f γ s changes h
  exact Wp.update γ' acts ⟨rfl, rfl, kept⟩

/-- Waiting for a ticket that nobody has settled fails only if the task is cancelled. -/
theorem await {k : Nat} (U : A.Upkeep R t I) (unsettled : s.loop.outcome? k = none) (h : I γ s) :
    A.discipline.wp t (Program.await k) (fun r γ' s' => I γ' s' ∧ ∀ f, r = .error f → f = .cancelled) γ s := by
  refine Wp.await (fun r settled => ?_) (fun _ => ⟨(U.waits γ s h).1, (U.waits γ s h).2 _⟩) fun _ γ' s' r rely resumes => ?_
  · cases unsettled.symm.trans settled
  · have kept := U.again _ _ _ _ h rely resumes.1 resumes.2.1
    exact ⟨kept, U.cancelled _ _ r kept resumes.2.2.1⟩

/-- Letting the others go first fails only if the task is cancelled. -/
theorem rest (U : A.Upkeep R t I) (h : I γ s) :
    A.discipline.wp t Program.rest (fun r γ' s' => I γ' s' ∧ ∀ f, r = .error f → f = .cancelled) γ s := by
  refine Wp.rest ⟨(U.waits γ s h).1, (U.waits γ s h).2 _⟩ fun γ' s' r rely resumes => ?_
  have kept := U.again _ _ _ _ h rely resumes.1 resumes.2.1
  refine ⟨kept, fun f e => U.cancelled _ _ r kept resumes.2.2.1 f ?_⟩
  cases r with
  | ok => cases e
  | error => exact congrArg Except.error (Except.error.inj e)

/-- A new ticket, which nobody has settled. -/
theorem issue {g : Nat → Act α} {Q : Except Fault α → Γ → World → Prop} (K : World.Piping R) (U : A.Upkeep R t I) (h : I γ s)
    (next : ∀ γ' s', I γ' s' → s'.loop.outcome? s.loop.tickets.length = none →
      A.discipline.wp t (g s.loop.tickets.length) Q γ' s') : A.discipline.wp t (Act.issue >>= g) Q γ s := by
  obtain ⟨γ', acts, kept⟩ := U.step (fun s => { s with loop := s.loop.issue.2 }) γ s (K.onLoop (Loop.grows_issue _)) h
  refine Wp.issue γ' acts (next γ' _ kept ?_)
  rw [Loop.outcome?_issue]
  rcases old : s.loop.outcome? s.loop.tickets.length with _ | r
  · rfl
  · exact absurd (Loop.outcome?_lt old) (Nat.lt_irrefl _)

/-! ## The lock of a pipe -/

variable {n : Nat}

/-- A change of the lock of a pipe. -/
theorem relock (K : World.Piping R) (U : A.Upkeep R t I) (g : Lock → Lock) (h : I γ s) :
    A.discipline.wp t (Act.setLock (Transport.writePlace n) g) (fun r γ' s' => r = .ok () ∧ I γ' s' ∧
      s' = (Transport.writePlace n).set (g ((Transport.writePlace n).get s)) s) γ s :=
  Wp.mono (U.update (K.setTransport s n _) h) fun _ _ _ h => ⟨h.1, h.2.2, h.2.1⟩

/-- Waking who waits for a lock is a change of the event loop. -/
theorem wakeFirst_eq (place : LockPlace) : ∃ f : World → World, Act.wakeFirst place = Program.update f ∧
    ∀ s, ∃ l, s.loop.Grows l ∧ f s = { s with loop := l } := by
  refine ⟨_, rfl, fun s => ?_⟩
  split
  · exact ⟨s.loop, .refl _, rfl⟩
  · exact ⟨_, Loop.grows_settle .., rfl⟩

/-- The next task that waits for the pipe is woken. -/
theorem wakeFirst (K : World.Piping R) (U : A.Upkeep R t I) (h : I γ s) :
    A.discipline.wp t (Act.wakeFirst (Transport.writePlace n))
      (fun r γ' s' => r = .ok () ∧ I γ' s' ∧ ∃ l, s' = { s with loop := l }) γ s := by
  obtain ⟨f, wakes, same⟩ := wakeFirst_eq (Transport.writePlace n)
  obtain ⟨l, grows, same⟩ := same s
  rw [wakes]
  exact Wp.mono (U.update (by rw [same]; exact K.onLoop grows) h) fun _ _ _ h => ⟨h.1, h.2.2, l, h.2.1.trans same⟩

/-- The lock of the pipe is taken, unless the task is cancelled while it waits for it. -/
theorem acquire (K : World.Piping R) (U : A.Upkeep R t I) (h : I γ s) :
    A.discipline.wp t (Act.acquire (Transport.writePlace n))
      (fun r γ' s' => I γ' s' ∧ ∀ f, r = .error f → f = .cancelled) γ s := by
  have takes {γ : Γ} {s : World} (h : I γ s) :
      A.discipline.wp t (Act.setLock (Transport.writePlace n) fun l => { l with held := true })
        (fun r γ' s' => I γ' s' ∧ ∀ f, r = .error f → f = .cancelled) γ s :=
    Wp.mono (U.relock K _ h) fun r _ _ h => ⟨h.2.1, fun f e => by cases h.1.symm.trans e⟩
  refine Wp.look ?_
  split
  · exact takes h
  refine U.issue K h fun γ₁ s₁ issued unsettled => Wp.seq (U.relock K _ issued) ?_ fun _ _ _ h => by cases h.1
  rintro _ γ₂ s₂ ⟨-, queued, rfl⟩
  refine Wp.attempt_seq (U.await unsettled queued) fun r γ₃ s₃ woken => ?_
  refine Wp.seq (U.relock K _ woken.1) (fun _ γ₄ s₄ left => ?_) fun _ _ _ h => by cases h.1
  cases r with
  | ok => exact takes left.2.1
  | error f =>
    obtain rfl := woken.2 f rfl
    refine Wp.look ?_
    split
    · exact Wp.seq (U.wakeFirst K left.2.1) (fun _ _ _ h => ⟨h.2.1, fun _ e => (Except.error.inj e).symm⟩) fun _ _ _ h => by
        cases h.1
    · exact ⟨left.2.1, fun _ e => (Except.error.inj e).symm⟩

/-- The lock of the pipe is given back. -/
theorem release (K : World.Piping R) (U : A.Upkeep R t I) (h : I γ s) :
    A.discipline.wp t (Act.release (Transport.writePlace n)) (fun r γ' s' => r = .ok () ∧ I γ' s' ∧
      ∃ lock l, s' = { (Transport.writePlace n).set lock s with loop := l }) γ s := by
  refine Wp.seq (U.relock K _ h) ?_ fun _ _ _ h => by cases h.1
  rintro _ γ₁ s₁ ⟨-, freed, rfl⟩
  exact Wp.mono (U.wakeFirst K freed) fun _ _ _ h => ⟨h.1, h.2.1, _, h.2.2⟩

end Account.Upkeep

end LspHost
