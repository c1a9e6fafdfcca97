import LspHost.Proofs.Locking

/-!
# How tasks wait

A task in the foreground is never cancelled, so its waits end with what the ticket was settled with
(`wp_await`). From this follow sleeping, waiting for the end of what was cancelled, and waiting for
something at most for some time (`wp_waitFor`): the outcome is the one that belongs to the ticket, or
a timeout, and never a cancellation.
-/

namespace LspHost

open Discipline

variable {σ : Setting} {t : Nat} {γ : Ghost} {s : World}

/-- A task that nobody cancels. -/
def Foreground (t : Nat) (s : World) : Prop := ∃ κ, s.loop.kind? t = some κ ∧ ¬ κ.IsBackground

theorem Foreground.grow {s' : World} (h : Foreground t s) (grows : s.loop.Grows s'.loop) :
    Foreground t s' := by
  obtain ⟨κ, kind, fore⟩ := h
  exact ⟨κ, grows.kinds t κ kind, fore⟩

theorem Poised.live (h : Poised σ t γ s) (fore : Foreground t s) : γ.doomed t = false := by
  obtain ⟨κ, kind, fore⟩ := fore
  rcases e : γ.doomed t with _ | _
  · rfl
  · obtain ⟨κ', kind', back⟩ := h.inv.tasks.background t e
    rw [kind] at kind'
    cases kind'
    exact absurd back fore

/-! ## Steps of a program -/

theorem Quiet.spares {a b : Ghost × World} (h : Quiet σ (some t) a b) :
    (discipline σ).Spares t a b := fun u _ => h.rely u

theorem Quiet.poised {γ' : Ghost} {s' : World} (h : Quiet σ (some t) (γ, s) (γ', s'))
    (ease : γ'.AtEase) : Poised σ t γ' s' := ⟨h.inv, ease⟩

section Steps

variable {α β : Type} {Q : Except Fault β → Ghost → World → Prop}

theorem wp_ask {f : Loop → α × Loop} {g : α → Act β} (γ' : Ghost)
    (spares : (discipline σ).Spares t (γ, s) (γ', { s with loop := (f s.loop).2 }))
    (next : (discipline σ).wp t (g (f s.loop).1) Q γ' { s with loop := (f s.loop).2 }) :
    (discipline σ).wp t (Act.ask f >>= g) Q γ s := wp_yield γ' spares next

theorem wp_tell {f : Loop → Loop} {g : Unit → Act β} (γ' : Ghost)
    (spares : (discipline σ).Spares t (γ, s) (γ', { s with loop := f s.loop }))
    (next : (discipline σ).wp t (g ()) Q γ' { s with loop := f s.loop }) :
    (discipline σ).wp t (Act.tell f >>= g) Q γ s := wp_change γ' spares next

end Steps

/-! ## Waiting for a ticket -/

section Await

variable {k : Nat} {Q : Except Fault Json → Ghost → World → Prop}

/-- Any task: it finds the outcome of its ticket, or that it was cancelled. -/
theorem wp_awaitAny (h : Poised σ t γ s) (live : γ.doomed t = false)
    (own : ∀ κ, s.loop.kind? t = some κ → κ.IsBackground → (γ.role k).owner? = some t)
    (next : ∀ r γ' s', Poised σ t γ' s' → Rely t (γ, s) (γ', s') →
      (γ'.doomed t = true ∧ r = .error .cancelled) ∨
        (γ'.doomed t = false ∧ s'.loop.outcome? k = some r) → Q r γ' s') :
    (discipline σ).wp t (Program.await k) Q γ s := by
  refine Wp.await (fun r hr => next r γ s h (.refl t _) (.inr ⟨live, hr⟩)) (fun _ => ?_) fun _ => ?_
  · exact ⟨h, live, fun κ k' kind back e => by cases e; exact own κ kind back⟩
  · intro γ' s' r rely resumes
    obtain ⟨poised, ⟨doomed, e⟩ | ⟨live', outcome, -⟩⟩ := resumes
    · exact next r γ' s' poised rely (.inl ⟨doomed, e⟩)
    · exact next r γ' s' poised rely (.inr ⟨live', outcome k rfl⟩)

/-- A task in the foreground finds the outcome of its ticket. -/
theorem wp_await (h : Poised σ t γ s) (fore : Foreground t s)
    (next : ∀ r γ' s', Poised σ t γ' s' → Rely t (γ, s) (γ', s') → s'.loop.outcome? k = some r →
      Q r γ' s') : (discipline σ).wp t (Program.await k) Q γ s := by
  refine wp_awaitAny h (h.live fore) (fun κ kind back => ?_) fun r γ' s' poised rely end' => ?_
  · obtain ⟨κ', kind', fore⟩ := fore
    rw [kind] at kind'
    cases kind'
    exact absurd back fore
  · rcases end' with ⟨doomed, -⟩ | ⟨-, outcome⟩
    · rw [poised.live (fore.grow rely.loop)] at doomed; cases doomed
    · exact next r γ' s' poised rely outcome

/-- A ticket that a timer or another ticket settles brings no fault. -/
theorem wp_awaitRelay (h : Poised σ t γ s) (fore : Foreground t s) (role : γ.role k = .relay)
    (next : ∀ v γ' s', Poised σ t γ' s' → Rely t (γ, s) (γ', s') → Q (.ok v) γ' s') :
    (discipline σ).wp t (Program.await k) Q γ s := by
  refine wp_await h fore fun r γ' s' poised rely outcome => ?_
  have fits := poised.inv.tickets.fits k r outcome
  rw [rely.roles k (by rw [role]; exact fun e => by cases e), role] at fits
  obtain ⟨v, rfl⟩ := fits
  exact next v γ' s' poised rely

/-- Waiting for a ticket that brings no fault, whatever it brings. -/
theorem wp_pass (h : Poised σ t γ s) (fore : Foreground t s) (role : γ.role k = .relay)
    {Q : Except Fault Unit → Ghost → World → Prop}
    (next : ∀ γ' s', Poised σ t γ' s' → Rely t (γ, s) (γ', s') → Q (.ok ()) γ' s') :
    (discipline σ).wp t (do let _ ← Program.await k : Act Unit) Q γ s := by
  refine Wp.bind (wp_awaitRelay h fore role fun v γ' s' poised rely => ?_)
  exact next γ' s' poised rely

end Await

/-- Letting others go first. -/
theorem wp_rest (h : Poised σ t γ s) (live : γ.doomed t = false)
    {Q : Except Fault Unit → Ghost → World → Prop}
    (next : ∀ r γ' s', Poised σ t γ' s' → Rely t (γ, s) (γ', s') →
      (γ'.doomed t = true ∧ r = .error .cancelled) ∨ (γ'.doomed t = false ∧ r = .ok ()) →
      Q r γ' s') :
    (discipline σ).wp t (Program.rest : Act Unit) Q γ s := by
  refine Wp.rest ⟨h, live, fun _ _ _ _ e => by cases e⟩ fun γ' s' r rely resumes => ?_
  obtain ⟨poised, ⟨doomed, rfl⟩ | ⟨live', -, e⟩⟩ := resumes
  · exact next _ γ' s' poised rely (.inl ⟨doomed, rfl⟩)
  · rw [e rfl]; exact next _ γ' s' poised rely (.inr ⟨live', rfl⟩)

/-- A new ticket that a timer or another ticket is to settle. -/
theorem quiet_issueRelay (h : Poised σ t γ s) :
    Quiet σ (some t) (γ, s)
      (γ.assign s.loop.tickets.length .relay, { s with loop := s.loop.issue.2 }) :=
  quiet_issue h.inv (fun e => by cases e) fun _ _ _ e => by cases e

/-- Sleeping says nothing. -/
theorem wp_sleep (h : Poised σ t γ s) (fore : Foreground t s) (nanos : Option Nat) :
    (discipline σ).wp t (Act.sleep nanos)
      (fun r γ' s' => r = .ok () ∧ Poised σ t γ' s' ∧ Rely t (γ, s) (γ', s')) γ s := by
  have issued := quiet_issueRelay h
  have poised := issued.poised h.ease
  have role : (γ.assign s.loop.tickets.length .relay).role s.loop.tickets.length = .relay := by simp
  unfold Act.sleep
  split
  · refine wp_rest h (h.live fore) fun r γ' s' poised rely end' => ?_
    rcases end' with ⟨doomed, -⟩ | ⟨-, rfl⟩
    · rw [poised.live (fore.grow rely.loop)] at doomed; cases doomed
    · exact ⟨rfl, poised, rely⟩
  · next n _ =>
    refine wp_ask _ issued.spares ?_
    have timed := quiet_later poised.inv n (.settle s.loop.tickets.length .null) role
    refine wp_ask _ timed.spares ?_
    have start := (issued.rely t).trans (timed.rely t)
    refine Wp.ensure (P := fun r γ' s' => r = .ok () ∧ Poised σ t γ' s' ∧ Rely t (γ, s) (γ', s'))
      (wp_pass (timed.poised h.ease) (fore.grow start.loop) role
        fun γ' s' poised rely => ⟨rfl, poised, start.trans rely⟩) ?_
    rintro _ γ' s' ⟨rfl, poised, rely⟩
    have dropped := quiet_dropTimer poised.inv
      (s.loop.issue.2.later n (.settle s.loop.tickets.length .null)).1
    exact wp_update γ' dropped.spares
      ⟨rfl, dropped.poised poised.ease, rely.trans (dropped.rely t)⟩
  · exact wp_ask _ issued.spares (wp_pass poised (fore.grow (issued.rely t).loop) role
      fun γ' s' poised rely => ⟨rfl, poised, (issued.rely t).trans rely⟩)

/-! ## Cancelling and waiting for the end -/

/-- What a task may cancel: a request of its own, or a task that it keeps. -/
def Role.IsOf (t : Nat) : Role → Prop
  | .request u => u = t
  | .ending _ (.exitWatch _) keeper => keeper = some t
  | _ => False

theorem Role.IsOf.issued {ρ : Role} (h : ρ.IsOf t) : ρ ≠ .unissued := by
  rintro rfl; exact h

/-- A task cancels what it may cancel. -/
theorem move_cancel {k : Nat} (h : Poised σ t γ s) (mine : (γ.role k).IsOf t)
    (running : s.loop.outcome? k = none) :
    ∃ γ', Move σ t (γ, s) (γ', { s with loop := s.loop.cancelTicket k }) ∧
      γ'.toHands = γ.toHands ∧
      ∀ u κ keeper, γ.role k = .ending u κ keeper → γ'.doomed u = true := by
  rcases role : γ.role k with _ | _ | u | _ | _ | _ | ⟨u, κ, keeper⟩
  all_goals rw [role] at mine
  · exact mine.elim
  · exact mine.elim
  · obtain rfl : u = t := mine
    exact ⟨γ, move_cancelRequest h.inv role, rfl, fun _ _ _ e => by cases e⟩
  · exact mine.elim
  · exact mine.elim
  · exact mine.elim
  · cases κ with
    | exitWatch j =>
      obtain rfl : keeper = some t := mine
      refine ⟨γ.doom u, move_cancelTask h.inv role (.inr rfl) trivial running, rfl, ?_⟩
      intro u' κ' keeper' e
      cases e
      simp [Ghost.doom]
    | _ => exact mine.elim

/-- Cancelling something and waiting for its end says nothing. -/
theorem wp_cancelAndWait {k : Nat} (h : Poised σ t γ s) (fore : Foreground t s)
    (mine : (γ.role k).IsOf t) (running : s.loop.outcome? k = none) :
    (discipline σ).wp t (Act.cancelAndWait k)
      (fun r γ' s' => r = .ok () ∧ Poised σ t γ' s' ∧ Mute t (γ, s) (γ', s') ∧
        ∀ u κ keeper, γ.role k = .ending u κ keeper → γ'.doomed u = true) γ s := by
  have issued := quiet_issueRelay h
  have poised := issued.poised h.ease
  have ne : k ≠ s.loop.tickets.length := by
    rintro rfl
    exact mine.issued ((h.inv.tickets.unissued _).mpr (Nat.le_refl _))
  have same : (γ.assign s.loop.tickets.length .relay).role k = γ.role k := Ghost.assign_role_ne γ _ ne
  have watched := quiet_watch poised.inv k (.ticket s.loop.tickets.length)
    (by rintro r e; cases e; simp)
  have start := (issued.rely t).trans (watched.rely t)
  refine wp_ask _ issued.spares (wp_tell _ watched.spares ?_)
  have unsettled : (s.loop.issue.2.watch k (.ticket s.loop.tickets.length)).outcome? k = none := by
    rw [Loop.outcome?_watch, Loop.outcome?_issue]; exact running
  obtain ⟨γ', move, hands, doomed⟩ := move_cancel (k := k) (watched.poised h.ease)
    (by rw [same]; exact mine) unsettled
  have ease : γ'.AtEase := by rw [hands]; exact h.ease
  have role : γ'.role s.loop.tickets.length = .relay := by
    have kept := move.mute.roles s.loop.tickets.length (by simp)
    rw [kept]; simp
  have far := start.toMute.trans move.mute
  refine Wp.ensure (P := fun r γ'' s'' => r = .ok () ∧ Poised σ t γ'' s'' ∧ Mute t (γ, s) (γ'', s'') ∧
    ∀ u κ keeper, γ.role k = .ending u κ keeper → γ''.doomed u = true)
    (wp_tell γ' move.spares (wp_pass ⟨move.inv, ease⟩ (fore.grow far.loop) role
      fun γ'' s'' poised rely => ⟨rfl, poised, far.trans rely.toMute, fun u κ keeper e =>
        rely.doomed u (doomed u κ keeper (by rw [same]; exact e))⟩)) ?_
  rintro _ γ'' s'' ⟨rfl, poised, mute, ends⟩
  have unwatched := quiet_unwatch poised.inv k (.ticket s.loop.tickets.length)
  exact wp_update γ'' unwatched.spares
    ⟨rfl, unwatched.poised poised.ease, mute.trans (unwatched.rely t).toMute, ends⟩

/-! ## Waiting at most for some time -/

/-- A task counts on a ticket: nobody has cancelled it. -/
def Awaits (t : Nat) (γ : Ghost) (s : World) (k : Nat) : Prop :=
  (γ.role k).IsOf t ∧
  (γ.role k = .request t → s.loop.outcome? k ≠ some (.error .cancelled)) ∧
  ∀ u κ keeper, γ.role k = .ending u κ keeper → γ.doomed u = false

theorem Awaits.rely {γ' : Ghost} {s' : World} {k : Nat} (h : Awaits t γ s k)
    (rely : Rely t (γ, s) (γ', s')) : Awaits t γ' s' k := by
  obtain ⟨mine, clean, live⟩ := h
  have same : γ'.role k = γ.role k := rely.roles k mine.issued
  refine ⟨by rw [same]; exact mine, fun e c => ?_, fun u κ keeper e => ?_⟩
  · rw [same] at e
    exact clean e (rely.requests k e c)
  · rw [same] at e
    have kept : keeper = some t := by
      rw [e] at mine
      cases κ with
      | exitWatch j => exact mine
      | _ => exact mine.elim
    rw [kept] at e
    have := rely.kept k u κ e
    rw [this]; exact live u κ _ e

/-- How waiting for a ticket ends: as the ticket was settled, or with a timeout, or with a fault of
the server if the ticket is a request. -/
def Answers (γ : Ghost) (s : World) (k : Nat) : Except Fault Json → Prop
  | .ok v => Fits γ s (γ.role k) (.ok v)
  | .error f => f = .timeout ∨ ((∃ u, γ.role k = .request u) ∧ Supervisor.isServerFault f = true)

theorem Awaits.answers {k : Nat} {r : Except Fault Json} (h : Awaits t γ s k)
    (poised : Poised σ t γ s) (outcome : s.loop.outcome? k = some r) : Answers γ s k r := by
  obtain ⟨mine, clean, live⟩ := h
  have fits := poised.inv.tickets.fits k r outcome
  rcases r with f | v
  · rcases role : γ.role k with _ | _ | u | _ | _ | _ | ⟨u, κ, keeper⟩
    all_goals rw [role] at mine fits
    · exact mine.elim
    · exact mine.elim
    · obtain rfl : u = t := mine
      refine .inr ⟨⟨u, role⟩, ?_⟩
      rcases fits f rfl with rfl | fault
      · exact absurd outcome (clean role)
      · exact fault
    · exact mine.elim
    · exact mine.elim
    · exact mine.elim
    · cases κ with
      | exitWatch j =>
        have doomed := (fits.2.2.2 f rfl).2
        rw [live u _ keeper role] at doomed
        cases doomed
      | _ => exact mine.elim
  · exact fits

/-- The outcome of a ticket that was cancelled, or a timeout. -/
theorem wp_outcomeOrTimeout {k : Nat} (poised : Poised σ t γ s) (mine : (γ.role k).IsOf t)
    (doomed : ∀ u κ keeper, γ.role k = .ending u κ keeper → γ.doomed u = true)
    {Q : Except Fault Json → Ghost → World → Prop} (next : ∀ r, Answers γ s k r → Q r γ s) :
    (discipline σ).wp t (Act.outcomeOrTimeout k) Q γ s := by
  refine Wp.look ?_
  rcases outcome : s.loop.outcome? k with _ | (f | v)
  · exact next _ (.inl rfl)
  · have fits := poised.inv.tickets.fits k _ outcome
    by_cases c : f = .cancelled
    · subst c; exact next _ (.inl rfl)
    · have goal : Answers γ s k (.error f) := by
        rcases role : γ.role k with _ | _ | u | _ | _ | _ | ⟨u, κ, keeper⟩
        all_goals rw [role] at mine fits
        · exact mine.elim
        · exact mine.elim
        · exact .inr ⟨⟨u, role⟩, (fits f rfl).resolve_left c⟩
        · exact mine.elim
        · exact mine.elim
        · exact mine.elim
        · have := fits.2.1 (doomed u κ keeper role)
          exact absurd (Except.error.inj this) c
      split
      · next e => cases e
      · next e => cases e; exact absurd rfl c
      · next e => cases e; exact next _ goal
      · next e => cases e
  · exact next _ (poised.inv.tickets.fits k _ outcome)

/-- A ticket of which the time has run out is settled, or cancelled. -/
theorem wp_giveUp {k : Nat} (poised : Poised σ t γ s) (fore : Foreground t s)
    (awaits : Awaits t γ s k) (waiter : Nat) :
    (discipline σ).wp t (Act.giveUp k waiter)
      (fun r γ' s' => Answers γ' s' k r ∧ Poised σ t γ' s' ∧ Mute t (γ, s) (γ', s')) γ s := by
  refine Wp.look ?_
  rcases outcome : s.loop.outcome? k with _ | r
  · have unwatched := quiet_unwatch poised.inv k (.ticket waiter)
    have mute := (unwatched.rely t).toMute
    refine wp_tell γ unwatched.spares (Wp.seq (wp_cancelAndWait (unwatched.poised poised.ease)
      (fore.grow mute.loop) awaits.1 ?_) ?_ ?_)
    · rw [Loop.outcome?_unwatch]; exact outcome
    · rintro _ γ' s' ⟨-, poised', mute', doomed⟩
      have same : γ'.role k = γ.role k := mute'.roles k awaits.1.issued
      refine wp_outcomeOrTimeout poised' (by rw [same]; exact awaits.1)
        (fun u κ keeper e => doomed u κ keeper (by rw [← same]; exact e)) fun r answers => ?_
      exact ⟨answers, poised', mute.trans mute'⟩
    · rintro e γ' s' ⟨failed, -⟩
      cases failed
  · exact Wp.ofExcept ⟨awaits.answers poised outcome, poised, .refl t _⟩

/-- What a task waits for when it has begun something: a ticket of its own of a certain role. -/
def Begins (σ : Setting) (t : Nat) (what : Role → Prop) (γ : Ghost) (s : World) (r : Except Fault Nat)
    (γ' : Ghost) (s' : World) : Prop :=
  ∃ k, r = .ok k ∧ what (γ'.role k) ∧ Awaits t γ' s' k ∧ Poised σ t γ' s' ∧ Mute t (γ, s) (γ', s')

/-- Waiting for something at most for some time. -/
theorem wp_waitFor {begin : Act Nat} {w : Role → Prop} (poised : Poised σ t γ s)
    (fore : Foreground t s) (time : Seconds)
    (begins : ∀ γ' s', Poised σ t γ' s' → Rely t (γ, s) (γ', s') →
      (discipline σ).wp t begin (Begins σ t w γ' s') γ' s') :
    (discipline σ).wp t (Act.waitFor begin time)
      (fun r γ' s' => (∃ k, w (γ'.role k) ∧ Answers γ' s' k r) ∧ Poised σ t γ' s' ∧
        Mute t (γ, s) (γ', s')) γ s := by
  have fails {γ₀ γ' : Ghost} {s₀ s' : World} {e : Fault} :
      ¬ Begins σ t w γ₀ s₀ (.error e) γ' s' := by
    rintro ⟨k, e, -⟩
    cases e
  unfold Act.waitFor
  split
  · have issued := quiet_issueRelay poised
    refine wp_ask _ issued.spares ?_
    -- The timer settles the waiter, if the time ever runs out.
    have timer : (discipline σ).wp t (Act.startTimer time s.loop.tickets.length)
        (fun r γ' s' => (∃ timer, r = .ok timer) ∧
          γ' = γ.assign s.loop.tickets.length .relay ∧ Poised σ t γ' s' ∧ Rely t (γ, s) (γ', s'))
        (γ.assign s.loop.tickets.length .relay) { s with loop := s.loop.issue.2 } := by
      unfold Act.startTimer
      split
      · next n _ =>
        have timed := quiet_later issued.inv n (.settle s.loop.tickets.length .null)
          (by simp [JobFits])
        exact wp_ask _ timed.spares
          ⟨⟨_, rfl⟩, rfl, timed.poised poised.ease, (issued.rely t).trans (timed.rely t)⟩
      · exact ⟨⟨_, rfl⟩, rfl, issued.poised poised.ease, issued.rely t⟩
    refine Wp.seq timer ?_ ?_
    · rintro timer _ s₁ ⟨-, rfl, poised₁, rely₁⟩
      refine Wp.seq (begins _ s₁ poised₁ rely₁) ?_ fun _ _ _ h => (fails h).elim
      rintro k γ₂ s₂ ⟨_, e, isWhat, awaits, poised₂, mute₂⟩
      cases e
      have relay : γ₂.role s.loop.tickets.length = .relay := by
        rw [mute₂.roles s.loop.tickets.length (by simp)]; simp
      have watched := quiet_watch poised₂.inv k (.ticket s.loop.tickets.length)
        (by rintro r e; cases e; exact relay)
      have far := (rely₁.toMute.trans mute₂).trans (watched.rely t).toMute
      refine wp_tell γ₂ watched.spares (Wp.ensure
        (P := fun r γ' s' => (∃ k, w (γ'.role k) ∧ Answers γ' s' k r) ∧ Poised σ t γ' s' ∧
          Mute t (γ, s) (γ', s')) ?_ ?_)
      · refine Wp.attempt_seq (wp_awaitRelay (watched.poised poised₂.ease) (fore.grow far.loop) relay
          (Q := fun r γ' s' => (∃ v, r = .ok v) ∧ Awaits t γ' s' k ∧ w (γ'.role k) ∧
            Poised σ t γ' s' ∧ Mute t (γ, s) (γ', s')) ?_) ?_
        · intro v γ' s' poised' rely
          have both := (watched.rely t).trans rely
          exact ⟨⟨v, rfl⟩, awaits.rely both,
            by rw [rely.roles k awaits.1.issued]; exact isWhat, poised', far.trans rely.toMute⟩
        · rintro r γ' s' ⟨⟨v, rfl⟩, awaits', isWhat', poised', mute'⟩
          refine Wp.mono (wp_giveUp poised' (fore.grow mute'.loop) awaits' _) ?_
          rintro r γ'' s'' ⟨answers, poised'', mute''⟩
          exact ⟨⟨k, by rw [mute''.roles k awaits'.1.issued]; exact isWhat', answers⟩, poised'',
            mute'.trans mute''⟩
      · rintro r γ' s' ⟨answers, poised', mute'⟩
        cases timer with
        | none => exact ⟨answers, poised', mute'⟩
        | some id =>
          have dropped := quiet_dropTimer poised'.inv id
          obtain ⟨k', isWhat', answers⟩ := answers
          refine wp_update γ' dropped.spares ⟨⟨k', isWhat', ?_⟩, dropped.poised poised'.ease,
            mute'.trans (dropped.rely t).toMute⟩
          cases r <;> exact answers
    · rintro e γ' s' ⟨⟨_, failed⟩, -⟩
      cases failed
  · refine Wp.seq (begins γ s poised (.refl t _)) ?_ fun _ _ _ h => (fails h).elim
    rintro k γ₁ s₁ ⟨_, e, isWhat, awaits, poised₁, mute₁⟩
    cases e
    refine Wp.look ?_
    rcases outcome : s₁.loop.outcome? k with _ | r
    · refine Wp.seq (wp_cancelAndWait poised₁ (fore.grow mute₁.loop) awaits.1 outcome) ?_ ?_
      · rintro _ γ' s' ⟨-, poised', mute', doomed⟩
        have same : γ'.role k = γ₁.role k := mute'.roles k awaits.1.issued
        refine wp_outcomeOrTimeout poised' (by rw [same]; exact awaits.1)
          (fun u κ keeper e => doomed u κ keeper (by rw [← same]; exact e)) fun r answers => ?_
        exact ⟨⟨k, by rw [same]; exact isWhat, answers⟩, poised', mute₁.trans mute'⟩
      · rintro e γ' s' ⟨failed, -⟩
        cases failed
    · exact Wp.ofExcept ⟨⟨k, isWhat, awaits.answers poised₁ outcome⟩, poised₁, mute₁⟩

/-! ## Stopping a task -/

/-- Stopping a task that serves a session fails only if the task had failed before. -/
theorem wp_stopTask {k u : Nat} {κ : TaskKind} (poised : Poised σ t γ s) (fore : Foreground t s)
    (role : γ.role k = .ending u κ none) (back : κ.IsBackground) :
    (discipline σ).wp t (Act.stopTask k)
      (fun r γ' s' => Poised σ t γ' s' ∧ Mute t (γ, s) (γ', s') ∧
        ∀ f, r = .error f → f ≠ .cancelled ∧ s.loop.outcome? k = some (.error f)) γ s := by
  have issued : γ.role k ≠ .unissued := by rw [role]; exact fun e => by cases e
  rcases outcome : s.loop.outcome? k with _ | r₀
  · have move := move_cancelTask poised.inv role (.inl rfl) back outcome
    refine wp_tell _ move.spares (Wp.attempt_seq (wp_await ⟨move.inv, poised.ease⟩
      (fore.grow move.mute.loop) (Q := fun r γ' s' => r = .error .cancelled ∧ Poised σ t γ' s' ∧
        Mute t (γ, s) (γ', s')) ?_) ?_)
    · intro r γ' s' poised' rely outcome'
      have far := move.mute.trans rely.toMute
      have fits := poised'.inv.tickets.fits k r outcome'
      rw [far.roles k issued, role] at fits
      exact ⟨fits.2.1 (rely.doomed u (by simp [Ghost.doom])), poised', far⟩
    · rintro _ γ' s' ⟨rfl, poised', mute⟩
      exact ⟨poised', mute, fun _ e => by cases e⟩
  · have settled : s.loop.isSettled k = true := by simp [Loop.isSettled, outcome]
    have same : s.loop.cancelTicket k = s.loop :=
      Loop.cancelTicket_ended (poised.inv.tickets.ended k u κ none role).1 settled
    have idle : ({ s with loop := s.loop.cancelTicket k } : World) = s := by rw [same]
    refine wp_tell γ (fun v _ => by rw [idle]; exact .refl v _) ?_
    rw [idle]
    refine Wp.attempt_seq (wp_await poised fore (Q := fun r γ' s' => r = r₀ ∧ Poised σ t γ' s' ∧
        Mute t (γ, s) (γ', s')) ?_) ?_
    · intro r γ' s' poised' rely outcome'
      have before := rely.loop.outcomes k r₀ outcome
      rw [outcome'] at before
      exact ⟨Option.some.inj before, poised', rely.toMute⟩
    · rintro r γ' s' ⟨rfl, poised', mute⟩
      cases r with
      | ok _ => exact ⟨poised', mute, fun _ e => by cases e⟩
      | error f =>
        by_cases c : f = .cancelled
        · subst c; exact ⟨poised', mute, fun _ e => by cases e⟩
        · split
          · next e => cases e
          · next e => cases e; exact absurd rfl c
          · next e => cases e; exact ⟨poised', mute, fun f e => by cases e; exact ⟨c, rfl⟩⟩

end LspHost
