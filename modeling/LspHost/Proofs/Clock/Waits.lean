import Mathlib.Tactic.GCongr
import LspHost.Proofs.Clock.Moves

/-!
# How tasks wait

Whoever waits goes on with what it has in hand (`Woken`), and by the time of its alarm. To let others go first, to wait
for a lock that is held in passing or for a cancelled task takes no time (`Still`); to wait for a timer takes until it
rings.
-/

namespace LspHost.Clock

open Discipline

variable {t u k : Nat} {on : Option Nat} {κ : TaskKind} {γ γ' : Roster} {s s' : World} {l l' : Loop} {a b c : Roster × World}
  {α β : Type}

/-! ## What stays -/

theorem Onward.refl (a : Roster × World) : Onward a a :=
  ⟨.refl _, Nat.le_refl _, ⟨Nat.le_refl _, fun _ h => .inl h⟩, fun _ _ h => h, fun _ h => h, fun _ h => h, fun _ _ h => h,
    fun _ h => h, fun _ h => h, .refl _, fun _ _ h => h⟩

theorem Onward.trans (h : Onward a b) (h' : Onward b c) : Onward a c where
  grows := h.grows.trans h'.grows
  time := Nat.le_trans h.time h'.time
  timers := by
    refine ⟨Nat.le_trans h.timers.1 h'.timers.1, fun x hx => ?_⟩
    rcases h'.timers.2 x hx with hx | new
    · exact h.timers.2 x hx
    · exact .inr (Nat.le_trans h.timers.1 new)
  owner k v e := h'.owner k v (h.owner k v e)
  doomed u e := h'.doomed u (h.doomed u e)
  used i e := h'.used i (h.used i e)
  home pid i e := h'.home pid i (h.home pid i e)
  asks q e := h'.asks q (h.asks q e)
  ended e he := h'.ended e (h.ended e he)
  lasts := h.lasts.trans h'.lasts
  dead i used e := h.dead i used (h'.dead i (h.used i used) e)

theorem Stays.refl (t : Nat) (a : Roster × World) : Stays t a a :=
  ⟨.refl a, rfl, fun _ _ h => h, fun _ _ h => h⟩

theorem Stays.trans (h : Stays t a b) (h' : Stays t b c) : Stays t a c where
  toOnward := h.toOnward.trans h'.toOnward
  duty := h'.duty.trans h.duty
  requests k mine e := h.requests k mine (h'.requests k (h.owner k _ mine) e)
  opener i e used := h.opener i e (h'.opener i (by rw [h.duty]; exact e) used)

theorem Rely.refl (t : Nat) (a : Roster × World) : Rely t a a :=
  ⟨.refl t a, le_refl _, fun _ h _ => h, fun k _ => .refl k _⟩

theorem Rely.trans (h : Rely t a b) (h' : Rely t b c) : Rely t a c where
  toStays := h.toStays.trans h'.toStays
  alarm := le_trans h'.alarm h.alarm
  mine q known task := h.mine q (h'.mine q known task) task
  relays k mine := (h.relays k mine).trans (h'.relays k (h.owner k _ mine)) h'.grows

theorem Still.refl (h : Fit t κ γ s) : Still t κ (γ, s) (γ, s) := ⟨h, .refl t _, rfl⟩

theorem Still.trans (h : Still t κ a b) (h' : Still t κ b c) : Still t κ a c :=
  ⟨h'.fit, h.stays.trans h'.stays, h'.now.trans h.now⟩

theorem Still.within {n : ℕ∞} (h : Still t κ a b) : Within t κ n a b :=
  ⟨h.fit, h.stays, by rw [h.now]; exact le_self_add⟩

theorem Within.trans {n m : ℕ∞} (h : Within t κ n a b) (h' : Within t κ m b c) : Within t κ (n + m) a c := by
  refine ⟨h'.fit, h.stays.trans h'.stays, le_trans h'.time ?_⟩
  rw [← add_assoc]
  gcongr
  exact h.time

theorem Within.still {n : ℕ∞} (h : Within t κ n a b) (h' : Still t κ b c) : Within t κ n a c :=
  ⟨h'.fit, h.stays.trans h'.stays, by rw [h'.now]; exact h.time⟩

theorem Still.trans_within {n : ℕ∞} (h : Still t κ a b) (h' : Within t κ n b c) : Within t κ n a c :=
  ⟨h'.fit, h.stays.trans h'.stays, by rw [← h.now]; exact h'.time⟩

/-- A task goes on at once, and if it was cancelled it fails. -/
def Goes (t : Nat) (κ : TaskKind) (a : Roster × World) (r : Except Fault α) (γ : Roster) (s : World) : Prop :=
  Still t κ a (γ, s) ∧ (γ.doomed t → r = .error .cancelled)

theorem Goes.trans {r : Except Fault α} (h : Still t κ a b) (h' : Goes t κ b r γ s) : Goes t κ a r γ s :=
  ⟨h.trans h'.1, h'.2⟩

/-- Tasks in the foreground are not cancelled. -/
theorem Fit.calm (h : Fit t κ γ s) (foreground : ¬ κ.IsBackground) : ¬ γ.doomed t := by
  intro doomed
  obtain ⟨κ', kind, background⟩ := h.inv.tasks.doomed t doomed
  cases h.kind.symm.trans kind
  exact foreground background

/-! ## Going on -/

/-- A task was woken. -/
structure Woken (t : Nat) (κ : TaskKind) (on : Option Nat) (r : Except Fault Json) (a b : Roster × World) : Prop where
  fit : Fit t κ b.1 b.2
  stays : Stays t a b
  time : (b.2.loop.now : ℕ∞) ≤ a.1.alarm t
  doomed : b.1.doomed t → r = .error .cancelled
  outcome : ¬ b.1.doomed t → (∀ k, on = some k → b.2.loop.outcome? k = some r) ∧ (on = none → r = .ok .null)
  relays : ∀ k, a.1.owner k = some (t, .relay) → a.2.loop.Kept k b.2.loop

theorem ready {P : Except Fault Json → Roster → World → Prop} (kind : s.loop.kind? t = some κ)
    (limit : γ.alarm t ≤ (γ.duty t).limit) (all : ∀ γ' s' r, Woken t κ on r (γ, s) (γ', s') → P r γ' s') :
    discipline.Ready t on P γ s := by
  rintro γ' s' r rely ⟨inv, alarm, doomed, outcome⟩
  have time : (s'.loop.now : ℕ∞) ≤ γ.alarm t := alarm ▸ rely.alarm
  refine all γ' s' r ⟨⟨inv, rely.grows.kinds t κ kind, alarm, ?_⟩, rely.toStays, time, doomed, outcome, rely.relays⟩
  show _ ≤ (γ'.duty t).limit
  rw [show γ'.duty t = γ.duty t from rely.duty]
  exact le_trans time limit

/-- No time passes if the alarm rings at once. -/
theorem Woken.still {r : Except Fault Json} (h : Woken t κ on r a b) (fit : Fit t κ a.1 a.2) : Still t κ a b := by
  refine ⟨h.fit, h.stays, Nat.le_antisymm ?_ h.stays.time⟩
  have time := h.time
  rw [fit.alarm] at time
  exact_mod_cast time

/-- A task waits for a ticket. -/
theorem wp_await {Q : Except Fault Json → Roster → World → Prop} (h : Fit t κ γ s) (calm : ¬ γ.doomed t)
    (waits : s.loop.outcome? k = none → Waits t (some k) γ s.loop) (background : κ.IsBackground → γ.owner k = some (t, κ.use))
    (settled : ∀ r, s.loop.outcome? k = some r → Q r γ s)
    (woken : ∀ γ' s' r, Still t κ (γ, s) (γ', s') → Woken t κ (some k) r (γ, s) (γ', s') → Q r γ' s') :
    discipline.wp t (Program.await k) Q γ s := by
  refine Wp.await settled (fun e => ⟨h.inv, calm, le_of_eq h.alarm.symm, waits e, fun κ' k' kind back e => ?_⟩)
    fun e => ready h.kind (waits e).limit fun γ' s' r w => woken γ' s' r (w.still h) w
  cases h.kind.symm.trans kind
  cases e
  exact background back

/-- A task lets the others go first. -/
theorem wp_rest {Q : Except Fault Unit → Roster → World → Prop} (h : Fit t κ γ s) (calm : ¬ γ.doomed t)
    (queued : (γ.duty t).queued = none) (closing : (γ.duty t).closing = .none)
    (woken : ∀ γ' s' (r : Except Fault Unit), Goes t κ (γ, s) r γ' s' → (¬ γ'.doomed t → r = .ok ()) → Q r γ' s') :
    discipline.wp t Program.rest Q γ s := by
  have waits : Waits t none γ s.loop :=
    { prompt := fun _ e => by cases e
      limit := by rw [h.alarm]; exact h.limit
      pipes := fun _ _ => rfl
      documents := fun _ => .inl rfl
      queued := fun p k e => by rw [queued] at e; cases e
      closing := closing
      issued := fun _ e => by cases e }
  refine Wp.rest ⟨h.inv, calm, le_of_eq h.alarm.symm, waits, fun _ _ _ _ e => by cases e⟩
    (ready h.kind waits.limit fun γ' s' r w => woken γ' s' _ ⟨w.still h, fun doomed => ?_⟩ fun going => ?_)
  · rw [w.doomed doomed]; rfl
  · rw [(w.outcome going).2 rfl]; rfl

theorem Acts.ring {f : World → World} {time : ℕ∞} (h : Acts t f (γ, s) γ') : Acts t f (γ, s) (γ'.ring t time) where
  drives := h.drives
  onward := { h.onward with }
  endings := h.endings
  spares u ne :=
    { h.spares u ne with
      alarm := by
        rw [show (γ'.ring t time).alarm u = γ'.alarm u from γ'.ring_ne time ne]
        exact (h.spares u ne).alarm }
  alarms u ne := (γ'.ring_ne time ne).trans (h.alarms u ne)
  closing := h.closing
  made := h.made
  rightly := h.rightly
  bill := h.bill

/-- An alarm concerns nobody else. -/
theorem Inv.ring {o : Option Nat} (h : Inv o γ s) (time : ℕ∞) : Inv o (γ.ring t time) s :=
  h.regard { h.tickets with
    proper := fun k u use r e e' => ⟨(h.tickets.proper k u use r e e').relay, (h.tickets.proper k u use r e e').wait⟩
    awaited := { h.tickets.awaited with } } (fun _ _ e => e) rfl

/-- A task waits for a ticket that is settled later. -/
theorem wp_await_until {Q : Except Fault Json → Roster → World → Prop} {time : ℕ∞} (h : Fit t κ γ s)
    (calm : ¬ γ.doomed t) (later : (s.loop.now : ℕ∞) ≤ time) (waits : Waits t (some k) (γ.ring t time) s.loop)
    (background : κ.IsBackground → γ.owner k = some (t, κ.use)) (unsettled : s.loop.outcome? k = none)
    (woken : ∀ γ' s' r, Woken t κ (some k) r (γ.ring t time, s) (γ', s') → Q r γ' s') :
    discipline.wp t (Program.await k) Q (γ.ring t time) s := by
  have alarm : (γ.ring t time).alarm t = time := γ.ring_self t time
  refine Wp.await (fun r e => by cases unsettled.symm.trans e)
    (fun _ => ⟨h.inv.ring time, calm, by rw [alarm]; exact later, waits, fun κ' k' kind back e => ?_⟩)
    fun _ => ready h.kind waits.limit woken
  cases h.kind.symm.trans kind
  cases e
  exact background back

/-- What is in hand does not depend on the alarm. -/
theorem Stays.of_ring {time : ℕ∞} (h : Stays t (γ.ring t time, s) b) : Stays t (γ, s) b := { h with }

/-! ## Relays -/

/-- A task holds no lock for which others wait in passing, and is not at its end. -/
structure Duty.Free (d : Duty) : Prop where
  pipes : ∀ i, .writing i ∉ d.holds
  documents : .documents ∉ d.holds
  queued : d.queued = none
  closing : d.closing = .none

theorem Waits.of_free (free : (γ.duty t).Free) (limit : γ.alarm t ≤ (γ.duty t).limit) (prompt : Prompt t on γ l)
    (issued : ∀ k, on = some k → k < l.tickets.length) : Waits t on γ l where
  prompt := prompt
  limit := limit
  pipes i held := absurd held (free.pipes i)
  documents held := absurd held free.documents
  queued p k e := by rw [free.queued] at e; cases e
  closing := free.closing
  issued := issued

/-- A task waits for its relay, which is settled at once. -/
theorem wp_relay {Q : Except Fault Json → Roster → World → Prop} (h : Fit t κ γ s) (foreground : ¬ κ.IsBackground)
    (free : (γ.duty t).Free) (mine : γ.owner k = some (t, .relay)) (coming : Coming γ s.loop k s.loop.now)
    (woken : ∀ γ' s' v, Still t κ (γ, s) (γ', s') → Q (.ok v) γ' s') :
    discipline.wp t (Program.await k) Q γ s := by
  refine wp_await h (h.calm foreground) (fun _ => .of_free free (by rw [h.alarm]; exact h.limit) (fun j e => ?_) fun j e => ?_)
    (fun back => absurd back foreground) (fun r e => ?_) fun γ' s' r still w => ?_
  · cases e
    exact .inr (.inl ⟨mine, by rw [h.alarm]; exact coming⟩)
  · cases e
    exact h.inv.tickets.issued k _ mine
  · obtain ⟨v, rfl⟩ := (h.inv.tickets.proper k t .relay r mine e).relay rfl
    exact woken γ s v (.refl h)
  · have outcome := (w.outcome (still.fit.calm foreground)).1 k rfl
    obtain ⟨v, rfl⟩ := (still.fit.inv.tickets.proper k t .relay r (still.stays.owner k _ mine) outcome).relay rfl
    exact woken γ' s' v still

/-- A task waits for its relay, until a timer rings or without end. -/
theorem wp_relay_until {Q : Except Fault Json → Roster → World → Prop} {time : ℕ∞} (h : Fit t κ γ s)
    (foreground : ¬ κ.IsBackground) (free : (γ.duty t).Free) (mine : γ.owner k = some (t, .relay))
    (coming : time = ⊤ ∨ Coming γ s.loop k time) (later : (s.loop.now : ℕ∞) ≤ time) (limit : time ≤ (γ.duty t).limit)
    (unsettled : s.loop.outcome? k = none)
    (woken : ∀ γ' s' v, Fit t κ γ' s' → Stays t (γ, s) (γ', s') → (s'.loop.now : ℕ∞) ≤ time →
      s.loop.Nears k ∨ s.loop.Comes k s'.loop → Q (.ok v) γ' s') :
    discipline.wp t (Program.await k) Q (γ.ring t time) s := by
  have alarm : (γ.ring t time).alarm t = time := γ.ring_self t time
  refine wp_await_until h (h.calm foreground) later (.of_free free (by rw [alarm]; exact limit) (fun j e => ?_) fun j e => ?_)
    (fun back => absurd back foreground) unsettled fun γ' s' r w => ?_
  · cases e
    rw [alarm]
    exact coming.imp_right fun coming => .inl ⟨mine, coming⟩
  · cases e
    exact h.inv.tickets.issued k _ mine
  · have outcome := (w.outcome (w.fit.calm foreground)).1 k rfl
    obtain ⟨v, rfl⟩ := (w.fit.inv.tickets.proper k t .relay r (w.stays.owner k _ mine) outcome).relay rfl
    refine woken γ' s' v w.fit w.stays.of_ring (by have time := w.time; rwa [alarm] at time) ?_
    rcases (w.relays k mine).settles (Option.isSome_iff_exists.mpr ⟨_, outcome⟩) with (settled | near) | comes
    · simp only [Loop.isSettled, unsettled, Option.isSome_none, Bool.false_eq_true] at settled
    · exact .inl near
    · exact .inr comes

/-! ## Timers -/

/-- A timer settles nothing but one ticket. -/
def OnlyRings (l : Loop) (id k : Nat) : Prop :=
  id < l.timerCount ∧ ∀ x ∈ l.timers, x.id = id → ∀ j, x.Rings j → j = k

theorem onlyRings_later (sane : l.Sane) (nanos : Nat) (v : Json) :
    OnlyRings (l.later nanos (.settle k v)).2 l.timerCount k := by
  refine ⟨Nat.lt_succ_self _, fun x hx e j ⟨w, rings⟩ => ?_⟩
  rcases Loop.mem_insertTimer hx with rfl | hx
  · cases rings
    rfl
  · exact absurd (sane.counted x hx) (by rw [e]; exact Nat.lt_irrefl _)

theorem OnlyRings.onward {id : Nat} (h : OnlyRings a.2.loop id k) (on : Onward a b) : OnlyRings b.2.loop id k := by
  refine ⟨Nat.lt_of_lt_of_le h.1 on.timers.1, fun x hx e j rings => ?_⟩
  rcases on.timers.2 x hx with old | new
  · exact h.2 x old e j rings
  · exact absurd h.1 (Nat.not_lt_of_le (e ▸ new))

/-- A task takes its timer away. -/
theorem Fit.dropTimer (h : Fit t κ γ s) {id : Nat} (mine : γ.owner k = some (t, .relay)) (only : OnlyRings s.loop id k) :
    Step t κ (fun s => { s with loop := s.loop.dropTimer id }) γ s γ := by
  refine h.relay (g := fun l => l.dropTimer id) mine (Loop.does_dropTimer id) ?_ (fun _ => rfl) rfl
  rintro j ⟨x, hx, e, rings⟩
  exact only.2 x hx e j rings

/-- A task sets a timer for its relay. -/
theorem Fit.later (h : Fit t κ γ s) (nanos : Nat) (mine : γ.owner k = some (t, .relay)) :
    Step t κ (fun s => { s with loop := (s.loop.later nanos (.settle k .null)).2 }) γ s γ := by
  refine h.relay (g := fun l => (l.later nanos (.settle k .null)).2) mine (Loop.does_later nanos _) ?_ (fun _ => rfl) rfl
  rintro j ⟨v, e⟩
  cases e
  rfl

/-- The nanoseconds of a sleep, which may be without end. -/
def nanosOf (nanos : Option Nat) : ℕ∞ := nanos.elim ⊤ fun n => n

/-- A task sleeps. -/
theorem wp_sleep (h : Fit t κ γ s) (foreground : ¬ κ.IsBackground) (free : (γ.duty t).Free) (n : Option Nat)
    (time : (s.loop.now : ℕ∞) + nanosOf n ≤ (γ.duty t).limit) :
    discipline.wp t (Act.sleep n) (fun r γ' s' => r = .ok () ∧ Within t κ (nanosOf n) (γ, s) (γ', s')) γ s := by
  have issued := h.issue .relay (by decide)
  have mine : (γ.own s.loop.tickets.length t .relay).owner s.loop.tickets.length = some (t, .relay) := γ.own_self ..
  have unsettled : s.loop.issue.2.outcome? s.loop.tickets.length = none := by
    rw [Loop.outcome?_issue]
    rcases e : s.loop.outcome? s.loop.tickets.length with _ | r
    · rfl
    · exact absurd (Loop.outcome?_lt e) (Nat.lt_irrefl _)
  cases n with
  | none =>
    show discipline.wp t (Act.issue >>= fun ticket => do let _ ← Program.await ticket) _ γ s
    refine Wp.yield ((γ.own s.loop.tickets.length t .relay).ring t ⊤) issued.acts.ring (Wp.seq
      (P := fun r γ' s' => (∃ v, r = .ok v) ∧ Fit t κ γ' s' ∧ Stays t (γ, s) (γ', s'))
      (wp_relay_until (s := { s with loop := s.loop.issue.2 }) issued.still.fit foreground free mine (.inl rfl) le_top ?_ unsettled
        fun γ' s' v fit stays _ _ => ⟨⟨v, rfl⟩, fit, issued.still.stays.trans stays⟩) ?_ ?_)
    · exact le_trans (by simp [nanosOf]) time
    · rintro v γ' s' ⟨-, fit, stays⟩
      exact ⟨rfl, fit, stays, by simp [nanosOf]⟩
    · rintro f γ' s' ⟨⟨v, e⟩, -⟩
      cases e
  | some n =>
    cases n with
    | zero =>
      refine wp_rest h (h.calm foreground) free.queued free.closing fun γ' s' r goes ok => ?_
      exact ⟨ok (goes.1.fit.calm foreground), goes.1.within⟩
    | succ n =>
      show discipline.wp t (Act.issue >>= fun ticket => do
        let timer ← Act.ask (Loop.later · (n + 1) (.settle ticket .null))
        Program.ensure (do let _ ← Program.await ticket) (Act.tell (Loop.dropTimer · timer))) _ γ s
      refine Wp.yield _ issued.acts ?_
      have set := issued.still.fit.later (n + 1) mine
      have only := onlyRings_later (k := s.loop.tickets.length) issued.still.fit.inv.tickets.sane (n + 1) .null
      refine Wp.yield ((γ.own s.loop.tickets.length t .relay).ring t ((s.loop.now + (n + 1) : Nat) : ℕ∞)) set.acts.ring ?_
      have stays := issued.still.stays.trans set.still.stays
      refine Wp.ensure (P := fun r γ' s' => r = .ok () ∧ Fit t κ γ' s' ∧ Stays t (γ, s) (γ', s') ∧
        (s'.loop.now : ℕ∞) ≤ s.loop.now + nanosOf (some (n + 1)) ∧
        γ'.owner s.loop.tickets.length = some (t, .relay) ∧
        OnlyRings s'.loop s.loop.timerCount s.loop.tickets.length) (Wp.seq
          (P := fun r γ' s' => (∃ v, r = .ok v) ∧ Fit t κ γ' s' ∧ Stays t (γ, s) (γ', s') ∧
            (s'.loop.now : ℕ∞) ≤ s.loop.now + nanosOf (some (n + 1)) ∧
            γ'.owner s.loop.tickets.length = some (t, .relay) ∧
            OnlyRings s'.loop s.loop.timerCount s.loop.tickets.length)
          (wp_relay_until (s := { s with loop := (s.loop.issue.2.later (n + 1) (.settle s.loop.tickets.length .null)).2 })
            set.still.fit foreground free mine ?_ ?_ ?_ unsettled fun γ' s' v fit more time' _ =>
              ⟨⟨v, rfl⟩, fit, stays.trans more, ?_, more.owner _ _ mine, only.onward more.toOnward⟩) ?_ ?_) ?_
      · obtain ⟨x, hx, -, due, job⟩ := s.loop.issue.2.exists_later (n + 1) (.settle s.loop.tickets.length .null)
        exact .inr (.inr (.inl ⟨x, hx, ⟨.null, job⟩, by rw [due]; exact le_refl _⟩))
      · exact_mod_cast Nat.le_add_right ..
      · refine le_trans ?_ time
        simp [nanosOf]
      · simpa [nanosOf] using time'
      · rintro v γ' s' ⟨-, rest⟩
        exact ⟨rfl, rest⟩
      · rintro f γ' s' ⟨⟨v, e⟩, -⟩
        cases e
      · rintro r γ' s' ⟨rfl, fit, stays', time', mine', only'⟩
        have dropped := fit.dropTimer mine' only'
        exact Wp.update _ dropped.acts ⟨rfl, dropped.still.fit, stays'.trans dropped.still.stays, time'⟩

end LspHost.Clock
