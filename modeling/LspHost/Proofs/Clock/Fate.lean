import LspHost.Proofs.Task.Loop

/-!
# The fate of a ticket

A ticket is settled by a job that is ready, by a timer that rings, or behind another ticket. `Loop.Kept k` says
that nobody tampers with the ticket `k`: whatever was going to settle it still is or has done so, and nothing else
is. `Loop.Drives` says that no task is forgotten: jobs that are ready stay ready, and whoever waits for a ticket
is woken when it is settled.

Results: what each operation of the event loop does is described by the tickets that it may tamper with
(`Loop.Passes` for what happens between two turns, `Loop.Does` for what a task does).
-/

namespace LspHost

/-- A timer settles a ticket. -/
def Timer.Rings (x : Timer) (k : Nat) : Prop := ∃ v, x.job = .settle k v

namespace Loop

variable {l l' l'' : Loop} {k : Nat} {P P' : Nat → Prop}

/-- Who is told when a ticket is settled. -/
def watchers (l : Loop) (k : Nat) : List Watcher := ((l.tickets[k]?).map Ticket.watchers).getD []

/-- A job that settles a ticket is ready. -/
def Nears (l : Loop) (k : Nat) : Prop := ∃ v, Job.settle k v ∈ l.ready

/-- Something in the loop is going to settle a ticket. -/
def Fed (l : Loop) (k : Nat) : Prop :=
  l.Nears k ∨ (∃ x ∈ l.timers, x.Rings k) ∨ ∃ j, Watcher.ticket k ∈ l.watchers j

/-- A ticket that a task ends in, or that has not been issued. -/
def Apart (l : Loop) (k : Nat) : Prop := (∃ u, l.ending? u = some k) ∨ l.tickets.length ≤ k

/-- A ticket is settled, or is about to be. -/
def Reached (l : Loop) (k : Nat) : Prop := l.isSettled k = true ∨ l.Nears k

/-- Something that was going to settle a ticket has come by then: its time, or another ticket. -/
def Comes (l : Loop) (k : Nat) (l' : Loop) : Prop :=
  (∃ x ∈ l.timers, x.Rings k ∧ x.due ≤ l'.now) ∨ ∃ j, Watcher.ticket k ∈ l.watchers j ∧ l'.isSettled j = true

/-- Nobody tampers with a ticket. -/
structure Kept (k : Nat) (l l' : Loop) : Prop where
  time : l.now ≤ l'.now
  ready : l.Nears k → l'.Reached k
  timers : ∀ x ∈ l.timers, x.Rings k → x ∈ l'.timers ∨ x.due ≤ l'.now ∧ l'.Reached k
  watchers : ∀ j, Watcher.ticket k ∈ l.watchers j →
    Watcher.ticket k ∈ l'.watchers j ∨ l'.isSettled j = true ∧ l'.Reached k
  settles : l'.isSettled k = true → l.Reached k ∨ l.Comes k l'
  nears : l'.Nears k → l.Nears k ∨ l.Comes k l'
  noTimers : ∀ x ∈ l'.timers, x.Rings k → x ∈ l.timers
  noWatchers : ∀ j, Watcher.ticket k ∈ l'.watchers j → Watcher.ticket k ∈ l.watchers j

theorem Grows.settled (h : l.Grows l') {j : Nat} (settled : l.isSettled j = true) : l'.isSettled j = true := by
  obtain ⟨r, e⟩ := Option.isSome_iff_exists.mp settled
  exact Option.isSome_iff_exists.mpr ⟨r, h.outcomes j r e⟩

/-- A ticket that is not settled later was not settled before. -/
theorem Grows.unsettled (h : l.Grows l') (unsettled : l'.outcome? k = none) :
    l.outcome? k = none := by
  rcases e : l.outcome? k with _ | r
  · rfl
  · cases (h.outcomes k r e).symm.trans unsettled

theorem Comes.mono {m : Loop} (h : l.Comes k l') (time : l'.now ≤ m.now) (grows : l'.Grows m) : l.Comes k m := by
  rcases h with ⟨x, hx, rings, due⟩ | ⟨j, hj, settled⟩
  · exact .inl ⟨x, hx, rings, Nat.le_trans due time⟩
  · exact .inr ⟨j, hj, grows.settled settled⟩

namespace Kept

theorem refl (k : Nat) (l : Loop) : Kept k l l :=
  ⟨Nat.le_refl _, .inr, fun _ h _ => .inl h, fun _ h => .inl h, fun h => .inl (.inl h), .inl, fun _ h _ => h, fun _ h => h⟩

/-- What has reached a ticket stays. -/
theorem reached (h : Kept k l l') (grows : l.Grows l') (near : l.Reached k) : l'.Reached k :=
  near.elim (fun settled => .inl (grows.settled settled)) h.ready

theorem trans (h : Kept k l l') (h' : Kept k l' l'') (grows' : l'.Grows l'') : Kept k l l'' := by
  have later {m : Loop} (come : l'.Comes k m) : l.Comes k m := by
    rcases come with ⟨x, hx, rings, due⟩ | ⟨j, hj, settled⟩
    · exact .inl ⟨x, h.noTimers x hx rings, rings, due⟩
    · exact .inr ⟨j, h.noWatchers j hj, settled⟩
  have nears (near : l'.Nears k) : l.Nears k ∨ l.Comes k l'' :=
    (h.nears near).imp_right fun come => come.mono h'.time grows'
  refine
    { time := Nat.le_trans h.time h'.time
      ready := fun near => h'.reached grows' (h.ready near)
      timers := fun x hx rings => ?_
      watchers := fun j hj => ?_
      settles := fun settled => ?_
      nears := fun near => (h'.nears near).elim nears fun come => .inr (later come)
      noTimers := fun x hx rings => h.noTimers x (h'.noTimers x hx rings) rings
      noWatchers := fun j hj => h.noWatchers j (h'.noWatchers j hj) }
  · rcases h.timers x hx rings with hx | ⟨due, reached⟩
    · exact h'.timers x hx rings
    · exact .inr ⟨Nat.le_trans due h'.time, h'.reached grows' reached⟩
  · rcases h.watchers j hj with hj | ⟨settled, reached⟩
    · exact h'.watchers j hj
    · exact .inr ⟨grows'.settled settled, h'.reached grows' reached⟩
  · rcases h'.settles settled with (settled | near) | come
    · exact (h.settles settled).imp_right fun come => come.mono h'.time grows'
    · exact (nears near).imp_left .inr
    · exact .inr (later come)

/-- Nobody who leaves a ticket alone is going to settle it, or settles it. -/
theorem unfed (h : Kept k l l') (unfed : ¬ l.Fed k) : ¬ l'.Fed k ∧ (l'.isSettled k = true → l.isSettled k = true) := by
  have never : ¬ l.Comes k l' := by
    rintro (⟨x, hx, rings, -⟩ | ⟨j, hj, -⟩)
    · exact unfed (.inr (.inl ⟨x, hx, rings⟩))
    · exact unfed (.inr (.inr ⟨j, hj⟩))
  refine ⟨?_, fun settled => ?_⟩
  · rintro (near | ⟨x, hx, rings⟩ | ⟨j, hj⟩)
    · exact (h.nears near).elim (fun near => unfed (.inl near)) never
    · exact unfed (.inr (.inl ⟨x, h.noTimers x hx rings, rings⟩))
    · exact unfed (.inr (.inr ⟨j, h.noWatchers j hj⟩))
  · rcases h.settles settled with (settled | near) | come
    · exact settled
    · exact absurd (.inl near) unfed
    · exact absurd come never

end Kept

/-- What holds of a loop whatever is done. -/
structure Sane (l : Loop) : Prop where
  quiet : ∀ k, l.isSettled k = true → l.watchers k = []
  sorted : l.timers.Pairwise fun x y => x.due ≤ y.due
  due : ∀ x ∈ l.timers, l.now ≤ x.due
  counted : ∀ x ∈ l.timers, x.id < l.timerCount
  endings : ∀ u k, l.ending? u = some k → k < l.tickets.length
  distinct : ∀ u v k, l.ending? u = some k → l.ending? v = some k → u = v

/-- What happens between two turns, or in one, to all tickets but some. -/
structure Passes (P : Nat → Prop) (l l' : Loop) : Prop where
  grows : l.Grows l'
  sane : l.Sane → l'.Sane
  timers : l.timerCount ≤ l'.timerCount ∧ ∀ x ∈ l'.timers, x ∈ l.timers ∨ l.timerCount ≤ x.id
  kept : ∀ k, ¬ P k → Kept k l l'

/-- No task is forgotten. -/
structure Drives (l l' : Loop) : Prop where
  now : l'.now = l.now
  jobs : ∀ j ∈ l.ready, j ∈ l'.ready
  wakes : ∀ u k, Watcher.task u ∈ l.watchers k →
    Watcher.task u ∈ l'.watchers k ∨ l'.isSettled k = true ∧ .wake u k ∈ l'.ready
  begins : ∀ u, l.tasks.length ≤ u → u < l'.tasks.length → .begin u ∈ l'.ready
  begun : ∀ u k, l'.ending? u = some k → l.ending? u = some k ∨ l.tickets.length ≤ k
  waiting : ∀ u, l'.waitingFor? u = l.waitingFor? u

/-- What a task does to all tickets but some. -/
structure Does (P : Nat → Prop) (l l' : Loop) : Prop extends Passes P l l', Drives l l' where
  outcomes : ∀ k, ¬ P k → l'.outcome? k = l.outcome? k

theorem Passes.trans (h : l.Passes P l') (h' : l'.Passes P l'') : l.Passes P l'' where
  grows := h.grows.trans h'.grows
  sane s := h'.sane (h.sane s)
  timers := by
    refine ⟨Nat.le_trans h.timers.1 h'.timers.1, fun x hx => ?_⟩
    rcases h'.timers.2 x hx with hx | new
    · exact h.timers.2 x hx
    · exact .inr (Nat.le_trans h.timers.1 new)
  kept k free := (h.kept k free).trans (h'.kept k free) h'.grows

theorem Passes.mono (h : l.Passes P l') (more : ∀ k, P k → P' k) : l.Passes P' l' :=
  ⟨h.grows, h.sane, h.timers, fun k free => h.kept k fun e => free (more k e)⟩

theorem Passes.refl (l : Loop) : l.Passes P l :=
  ⟨.refl l, fun h => h, ⟨Nat.le_refl _, fun _ h => .inl h⟩, fun k _ => .refl k l⟩

theorem Drives.refl (l : Loop) : l.Drives l :=
  ⟨rfl, fun _ h => h, fun _ _ h => .inl h, fun _ lo hi => absurd lo (Nat.not_le_of_lt hi), fun _ _ h => .inl h, fun _ => rfl⟩

theorem Drives.trans (h : l.Drives l') (h' : l'.Drives l'') (grows' : l.tickets.length ≤ l'.tickets.length)
    (grows : l'.Grows l'') : l.Drives l'' where
  now := h'.now.trans h.now
  jobs j hj := h'.jobs j (h.jobs j hj)
  wakes u k watches := (h.wakes u k watches).elim (h'.wakes u k) fun woken => .inr ⟨grows.settled woken.1, h'.jobs _ woken.2⟩
  begins u lo hi := by
    rcases Nat.lt_or_ge u l'.tasks.length with old | new
    · exact h'.jobs _ (h.begins u lo old)
    · exact h'.begins u new hi
  begun u k ending := by
    rcases h'.begun u k ending with old | new
    · exact h.begun u k old
    · exact .inr (Nat.le_trans grows' new)
  waiting u := (h'.waiting u).trans (h.waiting u)

namespace Does

theorem refl (l : Loop) : l.Does P l :=
  ⟨.refl l, .refl l, fun _ _ => rfl⟩

theorem trans (h : l.Does P l') (h' : l'.Does P l'') : l.Does P l'' :=
  ⟨h.toPasses.trans h'.toPasses, h.toDrives.trans h'.toDrives h.grows.issued h'.grows,
    fun k free => (h'.outcomes k free).trans (h.outcomes k free)⟩

theorem mono (h : l.Does P l') (more : ∀ k, P k → P' k) : l.Does P' l' :=
  ⟨h.toPasses.mono more, h.toDrives, fun k free => h.outcomes k fun e => free (more k e)⟩

end Does

/-! ## Tickets -/

theorem watchers_of_eq (tickets : l'.tickets = l.tickets) (k : Nat) : l'.watchers k = l.watchers k := by
  simp only [watchers, tickets]

theorem isSettled_of_eq (tickets : l'.tickets = l.tickets) (k : Nat) : l'.isSettled k = l.isSettled k := by
  simp only [isSettled, outcome?, tickets]

@[simp] theorem watchers_issue (l : Loop) (k : Nat) : l.issue.2.watchers k = l.watchers k := by
  rcases Nat.lt_trichotomy k l.tickets.length with h | h | h
  · simp [watchers, issue, List.getElem?_append_left h]
  · subst h
    simp [watchers, issue]
  · have before : l.tickets[k]? = none := List.getElem?_eq_none (Nat.le_of_lt h)
    have after : (l.tickets ++ [⟨none, []⟩])[k]? = none := List.getElem?_eq_none (by simpa using Nat.succ_le_of_lt h)
    simp only [watchers, issue, before, after]

@[simp] theorem isSettled_issue (l : Loop) (k : Nat) : l.issue.2.isSettled k = l.isSettled k := by
  simp only [isSettled, outcome?_issue]

/-- A loop with the same tasks, timers and time, and the same jobs apart from some that settle nothing. -/
theorem Kept.of_same (time : l.now ≤ l'.now) (timers : l'.timers = l.timers) (nears : l'.Nears k ↔ l.Nears k)
    (watchers : ∀ j, Watcher.ticket k ∈ l'.watchers j ↔ Watcher.ticket k ∈ l.watchers j)
    (settled : l'.isSettled k = l.isSettled k) : Kept k l l' where
  time := time
  ready near := .inr (nears.mpr near)
  timers _ hx _ := .inl (timers ▸ hx)
  watchers j hj := .inl ((watchers j).mpr hj)
  settles h := .inl (.inl (settled ▸ h))
  nears near := .inl (nears.mp near)
  noTimers _ hx _ := timers ▸ hx
  noWatchers j hj := (watchers j).mp hj

/-- A loop with the same tickets, tasks, timers and time. -/
theorem Sane.of_same (h : l.Sane) (tickets : l'.tickets = l.tickets) (endings : ∀ u, l'.ending? u = l.ending? u)
    (timers : l'.timers = l.timers) (count : l'.timerCount = l.timerCount) (now : l'.now = l.now) : l'.Sane where
  quiet k settled := by
    rw [watchers_of_eq tickets]
    exact h.quiet k ((isSettled_of_eq tickets k).symm.trans settled)
  sorted := by rw [timers]; exact h.sorted
  due x hx := by rw [now]; exact h.due x (timers ▸ hx)
  counted x hx := by rw [count]; exact h.counted x (timers ▸ hx)
  endings u k e := by rw [tickets]; exact h.endings u k (by rw [← endings]; exact e)
  distinct u v k e e' := h.distinct u v k (by rw [← endings]; exact e) (by rw [← endings]; exact e')

theorem Sane.issue (h : l.Sane) : l.issue.2.Sane where
  quiet k settled := by
    rw [watchers_issue]
    exact h.quiet k (by rw [isSettled_issue] at settled; exact settled)
  sorted := h.sorted
  due := h.due
  counted := h.counted
  endings u k e := Nat.lt_of_lt_of_le (h.endings u k e) l.grows_issue.issued
  distinct := h.distinct

theorem Kept.issue (l : Loop) (k : Nat) : Kept k l l.issue.2 :=
  .of_same (Nat.le_refl _) rfl .rfl (fun j => by rw [watchers_issue]) (isSettled_issue l k)

theorem does_issue (l : Loop) : l.Does P l.issue.2 where
  grows := l.grows_issue
  sane := Sane.issue
  kept k _ := .issue l k
  now := rfl
  jobs _ h := h
  wakes u k h := .inl (by rwa [watchers_issue])
  begins _ lo hi := absurd lo (Nat.not_le_of_lt hi)
  begun _ _ h := .inl h
  waiting _ := rfl
  timers := ⟨Nat.le_refl _, fun _ h => .inl h⟩
  outcomes k _ := outcome?_issue l k

theorem watchers_settle (l : Loop) (j : Nat) (r : Except Fault Json) (k : Nat) :
    (l.settle j r).watchers k = l.watchers k ∨ k = j ∧ (l.settle j r).watchers k = [] := by
  rcases settle_cases l j r with same | ⟨ws, found, step⟩
  · exact .inl (by rw [same])
  · rw [step]
    by_cases e : k = j
    · subst e
      have bound := (List.getElem?_eq_some_iff.mp found).1
      exact .inr ⟨rfl, by simp only [watchers, List.getElem?_set_self bound, Option.map_some, Option.getD_some]⟩
    · exact .inl (by simp only [watchers, List.getElem?_set_ne (Ne.symm e)])

/-- Who waits for a ticket that is settled is told. -/
theorem mem_watchers_settle {l : Loop} {j k : Nat} {r : Except Fault Json} {w : Watcher} (h : w ∈ l.watchers k) :
    w ∈ (l.settle j r).watchers k ∨ (l.settle j r).isSettled k = true ∧ watcherJob k w ∈ (l.settle j r).ready := by
  rcases settle_cases l j r with same | ⟨ws, found, step⟩
  · exact .inl (by rw [same]; exact h)
  · by_cases e : k = j
    · subst e
      have bound := (List.getElem?_eq_some_iff.mp found).1
      obtain ⟨r', settled, -⟩ := isSome_outcome?_settle (l := l) (k := k) r bound
      refine .inr ⟨Option.isSome_iff_exists.mpr ⟨r', settled⟩, ?_⟩
      rw [step]
      simp only [watchers, found, Option.map_some, Option.getD_some] at h
      exact List.mem_append_right _ (List.mem_map.mpr ⟨w, h, rfl⟩)
    · refine .inl ?_
      rw [step]
      simpa only [watchers, List.getElem?_set_ne (Ne.symm e)] using h

theorem isSettled_settle_ne {j : Nat} {r : Except Fault Json} (h : k ≠ j) : (l.settle j r).isSettled k = l.isSettled k := by
  rcases settle_cases l j r with same | ⟨ws, found, step⟩
  · rw [same]
  · rw [step]; simp only [isSettled, outcome?, List.getElem?_set_ne (Ne.symm h)]

theorem isSettled_settle {j : Nat} (r : Except Fault Json) (h : j < l.tickets.length) :
    (l.settle j r).isSettled j = true := by
  obtain ⟨r', settled, -⟩ := isSome_outcome?_settle (l := l) r h
  exact Option.isSome_iff_exists.mpr ⟨r', settled⟩

theorem ready_settle (l : Loop) (j : Nat) (r : Except Fault Json) :
    ∃ ws, (l.settle j r).ready = l.ready ++ ws.map (watcherJob j) ∧ (ws = [] ∨ ws = l.watchers j ∧ (l.settle j r).isSettled j = true) := by
  rcases settle_cases l j r with same | ⟨ws, found, step⟩
  · exact ⟨[], by simp [same], .inl rfl⟩
  · refine ⟨ws, by rw [step], .inr ⟨by simp only [watchers, found, Option.map_some, Option.getD_some], ?_⟩⟩
    exact isSettled_settle r (List.getElem?_eq_some_iff.mp found).1

@[simp] theorem timerCount_settle (l : Loop) (j : Nat) (r : Except Fault Json) :
    (l.settle j r).timerCount = l.timerCount := by
  rcases settle_cases l j r with same | ⟨ws, -, step⟩
  · rw [same]
  · rw [step]

@[simp] theorem now_settle_eq (l : Loop) (j : Nat) (r : Except Fault Json) : (l.settle j r).now = l.now := by
  rcases settle_cases l j r with same | ⟨ws, -, step⟩
  · rw [same]
  · rw [step]

theorem Sane.settle (h : l.Sane) (j : Nat) (r : Except Fault Json) : (l.settle j r).Sane where
  quiet k settled := by
    rcases watchers_settle l j r k with same | ⟨-, none⟩
    · by_cases e : k = j
      · subst e
        rcases settle_cases l k r with unchanged | ⟨ws, found, step⟩
        · rw [unchanged] at settled ⊢
          exact h.quiet k settled
        · have bound := (List.getElem?_eq_some_iff.mp found).1
          rw [step]
          simp only [watchers, List.getElem?_set_self bound, Option.map_some, Option.getD_some]
      · rw [same]
        exact h.quiet k (by rwa [isSettled_settle_ne e] at settled)
    · exact none
  sorted := by rw [timers_settle]; exact h.sorted
  due x hx := by rw [now_settle_eq]; exact h.due x (by rwa [timers_settle] at hx)
  counted x hx := by rw [timerCount_settle]; exact h.counted x (by rwa [timers_settle] at hx)
  endings u k e := by
    rw [length_tickets_settle]
    exact h.endings u k (by simpa only [ending?, tasks_settle] using e)
  distinct u v k e e' :=
    h.distinct u v k (by simpa only [ending?, tasks_settle] using e) (by simpa only [ending?, tasks_settle] using e')

theorem Kept.settle {j : Nat} {r : Except Fault Json} (h : k ≠ j) : Kept k l (l.settle j r) := by
  have back (i : Nat) (hi : Watcher.ticket k ∈ (l.settle j r).watchers i) : Watcher.ticket k ∈ l.watchers i := by
    rcases watchers_settle l j r i with same | ⟨-, none⟩
    · rwa [same] at hi
    · rw [none] at hi; cases hi
  obtain ⟨ws, ready, from_⟩ := ready_settle l j r
  refine
    { time := Nat.le_of_eq (now_settle_eq ..).symm
      ready := fun ⟨v, near⟩ => .inr ⟨v, by rw [ready]; exact List.mem_append_left _ near⟩
      timers := fun _ hx _ => .inl (by rwa [timers_settle])
      watchers := fun i hi => (mem_watchers_settle hi).imp_right fun ⟨settled, near⟩ => ⟨settled, .inr ⟨_, near⟩⟩
      settles := fun settled => .inl (.inl (by rwa [isSettled_settle_ne h] at settled))
      nears := fun ⟨v, near⟩ => ?_
      noTimers := fun _ hx _ => by rwa [timers_settle] at hx
      noWatchers := back }
  rw [ready] at near
  rcases List.mem_append.mp near with near | near
  · exact .inl ⟨v, near⟩
  · obtain ⟨w, hw, e⟩ := List.mem_map.mp near
    cases w with
    | task => cases e
    | ticket w =>
      cases e
      rcases from_ with rfl | ⟨rfl, settled⟩
      · cases hw
      · exact .inr (.inr ⟨j, hw, settled⟩)

/-- A ticket that is settled feeds no other one that was not fed. -/
theorem not_fed_settle (j : Nat) (r : Except Fault Json) (h : ¬ l.Fed k) : ¬ (l.settle j r).Fed k := by
  rintro (⟨v, near⟩ | ⟨x, hx, rings⟩ | ⟨i, hi⟩)
  · obtain ⟨ws, ready, from_⟩ := ready_settle l j r
    rw [ready] at near
    rcases List.mem_append.mp near with near | near
    · exact h (.inl ⟨v, near⟩)
    · obtain ⟨w, hw, e⟩ := List.mem_map.mp near
      cases w with
      | task => cases e
      | ticket w =>
        cases e
        rcases from_ with rfl | ⟨rfl, -⟩
        · cases hw
        · exact h (.inr (.inr ⟨j, hw⟩))
  · exact h (.inr (.inl ⟨x, by rwa [timers_settle] at hx, rings⟩))
  · rcases watchers_settle l j r i with same | ⟨-, none⟩
    · exact h (.inr (.inr ⟨i, by rwa [same] at hi⟩))
    · rw [none] at hi; cases hi

@[simp] theorem apart_settle (j : Nat) (r : Except Fault Json) : (l.settle j r).Apart k ↔ l.Apart k := by
  simp only [Apart, ending?, tasks_settle, length_tickets_settle]

theorem does_settle (j : Nat) (r : Except Fault Json) : l.Does (fun k => k = j) (l.settle j r) where
  grows := l.grows_settle j r
  sane h := h.settle j r
  kept k other := .settle other
  now := now_settle_eq ..
  jobs job hj := by
    obtain ⟨ws, ready, -⟩ := ready_settle l j r
    rw [ready]
    exact List.mem_append_left _ hj
  wakes u k h := mem_watchers_settle h
  begins u lo hi := absurd (by rwa [tasks_settle] at hi) (Nat.not_lt_of_le lo)
  begun u k h := .inl (by simpa only [ending?, tasks_settle] using h)
  waiting u := by simp only [waitingFor?, tasks_settle]
  timers := ⟨Nat.le_of_eq (timerCount_settle ..).symm, fun x hx => .inl (by rwa [timers_settle] at hx)⟩
  outcomes k other := by
    rcases settle_cases l j r with same | ⟨ws, -, step⟩
    · rw [same]
    · rw [step]; simp only [outcome?, List.getElem?_set_ne (Ne.symm other)]

/-- A watcher is noted, or is told at once. -/
theorem watch_cases (l : Loop) (j : Nat) (w : Watcher) :
    (∃ ws, l.tickets[j]? = some ⟨none, ws⟩ ∧
      l.watch j w = { l with tickets := l.tickets.set j ⟨none, ws ++ [w]⟩ }) ∨
    (l.isSettled j = true ∧ l.watch j w = l.soon (watcherJob j w)) ∨ (l.tickets[j]? = none ∧ l.watch j w = l) := by
  unfold watch
  rcases found : l.tickets[j]? with _ | ⟨_ | r, ws⟩
  · exact .inr (.inr ⟨rfl, rfl⟩)
  · exact .inl ⟨ws, rfl, rfl⟩
  · exact .inr (.inl ⟨by simp [isSettled, outcome?, found], rfl⟩)

theorem mem_watchers_watch {j k : Nat} {w w' : Watcher} (h : w' ∈ l.watchers k) : w' ∈ (l.watch j w).watchers k := by
  rcases watch_cases l j w with ⟨ws, found, step⟩ | ⟨-, step⟩ | ⟨-, step⟩
  · rw [step]
    by_cases e : k = j
    · subst e
      simp only [watchers, found, Option.map_some, Option.getD_some] at h
      simp only [watchers, List.getElem?_set_self (List.getElem?_eq_some_iff.mp found).1, Option.map_some, Option.getD_some]
      exact List.mem_append_left _ h
    · simpa only [watchers, List.getElem?_set_ne (Ne.symm e)] using h
  · rw [step]; exact h
  · rw [step]; exact h

theorem of_mem_watchers_watch {j k : Nat} {w w' : Watcher} (h : w' ∈ (l.watch j w).watchers k) :
    w' ∈ l.watchers k ∨ k = j ∧ w' = w := by
  rcases watch_cases l j w with ⟨ws, found, step⟩ | ⟨-, step⟩ | ⟨-, step⟩
  · rw [step] at h
    by_cases e : k = j
    · subst e
      simp only [watchers, List.getElem?_set_self (List.getElem?_eq_some_iff.mp found).1, Option.map_some,
        Option.getD_some] at h
      rcases List.mem_append.mp h with h | h
      · exact .inl (by simpa only [watchers, found, Option.map_some, Option.getD_some] using h)
      · exact .inr ⟨rfl, List.mem_singleton.mp h⟩
    · exact .inl (by simpa only [watchers, List.getElem?_set_ne (Ne.symm e)] using h)
  · rw [step] at h; exact .inl h
  · rw [step] at h; exact .inl h

@[simp] theorem isSettled_watch (l : Loop) (j k : Nat) (w : Watcher) : (l.watch j w).isSettled k = l.isSettled k := by
  simp only [isSettled, outcome?_watch]

/-- Who watches a ticket is noted or told. -/
theorem watch_self {j : Nat} (w : Watcher) (issued : j < l.tickets.length) :
    w ∈ (l.watch j w).watchers j ∨ l.isSettled j = true ∧ watcherJob j w ∈ (l.watch j w).ready := by
  rcases watch_cases l j w with ⟨ws, found, step⟩ | ⟨settled, step⟩ | ⟨none, -⟩
  · refine .inl ?_
    rw [step]
    simp only [watchers, List.getElem?_set_self issued, Option.map_some, Option.getD_some]
    exact List.mem_append_right _ (List.mem_singleton_self w)
  · refine .inr ⟨settled, ?_⟩
    rw [step]
    exact List.mem_append_right _ (List.mem_singleton_self _)
  · exact absurd (List.getElem?_eq_none_iff.mp none) (Nat.not_le_of_lt issued)

theorem ready_watch (l : Loop) (j : Nat) (w : Watcher) :
    (l.watch j w).ready = l.ready ∨ l.isSettled j = true ∧ (l.watch j w).ready = l.ready ++ [watcherJob j w] := by
  rcases watch_cases l j w with ⟨ws, found, step⟩ | ⟨settled, step⟩ | ⟨none, step⟩
  · exact .inl (by rw [step])
  · exact .inr ⟨settled, by rw [step]; rfl⟩
  · exact .inl (by rw [step])

@[simp] theorem timerCount_watch (l : Loop) (j : Nat) (w : Watcher) : (l.watch j w).timerCount = l.timerCount := by
  unfold watch; split <;> rfl

@[simp] theorem now_watch_eq (l : Loop) (j : Nat) (w : Watcher) : (l.watch j w).now = l.now := by
  unfold watch; split <;> rfl

theorem Sane.watch (h : l.Sane) (j : Nat) (w : Watcher) : (l.watch j w).Sane where
  quiet k settled := by
    rw [isSettled_watch] at settled
    refine List.eq_nil_iff_forall_not_mem.mpr fun w' hw' => ?_
    rcases of_mem_watchers_watch hw' with old | ⟨rfl, rfl⟩
    · rw [h.quiet k settled] at old; cases old
    · rcases watch_cases l k w' with ⟨ws, found, -⟩ | ⟨-, step⟩ | ⟨-, step⟩
      · simp [isSettled, outcome?, found] at settled
      · rw [step] at hw'
        rw [show (l.soon _).watchers k = l.watchers k from rfl, h.quiet k settled] at hw'
        cases hw'
      · rw [step, h.quiet k settled] at hw'
        cases hw'
  sorted := by rw [timers_watch]; exact h.sorted
  due x hx := by rw [now_watch_eq]; exact h.due x (by rwa [timers_watch] at hx)
  counted x hx := by rw [timerCount_watch]; exact h.counted x (by rwa [timers_watch] at hx)
  endings u k e := by
    rw [length_tickets_watch]
    exact h.endings u k (by simpa only [ending?, tasks_watch] using e)
  distinct u v k e e' :=
    h.distinct u v k (by simpa only [ending?, tasks_watch] using e) (by simpa only [ending?, tasks_watch] using e')

theorem Kept.watch {j : Nat} {w : Watcher} (h : w ≠ .ticket k) : Kept k l (l.watch j w) := by
  refine .of_same (Nat.le_of_eq (now_watch_eq ..).symm) (timers_watch ..) ⟨fun ⟨v, near⟩ => ?_, fun ⟨v, near⟩ => ?_⟩
    (fun i => ⟨fun hi => ?_, mem_watchers_watch⟩) (isSettled_watch ..)
  · rcases ready_watch l j w with same | ⟨-, more⟩
    · exact ⟨v, by rwa [same] at near⟩
    · rw [more] at near
      rcases List.mem_append.mp near with near | near
      · exact ⟨v, near⟩
      · cases w with
        | task => cases List.mem_singleton.mp near
        | ticket w => cases List.mem_singleton.mp near; exact absurd rfl h
  · rcases ready_watch l j w with same | ⟨-, more⟩
    · exact ⟨v, by rwa [same]⟩
    · exact ⟨v, by rw [more]; exact List.mem_append_left _ near⟩
  · rcases of_mem_watchers_watch hi with old | ⟨-, e⟩
    · exact old
    · exact absurd e.symm h

theorem does_watch (j : Nat) (w : Watcher) : l.Does (fun k => w = .ticket k) (l.watch j w) where
  grows := l.grows_watch j w
  sane h := h.watch j w
  kept k other := .watch other
  now := now_watch_eq ..
  jobs job hj := by
    rcases ready_watch l j w with same | ⟨-, more⟩
    · rwa [same]
    · rw [more]; exact List.mem_append_left _ hj
  wakes u k h := .inl (mem_watchers_watch h)
  begins u lo hi := absurd (by rwa [tasks_watch] at hi) (Nat.not_lt_of_le lo)
  begun u k h := .inl (by simpa only [ending?, tasks_watch] using h)
  waiting u := by simp only [waitingFor?, tasks_watch]
  timers := ⟨Nat.le_of_eq (timerCount_watch ..).symm, fun x hx => .inl (by rwa [timers_watch] at hx)⟩
  outcomes k _ := outcome?_watch ..

@[simp] theorem isSettled_unwatch (l : Loop) (j k : Nat) (w : Watcher) : (l.unwatch j w).isSettled k = l.isSettled k := by
  simp only [isSettled, outcome?_unwatch]

theorem watchers_unwatch (l : Loop) (j k : Nat) (w : Watcher) :
    (l.unwatch j w).watchers k = if k = j then (l.watchers k).erase w else l.watchers k := by
  unfold watchers unwatch
  split
  · next e =>
    subst e
    rw [List.getElem?_modify_eq]
    rcases found : l.tickets[k]? with _ | T
    · rfl
    · rfl
  · next e => rw [List.getElem?_modify_ne _ _ (Ne.symm e)]

theorem mem_watchers_unwatch {j k : Nat} {w w' : Watcher} (ne : w' ≠ w) :
    w' ∈ (l.unwatch j w).watchers k ↔ w' ∈ l.watchers k := by
  rw [watchers_unwatch]
  split
  · exact List.mem_erase_of_ne ne
  · rfl

theorem Sane.unwatch (h : l.Sane) (j : Nat) (w : Watcher) : (l.unwatch j w).Sane where
  quiet k settled := by
    have none := h.quiet k (by rwa [isSettled_unwatch] at settled)
    rw [watchers_unwatch, none]
    split <;> rfl
  sorted := h.sorted
  due := h.due
  counted := h.counted
  endings u k e := by
    have bound := h.endings u k e
    simpa only [Loop.unwatch, List.length_modify] using bound
  distinct := h.distinct

theorem Kept.unwatch {j : Nat} {w : Watcher} (h : w ≠ .ticket k) : Kept k l (l.unwatch j w) :=
  .of_same (Nat.le_refl _) rfl .rfl (fun _ => mem_watchers_unwatch (Ne.symm h)) (isSettled_unwatch ..)

theorem does_unwatch (j r : Nat) : l.Does (fun k => k = r) (l.unwatch j (.ticket r)) where
  grows := l.grows_unwatch j _
  sane h := h.unwatch j _
  kept k other := .unwatch fun e => other (Watcher.ticket.inj e).symm
  now := rfl
  jobs _ h := h
  wakes u k h := .inl ((mem_watchers_unwatch fun e => by cases e).mpr h)
  begins _ lo hi := absurd lo (Nat.not_le_of_lt hi)
  begun _ _ h := .inl h
  waiting _ := rfl
  timers := ⟨Nat.le_refl _, fun _ h => .inl h⟩
  outcomes k _ := outcome?_unwatch ..

/-! ## Timers -/

theorem mem_insertTimer_iff {x y : Timer} {ts : List Timer} : x ∈ insertTimer y ts ↔ x = y ∨ x ∈ ts := by
  refine ⟨mem_insertTimer, fun h => ?_⟩
  induction ts with
  | nil => exact List.mem_singleton.mpr (h.resolve_right (fun h => by cases h))
  | cons z rest ih =>
    unfold insertTimer
    split
    · rcases h with h | h
      · exact List.mem_cons_of_mem _ (ih (.inl h))
      · rcases List.mem_cons.mp h with rfl | h
        · exact List.mem_cons_self
        · exact List.mem_cons_of_mem _ (ih (.inr h))
    · exact List.mem_cons.mpr h

theorem sorted_insertTimer {y : Timer} {ts : List Timer} (h : ts.Pairwise fun x y => x.due ≤ y.due) :
    (insertTimer y ts).Pairwise fun x y => x.due ≤ y.due := by
  induction ts with
  | nil => exact List.pairwise_singleton _ _
  | cons z rest ih =>
    obtain ⟨first, sorted⟩ := List.pairwise_cons.mp h
    unfold insertTimer
    split
    · next before =>
      refine List.pairwise_cons.mpr ⟨fun x hx => ?_, ih sorted⟩
      rcases mem_insertTimer hx with rfl | hx
      · exact before
      · exact first x hx
    · next behind =>
      refine List.pairwise_cons.mpr ⟨fun x hx => ?_, h⟩
      rcases List.mem_cons.mp hx with rfl | hx
      · exact Nat.le_of_lt (Nat.lt_of_not_le behind)
      · exact Nat.le_trans (Nat.le_of_lt (Nat.lt_of_not_le behind)) (first x hx)

theorem Sane.later (h : l.Sane) (nanos : Nat) (job : Job) : (l.later nanos job).2.Sane where
  quiet := h.quiet
  sorted := sorted_insertTimer h.sorted
  due x hx := by
    rcases mem_insertTimer hx with rfl | hx
    · exact Nat.le_add_right ..
    · exact h.due x hx
  counted x hx := by
    rcases mem_insertTimer hx with rfl | hx
    · exact Nat.lt_succ_self _
    · exact Nat.lt_succ_of_lt (h.counted x hx)
  endings := h.endings
  distinct := h.distinct

theorem Kept.later {nanos : Nat} {job : Job} (h : ∀ v, job ≠ .settle k v) : Kept k l (l.later nanos job).2 where
  time := Nat.le_refl _
  ready := .inr
  timers x hx _ := .inl (mem_insertTimer_iff.mpr (.inr hx))
  watchers _ hj := .inl hj
  settles h := .inl (.inl h)
  nears := .inl
  noTimers x hx rings := by
    rcases mem_insertTimer hx with rfl | hx
    · obtain ⟨v, e⟩ := rings
      exact absurd e (h v)
    · exact hx
  noWatchers _ hj := hj

theorem does_later (nanos : Nat) (job : Job) : l.Does (fun k => ∃ v, job = .settle k v) (l.later nanos job).2 where
  grows := l.grows_later nanos job
  sane h := h.later nanos job
  kept k other := .later fun v e => other ⟨v, e⟩
  now := rfl
  jobs _ h := h
  wakes _ _ h := .inl h
  begins _ lo hi := absurd lo (Nat.not_le_of_lt hi)
  begun _ _ h := .inl h
  waiting _ := rfl
  timers := by
    refine ⟨Nat.le_succ _, fun x hx => ?_⟩
    rcases mem_insertTimer hx with rfl | hx
    · exact .inr (Nat.le_refl _)
    · exact .inl hx
  outcomes _ _ := rfl

/-- The timer that was set. -/
theorem exists_later (l : Loop) (nanos : Nat) (job : Job) :
    ∃ x ∈ (l.later nanos job).2.timers, x.id = l.timerCount ∧ x.due = l.now + nanos ∧ x.job = job :=
  ⟨⟨l.timerCount, l.now + nanos, job⟩, mem_insertTimer_iff.mpr (.inl rfl), rfl, rfl, rfl⟩

theorem Sane.dropTimer (h : l.Sane) (id : Nat) : (l.dropTimer id).Sane where
  quiet := h.quiet
  sorted := h.sorted.filter _
  due x hx := h.due x (List.mem_filter.mp hx).1
  counted x hx := h.counted x (List.mem_filter.mp hx).1
  endings := h.endings
  distinct := h.distinct

theorem does_dropTimer (id : Nat) :
    l.Does (fun k => ∃ x ∈ l.timers, x.id = id ∧ x.Rings k) (l.dropTimer id) where
  grows := l.grows_dropTimer id
  sane h := h.dropTimer id
  kept _ other :=
    { time := Nat.le_refl _
      ready := .inr
      timers := fun x hx rings => .inl (List.mem_filter.mpr ⟨hx, decide_eq_true fun e => other ⟨x, hx, e, rings⟩⟩)
      watchers := fun _ hj => .inl hj
      settles := fun h => .inl (.inl h)
      nears := .inl
      noTimers := fun _ hx _ => (List.mem_filter.mp hx).1
      noWatchers := fun _ hj => hj }
  now := rfl
  jobs _ h := h
  wakes _ _ h := .inl h
  begins _ lo hi := absurd lo (Nat.not_le_of_lt hi)
  begun _ _ h := .inl h
  waiting _ := rfl
  timers := ⟨Nat.le_refl _, fun _ hx => .inl (List.mem_filter.mp hx).1⟩
  outcomes _ _ := rfl

/-! ## Tasks -/

theorem kept_soon {job : Job} (h : ∀ v, job ≠ .settle k v) : Kept k l (l.soon job) := by
  refine .of_same (Nat.le_refl _) rfl ⟨fun ⟨v, near⟩ => ?_, fun ⟨v, near⟩ => ⟨v, List.mem_append_left _ near⟩⟩
    (fun _ => .rfl) rfl
  rcases List.mem_append.mp near with near | near
  · exact ⟨v, near⟩
  · exact absurd (List.mem_singleton.mp near).symm (h v)

theorem does_soon {job : Job} (other : ∀ k v, job ≠ .settle k v) : l.Does P (l.soon job) where
  grows := l.grows_soon job
  sane h := h.of_same rfl (fun _ => rfl) rfl rfl rfl
  kept k _ := kept_soon (other k)
  now := rfl
  jobs _ h := List.mem_append_left _ h
  wakes _ _ h := .inl h
  begins _ lo hi := absurd lo (Nat.not_le_of_lt hi)
  begun _ _ h := .inl h
  waiting _ := rfl
  timers := ⟨Nat.le_refl _, fun _ h => .inl h⟩
  outcomes _ _ := rfl

theorem ending?_start_cases {κ : TaskKind} {u j : Nat} (h : (l.start κ).2.ending? u = some j) :
    l.ending? u = some j ∨ u = l.tasks.length ∧ j = l.tickets.length := by
  rcases Nat.lt_trichotomy u l.tasks.length with old | rfl | far
  · exact .inl (by simpa only [ending?, tasks_start, List.getElem?_append_left old] using h)
  · rw [ending?_start] at h
    exact .inr ⟨rfl, (Option.some.inj h).symm⟩
  · have none : (l.start κ).2.tasks[u]? = none := List.getElem?_eq_none (by rw [length_tasks_start]; exact far)
    simp only [ending?, none] at h
    cases h

theorem does_start (κ : TaskKind) : l.Does P (l.start κ).2 where
  grows := l.grows_start κ
  sane h :=
    { quiet := h.issue.quiet
      sorted := h.sorted
      due := h.due
      counted := h.counted
      endings := fun u k e => by
        rcases ending?_start_cases e with old | ⟨-, rfl⟩
        · exact Nat.lt_of_lt_of_le (h.endings u k old) (l.grows_start κ).issued
        · simp [start, soon, issue]
      distinct := fun u v k e e' => by
        rcases ending?_start_cases e with old | ⟨rfl, rfl⟩
        · rcases ending?_start_cases e' with old' | ⟨rfl, rfl⟩
          · exact h.distinct u v k old old'
          · exact absurd (h.endings u _ old) (Nat.lt_irrefl _)
        · rcases ending?_start_cases e' with old' | ⟨rfl, -⟩
          · exact absurd (h.endings v _ old') (Nat.lt_irrefl _)
          · rfl }
  kept k _ := by
    refine .of_same (Nat.le_refl _) rfl ⟨?_, ?_⟩
      (fun j => by rw [show (l.start κ).2.watchers j = l.issue.2.watchers j from rfl, watchers_issue]) (isSettled_issue l k)
    · rintro ⟨v, near⟩
      rcases List.mem_append.mp near with near | near
      · exact ⟨v, near⟩
      · cases List.mem_singleton.mp near
    · rintro ⟨v, near⟩
      exact ⟨v, List.mem_append_left _ near⟩
  now := rfl
  jobs _ h := List.mem_append_left _ h
  wakes u k h := .inl (by rw [show (l.start κ).2.watchers k = l.issue.2.watchers k from rfl, watchers_issue]; exact h)
  begins u lo hi := by
    rw [length_tasks_start] at hi
    obtain rfl : u = l.tasks.length := Nat.le_antisymm (Nat.le_of_lt_succ hi) lo
    exact List.mem_append_right _ (List.mem_singleton_self _)
  begun u k h := (ending?_start_cases h).imp_right fun new => Nat.le_of_eq new.2.symm
  waiting u := by
    simp only [waitingFor?, tasks_start]
    rcases Nat.lt_trichotomy u l.tasks.length with old | rfl | far
    · rw [List.getElem?_append_left old]
    · simp
    · rw [List.getElem?_eq_none (by simpa using Nat.succ_le_of_lt far), List.getElem?_eq_none (Nat.le_of_lt far)]
  timers := ⟨Nat.le_refl _, fun _ h => .inl h⟩
  outcomes k _ := outcome?_start l κ k

theorem kind?_start_cases {u : Nat} {κ κ' : TaskKind} (h : (l.start κ).2.kind? u = some κ') :
    l.kind? u = some κ' ∨ u = l.tasks.length ∧ κ' = κ := by
  rcases Nat.lt_trichotomy u l.tasks.length with old | rfl | far
  · exact .inl (by simpa only [kind?, tasks_start, List.getElem?_append_left old] using h)
  · simp only [kind?, tasks_start, List.getElem?_concat_length, Option.map_some, Option.some.injEq] at h
    exact .inr ⟨rfl, h.symm⟩
  · have none : (l.start κ).2.tasks[u]? = none := List.getElem?_eq_none (by rw [length_tasks_start]; exact far)
    simp only [kind?, none] at h
    cases h

theorem isInterrupted_start (κ : TaskKind) (u : Nat) : (l.start κ).2.isInterrupted u = l.isInterrupted u := by
  simp only [isInterrupted, tasks_start]
  rcases Nat.lt_trichotomy u l.tasks.length with old | rfl | far
  · rw [List.getElem?_append_left old]
  · simp
  · rw [List.getElem?_eq_none (by simpa using Nat.succ_le_of_lt far), List.getElem?_eq_none (Nat.le_of_lt far)]

/-- A task is to be interrupted. -/
def interrupt (l : Loop) (u : Nat) : Loop := { l with tasks := l.tasks.modify u fun T => { T with interrupted := true } }

theorem interrupt_eq {u : Nat} {T : TaskState} (found : l.tasks[u]? = some T) :
    { l with tasks := l.tasks.set u { T with interrupted := true } } = l.interrupt u := by
  have same : l.tasks.set u { T with interrupted := true } = l.tasks.modify u fun T => { T with interrupted := true } := by
    apply List.ext_getElem?
    intro v
    by_cases e : u = v
    · subst e
      rw [List.getElem?_set_self (List.getElem?_eq_some_iff.mp found).1, List.getElem?_modify_eq, found]
      rfl
    · rw [List.getElem?_set_ne e, List.getElem?_modify_ne _ _ e]
  rw [same]; rfl

theorem kind?_interrupt (u v : Nat) : (l.interrupt u).kind? v = l.kind? v := by
  simp only [kind?, interrupt]
  by_cases e : u = v
  · subst e
    simp only [List.getElem?_modify_eq]
    cases l.tasks[u]? <;> rfl
  · rw [List.getElem?_modify_ne _ _ e]

theorem waitingFor?_interrupt (u v : Nat) : (l.interrupt u).waitingFor? v = l.waitingFor? v := by
  simp only [waitingFor?, interrupt]
  by_cases e : u = v
  · subst e
    simp only [List.getElem?_modify_eq]
    cases l.tasks[u]? <;> rfl
  · rw [List.getElem?_modify_ne _ _ e]

theorem ending?_interrupt (u v : Nat) : (l.interrupt u).ending? v = l.ending? v := by
  simp only [ending?, interrupt]
  by_cases e : u = v
  · subst e
    simp only [List.getElem?_modify_eq]
    cases l.tasks[u]? <;> rfl
  · rw [List.getElem?_modify_ne _ _ e]

theorem isInterrupted_interrupt {u v : Nat} (h : (l.interrupt u).isInterrupted v = true) :
    v = u ∨ l.isInterrupted v = true := by
  by_cases e : u = v
  · exact .inl e.symm
  · exact .inr (by simpa only [isInterrupted, interrupt, List.getElem?_modify_ne _ _ e] using h)

theorem isInterrupted_interrupt_self {u : Nat} {κ : TaskKind} (h : l.kind? u = some κ) : (l.interrupt u).isInterrupted u = true := by
  obtain ⟨T, found, -⟩ := Option.map_eq_some_iff.mp h
  simp only [isInterrupted, interrupt, List.getElem?_modify_eq, found]
  rfl

theorem isInterrupted_interrupt_mono {u v : Nat} (h : l.isInterrupted v = true) :
    (l.interrupt u).isInterrupted v = true := by
  by_cases e : u = v
  · subst e
    obtain ⟨T, found, -⟩ : ∃ T, l.tasks[u]? = some T ∧ T.interrupted = true := by
      rcases found : l.tasks[u]? with _ | T
      · simp [isInterrupted, found] at h
      · exact ⟨T, rfl, by simpa [isInterrupted, found] using h⟩
    exact isInterrupted_interrupt_self (κ := T.kind) (by simp only [kind?, found, Option.map_some])
  · simpa only [isInterrupted, interrupt, List.getElem?_modify_ne _ _ e] using h

/-- A task is changed in what is not about its end. -/
theorem passes_modify {u : Nat} {f : TaskState → TaskState} (kind : ∀ T, (f T).kind = T.kind)
    (ending : ∀ T, (f T).ending = T.ending) : l.Passes P { l with tasks := l.tasks.modify u f } where
  grows := grows_setTasks kind ending
  sane h := by
    refine h.of_same rfl (fun v => ?_) rfl rfl rfl
    by_cases e : u = v
    · subst e
      simp only [ending?, List.getElem?_modify_eq, Option.map_eq_map, Option.map_map]
      cases l.tasks[u]? <;> simp [ending]
    · simp only [ending?, List.getElem?_modify_ne _ _ e]
  timers := ⟨Nat.le_refl _, fun _ h => .inl h⟩
  kept k _ := .of_same (Nat.le_refl _) rfl .rfl (fun _ => .rfl) rfl

theorem does_interrupt (u : Nat) : l.Does P (l.interrupt u) :=
  ⟨passes_modify (fun _ => rfl) fun _ => rfl,
    ⟨rfl, fun _ h => h, fun _ _ h => .inl h,
      fun v lo hi => absurd lo (Nat.not_le_of_lt (by simpa [interrupt] using hi)),
      fun v k h => .inl ((ending?_interrupt u v).symm.trans h), waitingFor?_interrupt u⟩,
    fun _ _ => rfl⟩

/-! ## The next job -/

theorem mem_dropWhile_due {now : Nat} {ts : List Timer} (h : ts.Pairwise fun x y => x.due ≤ y.due) {x : Timer}
    (hx : x ∈ ts.dropWhile fun x => x.due ≤ now) : now < x.due := by
  induction ts with
  | nil => cases hx
  | cons z rest ih =>
    obtain ⟨first, sorted⟩ := List.pairwise_cons.mp h
    by_cases due : z.due ≤ now
    · rw [List.dropWhile_cons_of_pos (by simpa using due)] at hx
      exact ih sorted hx
    · rw [List.dropWhile_cons_of_neg (by simpa using due)] at hx
      rcases List.mem_cons.mp hx with rfl | hx
      · exact Nat.lt_of_not_le due
      · exact Nat.lt_of_lt_of_le (Nat.lt_of_not_le due) (first x hx)

theorem drop_takeWhile (p : Timer → Bool) (ts : List Timer) : ts.drop (ts.takeWhile p).length = ts.dropWhile p := by
  have parts := List.takeWhile_append_dropWhile (p := p) (l := ts)
  generalize ts.takeWhile p = due at parts ⊢
  generalize ts.dropWhile p = rest at parts ⊢
  rw [← parts, List.drop_left]

theorem due_of_mem_takeWhile {now : Nat} {ts : List Timer} {x : Timer}
    (hx : x ∈ ts.takeWhile fun x => x.due ≤ now) : x.due ≤ now := by
  have all := List.all_takeWhile (p := fun x : Timer => decide (x.due ≤ now)) (l := ts)
  simpa using List.all_eq_true.mp all x hx

/-- Time goes on, and the timers that are due ring. -/
theorem passes_collectDue {now left : Nat} (later : l.now ≤ now) :
    l.Passes P { collectDue { l with now := now } with left := left } where
  grows := .of_eq rfl rfl
  sane h :=
    { quiet := h.quiet
      sorted := h.sorted.sublist (List.drop_sublist _ _)
      due := fun x hx => by
        simp only [collectDue, drop_takeWhile] at hx
        exact Nat.le_of_lt (mem_dropWhile_due h.sorted hx)
      counted := fun x hx => h.counted x (List.mem_of_mem_drop hx)
      endings := h.endings
      distinct := h.distinct }
  timers := ⟨Nat.le_refl _, fun _ hx => .inl (List.mem_of_mem_drop hx)⟩
  kept k _ :=
    { time := later
      ready := fun ⟨v, near⟩ => .inr ⟨v, List.mem_append_left _ near⟩
      timers := fun x hx ⟨v, e⟩ => by
        rw [← List.takeWhile_append_dropWhile (p := fun x : Timer => decide (x.due ≤ now)) (l := l.timers)] at hx
        rcases List.mem_append.mp hx with due | hx
        · exact .inr ⟨due_of_mem_takeWhile due, .inr ⟨v, List.mem_append_right _ (List.mem_map.mpr ⟨x, due, e⟩)⟩⟩
        · simp only [collectDue, drop_takeWhile]
          exact .inl hx
      watchers := fun _ hj => .inl hj
      settles := fun h => .inl (.inl h)
      nears := fun ⟨v, near⟩ => by
        rcases List.mem_append.mp near with near | near
        · exact .inl ⟨v, near⟩
        · obtain ⟨x, hx, e⟩ := List.mem_map.mp near
          exact .inr (.inl ⟨x, (List.takeWhile_sublist _).subset hx, ⟨v, e⟩, due_of_mem_takeWhile hx⟩)
      noTimers := fun x hx _ => List.mem_of_mem_drop hx
      noWatchers := fun _ hj => hj }

/-- The next job is taken. -/
theorem next?_job {job : Job} (h : l.next? = some (some job, l')) :
    ∃ rest left, l.ready = job :: rest ∧ l' = { l with ready := rest, left := left } := by
  unfold next? at h
  split at h
  · next j rest left ready _ =>
    cases h
    exact ⟨rest, left, ready, rfl⟩
  · cases h
  · split at h <;> cases h

/-- A job is taken that settles at most some tickets. -/
theorem passes_job {job : Job} (h : l.next? = some (some job, l')) :
    l.Passes (fun k => ∃ v, job = .settle k v) l' := by
  obtain ⟨rest, left, ready, rfl⟩ := next?_job h
  refine ⟨.of_eq rfl rfl, fun h => h.of_same rfl (fun _ => rfl) rfl rfl rfl, ⟨Nat.le_refl _, fun _ h => .inl h⟩,
    fun k other => ?_⟩
  refine .of_same (Nat.le_refl _) rfl ⟨fun ⟨v, near⟩ => ⟨v, ?_⟩, fun ⟨v, near⟩ => ⟨v, ?_⟩⟩ (fun _ => .rfl) rfl
  · rw [ready]; exact List.mem_cons_of_mem _ near
  · rw [ready] at near
    rcases List.mem_cons.mp near with rfl | near
    · exact absurd ⟨v, rfl⟩ other
    · exact near

/-- The next round begins. -/
theorem passes_round (h : l.next? = some (none, l')) : l.Passes P l' := by
  unfold next? at h
  split at h
  · cases h
  · cases h
    exact passes_collectDue (Nat.le_refl _)
  · split at h
    · cases h
    · cases h
      exact passes_collectDue (Nat.le_max_left ..)

/-- The next job is to settle a ticket, and does. -/
theorem passes_settle {j : Nat} {v : Json} (h : l.next? = some (some (.settle j v), l')) (issued : j < l.tickets.length) :
    l.Passes P (l'.settle j (.ok v)) := by
  have taken := passes_job h
  obtain ⟨rest, left, ready, step⟩ := next?_job h
  have near : l.Nears j := ⟨v, by rw [ready]; exact List.mem_cons_self⟩
  refine ⟨taken.grows.trans (grows_settle ..), fun sane => (taken.sane sane).settle .., ?_, fun k _ => ?_⟩
  · rw [timerCount_settle, timers_settle]
    exact taken.timers
  by_cases e : k = j
  · subst e
    have settled := isSettled_settle (l := l') (.ok v) (Nat.lt_of_lt_of_le issued taken.grows.issued)
    have timers : (l'.settle k (.ok v)).timers = l.timers := by rw [timers_settle, step]
    have same (i : Nat) : l'.watchers i = l.watchers i := watchers_of_eq (by rw [step]) i
    exact
      { time := Nat.le_of_eq (by rw [now_settle_eq, step])
        ready := fun _ => .inl settled
        timers := fun _ hx _ => .inl (by rwa [timers])
        watchers := fun i hi => (mem_watchers_settle (by rwa [same])).imp_right fun ⟨settled, near⟩ =>
          ⟨settled, .inr ⟨_, near⟩⟩
        settles := fun _ => .inl (.inr near)
        nears := fun _ => .inl near
        noTimers := fun _ hx _ => by rwa [timers] at hx
        noWatchers := fun i hi => by
          rcases watchers_settle l' k (.ok v) i with still | ⟨-, none⟩
          · rwa [still, same] at hi
          · rw [none] at hi; cases hi }
  · exact (taken.kept k fun ⟨v', e'⟩ => e (by cases e'; rfl)).trans (.settle e) (grows_settle ..)

/-- While anything is ready, time stands still, and otherwise it goes on to the next timer. -/
theorem now_round (h : l.next? = some (none, l')) :
    l'.now = l.now ∨ l.ready = [] ∧ ∃ x ∈ l.timers, l'.now = max l.now x.due ∧
      (l.Sane → ∀ y ∈ l.timers, x.due ≤ y.due) := by
  unfold next? at h
  split at h
  · cases h
  · cases h; exact .inl rfl
  · next ready =>
    split at h
    · cases h
    · next x rest timers =>
      cases h
      refine .inr ⟨ready, x, by rw [timers]; exact List.mem_cons_self, rfl, fun sane y hy => ?_⟩
      have sorted := sane.sorted
      rw [timers] at sorted hy
      rcases List.mem_cons.mp hy with rfl | hy
      · exact Nat.le_refl _
      · exact (List.pairwise_cons.mp sorted).1 y hy

end Loop

end LspHost
