import LspHost.Task.Loop

/-!
# What the operations of the event loop keep

An event loop only grows: a settled ticket stays settled the way it was, no ticket is taken back, and
a task keeps its kind and the ticket that it ends in (`Loop.Grows`). Each operation is described by the
outcomes that it adds, and all of them grow the loop.
-/

namespace LspHost

/-- Tasks that serve a session and may be cancelled. -/
def TaskKind.IsBackground : TaskKind → Prop
  | .reader _ => True
  | .drain _ => True
  | .exitWatch _ => True
  | _ => False

namespace Loop

/-- What a task does, if there is such a task. -/
def kind? (l : Loop) (task : Nat) : Option TaskKind := (l.tasks[task]?).map TaskState.kind

/-- The ticket that a task waits for, if it waits for one. -/
def waitingFor? (l : Loop) (task : Nat) : Option Nat := (l.tasks[task]?).bind TaskState.waitingFor

/-- Whether a task is to be interrupted. -/
def isInterrupted (l : Loop) (task : Nat) : Bool :=
  ((l.tasks[task]?).map TaskState.interrupted).getD false

/-- Nothing that is settled, issued or started in the first loop is different in the second. -/
structure Grows (l l' : Loop) : Prop where
  outcomes : ∀ k r, l.outcome? k = some r → l'.outcome? k = some r
  issued : l.tickets.length ≤ l'.tickets.length
  kinds : ∀ u κ, l.kind? u = some κ → l'.kind? u = some κ
  endings : ∀ u k, l.ending? u = some k → l'.ending? u = some k

theorem Grows.refl (l : Loop) : Grows l l :=
  ⟨fun _ _ h => h, Nat.le_refl _, fun _ _ h => h, fun _ _ h => h⟩

theorem Grows.trans {a b c : Loop} (h : Grows a b) (h' : Grows b c) : Grows a c where
  outcomes k r e := h'.outcomes k r (h.outcomes k r e)
  issued := Nat.le_trans h.issued h'.issued
  kinds u κ e := h'.kinds u κ (h.kinds u κ e)
  endings u k e := h'.endings u k (h.endings u k e)

/-- A loop with the same tickets and tasks has grown. -/
theorem Grows.of_eq {l l' : Loop} (tickets : l'.tickets = l.tickets) (tasks : l'.tasks = l.tasks) :
    Grows l l' where
  outcomes k r e := by simpa only [outcome?, tickets] using e
  issued := Nat.le_of_eq (congrArg List.length tickets).symm
  kinds u κ e := by simpa only [kind?, tasks] using e
  endings u k e := by simpa only [ending?, tasks] using e

theorem outcome?_lt {l : Loop} {k : Nat} {r : Except Fault Json} (h : l.outcome? k = some r) :
    k < l.tickets.length := by
  obtain ⟨T, found, -⟩ := Option.bind_eq_some_iff.mp h
  exact (List.getElem?_eq_some_iff.mp found).1

/-! ## Tickets -/

@[simp] theorem outcome?_issue (l : Loop) (k : Nat) : l.issue.2.outcome? k = l.outcome? k := by
  rcases Nat.lt_trichotomy k l.tickets.length with h | h | h
  · simp [outcome?, issue, List.getElem?_append_left h]
  · simp [outcome?, issue, h]
  · have before : l.tickets[k]? = none := List.getElem?_eq_none (Nat.le_of_lt h)
    have after : (l.tickets ++ [⟨none, []⟩])[k]? = none := List.getElem?_eq_none (by simpa using Nat.succ_le_of_lt h)
    simp only [outcome?, issue, before, after]

theorem grows_issue (l : Loop) : Grows l l.issue.2 where
  outcomes k r e := by rw [outcome?_issue]; exact e
  issued := by simp [issue]
  kinds _ _ e := e
  endings _ _ e := e

/-- Only an unsettled ticket is settled. -/
theorem settle_cases (l : Loop) (k : Nat) (r : Except Fault Json) :
    l.settle k r = l ∨
    ∃ ws, l.tickets[k]? = some ⟨none, ws⟩ ∧
      l.settle k r =
        { l with
          tickets := l.tickets.set k ⟨some r, []⟩
          ready := l.ready ++ ws.map (watcherJob k) } := by
  unfold settle
  split
  · next ws found => exact .inr ⟨ws, found, rfl⟩
  · exact .inl rfl

theorem outcome?_settle_cases {l : Loop} {k j : Nat} {r r' : Except Fault Json}
    (h : (l.settle k r).outcome? j = some r') : l.outcome? j = some r' ∨ (j = k ∧ r' = r) := by
  rcases settle_cases l k r with same | ⟨ws, found, step⟩
  · exact .inl (by rw [same] at h; exact h)
  · rw [step] at h
    by_cases e : j = k
    · subst e
      have bound := (List.getElem?_eq_some_iff.mp found).1
      simp only [outcome?, List.getElem?_set_self bound, Option.bind_some] at h
      exact .inr ⟨rfl, (Option.some.inj h).symm⟩
    · left
      simpa only [outcome?, List.getElem?_set_ne (Ne.symm e)] using h

/-- A ticket that was issued is settled after `settle`. -/
theorem isSome_outcome?_settle {l : Loop} {k : Nat} (r : Except Fault Json)
    (h : k < l.tickets.length) :
    ∃ r', (l.settle k r).outcome? k = some r' ∧ (l.outcome? k = none → r' = r) := by
  rcases hT : l.tickets[k]? with _ | ⟨_ | r₀, ws⟩
  · simp at hT; omega
  · refine ⟨r, ?_, fun _ => rfl⟩
    simp only [settle, hT, outcome?, List.getElem?_set_self h, Option.bind_some]
  · refine ⟨r₀, by simp only [settle, hT, outcome?, Option.bind_some], fun unsettled => ?_⟩
    simp only [outcome?, hT, Option.bind_some] at unsettled
    cases unsettled

theorem grows_settle (l : Loop) (k : Nat) (r : Except Fault Json) : Grows l (l.settle k r) := by
  rcases settle_cases l k r with same | ⟨ws, found, step⟩
  · rw [same]; exact .refl l
  · rw [step]
    refine ⟨fun j r' e => ?_, by simp, fun _ _ e => e, fun _ _ e => e⟩
    have ne : j ≠ k := by
      rintro rfl
      simp [outcome?, found] at e
    simpa only [outcome?, List.getElem?_set_ne (Ne.symm ne)] using e

@[simp] theorem tasks_settle (l : Loop) (k : Nat) (r : Except Fault Json) :
    (l.settle k r).tasks = l.tasks := by
  rcases settle_cases l k r with same | ⟨ws, -, step⟩
  · rw [same]
  · rw [step]

@[simp] theorem timers_settle (l : Loop) (k : Nat) (r : Except Fault Json) :
    (l.settle k r).timers = l.timers := by
  rcases settle_cases l k r with same | ⟨ws, -, step⟩
  · rw [same]
  · rw [step]

@[simp] theorem length_tickets_settle (l : Loop) (k : Nat) (r : Except Fault Json) :
    (l.settle k r).tickets.length = l.tickets.length := by
  rcases settle_cases l k r with same | ⟨ws, -, step⟩
  · rw [same]
  · rw [step]; simp

@[simp] theorem outcome?_watch (l : Loop) (k j : Nat) (w : Watcher) :
    (l.watch k w).outcome? j = l.outcome? j := by
  unfold watch
  split
  · next ws found =>
    by_cases e : j = k
    · subst e
      have bound := (List.getElem?_eq_some_iff.mp found).1
      simp only [outcome?, List.getElem?_set_self bound, found, Option.bind_some]
    · simp only [outcome?, List.getElem?_set_ne (Ne.symm e)]
  · rfl
  · rfl

@[simp] theorem tasks_watch (l : Loop) (k : Nat) (w : Watcher) : (l.watch k w).tasks = l.tasks := by
  unfold watch; split <;> rfl

@[simp] theorem timers_watch (l : Loop) (k : Nat) (w : Watcher) :
    (l.watch k w).timers = l.timers := by
  unfold watch; split <;> rfl

@[simp] theorem length_tickets_watch (l : Loop) (k : Nat) (w : Watcher) :
    (l.watch k w).tickets.length = l.tickets.length := by
  unfold watch; split <;> simp [soon]

theorem grows_watch (l : Loop) (k : Nat) (w : Watcher) : Grows l (l.watch k w) where
  outcomes j r e := by rw [outcome?_watch]; exact e
  issued := by simp
  kinds u κ e := by simpa only [kind?, tasks_watch] using e
  endings u j e := by simpa only [ending?, tasks_watch] using e

@[simp] theorem outcome?_unwatch (l : Loop) (k j : Nat) (w : Watcher) :
    (l.unwatch k w).outcome? j = l.outcome? j := by
  unfold unwatch outcome?
  by_cases e : k = j
  · subst e
    rw [List.getElem?_modify_eq]
    cases l.tickets[k]? <;> rfl
  · simp only [List.getElem?_modify_ne _ _ e]

theorem grows_unwatch (l : Loop) (k : Nat) (w : Watcher) : Grows l (l.unwatch k w) where
  outcomes j r e := by rw [outcome?_unwatch]; exact e
  issued := by simp [unwatch]
  kinds _ _ e := e
  endings _ _ e := e

/-! ## Jobs and timers -/

theorem mem_insertTimer {x y : Timer} {l : List Timer} : x ∈ insertTimer y l → x = y ∨ x ∈ l := by
  induction l with
  | nil => intro h; exact .inl (List.mem_singleton.mp h)
  | cons z rest ih =>
    intro h
    unfold insertTimer at h
    split at h
    · rcases List.mem_cons.mp h with rfl | h
      · exact .inr List.mem_cons_self
      · exact (ih h).imp_right (List.mem_cons_of_mem z)
    · exact List.mem_cons.mp h

theorem grows_later (l : Loop) (nanos : Nat) (job : Job) : Grows l (l.later nanos job).2 :=
  .of_eq rfl rfl

theorem grows_dropTimer (l : Loop) (id : Nat) : Grows l (l.dropTimer id) := .of_eq rfl rfl

theorem grows_soon (l : Loop) (job : Job) : Grows l (l.soon job) := .of_eq rfl rfl

theorem grows_sooner (l : Loop) (job : Job) : Grows l (l.sooner job) := .of_eq rfl rfl

/-- The next round of jobs, or the next job, as they are taken. -/
theorem next?_cases {l l' : Loop} {job : Option Job} (h : l.next? = some (job, l')) :
    l'.tickets = l.tickets ∧ l'.tasks = l.tasks ∧
    (∀ x ∈ l'.timers, x ∈ l.timers) ∧
    (∀ j ∈ l'.ready, j ∈ l.ready ∨ ∃ x ∈ l.timers, x.job = j) ∧
    (∀ j, job = some j → j ∈ l.ready) := by
  have due (now : Nat) : ∀ j, j ∈ l.ready ++ (l.timers.takeWhile fun x => x.due ≤ now).map Timer.job →
      j ∈ l.ready ∨ ∃ x ∈ l.timers, x.job = j := by
    intro j hj
    rcases List.mem_append.mp hj with hj | hj
    · exact .inl hj
    · obtain ⟨x, hx, rfl⟩ := List.mem_map.mp hj
      exact .inr ⟨x, (List.takeWhile_sublist _).subset hx, rfl⟩
  unfold next? at h
  split at h
  · next j rest left ready _ =>
    cases h
    refine ⟨rfl, rfl, fun _ hx => hx, fun j' hj => .inl ?_, fun j' e => ?_⟩
    · rw [ready]; exact List.mem_cons_of_mem _ hj
    · cases e; rw [ready]; exact List.mem_cons_self
  · cases h
    exact ⟨rfl, rfl, fun x hx => List.mem_of_mem_drop hx, due l.now, fun _ e => by cases e⟩
  · split at h
    · cases h
    · next x rest timers =>
      cases h
      exact ⟨rfl, rfl, fun y hy => List.mem_of_mem_drop hy, due _, fun _ e => by cases e⟩

/-! ## Tasks -/

theorem grows_setTasks {l : Loop} {u : Nat} {f : TaskState → TaskState}
    (kind : ∀ T, (f T).kind = T.kind) (ending : ∀ T, (f T).ending = T.ending) :
    Grows l { l with tasks := l.tasks.modify u f } where
  outcomes _ _ e := e
  issued := Nat.le_refl _
  kinds v κ e := by
    by_cases h : u = v
    · subst h
      simp only [kind?, List.getElem?_modify_eq, Option.map_eq_map, Option.map_map] at e ⊢
      simpa only [Function.comp_def, kind] using e
    · simpa only [kind?, List.getElem?_modify_ne _ _ h] using e
  endings v k e := by
    by_cases h : u = v
    · subst h
      simp only [ending?, List.getElem?_modify_eq, Option.map_eq_map, Option.map_map] at e ⊢
      simpa only [Function.comp_def, ending] using e
    · simpa only [ending?, List.getElem?_modify_ne _ _ h] using e

theorem grows_setWaiting (l : Loop) (u : Nat) (k : Option Nat) : Grows l (l.setWaiting u k) :=
  grows_setTasks (fun _ => rfl) (fun _ => rfl)

theorem grows_setRunning (l : Loop) (u : Nat) : Grows l (l.setRunning u) :=
  grows_setTasks (fun _ => rfl) (fun _ => rfl)

/-- A task keeps its kind when it goes on as one of its own kind. -/
theorem setKind_same {l : Loop} {u : Nat} {κ : TaskKind} (h : l.kind? u = some κ) :
    l.setKind u κ = l := by
  have same : l.tasks.modify u (fun T => { T with kind := κ }) = l.tasks := by
    apply List.ext_getElem?
    intro v
    by_cases e : u = v
    · subst e
      rcases hT : l.tasks[u]? with _ | T
      · simp [hT]
      · simp only [kind?, hT, Option.map_some, Option.some.injEq] at h
        subst h
        simp [hT]
    · rw [List.getElem?_modify_ne _ _ e]
  simp only [setKind, same]

@[simp] theorem length_tasks_start (l : Loop) (κ : TaskKind) :
    (l.start κ).2.tasks.length = l.tasks.length + 1 := by simp [start, soon, issue]

theorem tasks_start (l : Loop) (κ : TaskKind) :
    (l.start κ).2.tasks = l.tasks ++ [⟨κ, l.tickets.length, none, false⟩] := rfl

theorem ending?_start (l : Loop) (κ : TaskKind) :
    (l.start κ).2.ending? l.tasks.length = some l.tickets.length := by
  simp [ending?, tasks_start]

@[simp] theorem outcome?_start (l : Loop) (κ : TaskKind) (k : Nat) :
    (l.start κ).2.outcome? k = l.outcome? k := outcome?_issue l k

theorem grows_start (l : Loop) (κ : TaskKind) : Grows l (l.start κ).2 where
  outcomes k r e := by rw [outcome?_start]; exact e
  issued := by simp [start, soon, issue]
  kinds u κ' e := by
    have bound : u < l.tasks.length := by
      obtain ⟨T, found, -⟩ := Option.map_eq_some_iff.mp e
      exact (List.getElem?_eq_some_iff.mp found).1
    simpa only [kind?, tasks_start, List.getElem?_append_left bound] using e
  endings u k e := by
    have bound : u < l.tasks.length := by
      obtain ⟨T, found, -⟩ := Option.map_eq_some_iff.mp e
      exact (List.getElem?_eq_some_iff.mp found).1
    simpa only [ending?, tasks_start, List.getElem?_append_left bound] using e

/-! ## Cancelling -/

theorem ending?_of_taskEndingIn? {l : Loop} {k u : Nat} (h : l.taskEndingIn? k = some u) :
    l.ending? u = some k := by
  obtain ⟨bound, found, -⟩ := List.findIdx?_eq_some_iff_getElem.mp h
  simp only [ending?, List.getElem?_eq_getElem bound, Option.map_some]
  exact congrArg some (by simpa using found)

theorem exists_taskEndingIn? {l : Loop} {k u : Nat} (h : l.ending? u = some k) :
    ∃ v, l.taskEndingIn? k = some v := by
  obtain ⟨T, found, ending⟩ := Option.map_eq_some_iff.mp h
  rcases e : l.taskEndingIn? k with _ | v
  · have none := List.findIdx?_eq_none_iff.mp e T (List.mem_of_getElem? found)
    simp [ending] at none
  · exact ⟨v, rfl⟩

/-- A task that does not wait for another task is cancelled by an interruption, if it waits for nothing any more, or
by settling the ticket that it waits for, unless it has ended. -/
theorem cancel_cases {l : Loop} {u : Nat}
    (waits : ∀ k, l.waitingFor? u = some k → l.taskEndingIn? k = none) :
    (l.cancel u = l ∧ ∀ k, l.ending? u = some k → l.isSettled k = true) ∨
    (∃ T, l.tasks[u]? = some T ∧ (∀ k, T.waitingFor = some k → l.isSettled k = true) ∧
      l.cancel u = { l with tasks := l.tasks.set u { T with interrupted := true } }) ∨
    (∃ k, l.waitingFor? u = some k ∧ l.outcome? k = none ∧
      l.cancel u = l.settle k (.error .cancelled)) := by
  simp only [cancel, cancelWithin]
  rcases hT : l.tasks[u]? with _ | T
  · exact .inl ⟨rfl, fun k h => by simp [ending?, hT] at h⟩
  · dsimp only
    split
    · next settled =>
      refine .inl ⟨rfl, fun k h => ?_⟩
      simp only [ending?, hT, Option.map_some, Option.some.injEq] at h
      exact h ▸ settled
    · split
      · next waiting => exact .inr (.inl ⟨T, rfl, fun k e => (by rw [waiting] at e; cases e), rfl⟩)
      · next k waiting =>
        have found : l.waitingFor? u = some k := by simp [waitingFor?, hT, waiting]
        split
        · next settled =>
          refine .inr (.inl ⟨T, rfl, fun j e => ?_, rfl⟩)
          rw [waiting] at e
          cases e
          exact settled
        · next unsettled =>
          refine .inr (.inr ⟨k, found, by simpa [isSettled] using unsettled, ?_⟩)
          rw [waits k found]

/-- A task that has ended is not cancelled any more. -/
theorem cancelTicket_ended {l : Loop} {k u : Nat} (ending : l.ending? u = some k)
    (settled : l.isSettled k = true) : l.cancelTicket k = l := by
  obtain ⟨v, hv⟩ := exists_taskEndingIn? ending
  obtain ⟨T, found, rfl⟩ := Option.map_eq_some_iff.mp (ending?_of_taskEndingIn? hv)
  simp only [cancelTicket, hv, cancel, cancelWithin, found]
  rw [if_pos settled]

theorem grows_set_interrupted {l : Loop} {u : Nat} {T : TaskState} (h : l.tasks[u]? = some T) :
    Grows l { l with tasks := l.tasks.set u { T with interrupted := true } } := by
  have same : l.tasks.set u { T with interrupted := true } =
      l.tasks.modify u fun T => { T with interrupted := true } := by
    apply List.ext_getElem?
    intro v
    by_cases e : u = v
    · subst e
      have bound := (List.getElem?_eq_some_iff.mp h).1
      rw [List.getElem?_set_self bound, List.getElem?_modify_eq, h]
      rfl
    · rw [List.getElem?_set_ne e, List.getElem?_modify_ne _ _ e]
  rw [same]
  exact grows_setTasks (fun _ => rfl) (fun _ => rfl)

end Loop

end LspHost
