import LspHost.Proofs.Task.Loop

/-!
# What an event loop may settle by itself

Tickets are settled by tasks, by servers and by jobs that the loop keeps for later. A `Leave` says which
tickets anybody may settle, and from which time on. A loop is tidy if whatever it keeps settles only
tickets that it has leave for (`Loop.Tidy`). Then it settles no others by itself: what it does between two
turns is orderly (`Loop.Orderly`).
-/

namespace LspHost

/-- Which tickets anybody may settle, and from when on. Some of the others are guarded: who settles one of
them sees to what stands behind it. -/
structure Leave where
  allows : Nat → Nat → Prop
  guarded : Nat → Prop
  lasting : ∀ k now later, now ≤ later → allows k now → allows k later
  apart : ∀ k now, allows k now → ¬ guarded k

/-- A ticket may be settled at any time. -/
def Leave.Always (C : Leave) (k : Nat) : Prop := ∀ now, C.allows k now

/-- Tickets that will be issued may be settled. -/
def Leave.Welcomes (C : Leave) (l l' : Loop) : Prop :=
  ∀ k, l.tickets.length ≤ k → k < l'.tickets.length → C.Always k

namespace Loop

variable {C C' : Leave} {P : TaskKind → Prop} {l l' l'' : Loop} {k : Nat}

/-- Whatever a loop keeps settles only what may be settled, and so does what is behind a ticket that is not
guarded. -/
structure Tidy (C : Leave) (l : Loop) : Prop where
  timers : ∀ x ∈ l.timers, ∀ k v, x.job = .settle k v → C.allows k x.due
  ready : ∀ k v, Job.settle k v ∈ l.ready → C.allows k l.now
  watchers : ∀ (k : Nat) (T : Ticket), l.tickets[k]? = some T → ∀ r, Watcher.ticket r ∈ T.watchers →
    C.Always r ∨ C.guarded k
  endings : ∀ T ∈ l.tasks, C.Always T.ending

namespace Tidy

/-- More may be settled. -/
theorem mono (h : l.Tidy C) (more : ∀ k now, C.allows k now → C'.allows k now)
    (guards : ∀ k, k < l.tickets.length → C.guarded k → C'.guarded k) : l.Tidy C' where
  timers x hx k v e := more _ _ (h.timers x hx k v e)
  ready k v hk := more _ _ (h.ready k v hk)
  watchers k T found r hr := by
    have issued := (List.getElem?_eq_some_iff.mp found).1
    exact (h.watchers k T found r hr).imp (fun always now => more _ _ (always now)) (guards k issued)
  endings T hT now := more _ _ (h.endings T hT now)

theorem onTickets (h : l.Tidy C) {tickets : List Ticket}
    (watchers : ∀ (k : Nat) (T : Ticket), tickets[k]? = some T → ∀ r, Watcher.ticket r ∈ T.watchers →
      C.Always r ∨ C.guarded k) : Tidy C { l with tickets := tickets } :=
  ⟨h.timers, h.ready, watchers, h.endings⟩

theorem onTasks (h : l.Tidy C) {tasks : List TaskState} (endings : ∀ T ∈ tasks, C.Always T.ending) :
    Tidy C { l with tasks := tasks } := ⟨h.timers, h.ready, h.watchers, endings⟩

theorem onReady (h : l.Tidy C) {ready : List Job}
    (allowed : ∀ k v, Job.settle k v ∈ ready → C.allows k l.now) : Tidy C { l with ready := ready } :=
  ⟨h.timers, allowed, h.watchers, h.endings⟩

theorem soon (h : l.Tidy C) {job : Job} (allowed : ∀ k v, job = .settle k v → C.allows k l.now) :
    (l.soon job).Tidy C := by
  refine h.onReady fun k v hk => ?_
  rcases List.mem_append.mp hk with hk | hk
  · exact h.ready k v hk
  · exact allowed k v (List.mem_singleton.mp hk).symm

theorem sooner (h : l.Tidy C) {t : Nat} : (l.sooner (.begin t)).Tidy C := by
  refine ⟨h.timers, fun k v hk => ?_, h.watchers, h.endings⟩
  rcases List.mem_cons.mp hk with e | hk
  · cases e
  · exact h.ready k v hk

theorem later (h : l.Tidy C) {nanos : Nat} {job : Job}
    (allowed : ∀ k v, job = .settle k v → C.allows k (l.now + nanos)) : (l.later nanos job).2.Tidy C := by
  refine ⟨fun x hx k v e => ?_, h.ready, h.watchers, h.endings⟩
  rcases mem_insertTimer hx with rfl | hx
  · exact allowed k v e
  · exact h.timers x hx k v e

theorem dropTimer (h : l.Tidy C) {id : Nat} : (l.dropTimer id).Tidy C :=
  ⟨fun x hx => h.timers x (List.mem_filter.mp hx).1, h.ready, h.watchers, h.endings⟩

theorem issue (h : l.Tidy C) : l.issue.2.Tidy C := by
  refine h.onTickets fun k T found r hr => ?_
  rcases Nat.lt_or_ge k l.tickets.length with before | behind
  · exact h.watchers k T (by rwa [List.getElem?_append_left before] at found) r hr
  · rw [List.getElem?_append_right behind] at found
    obtain rfl := List.mem_singleton.mp (List.mem_of_getElem? found)
    cases hr

/-- The ticket that is settled, and who watches it. -/
theorem settle (h : l.Tidy C) {r : Except Fault Json}
    (allowed : ∀ (T : Ticket), l.tickets[k]? = some T → ∀ w, Watcher.ticket w ∈ T.watchers → C.allows w l.now) :
    (l.settle k r).Tidy C := by
  rcases settle_cases l k r with same | ⟨ws, found, step⟩
  · rw [same]; exact h
  · rw [step]
    refine ⟨h.timers, fun j v hj => ?_, fun j T found' w hw => ?_, h.endings⟩
    · rcases List.mem_append.mp hj with hj | hj
      · exact h.ready j v hj
      · obtain ⟨w, hw, e⟩ := List.mem_map.mp hj
        cases w with
        | task => cases e
        | ticket w => cases e; exact allowed _ found _ hw
    · by_cases e : k = j
      · subst e
        rw [List.getElem?_set_self (List.getElem?_eq_some_iff.mp found).1] at found'
        cases found'; cases hw
      · exact h.watchers j T (by rwa [List.getElem?_set_ne e] at found') w hw

/-- A ticket that is not guarded is settled. -/
theorem settle_of (h : l.Tidy C) {r : Except Fault Json} (free : ¬ C.guarded k) : (l.settle k r).Tidy C :=
  h.settle fun T found w hw => (h.watchers k T found w hw).elim (fun always => always _)
    fun guarded => absurd guarded free

theorem settleAll (h : l.Tidy C) (ks : List Nat) {r : Except Fault Json} (may : ∀ k ∈ ks, C.Always k) :
    (ks.foldl (fun l k => l.settle k r) l).Tidy C ∧
      (ks.foldl (fun l k => l.settle k r) l).now = l.now := by
  induction ks generalizing l with
  | nil => exact ⟨h, rfl⟩
  | cons k rest ih =>
    have step : (l.settle k r).now = l.now := by
      rcases settle_cases l k r with same | ⟨ws, -, step⟩
      · rw [same]
      · rw [step]
    obtain ⟨tidy, now⟩ := ih (h.settle_of (C.apart k l.now (may k List.mem_cons_self l.now)))
      fun k hk => may k (List.mem_cons_of_mem _ hk)
    exact ⟨tidy, now.trans step⟩

theorem watch (h : l.Tidy C) {w : Watcher}
    (fits : ∀ r, w = .ticket r → C.Always r ∨ C.guarded k)
    (settled : ∀ r, w = .ticket r → l.isSettled k = true → C.allows r l.now) : (l.watch k w).Tidy C := by
  unfold Loop.watch
  split
  · next ws found =>
    refine h.onTickets fun j T found' r hr => ?_
    by_cases e : k = j
    · subst e
      rw [List.getElem?_set_self (List.getElem?_eq_some_iff.mp found).1] at found'
      cases found'
      rcases List.mem_append.mp hr with hr | hr
      · exact h.watchers k _ found r hr
      · exact fits r (List.mem_singleton.mp hr).symm
    · exact h.watchers j T (by rwa [List.getElem?_set_ne e] at found') r hr
  · next r ws found =>
    refine h.soon fun j v e => ?_
    cases w with
    | task => cases e
    | ticket w => cases e; exact settled _ rfl (by simp [isSettled, outcome?, found])
  · exact h

theorem watch_task (h : l.Tidy C) {t : Nat} : (l.watch k (.task t)).Tidy C :=
  h.watch (fun _ e => by cases e) fun _ e => by cases e

theorem watch_ticket (h : l.Tidy C) {r : Nat} (always : C.Always r) : (l.watch k (.ticket r)).Tidy C :=
  h.watch (fun _ e => by cases e; exact .inl always) fun _ e _ => by cases e; exact always _

theorem unwatch (h : l.Tidy C) {w : Watcher} : (l.unwatch k w).Tidy C := by
  refine h.onTickets fun j T found r hr => ?_
  by_cases e : k = j
  · subst e
    rw [List.getElem?_modify_eq] at found
    obtain ⟨T₀, found₀, rfl⟩ := Option.map_eq_some_iff.mp found
    exact h.watchers k T₀ found₀ r (List.mem_of_mem_erase hr)
  · rw [List.getElem?_modify_ne _ _ e] at found
    exact h.watchers j T found r hr

theorem modifyTask (h : l.Tidy C) {u : Nat} {f : TaskState → TaskState} (ending : ∀ T, (f T).ending = T.ending) :
    Tidy C { l with tasks := l.tasks.modify u f } := by
  refine h.onTasks fun T hT => ?_
  obtain ⟨v, found⟩ := List.mem_iff_getElem?.mp hT
  by_cases e : u = v
  · subst e
    rw [List.getElem?_modify_eq] at found
    obtain ⟨T₀, found₀, rfl⟩ := Option.map_eq_some_iff.mp found
    rw [ending]
    exact h.endings T₀ (List.mem_of_getElem? found₀)
  · rw [List.getElem?_modify_ne _ _ e] at found
    exact h.endings T (List.mem_of_getElem? found)

theorem setInterrupted (h : l.Tidy C) {u : Nat} {T : TaskState} (found : l.tasks[u]? = some T) :
    Tidy C { l with tasks := l.tasks.set u { T with interrupted := true } } := by
  refine h.onTasks fun T' hT' => ?_
  rcases List.mem_or_eq_of_mem_set hT' with hT' | rfl
  · exact h.endings T' hT'
  · exact h.endings T (List.mem_of_getElem? found)

theorem start (h : l.Tidy C) {κ : TaskKind} (always : C.Always l.tickets.length) : (l.start κ).2.Tidy C := by
  have issued := h.issue
  have tasks : Tidy C { l.issue.2 with tasks := l.tasks ++ [⟨κ, l.tickets.length, none, false⟩] } :=
    issued.onTasks fun T hT => by
      rcases List.mem_append.mp hT with hT | hT
      · exact h.endings T hT
      · obtain rfl := List.mem_singleton.mp hT; exact always
  exact tasks.soon fun _ _ e => by cases e

/-- Time goes on. -/
theorem wait (h : l.Tidy C) {now : Nat} (later : l.now ≤ now) : Tidy C { l with now := now } :=
  ⟨h.timers, fun k v hk => C.lasting k _ _ later (h.ready k v hk), h.watchers, h.endings⟩

theorem collectDue (h : l.Tidy C) : l.collectDue.Tidy C := by
  refine ⟨fun x hx => h.timers x (List.mem_of_mem_drop hx), fun k v hk => ?_, h.watchers, h.endings⟩
  rcases List.mem_append.mp hk with hk | hk
  · exact h.ready k v hk
  · obtain ⟨x, hx, e⟩ := List.mem_map.mp hk
    have due : x.due ≤ l.now := by
      have all := List.all_takeWhile (p := fun x : Timer => decide (x.due ≤ l.now)) (l := l.timers)
      simpa using List.all_eq_true.mp all x hx
    exact C.lasting k _ _ due (h.timers x ((List.takeWhile_sublist _).subset hx) k v e)

theorem onLeft (h : l.Tidy C) (left : Nat) : Tidy C { l with left := left } :=
  ⟨h.timers, h.ready, h.watchers, h.endings⟩

end Tidy

/-! ## What happens by itself -/

/-- What a loop does by itself: it settles only what may be settled, stops and interrupts nobody and starts only
tasks of some kinds. -/
structure Orderly (P : TaskKind → Prop) (l l' : Loop) : Prop where
  grows : l.Grows l'
  time : l.now ≤ l'.now
  tidy : ∀ C : Leave, C.Welcomes l l' → l.Tidy C →
    l'.Tidy C ∧ ∀ k, ¬ C.allows k l'.now → l'.outcome? k = l.outcome? k
  waiting : ∀ u k, l'.waitingFor? u = some k → l.waitingFor? u = some k
  calm : ∀ u, l'.isInterrupted u = true → l.isInterrupted u = true
  kinds : ∀ u κ, l'.kind? u = some κ → l.kind? u = some κ ∨ P κ

/-- Settling a ticket leaves the others as they are. -/
theorem outcome?_settle_ne {r : Except Fault Json} {j : Nat} (h : j ≠ k) :
    (l.settle k r).outcome? j = l.outcome? j := by
  rcases settle_cases l k r with same | ⟨ws, -, step⟩
  · rw [same]
  · rw [step]; simp only [outcome?, List.getElem?_set_ne (Ne.symm h)]

@[simp] theorem now_settle {r : Except Fault Json} : (l.settle k r).now = l.now := by
  rcases settle_cases l k r with same | ⟨ws, -, step⟩
  · rw [same]
  · rw [step]

@[simp] theorem now_watch {w : Watcher} : (l.watch k w).now = l.now := by
  unfold watch; split <;> rfl

namespace Orderly

theorem refl (l : Loop) : l.Orderly P l :=
  ⟨.refl l, Nat.le_refl _, fun _ _ h => ⟨h, fun _ _ => rfl⟩, fun _ _ h => h, fun _ h => h, fun _ _ h => .inl h⟩

theorem trans (h : l.Orderly P l') (h' : l'.Orderly P l'') : l.Orderly P l'' where
  grows := h.grows.trans h'.grows
  time := Nat.le_trans h.time h'.time
  tidy C welcome tidy := by
    obtain ⟨tidy', same⟩ := h.tidy C (fun k lo hi => welcome k lo (Nat.lt_of_lt_of_le hi h'.grows.issued)) tidy
    obtain ⟨tidy'', same'⟩ := h'.tidy C (fun k lo hi => welcome k (Nat.le_trans h.grows.issued lo) hi) tidy'
    exact ⟨tidy'', fun k never => (same' k never).trans
      (same k fun may => never (C.lasting k _ _ h'.time may))⟩
  waiting u k e := h.waiting u k (h'.waiting u k e)
  calm u e := h.calm u (h'.calm u e)
  kinds u κ e := (h'.kinds u κ e).elim (h.kinds u κ) .inr

/-- The same tickets and tasks. -/
theorem of_same (tickets : l'.tickets = l.tickets) (tasks : l'.tasks = l.tasks) (time : l.now ≤ l'.now)
    (tidy : ∀ C : Leave, l.Tidy C → l'.Tidy C) : l.Orderly P l' where
  grows := .of_eq tickets tasks
  time := time
  tidy C _ h := ⟨tidy C h, fun k _ => by simp only [outcome?, tickets]⟩
  waiting u k e := by simpa only [waitingFor?, tasks] using e
  calm u e := by simpa only [isInterrupted, tasks] using e
  kinds u κ e := .inl (by simpa only [kind?, tasks] using e)

theorem soon {job : Job} (other : ∀ k v, job ≠ .settle k v) : l.Orderly P (l.soon job) :=
  .of_same rfl rfl (Nat.le_refl _) fun _ h => h.soon fun _ _ e => absurd e (other _ _)

theorem sooner {t : Nat} : l.Orderly P (l.sooner (.begin t)) :=
  .of_same rfl rfl (Nat.le_refl _) fun _ h => h.sooner

theorem idle {now : Nat} (later : l.now ≤ now) : l.Orderly P { l with now := now } :=
  .of_same rfl rfl later fun _ h => h.wait later

/-- The next round of jobs, or the next job, as they are taken. -/
theorem next? {job : Option Job} (h : l.next? = some (job, l')) : l.Orderly P l' := by
  obtain ⟨tickets, tasks, -⟩ := next?_cases h
  unfold Loop.next? at h
  split at h
  · next j rest left ready _ =>
    cases h
    exact .of_same rfl rfl (Nat.le_refl _) fun C h => (h.onReady fun k v hk =>
      h.ready k v (by rw [ready]; exact List.mem_cons_of_mem _ hk)).onLeft _
  · cases h
    exact .of_same rfl rfl (Nat.le_refl _) fun C h => h.collectDue.onLeft _
  · split at h
    · cases h
    · next t _ _ =>
      cases h
      have later : l.now ≤ max l.now t.due := Nat.le_max_left ..
      exact .of_same rfl rfl later fun C h => (h.wait later).collectDue.onLeft _

theorem issue : l.Orderly P l.issue.2 where
  grows := l.grows_issue
  time := Nat.le_refl _
  tidy _ _ h := ⟨h.issue, fun k _ => outcome?_issue l k⟩
  waiting _ _ e := e
  calm _ e := e
  kinds _ _ e := .inl e

/-- A task is changed in what concerns nobody else. -/
theorem modifyTask {u : Nat} {f : TaskState → TaskState} (kind : ∀ T, (f T).kind = T.kind)
    (ending : ∀ T, (f T).ending = T.ending)
    (waiting : ∀ T k, (f T).waitingFor = some k → T.waitingFor = some k)
    (calm : ∀ T, (f T).interrupted = true → T.interrupted = true) :
    l.Orderly P { l with tasks := l.tasks.modify u f } where
  grows := grows_setTasks kind ending
  time := Nat.le_refl _
  tidy _ _ h := ⟨h.modifyTask ending, fun _ _ => rfl⟩
  waiting v k e := by
    by_cases same : u = v
    · subst same
      simp only [waitingFor?, List.getElem?_modify_eq] at e ⊢
      obtain ⟨T, found, e⟩ := Option.bind_eq_some_iff.mp e
      obtain ⟨T₀, found₀, rfl⟩ := Option.map_eq_some_iff.mp found
      rw [found₀]
      exact waiting T₀ k e
    · simpa only [waitingFor?, List.getElem?_modify_ne _ _ same] using e
  calm v e := by
    by_cases same : u = v
    · subst same
      simp only [isInterrupted, List.getElem?_modify_eq] at e ⊢
      rcases found : l.tasks[u]? with _ | T
      · simp [found] at e
      · simp only [found, Option.map_eq_map, Option.map_some, Option.getD_some] at e ⊢
        exact calm T e
    · simpa only [isInterrupted, List.getElem?_modify_ne _ _ same] using e
  kinds v κ e := by
    refine .inl ?_
    by_cases same : u = v
    · subst same
      simp only [kind?, List.getElem?_modify_eq, Option.map_eq_map, Option.map_map] at e ⊢
      simpa only [Function.comp_def, kind] using e
    · simpa only [kind?, List.getElem?_modify_ne _ _ same] using e

theorem setRunning {u : Nat} : l.Orderly P (l.setRunning u) :=
  modifyTask (fun _ => rfl) (fun _ => rfl) (fun _ _ e => by cases e) fun _ e => by cases e

/-- A ticket is settled that may be. -/
theorem settle {r : Except Fault Json} (may : ∀ C : Leave, l.Tidy C → C.allows k l.now) :
    l.Orderly P (l.settle k r) where
  grows := l.grows_settle k r
  time := Nat.le_of_eq now_settle.symm
  tidy C _ h := by
    refine ⟨h.settle_of (C.apart k _ (may C h)), fun j never => outcome?_settle_ne ?_⟩
    rintro rfl
    rw [now_settle] at never
    exact never (may C h)
  waiting u k e := by simpa only [waitingFor?, tasks_settle] using e
  calm u e := by simpa only [isInterrupted, tasks_settle] using e
  kinds u κ e := .inl (by simpa only [kind?, tasks_settle] using e)

/-- The next job is to settle a ticket, and does. -/
theorem next?_settle {v : Json} (h : l.next? = some (some (.settle k v), l')) :
    l.Orderly P (l'.settle k (.ok v)) where
  grows := (next? (P := P) h).grows.trans (grows_settle ..)
  time := Nat.le_trans (next? (P := P) h).time (Nat.le_of_eq now_settle.symm)
  tidy C welcome tidy := by
    obtain ⟨tickets, -, -, -, taken⟩ := next?_cases h
    have may : C.allows k l'.now := C.lasting k _ _ (next? (P := P) h).time (tidy.ready k v (taken _ rfl))
    obtain ⟨tidy', same⟩ := (next? (P := P) h).tidy C
      (fun j lo hi => welcome j lo (by rw [length_tickets_settle]; exact hi)) tidy
    refine ⟨tidy'.settle_of (C.apart k _ may), fun j never => ?_⟩
    rw [now_settle] at never
    refine (outcome?_settle_ne ?_).trans (same j never)
    rintro rfl
    exact never may
  waiting u j e := (next? (P := P) h).waiting u j (by simpa only [waitingFor?, tasks_settle] using e)
  calm u e := (next? (P := P) h).calm u (by simpa only [isInterrupted, tasks_settle] using e)
  kinds u κ e := (next? h).kinds u κ (by simpa only [kind?, tasks_settle] using e)

/-- The end of a task is settled. -/
theorem settle_ending {u : Nat} {r : Except Fault Json} (ending : l.ending? u = some k) :
    l.Orderly P (l.settle k r) := by
  refine settle fun C h => ?_
  obtain ⟨T, found, rfl⟩ := Option.map_eq_some_iff.mp ending
  exact h.endings T (List.mem_of_getElem? found) _

theorem watch_same {w : Watcher} (tidy : ∀ C : Leave, l.Tidy C → (l.watch k w).Tidy C) :
    l.Orderly P (l.watch k w) where
  grows := l.grows_watch k w
  time := Nat.le_of_eq now_watch.symm
  tidy C _ h := ⟨tidy C h, fun _ _ => outcome?_watch ..⟩
  waiting u k e := by simpa only [waitingFor?, tasks_watch] using e
  calm u e := by simpa only [isInterrupted, tasks_watch] using e
  kinds u κ e := .inl (by simpa only [kind?, tasks_watch] using e)

/-- A new ticket that is settled after another one. -/
theorem after (ticket : Nat) : l.Orderly P (l.issue.2.watch ticket (.ticket l.issue.1)) where
  grows := (l.grows_issue).trans (grows_watch ..)
  time := Nat.le_of_eq (now_watch (l := l.issue.2)).symm
  tidy C welcome h := by
    have fresh : C.Always l.tickets.length := welcome _ (Nat.le_refl _) (by simp [Loop.issue])
    exact ⟨h.issue.watch_ticket fresh, fun j _ => (outcome?_watch ..).trans (outcome?_issue l j)⟩
  waiting u k e := by simp only [waitingFor?, tasks_watch] at e; exact e
  calm u e := by simp only [isInterrupted, tasks_watch] at e; exact e
  kinds u κ e := .inl (by simp only [kind?, tasks_watch] at e; exact e)

/-- A new ticket that is settled after some time. -/
theorem timer (nanos : Nat) : l.Orderly P (l.issue.2.later nanos (.settle l.issue.1 .null)).2 where
  grows := (l.grows_issue).trans (grows_later ..)
  time := Nat.le_refl _
  tidy C welcome h := by
    have fresh : C.Always l.tickets.length := welcome _ (Nat.le_refl _) (by simp [Loop.issue, Loop.later])
    exact ⟨h.issue.later fun _ _ e => by cases e; exact fresh _, fun j _ => outcome?_issue l j⟩
  waiting _ _ e := e
  calm _ e := e
  kinds _ _ e := .inl e

/-- A task is started. -/
theorem start {κ : TaskKind} (may : P κ) : l.Orderly P (l.start κ).2 where
  grows := l.grows_start κ
  time := Nat.le_refl _
  tidy C welcome h :=
    ⟨h.start (welcome _ (Nat.le_refl _) (by simp [Loop.start, Loop.soon, Loop.issue])),
      fun j _ => outcome?_start l κ j⟩
  waiting u k e := by
    simp only [waitingFor?, tasks_start] at e ⊢
    rcases Nat.lt_or_ge u l.tasks.length with old | new
    · rwa [List.getElem?_append_left old] at e
    · rw [List.getElem?_append_right new] at e
      obtain ⟨T, found, e⟩ := Option.bind_eq_some_iff.mp e
      obtain rfl := List.mem_singleton.mp (List.mem_of_getElem? found)
      cases e
  calm u e := by
    simp only [isInterrupted, tasks_start] at e ⊢
    rcases Nat.lt_or_ge u l.tasks.length with old | new
    · rwa [List.getElem?_append_left old] at e
    · rw [List.getElem?_append_right new] at e
      rcases found : [TaskState.mk κ l.tickets.length none false][u - l.tasks.length]? with _ | T
      · simp [found] at e
      · obtain rfl := List.mem_singleton.mp (List.mem_of_getElem? found)
        simp [found] at e
  kinds u κ' e := by
    simp only [kind?, tasks_start] at e ⊢
    rcases Nat.lt_or_ge u l.tasks.length with old | new
    · exact .inl (by rwa [List.getElem?_append_left old] at e)
    · rw [List.getElem?_append_right new] at e
      obtain ⟨T, found, rfl⟩ := Option.map_eq_some_iff.mp e
      obtain rfl := List.mem_singleton.mp (List.mem_of_getElem? found)
      exact .inr may

end Orderly

end Loop

end LspHost
