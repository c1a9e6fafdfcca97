import LspHost.Proofs.Quiet

/-!
# Settling, starting and cancelling

Settling a ticket the way its role allows is quiet unless somebody waits for it in a lock. Starting a
task is quiet, but nobody may empty the error output of a process twice. Cancelling is a `Move` of
the one who cancels: only tasks that serve a session are cancelled, and requests only by the task that
made them.
-/

namespace LspHost

variable {σ : Setting} {t : Option Nat} {γ γ' : Ghost} {s s' : World}

/-- A change by task `t` that keeps the invariant, says nothing, and that no other task minds. -/
structure Move (σ : Setting) (t : Nat) (a b : Ghost × World) : Prop where
  inv : Inv σ (some t) b.1 b.2
  mute : Mute t a b
  spares : (discipline σ).Spares t a b

theorem Quiet.move {t : Nat} {a b : Ghost × World} (h : Quiet σ (some t) a b) : Move σ t a b :=
  ⟨h.inv, (h.rely t).toMute, fun u _ => h.rely u⟩

theorem Move.trans {t : Nat} {a b c : Ghost × World} (h : Move σ t a b) (h' : Move σ t b c) :
    Move σ t a c :=
  ⟨h'.inv, h.mute.trans h'.mute, fun u hu => Rely.trans (h.spares u hu) (h'.spares u hu)⟩

/-! ## Settling -/

theorem watchers_settle {l : Loop} {k j r : Nat} {o : Except Fault Json} {T : Ticket}
    (hT : (l.settle k o).tickets[j]? = some T) (hr : Watcher.ticket r ∈ T.watchers) :
    ∃ T₀ : Ticket, l.tickets[j]? = some T₀ ∧ Watcher.ticket r ∈ T₀.watchers := by
  rcases Loop.settle_cases l k o with same | ⟨ws, found, step⟩
  · rw [same] at hT; exact ⟨T, hT, hr⟩
  · rw [step] at hT
    by_cases e : j = k
    · subst e
      rw [List.getElem?_set_self (List.getElem?_eq_some_iff.mp found).1] at hT
      obtain rfl := Option.some.inj hT
      cases hr
    · rw [List.getElem?_set_ne (Ne.symm e)] at hT
      exact ⟨T, hT, hr⟩

theorem Tickets.settle (h : Tickets γ s) {k : Nat} {r : Except Fault Json}
    (fits : Fits γ s (γ.role k) r) : Tickets γ { s with loop := s.loop.settle k r } := by
  refine h.withLoop (fun _ _ => rfl) rfl (fun _ h => h)
    (fun j => by rw [Loop.length_tickets_settle]; exact h.unissued j) (fun j r' hr => ?_)
    (fun x hx => .inl (by rwa [Loop.timers_settle] at hx)) (fun job hj => ?_)
    (fun j T hT i hi => .inr (watchers_settle hT hi))
    (h.endings_of_same (fun _ _ => rfl) (Loop.tasks_settle ..))
    (h.ended_of_same rfl (Loop.tasks_settle ..))
  · rcases Loop.outcome?_settle_cases hr with old | ⟨rfl, rfl⟩
    · exact .inl old
    · exact .inr fits
  · rcases Loop.settle_cases s.loop k r with same | ⟨ws, found, step⟩
    · rw [same] at hj; exact .inl hj
    · rw [step] at hj
      rcases List.mem_append.mp hj with hj | hj
      · exact .inl hj
      · obtain ⟨w, hw, rfl⟩ := List.mem_map.mp hj
        match w with
        | .task _ => exact .inr (.inr trivial)
        | .ticket i => exact .inr (.inr (h.watchers k _ found i hw))

/-- Tasks stay in order when outcomes are added. -/
theorem Tasks.settled (h : Tasks t γ s) (tasks : s'.loop.tasks = s.loop.tasks)
    (grows : s.loop.Grows s'.loop) (servers : s'.servers = s.servers)
    (awaited : ∀ j k d, s.errorWaiter? j = some (k, d) → ∀ v, s'.loop.outcome? k = some (.ok v) →
      s.loop.outcome? k = some (.ok v)) : Tasks t γ s' where
  supervised u κ hκ := h.supervised u κ (by simpa only [Loop.kind?, tasks] using hκ)
  running := h.running
  stopped u := by simpa only [Loop.waitingFor?, tasks] using h.stopped u
  background u hu := by simpa only [Loop.kind?, tasks] using h.background u hu
  interrupted u hu := h.interrupted u (by simpa only [Loop.isInterrupted, tasks] using hu)
  waits u κ k hκ back hk :=
    h.waits u κ k (by simpa only [Loop.kind?, tasks] using hκ) back
      (by simpa only [Loop.waitingFor?, tasks] using hk)
  doomed u hu hd := by
    rcases h.doomed u hu hd with ended | hi | ⟨k, hk, hr⟩
    · exact .inl ended
    · exact .inr (.inl (by simpa only [Loop.isInterrupted, tasks] using hi))
    · exact .inr (.inr ⟨k, by simpa only [Loop.waitingFor?, tasks] using hk, grows.outcomes k _ hr⟩)
  drainers u u' j hu hu' :=
    h.drainers u u' j (by simpa only [Loop.kind?, tasks] using hu)
      (by simpa only [Loop.kind?, tasks] using hu')
  undrained j none := by
    simpa only [World.errorWaiter?, servers] using
      h.undrained j fun u => by simpa only [Loop.kind?, tasks] using none u
  awaited j k d hw v e := by
    have hw : s.errorWaiter? j = some (k, d) := by
      simpa only [World.errorWaiter?, servers] using hw
    exact h.awaited j k d hw v (awaited j k d hw v e)
  served u j hu := by
    rw [servers]
    exact h.served u j (by simpa only [Loop.kind?, tasks] using hu)

/-- A ticket is settled the way its role allows; no request is cancelled so. -/
theorem quiet_settleWith (inv : Inv σ t γ s) {k : Nat} {r : Except Fault Json}
    (fits : Fits γ s (γ.role k) r) (requests : ∀ u, γ.role k = .request u → r ≠ .error .cancelled)
    (locks : ∀ p, LockSound γ { s with loop := s.loop.settle k r } p)
    (streams : ∀ j d, s.errorWaiter? j = some (k, d) → ∀ v, r ≠ .ok v) :
    Quiet σ t (γ, s) (γ, { s with loop := s.loop.settle k r }) := by
  have calm : Calm (γ, s) (γ, { s with loop := s.loop.settle k r }) :=
    .withLoop (Loop.grows_settle ..) (fun _ _ => rfl) rfl (fun _ h => h) fun _ h => h
  refine ⟨calm.inv inv (inv.tickets.settle fits) ?_ locks,
    fun u => calm.rely inv.locks (fun j hj hc => ?_) (fun _ _ _ _ => rfl) rfl⟩
  · refine inv.tasks.settled (Loop.tasks_settle ..) (Loop.grows_settle ..) rfl
      fun j i d hw v hv => ?_
    rcases Loop.outcome?_settle_cases hv with old | ⟨rfl, e⟩
    · exact old
    · exact absurd e.symm (streams j d hw v)
  · rcases Loop.outcome?_settle_cases hc with old | ⟨rfl, e⟩
    · exact old
    · exact absurd e.symm (requests u hj)

/-- A ticket that is not for a lock is settled. -/
theorem quiet_settle (inv : Inv σ t γ s) {k : Nat} {r : Except Fault Json}
    (fits : Fits γ s (γ.role k) r) (requests : ∀ u, γ.role k = .request u → r ≠ .error .cancelled)
    (locks : ∀ p u m, γ.role k = .lock p u m → ∀ v, r ≠ .ok v)
    (streams : ∀ j d, s.errorWaiter? j = some (k, d) → ∀ v, r ≠ .ok v) :
    Quiet σ t (γ, s) (γ, { s with loop := s.loop.settle k r }) := by
  have calm : Calm (γ, s) (γ, { s with loop := s.loop.settle k r }) :=
    .withLoop (Loop.grows_settle ..) (fun _ _ => rfl) rfl (fun _ h => h) fun _ h => h
  refine quiet_settleWith inv fits requests (fun p => (inv.locks p).calm calm fun j hj v hv => ?_)
    streams
  rcases Loop.outcome?_settle_cases hv with old | ⟨rfl, e⟩
  · exact old
  · obtain ⟨u, m, κ, role, -⟩ := (inv.locks p).waiters j hj
    exact absurd e.symm (locks p u m role v)

/-- Tickets that are all settled in the same way, one after the other. -/
theorem quiet_settleAll (inv : Inv σ t γ s) {r : Except Fault Json} (ks : List Nat)
    (fits : ∀ k ∈ ks, Fits γ s (γ.role k) r)
    (requests : ∀ k ∈ ks, ∀ u, γ.role k = .request u → r ≠ .error .cancelled)
    (locks : ∀ k ∈ ks, ∀ p u m, γ.role k = .lock p u m → ∀ v, r ≠ .ok v)
    (streams : ∀ k ∈ ks, ∀ j d, s.errorWaiter? j = some (k, d) → ∀ v, r ≠ .ok v) :
    Quiet σ t (γ, s) (γ, { s with loop := ks.foldl (fun l k => l.settle k r) s.loop }) := by
  induction ks generalizing s with
  | nil => exact .refl inv
  | cons k rest ih =>
    have first : Quiet σ t (γ, s) (γ, { s with loop := s.loop.settle k r }) :=
      quiet_settle inv (fits k List.mem_cons_self) (requests k List.mem_cons_self)
        (locks k List.mem_cons_self) (streams k List.mem_cons_self)
    have later {i : Nat} (hi : i ∈ rest) : i ∈ k :: rest := List.mem_cons_of_mem k hi
    exact first.trans (ih first.inv (fun i hi => fits i (later hi)) (fun i hi => requests i (later hi))
      (fun i hi => locks i (later hi)) fun i hi => streams i (later hi))

/-! ## Starting tasks -/

theorem quiet_start (inv : Inv σ t γ s) {κ : TaskKind} (keeper : Option Nat) (proper : κ.Supervised)
    (drains : ∀ j, κ = .drain j → ∀ u, s.loop.kind? u ≠ some (.drain j))
    (serves : ∀ j, κ = .drain j ∨ κ = .exitWatch j → j < s.servers.length) :
    Quiet σ t (γ, s)
      (γ.assign s.loop.tickets.length (.ending s.loop.tasks.length κ keeper),
        { s with loop := (s.loop.start κ).2 }) := by
  have roles := assign_kept inv (.ending s.loop.tasks.length κ keeper)
  have kind (u : Nat) : (s.loop.start κ).2.kind? u =
      if u = s.loop.tasks.length then some κ else s.loop.kind? u := by
    simp only [Loop.kind?, Loop.tasks_start]
    rcases Nat.lt_trichotomy u s.loop.tasks.length with h | h | h
    · simp [List.getElem?_append_left h, Nat.ne_of_lt h]
    · simp [h]
    · simp only [List.getElem?_append_right (Nat.le_of_lt h), Nat.ne_of_gt h, if_false]
      rw [List.getElem?_eq_none (by simp; omega), List.getElem?_eq_none (by omega)]
  have waiting (u : Nat) : (s.loop.start κ).2.waitingFor? u = s.loop.waitingFor? u := by
    simp only [Loop.waitingFor?, Loop.tasks_start]
    rcases Nat.lt_trichotomy u s.loop.tasks.length with h | h | h
    · simp [List.getElem?_append_left h]
    · simp [h]
    · rw [List.getElem?_append_right (Nat.le_of_lt h)]
      rw [List.getElem?_eq_none (by simp; omega), List.getElem?_eq_none (by omega)]
  have interrupted (u : Nat) : (s.loop.start κ).2.isInterrupted u = s.loop.isInterrupted u := by
    simp only [Loop.isInterrupted, Loop.tasks_start]
    rcases Nat.lt_trichotomy u s.loop.tasks.length with h | h | h
    · simp [List.getElem?_append_left h]
    · simp [h]
    · rw [List.getElem?_append_right (Nat.le_of_lt h)]
      rw [List.getElem?_eq_none (by simp; omega), List.getElem?_eq_none (by omega)]
  have grows := Loop.grows_start s.loop κ
  refine (Calm.withLoop grows roles rfl (fun _ h => h) fun _ h => h).quiet inv ?_ ?_
    (Loop.outcome?_start _ κ) rfl rfl
  · refine inv.tickets.withLoop roles rfl (fun _ h => h) (fun k => ?_)
      (fun k r h => .inl (by rwa [Loop.outcome?_start] at h)) (fun x hx => .inl hx) (fun job hj => ?_)
      (fun k T hT r hr => ?_) (fun u T hT => ?_) (fun k u κ' keeper' hk => ?_)
    · simp only [Ghost.assign, Loop.start, Loop.soon, Loop.issue, List.length_append,
        List.length_singleton]
      split
      · next e => subst e; exact ⟨(fun e => by cases e), fun e => absurd e (Nat.not_succ_le_self _)⟩
      · next ne => rw [inv.tickets.unissued]; omega
    · rcases List.mem_append.mp hj with hj | hj
      · exact .inl hj
      · rw [List.mem_singleton.mp hj]; exact .inr (.inr trivial)
    · right
      have hT : (s.loop.tickets ++ [⟨none, []⟩])[k]? = some T := hT
      rcases Nat.lt_or_ge k s.loop.tickets.length with lt | ge
      · exact ⟨T, by simpa only [List.getElem?_append_left lt] using hT, hr⟩
      · rw [List.getElem?_append_right ge] at hT
        have := List.mem_singleton.mp (List.mem_of_getElem? hT)
        subst this
        cases hr
    · rw [Loop.tasks_start] at hT
      rcases Nat.lt_or_ge u s.loop.tasks.length with lt | ge
      · rw [List.getElem?_append_left lt] at hT
        obtain ⟨kp, role⟩ := inv.tickets.endings u T hT
        exact ⟨kp, by rw [roles T.ending (by rw [role]; exact fun e => by cases e), role]⟩
      · rw [List.getElem?_append_right ge] at hT
        have bound := (List.getElem?_eq_some_iff.mp hT).1
        have at0 : u = s.loop.tasks.length := by
          simp only [List.length_singleton] at bound; omega
        subst at0
        simp only [Nat.sub_self, List.getElem?_cons_zero, Option.some.injEq] at hT
        subst hT
        exact ⟨keeper, Ghost.assign_role_self ..⟩
    · by_cases e : k = s.loop.tickets.length
      · subst e
        rw [Ghost.assign_role_self] at hk
        cases hk
        exact ⟨Loop.ending?_start .., by rw [kind, if_pos rfl]⟩
      · rw [Ghost.assign_role_ne _ _ e] at hk
        obtain ⟨he, hκ⟩ := inv.tickets.ended k u κ' keeper' hk
        exact ⟨grows.endings u k he, grows.kinds u κ' hκ⟩
  · exact
      { supervised := fun u κ' hκ => by
          rw [kind] at hκ
          split at hκ
          · exact Option.some.inj hκ ▸ proper
          · exact inv.tasks.supervised u κ' hκ
        running := inv.tasks.running
        stopped := fun u => by rw [waiting]; exact inv.tasks.stopped u
        background := fun u hu => by
          obtain ⟨κ', hκ, back⟩ := inv.tasks.background u hu
          exact ⟨κ', grows.kinds u κ' hκ, back⟩
        interrupted := fun u hu => inv.tasks.interrupted u (by rwa [interrupted] at hu)
        waits := fun u κ' k hκ back hk => by
          rw [waiting] at hk
          rw [kind] at hκ
          split at hκ
          · next e =>
            subst e
            rw [Loop.waitingFor?, List.getElem?_eq_none (Nat.le_refl _)] at hk
            cases hk
          · exact owner?_kept roles k u (inv.tasks.waits u κ' k hκ back hk)
        doomed := fun u hu hd => by
          rcases inv.tasks.doomed u hu hd with ended | hi | ⟨k, hk, hr⟩
          · exact .inl ended
          · exact .inr (.inl (by rw [interrupted]; exact hi))
          · exact .inr (.inr ⟨k, by rw [waiting]; exact hk, grows.outcomes k _ hr⟩)
        drainers := fun u u' j hu hu' => by
          rw [kind] at hu hu'
          split at hu <;> split at hu'
          · next e e' => rw [e, e']
          · exact absurd hu' (drains j (Option.some.inj hu) u')
          · exact absurd hu (drains j (Option.some.inj hu') u)
          · exact inv.tasks.drainers u u' j hu hu'
        undrained := fun j none =>
          inv.tasks.undrained j fun u hu => none u (grows.kinds u _ hu)
        awaited := fun j k d hw v => by
          rw [Loop.outcome?_start]; exact inv.tasks.awaited j k d hw v
        served := fun u j hu => by
          rw [kind] at hu
          split at hu
          · exact serves j (by simpa only [Option.some.injEq] using hu)
          · exact inv.tasks.served u j hu }

/-! ## Cancelling -/

/-- A request is cancelled by the task that made it. -/
theorem move_cancelRequest {t k : Nat} (inv : Inv σ (some t) γ s) (role : γ.role k = .request t) :
    Move σ t (γ, s) (γ, { s with loop := s.loop.cancelTicket k }) := by
  have noTask : s.loop.taskEndingIn? k = none := by
    rcases e : s.loop.taskEndingIn? k with _ | u
    · rfl
    · obtain ⟨T, hT, ending⟩ := Option.map_eq_some_iff.mp (Loop.ending?_of_taskEndingIn? e)
      obtain ⟨keeper, role'⟩ := inv.tickets.endings u T hT
      rw [ending, role] at role'
      cases role'
  have step : s.loop.cancelTicket k = s.loop.settle k (.error .cancelled) := by
    simp only [Loop.cancelTicket, noTask]
  rw [step]
  have fits : Fits γ s (γ.role k) (.error .cancelled) := by
    rw [role]; exact fun f e => .inl (Except.error.inj e).symm
  have calm : Calm (γ, s) (γ, { s with loop := s.loop.settle k (.error .cancelled) }) :=
    .withLoop (Loop.grows_settle ..) (fun _ _ => rfl) rfl (fun _ h => h) fun _ h => h
  refine ⟨calm.inv inv (inv.tickets.settle fits) ?_ fun p => (inv.locks p).calm calm
      fun j hj v hv => ?_, calm.mute inv.locks t,
    fun u hu => calm.rely inv.locks (fun j hj hc => ?_) (fun _ _ _ _ => rfl) rfl⟩
  · refine inv.tasks.settled (Loop.tasks_settle ..) (Loop.grows_settle ..) rfl
      fun j i d hw v hv => ?_
    rcases Loop.outcome?_settle_cases hv with old | ⟨rfl, e⟩
    · exact old
    · cases e
  · rcases Loop.outcome?_settle_cases hv with old | ⟨rfl, e⟩
    · exact old
    · cases e
  · rcases Loop.outcome?_settle_cases hc with old | ⟨rfl, -⟩
    · exact old
    · rw [role] at hj
      exact absurd (Role.request.inj hj).symm hu

/-- A task that serves a session is cancelled; the one who cancels it is its keeper, if it has one. -/
theorem move_cancelTask {t k u : Nat} {κ : TaskKind} {keeper : Option Nat}
    (inv : Inv σ (some t) γ s) (role : γ.role k = .ending u κ keeper)
    (mine : keeper = none ∨ keeper = some t) (back : κ.IsBackground)
    (running : s.loop.outcome? k = none) :
    Move σ t (γ, s) (γ.doom u, { s with loop := s.loop.cancelTicket k }) := by
  obtain ⟨ending, kind⟩ := inv.tickets.ended k u κ keeper role
  have isTask : s.loop.taskEndingIn? k = some u := by
    obtain ⟨v, hv⟩ := Loop.exists_taskEndingIn? ending
    obtain ⟨T, hT, e⟩ := Option.map_eq_some_iff.mp (Loop.ending?_of_taskEndingIn? hv)
    obtain ⟨kp, role'⟩ := inv.tickets.endings v T hT
    rw [e, role] at role'
    cases role'
    exact hv
  have waits : ∀ j, s.loop.waitingFor? u = some j → s.loop.taskEndingIn? j = none := by
    intro j hj
    have own := inv.tasks.waits u κ j kind back hj
    rcases e : s.loop.taskEndingIn? j with _ | v
    · rfl
    · obtain ⟨T, hT, e'⟩ := Option.map_eq_some_iff.mp (Loop.ending?_of_taskEndingIn? e)
      obtain ⟨kp, role'⟩ := inv.tickets.endings v T hT
      rw [e'] at role'
      rw [role'] at own
      cases own
  have notMine (v : Nat) (hv : v ≠ t) : ∀ j w κ', γ.role j = .ending w κ' (some v) →
      (γ.doom u).doomed w = γ.doomed w := by
    intro j w κ' hj
    by_cases e : w = u
    · subst e
      obtain ⟨ending', -⟩ := inv.tickets.ended j w κ' _ hj
      obtain rfl := Option.some.inj (ending.symm.trans ending')
      rw [role] at hj
      cases hj
      rcases mine with e | e
      · cases e
      · exact absurd (Option.some.inj e) hv
    · simp [Ghost.doom, e]
  have doomed (v : Nat) (h : γ.doomed v = true) : (γ.doom u).doomed v = true := by
    simp only [Ghost.doom]; split <;> first | rfl | exact h
  have sets : (γ.doom u).doomed u = true := by simp [Ghost.doom]
  have either (v : Nat) (h : (γ.doom u).doomed v = true) : v = u ∨ γ.doomed v = true := by
    by_cases e : v = u
    · exact .inl e
    · exact .inr (by simpa [Ghost.doom, e] using h)
  -- What was settled before still fits: the cancelled task has not ended.
  have refit {j : Nat} {r : Except Fault Json} (hr : s.loop.outcome? j = some r)
      (h : Fits γ s (γ.role j) r) : Fits (γ.doom u) s (γ.role j) r := by
    refine h.mono doomed (fun _ e => e) (fun _ e => e) (fun _ e => e) fun v κ' keeper' hj hd => ?_
    rcases either v hd with rfl | old
    · obtain ⟨ending', -⟩ := inv.tickets.ended j v κ' keeper' hj
      obtain rfl := Option.some.inj (ending.symm.trans ending')
      rw [running] at hr
      cases hr
    · exact old
  have tickets₀ : Tickets (γ.doom u) s :=
    { inv.tickets with fits := fun j r hr => refit hr (inv.tickets.fits j r hr) }
  have background (v : Nat) (h : (γ.doom u).doomed v = true) :
      ∃ κ', s.loop.kind? v = some κ' ∧ κ'.IsBackground := by
    rcases either v h with rfl | old
    · exact ⟨κ, kind, back⟩
    · exact inv.tasks.background v old
  have step : s.loop.cancelTicket k = s.loop.cancel u := by simp only [Loop.cancelTicket, isTask]
  rw [step]
  have conclude {l : Loop} (grows : s.loop.Grows l) (tickets : Tickets (γ.doom u) { s with loop := l })
      (tasks : Tasks (some t) (γ.doom u) { s with loop := l })
      (same : ∀ j r, l.outcome? j = some r → s.loop.outcome? j = some r ∨
        ((γ.role j).owner? = some u ∧ r = .error .cancelled)) :
      Move σ t (γ, s) (γ.doom u, { s with loop := l }) := by
    have calm : Calm (γ, s) (γ.doom u, { s with loop := l }) :=
      .withLoop grows (fun _ _ => rfl) rfl doomed fun _ h => h
    refine ⟨calm.inv inv tickets tasks fun p => (inv.locks p).calm calm fun j hj v hv => ?_, calm.mute inv.locks t,
      fun v hv => calm.rely inv.locks (fun j hj hc => ?_) (notMine v hv) rfl⟩
    · rcases same j _ hv with old | ⟨-, e⟩
      · exact old
      · cases e
    · rcases same j _ hc with old | ⟨e, -⟩
      · exact old
      · rw [hj] at e; cases e
  rcases Loop.cancel_cases waits with ⟨same, ended⟩ | ⟨T, hT, -, step⟩ | ⟨j, hj, unsettled, step⟩
  · have := ended k ending
    simp [Loop.isSettled, running] at this
  · -- The task is interrupted at its next turn.
    rw [step]
    have bound := (List.getElem?_eq_some_iff.mp hT).1
    have grows := Loop.grows_set_interrupted hT
    have got (v : Nat) : (s.loop.tasks.set u { T with interrupted := true })[v]? =
        if v = u then some { T with interrupted := true } else s.loop.tasks[v]? := by
      by_cases e : v = u
      · subst e; simp [bound]
      · rw [List.getElem?_set_ne (Ne.symm e), if_neg e]
    have kinds (v : Nat) : Loop.kind? { s.loop with
        tasks := s.loop.tasks.set u { T with interrupted := true } } v = s.loop.kind? v := by
      simp only [Loop.kind?, got]; split
      · next e => subst e; rw [hT]; rfl
      · rfl
    have endings (v : Nat) : Loop.ending? { s.loop with
        tasks := s.loop.tasks.set u { T with interrupted := true } } v = s.loop.ending? v := by
      simp only [Loop.ending?, got]; split
      · next e => subst e; rw [hT]; rfl
      · rfl
    have waiting (v : Nat) : Loop.waitingFor? { s.loop with
        tasks := s.loop.tasks.set u { T with interrupted := true } } v = s.loop.waitingFor? v := by
      simp only [Loop.waitingFor?, got]; split
      · next e => subst e; rw [hT]; rfl
      · rfl
    have interrupted (v : Nat) : Loop.isInterrupted { s.loop with
        tasks := s.loop.tasks.set u { T with interrupted := true } } v =
          if v = u then true else s.loop.isInterrupted v := by
      simp only [Loop.isInterrupted, got]; split <;> rfl
    refine conclude grows ?_ ?_ fun j r hr => .inl hr
    · refine tickets₀.withLoop (fun _ _ => rfl) rfl (fun _ h => h) tickets₀.unissued (fun _ _ h => .inl h)
        (fun _ h => .inl h) (fun _ h => .inl h) (fun _ T hT _ hr => .inr ⟨T, hT, hr⟩)
        (fun v T' hT' => ?_) (fun i v κ' keeper' hi => ?_)
      · rw [got] at hT'
        split at hT'
        · next e =>
          subst e
          obtain rfl := Option.some.inj hT'
          exact inv.tickets.endings v T hT
        · exact inv.tickets.endings v T' hT'
      · rw [endings, kinds]; exact inv.tickets.ended i v κ' keeper' hi
    · exact
        { supervised := fun v κ' hκ => inv.tasks.supervised v κ' (by rw [← kinds]; exact hκ)
          running := inv.tasks.running
          stopped := fun v => by rw [waiting]; exact inv.tasks.stopped v
          background := fun v hv => by rw [kinds]; exact background v hv
          interrupted := fun v hv => by
            rw [interrupted] at hv
            split at hv
            · next e => subst e; exact sets
            · exact doomed v (inv.tasks.interrupted v hv)
          waits := fun v κ' i hκ b hi => by
            rw [kinds] at hκ; rw [waiting] at hi
            exact inv.tasks.waits v κ' i hκ b hi
          doomed := fun v hv hd => by
            rw [waiting, interrupted]
            rcases either v hd with rfl | old
            · exact .inr (.inl (if_pos rfl))
            · rcases inv.tasks.doomed v hv old with h | h | h
              · exact .inl h
              · exact .inr (.inl (by split <;> first | rfl | exact h))
              · exact .inr (.inr h)
          drainers := fun v v' i hv hv' => by
            rw [kinds] at hv hv'; exact inv.tasks.drainers v v' i hv hv'
          undrained := fun i none => inv.tasks.undrained i fun v => by rw [← kinds]; exact none v
          awaited := inv.tasks.awaited
          served := fun v i hv => by rw [kinds] at hv; exact inv.tasks.served v i hv }
  · -- The ticket that the task waits for is settled.
    rw [step]
    have own := inv.tasks.waits u κ j kind back hj
    have fits : Fits (γ.doom u) s ((γ.doom u).role j) (.error .cancelled) := by
      show Fits (γ.doom u) s (γ.role j) (.error .cancelled)
      have told : ∀ f, (.error .cancelled : Except Fault Json) = .error f →
          f = .cancelled ∧ (γ.doom u).doomed u = true :=
        fun f e => ⟨(Except.error.inj e).symm, sets⟩
      cases role : γ.role j with
      | stream _ _ v => rw [role] at own; exact Option.some.inj own ▸ told
      | exit _ v => rw [role] at own; exact ⟨fun _ e => (by cases e), Option.some.inj own ▸ told⟩
      | lock _ v _ => rw [role] at own; exact Option.some.inj own ▸ told
      | unissued => rw [role] at own; cases own
      | relay => rw [role] at own; cases own
      | request _ => rw [role] at own; cases own
      | ending _ _ _ => rw [role] at own; cases own
    refine conclude (Loop.grows_settle ..) (tickets₀.settle fits) ?_ fun i r hr => ?_
    · have tasks : Tasks (some t) γ { s with loop := s.loop.settle j (.error .cancelled) } :=
        inv.tasks.settled (Loop.tasks_settle ..) (Loop.grows_settle ..) rfl fun _ _ _ _ v hv => by
          rcases Loop.outcome?_settle_cases hv with old | ⟨-, e⟩
          · exact old
          · cases e
      exact
        { tasks with
          background := fun v hv => by
            simpa only [Loop.kind?, Loop.tasks_settle] using background v hv
          interrupted := fun v hv => doomed v (tasks.interrupted v hv)
          doomed := fun v hv hd => by
            rcases either v hd with rfl | old
            · refine .inr (.inr ⟨j, by simpa only [Loop.waitingFor?, Loop.tasks_settle] using hj, ?_⟩)
              have issued : j < s.loop.tickets.length := by
                refine Nat.lt_of_not_le fun ge => ?_
                rw [(inv.tickets.unissued j).mpr ge] at own
                cases own
              obtain ⟨r, hr, new⟩ := Loop.isSome_outcome?_settle (.error .cancelled) issued
              rw [new unsettled] at hr
              exact hr
            · exact tasks.doomed v hv old }
    · rcases Loop.outcome?_settle_cases hr with old | ⟨rfl, rfl⟩
      · exact .inl old
      · exact .inr ⟨own, rfl⟩

end LspHost
