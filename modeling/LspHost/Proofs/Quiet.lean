import LspHost.Proofs.Keeping

/-!
# Quiet changes

A change is quiet if it keeps the invariant and no task at all minds it. Issuing tickets, watching
them, setting timers, starting tasks and settling tickets the way their roles allow is quiet.
-/

namespace LspHost

variable {σ : Setting} {t : Option Nat} {γ γ' : Ghost} {s s' : World}

/-- A change that keeps the invariant and that every task puts up with. -/
structure Quiet (σ : Setting) (t : Option Nat) (a b : Ghost × World) : Prop where
  inv : Inv σ t b.1 b.2
  rely : ∀ u, Rely u a b

theorem Quiet.refl {a : Ghost × World} (inv : Inv σ t a.1 a.2) : Quiet σ t a a :=
  ⟨inv, fun u => .refl u a⟩

theorem Quiet.trans {a b c : Ghost × World} (h : Quiet σ t a b) (h' : Quiet σ t b c) :
    Quiet σ t a c :=
  ⟨h'.inv, fun u => (h.rely u).trans (h'.rely u)⟩

/-! ## Tickets and tasks when the event loop changes -/

theorem Tickets.withLoop (h : Tickets γ s) {l : Loop}
    (roles : ∀ k, γ.role k ≠ .unissued → γ'.role k = γ.role k) (doomed : γ'.doomed = γ.doomed)
    (standing : ∀ u, γ.phase u = .ended → γ'.phase u = .ended)
    (unissued : ∀ k, γ'.role k = .unissued ↔ l.tickets.length ≤ k)
    (fits : ∀ k r, l.outcome? k = some r → s.loop.outcome? k = some r ∨ Fits γ s (γ.role k) r)
    (timers : ∀ x ∈ l.timers, x ∈ s.loop.timers ∨ JobFits γ' x.job)
    (ready : ∀ job ∈ l.ready,
      job ∈ s.loop.ready ∨ (∃ x ∈ s.loop.timers, x.job = job) ∨ JobFits γ' job)
    (watchers : ∀ (k : Nat) (T : Ticket), l.tickets[k]? = some T → ∀ r, Watcher.ticket r ∈ T.watchers →
      γ'.role r = .relay ∨
        ∃ T₀ : Ticket, s.loop.tickets[k]? = some T₀ ∧ Watcher.ticket r ∈ T₀.watchers)
    (endings : ∀ (u : Nat) (T : TaskState), l.tasks[u]? = some T →
      ∃ keeper, γ'.role T.ending = .ending u T.kind keeper)
    (ended : ∀ k u κ keeper, γ'.role k = .ending u κ keeper →
      l.ending? u = some k ∧ l.kind? u = some κ) :
    Tickets γ' { s with loop := l } where
  unissued := unissued
  fits k r hr := by
    have old : Fits γ s (γ.role k) r := (fits k r hr).elim (h.fits k r) fun h => h
    have issued : γ.role k ≠ .unissued := fun e => by rw [e] at old; exact old
    rw [roles k issued]
    exact old.mono (fun u e => by rw [doomed]; exact e) standing
      (fun _ e => e) (fun _ e => e)
      (fun u _ _ _ e => by rw [doomed] at e; exact e)
  timers x hx := (timers x hx).elim (fun h' => (h.timers x h').mono roles) fun h => h
  ready job hj := by
    rcases ready job hj with h' | ⟨x, hx, rfl⟩ | h'
    · exact (h.ready job h').mono roles
    · exact (h.timers x hx).mono roles
    · exact h'
  watchers k T hT r hr := by
    rcases watchers k T hT r hr with h' | ⟨T₀, hT₀, hr₀⟩
    · exact h'
    · have role := h.watchers k T₀ hT₀ r hr₀
      rw [roles r (by rw [role]; exact fun e => by cases e), role]
  endings := endings
  ended := ended
  streams j p c k d hp hw := by
    obtain ⟨u, role⟩ := h.streams j p c k d hp hw
    exact ⟨u, by rw [roles k (by rw [role]; exact fun e => by cases e), role]⟩
  exits j p k hp hk := by
    obtain ⟨u, role⟩ := h.exits j p k hp hk
    exact ⟨u, by rw [roles k (by rw [role]; exact fun e => by cases e), role]⟩
  pending i x e hx he := by
    obtain ⟨u, role⟩ := h.pending i x e hx he
    exact ⟨u, by rw [roles e.2 (by rw [role]; exact fun e => by cases e), role]⟩
  getters := h.getters

theorem Tickets.endings_of_same (h : Tickets γ s) {l : Loop}
    (roles : ∀ k, γ.role k ≠ .unissued → γ'.role k = γ.role k) (tasks : l.tasks = s.loop.tasks) :
    ∀ (u : Nat) (T : TaskState), l.tasks[u]? = some T →
      ∃ keeper, γ'.role T.ending = .ending u T.kind keeper := by
  intro u T hT
  obtain ⟨keeper, role⟩ := h.endings u T (by rw [← tasks]; exact hT)
  exact ⟨keeper, by rw [roles T.ending (by rw [role]; exact fun e => by cases e), role]⟩

theorem Tickets.ended_of_same (h : Tickets γ s) {l : Loop} (role : γ'.role = γ.role)
    (tasks : l.tasks = s.loop.tasks) :
    ∀ k u κ keeper, γ'.role k = .ending u κ keeper →
      l.ending? u = some k ∧ l.kind? u = some κ := by
  intro k u κ keeper hk
  rw [role] at hk
  simpa only [Loop.ending?, Loop.kind?, tasks] using h.ended k u κ keeper hk

/-- Tasks are in order when neither they nor any outcome change. -/
theorem Tasks.of_same (h : Tasks t γ s) (tasks : s'.loop.tasks = s.loop.tasks)
    (outcomes : ∀ k, s'.loop.outcome? k = s.loop.outcome? k) (servers : s'.servers = s.servers)
    (owners : ∀ k u, (γ.role k).owner? = some u → (γ'.role k).owner? = some u)
    (doomed : γ'.doomed = γ.doomed) (phase : γ'.phase = γ.phase) : Tasks t γ' s' where
  supervised u κ hκ := h.supervised u κ (by simpa only [Loop.kind?, tasks] using hκ)
  running u hu := by rw [phase]; exact h.running u hu
  stopped u := by simpa only [Loop.waitingFor?, tasks, phase] using h.stopped u
  background u hu := by
    simpa only [Loop.kind?, tasks] using h.background u (by rw [← doomed]; exact hu)
  interrupted u hu := by
    rw [doomed]; exact h.interrupted u (by simpa only [Loop.isInterrupted, tasks] using hu)
  waits u κ k hκ back hk :=
    owners k u (h.waits u κ k (by simpa only [Loop.kind?, tasks] using hκ) back
      (by simpa only [Loop.waitingFor?, tasks] using hk))
  doomed u hu hd := by
    simpa only [Loop.isInterrupted, Loop.waitingFor?, tasks, outcomes, phase] using
      h.doomed u hu (by rw [← doomed]; exact hd)
  drainers u u' j hu hu' :=
    h.drainers u u' j (by simpa only [Loop.kind?, tasks] using hu)
      (by simpa only [Loop.kind?, tasks] using hu')
  undrained j none := by
    simpa only [World.errorWaiter?, servers] using
      h.undrained j fun u => by simpa only [Loop.kind?, tasks] using none u
  awaited j k d hw v := by
    rw [outcomes]
    exact h.awaited j k d (by simpa only [World.errorWaiter?, servers] using hw) v
  served u j hu := by
    rw [servers]
    exact h.served u j (by simpa only [Loop.kind?, tasks] using hu)

theorem owner?_kept (roles : ∀ k, γ.role k ≠ .unissued → γ'.role k = γ.role k) (k u : Nat)
    (h : (γ.role k).owner? = some u) : (γ'.role k).owner? = some u := by
  rw [roles k (fun e => by rw [e] at h; exact by cases h)]; exact h

/-- A calm change that settles nothing is quiet. -/
theorem Calm.quiet {a b : Ghost × World} (c : Calm a b) (inv : Inv σ t a.1 a.2)
    (tickets : Tickets b.1 b.2) (tasks : Tasks t b.1 b.2)
    (outcomes : ∀ k, b.2.loop.outcome? k = a.2.loop.outcome? k)
    (doomed : b.1.doomed = a.1.doomed) (phase : b.1.phase = a.1.phase) : Quiet σ t a b where
  inv := c.inv inv tickets tasks fun p =>
    (inv.locks p).calm c fun k _ v h => by rw [← outcomes]; exact h
  rely _ := c.rely inv.locks (fun k _ h => by rw [← outcomes]; exact h) (fun _ _ _ _ => by rw [doomed])
    (by rw [phase])

/-! ## Operations that settle nothing -/

section Operations

variable (inv : Inv σ t γ s)
include inv

theorem assign_kept (ρ : Role) (k : Nat) (h : γ.role k ≠ .unissued) :
    (γ.assign s.loop.tickets.length ρ).role k = γ.role k := by
  refine Ghost.assign_role_ne γ ρ ?_
  rintro rfl
  exact h ((inv.tickets.unissued _).mpr (Nat.le_refl _))

theorem quiet_issue {ρ : Role} (issued : ρ ≠ .unissued)
    (open' : ∀ u κ keeper, ρ ≠ .ending u κ keeper) :
    Quiet σ t (γ, s) (γ.assign s.loop.tickets.length ρ, { s with loop := s.loop.issue.2 }) := by
  have roles := assign_kept inv ρ
  refine (Calm.withLoop (Loop.grows_issue _) roles rfl (fun _ h => h) fun _ h => h).quiet inv ?_ ?_
    (Loop.outcome?_issue _) rfl rfl
  · refine inv.tickets.withLoop roles rfl (fun _ h => h) (fun k => ?_) (fun k r h => .inl ?_)
      (fun x hx => .inl hx) (fun job hj => .inl hj) (fun k T hT r hr => ?_)
      (inv.tickets.endings_of_same roles rfl) (fun k u κ keeper hk => ?_)
    · simp only [Ghost.assign, Loop.issue, List.length_append, List.length_singleton]
      split
      · next e => subst e; exact ⟨fun e => absurd e issued, fun e => absurd e (Nat.not_succ_le_self _)⟩
      · next ne => rw [inv.tickets.unissued]; omega
    · rwa [Loop.outcome?_issue] at h
    · right
      rcases Nat.lt_or_ge k s.loop.tickets.length with lt | ge
      · refine ⟨T, ?_, hr⟩
        simpa only [Loop.issue, List.getElem?_append_left lt] using hT
      · simp only [Loop.issue, List.getElem?_append_right ge] at hT
        have := List.mem_singleton.mp (List.mem_of_getElem? hT)
        subst this
        cases hr
    · have ne : k ≠ s.loop.tickets.length := by
        rintro rfl
        exact open' u κ keeper (by simpa using hk)
      rw [Ghost.assign_role_ne _ _ ne] at hk
      exact inv.tickets.ended k u κ keeper hk
  · exact inv.tasks.of_same rfl (Loop.outcome?_issue _) rfl (owner?_kept roles) rfl rfl

/-- A change of the event loop that leaves tasks and outcomes alone. -/
theorem quiet_withLoop {l : Loop} (tasks : l.tasks = s.loop.tasks)
    (length : l.tickets.length = s.loop.tickets.length)
    (outcomes : ∀ k, l.outcome? k = s.loop.outcome? k)
    (timers : ∀ x ∈ l.timers, x ∈ s.loop.timers ∨ JobFits γ x.job)
    (ready : ∀ job ∈ l.ready,
      job ∈ s.loop.ready ∨ (∃ x ∈ s.loop.timers, x.job = job) ∨ JobFits γ job)
    (watchers : ∀ (k : Nat) (T : Ticket), l.tickets[k]? = some T → ∀ r, Watcher.ticket r ∈ T.watchers →
      γ.role r = .relay ∨
        ∃ T₀ : Ticket, s.loop.tickets[k]? = some T₀ ∧ Watcher.ticket r ∈ T₀.watchers) :
    Quiet σ t (γ, s) (γ, { s with loop := l }) := by
  have grows : s.loop.Grows l :=
    ⟨fun k r h => by rw [outcomes]; exact h, Nat.le_of_eq length.symm,
      fun u κ h => by simpa only [Loop.kind?, tasks] using h,
      fun u k h => by simpa only [Loop.ending?, tasks] using h⟩
  refine (Calm.withLoop grows (fun _ _ => rfl) rfl (fun _ h => h) fun _ h => h).quiet inv ?_ ?_
    outcomes rfl rfl
  · exact inv.tickets.withLoop (fun _ _ => rfl) rfl (fun _ h => h)
      (fun k => by rw [length]; exact inv.tickets.unissued k)
      (fun k r h => .inl (by rw [← outcomes]; exact h)) timers ready watchers
      (inv.tickets.endings_of_same (fun _ _ => rfl) tasks) (inv.tickets.ended_of_same rfl tasks)
  · exact inv.tasks.of_same tasks outcomes rfl (fun _ _ h => h) rfl rfl

theorem quiet_later (nanos : Nat) (job : Job) (fits : JobFits γ job) :
    Quiet σ t (γ, s) (γ, { s with loop := (s.loop.later nanos job).2 }) := by
  refine quiet_withLoop inv rfl rfl (fun _ => rfl) (fun x hx => ?_) (fun _ h => .inl h)
    (fun k T hT r hr => .inr ⟨T, hT, hr⟩)
  rcases Loop.mem_insertTimer hx with rfl | hx
  · exact .inr fits
  · exact .inl hx

theorem quiet_dropTimer (id : Nat) :
    Quiet σ t (γ, s) (γ, { s with loop := s.loop.dropTimer id }) :=
  quiet_withLoop inv rfl rfl (fun _ => rfl) (fun _ hx => .inl (List.mem_filter.mp hx).1)
    (fun _ h => .inl h) (fun _ T hT _ hr => .inr ⟨T, hT, hr⟩)

theorem quiet_soon {job : Job} (fits : JobFits γ job) :
    Quiet σ t (γ, s) (γ, { s with loop := s.loop.soon job }) := by
  refine quiet_withLoop inv rfl rfl (fun _ => rfl) (fun _ hx => .inl hx) (fun j hj => ?_)
    (fun _ T hT _ hr => .inr ⟨T, hT, hr⟩)
  rcases List.mem_append.mp hj with hj | hj
  · exact .inl hj
  · rw [List.mem_singleton.mp hj]; exact .inr (.inr fits)

theorem quiet_sooner {job : Job} (fits : JobFits γ job) :
    Quiet σ t (γ, s) (γ, { s with loop := s.loop.sooner job }) := by
  refine quiet_withLoop inv rfl rfl (fun _ => rfl) (fun _ hx => .inl hx) (fun j hj => ?_)
    (fun _ T hT _ hr => .inr ⟨T, hT, hr⟩)
  rcases List.mem_cons.mp hj with rfl | hj
  · exact .inr (.inr fits)
  · exact .inl hj

theorem quiet_watch (k : Nat) (w : Watcher) (fits : ∀ r, w = .ticket r → γ.role r = .relay) :
    Quiet σ t (γ, s) (γ, { s with loop := s.loop.watch k w }) := by
  refine quiet_withLoop inv (Loop.tasks_watch ..) (Loop.length_tickets_watch ..)
    (fun j => Loop.outcome?_watch s.loop k j w)
    (fun x hx => .inl (by rwa [Loop.timers_watch] at hx)) (fun job hj => ?_) (fun j T hT r hr => ?_)
  · unfold Loop.watch at hj
    split at hj
    · exact .inl hj
    · rcases List.mem_append.mp hj with hj | hj
      · exact .inl hj
      · rw [List.mem_singleton.mp hj]
        match w with
        | .task _ => exact .inr (.inr trivial)
        | .ticket r => exact .inr (.inr (fits r rfl))
    · exact .inl hj
  · unfold Loop.watch at hT
    split at hT
    · next ws found =>
      by_cases e : j = k
      · subst e
        rw [List.getElem?_set_self (List.getElem?_eq_some_iff.mp found).1] at hT
        obtain rfl := Option.some.inj hT
        rcases List.mem_append.mp hr with hr | hr
        · exact .inr ⟨_, found, hr⟩
        · exact .inl (fits r (List.mem_singleton.mp hr).symm)
      · rw [List.getElem?_set_ne (Ne.symm e)] at hT
        exact .inr ⟨T, hT, hr⟩
    · exact .inr ⟨T, hT, hr⟩
    · exact .inr ⟨T, hT, hr⟩

theorem quiet_unwatch (k : Nat) (w : Watcher) :
    Quiet σ t (γ, s) (γ, { s with loop := s.loop.unwatch k w }) := by
  refine quiet_withLoop inv rfl (by simp [Loop.unwatch])
    (fun j => Loop.outcome?_unwatch s.loop k j w) (fun _ hx => .inl hx) (fun _ hj => .inl hj)
    (fun j T hT r hr => .inr ?_)
  by_cases e : k = j
  · subst e
    simp only [Loop.unwatch, List.getElem?_modify_eq, Option.map_eq_map] at hT
    obtain ⟨T₀, hT₀, rfl⟩ := Option.map_eq_some_iff.mp hT
    exact ⟨T₀, hT₀, List.mem_of_mem_erase hr⟩
  · exact ⟨T, by simpa only [Loop.unwatch, List.getElem?_modify_ne _ _ e] using hT, hr⟩

end Operations

end LspHost
