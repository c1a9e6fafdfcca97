import LspHost.Proofs.Waiting

/-!
# Where a task stands

A task stops in the middle of a turn, goes on and ends without anything else changing. Nobody else minds
(`rely_enter`), the task itself is where it was when it goes on (`Rely.enter`), and the invariant holds
for whoever is in the middle of a turn then (`Inv.enter`).
-/

namespace LspHost

variable {σ : Setting} {t u : Nat} {γ γ' : Ghost} {s s' : World} {φ : Phase}

theorem Ghost.enter_same (h : γ.phase t = φ) : γ.enter t φ = γ := by
  have same : (fun v => if v = t then φ else γ.phase v) = γ.phase := by
    funext v
    split
    · next e => rw [e, h]
    · rfl
  simp only [enter, same]

@[simp] theorem Ghost.enter_enter (γ : Ghost) (t : Nat) (φ φ' : Phase) :
    (γ.enter t φ).enter t φ' = γ.enter t φ' := by
  have same : (fun v => if v = t then φ' else (γ.enter t φ).phase v) =
      fun v => if v = t then φ' else γ.phase v := by
    funext v
    split
    · rfl
    · next ne => exact γ.enter_ne φ ne
  simp only [enter, same] at *

/-- Whoever has ended has ended after another task has moved. -/
theorem ended_enter (going : γ.phase t ≠ .ended) (v : Nat) (h : γ.phase v = .ended) :
    (γ.enter t φ).phase v = .ended := by
  by_cases e : v = t
  · subst e; exact absurd h going
  · rw [γ.enter_ne φ e]; exact h

/-- Nobody else minds where a task stands. -/
theorem rely_enter (other : u ≠ t) (going : γ.phase t ≠ .ended) : Rely u (γ, s) (γ.enter t φ, s) :=
  { Rely.refl u (γ, s) with
    ended := ended_enter going
    phase := γ.enter_ne φ other }

/-- What a task counts on does not depend on where it stands itself. -/
theorem Rely.enter (h : Rely t (γ, s) (γ', s')) (φ : Phase) :
    Rely t (γ.enter t φ, s) (γ'.enter t φ, s') :=
  { h with
    ended := fun v e => by
      by_cases mine : v = t
      · subst mine
        rw [Ghost.enter_self] at e ⊢
        exact e
      · rw [γ'.enter_ne φ mine]
        exact h.ended v ((γ.enter_ne φ mine).symm.trans e)
    phase := by simp only [Ghost.enter_self] }

/-! ## The state of a task -/

namespace Loop

/-- The state of a task is another one. -/
def restate (l : Loop) (t : Nat) (f : TaskState → TaskState) : Loop :=
  { l with tasks := l.tasks.modify t f }

variable {l : Loop} {f : TaskState → TaskState}

theorem tasks_restate (u : Nat) :
    (l.restate t f).tasks[u]? = if u = t then (l.tasks[u]?).map f else l.tasks[u]? := by
  by_cases e : u = t
  · subst e
    rw [if_pos rfl]
    exact List.getElem?_modify_eq ..
  · rw [if_neg e]
    exact List.getElem?_modify_ne _ _ (Ne.symm e)

theorem outcome?_restate (k : Nat) : (l.restate t f).outcome? k = l.outcome? k := rfl

theorem restate_id (l : Loop) (t : Nat) : l.restate t id = l := by
  simp [restate, List.modify_id]

/-- A change of a task's state that leaves alone what the task does and which ticket it ends in, and
never calls for an interruption. -/
structure Restates (f : TaskState → TaskState) : Prop where
  kind : ∀ T, (f T).kind = T.kind
  ending : ∀ T, (f T).ending = T.ending
  interrupted : ∀ T, (f T).interrupted = true → T.interrupted = true

theorem Restates.id : Restates id := ⟨fun _ => rfl, fun _ => rfl, fun _ e => e⟩

theorem Restates.waiting (on : Option Nat) : Restates fun T => { T with waitingFor := on } :=
  ⟨fun _ => rfl, fun _ => rfl, fun _ e => e⟩

theorem Restates.running : Restates fun T => { T with waitingFor := none, interrupted := false } :=
  ⟨fun _ => rfl, fun _ => rfl, fun _ e => by cases e⟩

variable (same : Restates f)
include same

theorem grows_restate (t : Nat) : Grows l (l.restate t f) := grows_setTasks same.kind same.ending

theorem kind?_restate (u : Nat) : (l.restate t f).kind? u = l.kind? u := by
  simp only [kind?, tasks_restate]
  split
  · simp only [Option.map_map, Function.comp_def, same.kind]
  · rfl

theorem ending?_restate (u : Nat) : (l.restate t f).ending? u = l.ending? u := by
  simp only [ending?, tasks_restate]
  split
  · simp only [Option.map_map, Function.comp_def, same.ending]
  · rfl

theorem interrupted_restate {u : Nat} (h : (l.restate t f).isInterrupted u = true) :
    l.isInterrupted u = true := by
  simp only [isInterrupted, tasks_restate] at h ⊢
  split at h
  · rcases e : l.tasks[u]? with _ | T
    · simp [e] at h
    · simp only [e, Option.map_some, Option.getD_some] at h ⊢
      exact same.interrupted T h
  · exact h

end Loop

/-! ## Stopping, going on and ending -/

section Enter

variable {f : TaskState → TaskState} (same : Loop.Restates f)
include same

theorem calm_restate (γ : Ghost) (s : World) (t : Nat) :
    Calm (γ, s) (γ, { s with loop := s.loop.restate t f }) :=
  .withLoop (Loop.grows_restate same t) (fun _ _ => rfl) rfl (fun _ e => e) fun _ e => e

/-- Nobody minds that the state of a task is another one. -/
theorem rely_restate {o : Option Nat} (inv : Inv σ o γ s) (t : Nat) :
    Rely u (γ, s) (γ, { s with loop := s.loop.restate t f }) :=
  (calm_restate same γ s t).rely inv.locks (fun _ _ e => e) (fun _ _ _ _ => rfl) rfl

/-- A task comes to stand somewhere else: it is in the middle of a turn now, or nobody is. -/
structure Shifts (t : Nat) (o o' : Option Nat) (φ : Phase) (f : TaskState → TaskState) (γ : Ghost)
    (s : World) : Prop where
  mine : o = none ∨ o = some t
  going : γ.phase t ≠ .ended
  turns : o' = some t ∧ φ = .ready ∨ o' = none ∧ (φ = .ended ∨ γ.doomed t = false)
  there : ∃ κ, s.loop.kind? t = some κ
  waits : ∀ T, s.loop.tasks[t]? = some T → (f T).waitingFor = φ.on?
  owns : ∀ κ k, s.loop.kind? t = some κ → κ.IsBackground → φ.on? = some k → (γ.role k).owner? = some t

namespace Shifts

variable {o o' : Option Nat} (h : Shifts t o o' φ f γ s)
include h

omit same in
theorem waitingFor? : (s.loop.restate t f).waitingFor? t = φ.on? := by
  obtain ⟨κ, kind⟩ := h.there
  obtain ⟨T, found, -⟩ := Option.map_eq_some_iff.mp kind
  simp only [Loop.waitingFor?, Loop.tasks_restate, if_pos, found, Option.map_some, Option.bind_some]
  exact h.waits T found

theorem tickets (inv : Inv σ o γ s) :
    Tickets (γ.enter t φ) { s with loop := s.loop.restate t f } := by
  refine inv.tickets.withLoop (fun _ _ => rfl) rfl (ended_enter h.going) inv.tickets.unissued
    (fun _ _ e => .inl e) (fun _ e => .inl e) (fun _ e => .inl e) (fun _ T hT _ hr => .inr ⟨T, hT, hr⟩)
    (fun u T hT => ?_) (fun k u κ keeper hk => ?_)
  · rw [Loop.tasks_restate] at hT
    split at hT
    · obtain ⟨T₀, found, rfl⟩ := Option.map_eq_some_iff.mp hT
      rw [same.kind, same.ending]
      exact inv.tickets.endings u T₀ found
    · exact inv.tickets.endings u T hT
  · rw [Loop.kind?_restate same, Loop.ending?_restate same]
    exact inv.tickets.ended k u κ keeper hk

theorem tasks (inv : Inv σ o γ s) :
    Tasks o' (γ.enter t φ) { s with loop := s.loop.restate t f } where
  supervised u κ hκ := inv.tasks.supervised u κ (by rwa [Loop.kind?_restate same] at hκ)
  running u e := by
    rcases h.turns with ⟨rfl, rfl⟩ | ⟨rfl, -⟩
    · cases e; exact Ghost.enter_self ..
    · cases e
  stopped u := by
    by_cases e : u = t
    · subst e
      rw [Ghost.enter_self]; exact h.waitingFor?
    · rw [γ.enter_ne φ e]
      simpa only [Loop.waitingFor?, Loop.tasks_restate, if_neg e] using inv.tasks.stopped u
  background u e := by
    obtain ⟨κ, kind, back⟩ := inv.tasks.background u e
    exact ⟨κ, by rw [Loop.kind?_restate same]; exact kind, back⟩
  interrupted u e := inv.tasks.interrupted u (Loop.interrupted_restate same e)
  waits u κ k hκ back hk := by
    rw [Loop.kind?_restate same] at hκ
    by_cases e : u = t
    · subst e
      exact h.owns κ k hκ back (h.waitingFor?.symm.trans hk)
    · refine inv.tasks.waits u κ k hκ back ?_
      simpa only [Loop.waitingFor?, Loop.tasks_restate, if_neg e] using hk
  doomed u other doomed := by
    by_cases e : u = t
    · subst e
      rcases h.turns with ⟨rfl, -⟩ | ⟨-, rfl | live⟩
      · exact absurd rfl other
      · exact .inl (Ghost.enter_self ..)
      · cases live.symm.trans doomed
    · have apart : some u ≠ o := by
        rcases h.mine with rfl | rfl
        · exact fun e => by cases e
        · exact fun e' => e (Option.some.inj e')
      rw [γ.enter_ne φ e]
      simpa only [Loop.isInterrupted, Loop.waitingFor?, Loop.tasks_restate, Loop.outcome?_restate, if_neg e] using
        inv.tasks.doomed u apart doomed
  drainers u u' j hu hu' :=
    inv.tasks.drainers u u' j (by rwa [Loop.kind?_restate same] at hu)
      (by rwa [Loop.kind?_restate same] at hu')
  undrained j none := inv.tasks.undrained j fun u => by rw [← Loop.kind?_restate same]; exact none u
  awaited := inv.tasks.awaited
  served u j hu := inv.tasks.served u j (by rwa [Loop.kind?_restate same] at hu)

/-- The invariant holds for whoever is in the middle of a turn now. -/
theorem inv (inv : Inv σ o γ s) : Inv σ o' (γ.enter t φ) { s with loop := s.loop.restate t f } := by
  have calm : Calm (γ, s) (γ.enter t φ, { s with loop := s.loop.restate t f }) :=
    .withLoop (Loop.grows_restate same t) (fun _ _ => rfl) rfl (fun _ e => e) (ended_enter h.going)
  exact calm.inv inv (h.tickets same inv) (h.tasks same inv) fun p =>
    (inv.locks p).calm calm fun _ _ _ e => e

end Shifts

end Enter

end LspHost
