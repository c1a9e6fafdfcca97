import LspHost.Proofs.Chronicle

/-!
# Lifecycle operations wait in line

Whoever calls for a lifecycle operation comes to one lock. It is turned away, takes the lock at once, or waits
behind those who wait already (`Admission`). `comers` are the tasks that came to the lock in a run, in the order in
which they came, and `entrants` those that took it, in this order. An account of both (`queueing`) is kept in
every run: who has come has entered or waits, in the order of coming.

Results (together `Setting.Runs.in_turn`):
1. `Setting.Runs.admitted`: a call is turned away exactly if the policy says so and the lock is held, and then
   nothing else happens; it enters at once if the lock is free and nobody waits.
2. `Setting.Runs.in_line`: the operations enter in the order in which they came.
3. `Setting.Runs.held_iff`: the lock is held exactly while an operation that has entered is in flight. Between
   two operations it is free although others wait, and then nobody is turned away.
-/

namespace LspHost

open Act Discipline Program

/-! ## Coming and entering -/

/-- Who has come after a deed: a task that changes the lock for the first time comes last. -/
def Deed.joins (came : List Nat) (d : Deed) : List Nat :=
  if d.after.gate = d.before.gate ∨ d.task ∈ came then came else came ++ [d.task]

/-- The tasks that have come to the lock, in the order in which they came. -/
def comers (ds : List Deed) : List Nat := ds.foldl Deed.joins []

/-- Who takes the lock in a deed. -/
def Deed.entrant? (d : Deed) : Option Nat := if !d.before.gate.held && d.after.gate.held then some d.task else none

/-- The tasks that have taken the lock, in this order. -/
def entrants (ds : List Deed) : List Nat := ds.filterMap Deed.entrant?

theorem Deed.enters_iff {d : Deed} {u : Nat} : d.Enters u ↔ d.entrant? = some u := by
  unfold entrant?
  constructor
  · rintro ⟨mine, free, taken⟩
    rw [show d.before.gate.held = false from free, show d.after.gate.held = true from taken, mine]
    rfl
  · intro h
    split at h
    · next taken =>
      obtain ⟨free, taken⟩ := Bool.and_eq_true_iff.mp taken
      exact ⟨Option.some.inj h, Bool.not_eq_true' _ ▸ free, taken⟩
    · cases h

/-! ## What leaves the lock alone -/

/-- The lock of lifecycle operations is the same. -/
structure World.Ungated (a b : World) : Prop where
  gate : b.gate = a.gate
  loop : a.loop.Grows b.loop

namespace World.Ungated

variable {a b c : World}

theorem refl (a : World) : a.Ungated a := ⟨rfl, .refl _⟩

theorem trans (h : a.Ungated b) (h' : b.Ungated c) : a.Ungated c := ⟨h'.gate.trans h.gate, h.loop.trans h'.loop⟩

theorem of_apart (h : a.Apart b) : a.Ungated b := ⟨h.lock, h.loop⟩

/-- Nothing that a session does, or its process, is about the lock. -/
theorem permissive : Permissive World.Ungated where
  refl := .refl
  trans := .trans
  onLoop grows := ⟨rfl, grows⟩
  setServer _ _ _ := ⟨rfl, .refl _⟩
  acts _ orderly := ⟨rfl, orderly.grows⟩
  born _ _ _ := ⟨rfl, .refl _⟩
  attempts _ _ := ⟨rfl, .refl _⟩
  setTransport _ _ _ := ⟨rfl, .refl _⟩
  setSession _ _ _ _ _ _ := ⟨rfl, .refl _⟩
  record _ _ _ := ⟨rfl, .refl _⟩

/-- What is done under the lock leaves it alone. -/
theorem lifecycle : LifecycleSweep fun _ p => Across World.Ungated p := by
  have edits : Sweep.Edits fun _ p => Across World.Ungated p :=
    permissive.edits (fun _ _ => ⟨rfl, .refl _⟩) fun _ _ => ⟨rfl, .refl _⟩
  refine permissive.repertoire.lifecycle edits.withDocuments ?_ ?_ fun _ => .update fun _ => ⟨rfl, .refl _⟩
  · refine .yield fun s => ?_
    dsimp only
    split <;> exact ⟨rfl, .refl _⟩
  · intro type session message _
    refine .update fun s => ?_
    obtain ⟨l, waiting, grows, step⟩ := World.publish_eq (⟨type, .midnight, session.map Session.nameOf,
      .lifecycle ((session.bind s.sessionPid?).map Int.ofNat) message⟩) s
    show s.Ungated (s.publish _)
    rw [step]
    exact ⟨rfl, grows⟩

end World.Ungated

/-! ## Waiting in line -/

/-- A lock is free for the first one who waits when it is woken, and nobody in the foreground is interrupted. -/
structure World.InLine (place : LockPlace) (s : World) : Prop where
  granted : ∀ k ∈ (place.get s).waiters, ∀ v, s.loop.outcome? k = some (.ok v) →
    (place.get s).held = false ∧ (place.get s).waiters.head? = some k
  patient : ∀ k ∈ (place.get s).waiters, ∀ f, s.loop.outcome? k ≠ some (.error f)
  calm : ∀ u κ, s.loop.kind? u = some κ → s.loop.isInterrupted u = true → κ.IsBackground

namespace World.InLine

variable {Γ : Type} {A : Account Γ} {place : LockPlace} {γ : Γ} {s : World} {t k : Nat} {κ : TaskKind}
  {r : Except Fault Json}

/-- Who waits in line does not depend on who is picked to go on. -/
theorem picks {l : Loop} (same : place.get { s with loop := l } = place.get s) (known : s.InLine place)
    (picks : s.loop.Picks l) : World.InLine place { s with loop := l } where
  granted k hk v settled := by
    rw [same] at hk ⊢
    exact known.granted k hk v (by simpa only [Loop.outcome?, picks.tickets] using settled)
  patient k hk f settled := known.patient k (same ▸ hk) f (by simpa only [Loop.outcome?, picks.tickets] using settled)
  calm u κ kind interrupted := known.calm u κ ((picks.kinds u).symm.trans kind) (picks.calm u interrupted)

/-- A task in the foreground that waits in line is woken when it is the first one and the lock is free. -/
theorem woken (knows : ∀ s, A.Known s → s.InLine place) (kind : s.loop.kind? t = some κ) (fore : ¬ κ.IsBackground)
    (waits : k ∈ (place.get s).waiters) (resumes : A.discipline.Resumes t (some k) r γ s) :
    (∃ v, r = .ok v) ∧ (place.get s).held = false ∧ ∃ others, (place.get s).waiters = k :: others := by
  obtain ⟨-, known, -, ⟨-, s₀, -, known₀, grows, interrupted⟩ | ⟨settled, -⟩⟩ := resumes
  · -- Nobody interrupts a call.
    obtain ⟨κ', kind'⟩ : ∃ κ', s₀.loop.kind? t = some κ' := by
      rcases found : s₀.loop.tasks[t]? with _ | T
      · simp [Loop.isInterrupted, found] at interrupted
      · exact ⟨T.kind, by simp [Loop.kind?, found]⟩
    have same := (grows.kinds t κ' kind').symm.trans kind
    exact absurd (Option.some.inj same ▸ (knows _ known₀).calm t κ' kind' interrupted) fore
  · rcases r with f | v
    · exact absurd (settled k rfl) ((knows s known).patient k waits f)
    · obtain ⟨free, head⟩ := (knows s known).granted k waits v (settled k rfl)
      refine ⟨⟨v, rfl⟩, free, ?_⟩
      rcases waiting : (place.get s).waiters with _ | ⟨j, others⟩
      · rw [waiting] at waits
        cases waits
      · rw [waiting] at head
        cases head
        exact ⟨others, rfl⟩

end World.InLine

/-- Whoever waits for a lock that only tasks in the foreground take waits in line. -/
theorem Sound.inLine {σ : Setting} {γ : Ghost} {m : Machine} (h : Sound σ γ m) (p : Place)
    (fore : ∀ κ, p.Suits κ → ¬ κ.IsBackground) : m.world.InLine p.toLockPlace where
  granted := (h.inv.locks p).granted
  patient k hk f settled := by
    obtain ⟨u, x, κ, role, kind, suits⟩ := (h.inv.locks p).waiters k hk
    have fits := h.inv.tickets.fits k _ settled
    rw [role] at fits
    obtain ⟨κ', kind', back⟩ := h.inv.tasks.background u (fits f rfl).2
    obtain rfl := Option.some.inj (kind'.symm.trans kind)
    exact fore κ' suits back
  calm u κ kind interrupted := by
    obtain ⟨κ', kind', back⟩ := h.inv.tasks.background u (h.inv.tasks.interrupted u interrupted)
    exact Option.some.inj (kind'.symm.trans kind) ▸ back

/-! ## The account of those who wait -/

/-- Who has come to the lock and who has entered, and the task behind each ticket. -/
structure Queue where
  came : List Nat
  entered : List Nat
  place : Nat → Nat

namespace Queue

/-- Nobody has come. -/
def blank : Queue := ⟨[], [], fun _ => 0⟩

/-- Who has come has entered or waits. -/
structure Holds (q : Queue) (s : World) : Prop where
  line : q.came = q.entered ++ s.gate.waiters.map q.place
  nodup : q.came.Nodup
  issued : ∀ k ∈ s.gate.waiters, k < s.loop.tickets.length

/-- What a task counts on while it waits: nobody comes in its name or takes its place. -/
structure Rely (t : Nat) (a b : Queue × World) : Prop where
  loop : a.2.loop.Grows b.2.loop
  came : ∀ u ∈ a.1.came, u ∈ b.1.came
  mine : t ∈ b.1.came → t ∈ a.1.came
  place : ∀ k ∈ a.2.gate.waiters, a.1.place k = t → k ∈ b.2.gate.waiters ∧ b.1.place k = t

/-- What a deed makes of the account. -/
structure Acts (t : Nat) (f : World → World) (a : Queue × World) (q : Queue) : Prop where
  spares : ∀ u, u ≠ t → Rely u a (q, f a.2)
  came : q.came = Deed.joins a.1.came ⟨t, f, a.2⟩
  entered : q.entered = a.1.entered ++ (Deed.entrant? ⟨t, f, a.2⟩).toList

end Queue

/-- The account of those who come to the lock of lifecycle operations. -/
def queueing : Account Queue where
  Holds := Queue.Holds
  Rely := Queue.Rely
  Acts := Queue.Acts
  Known := World.InLine Supervisor.lifecyclePlace
  Serves := TaskKind.Supervised
  Waits _ _ _ _ := True
  Begins t q _ := t ∉ q.came
  Ends _ _ _ _ _ := True
  Told _ _ _ _ _ := True

namespace Queue

variable {α : Type} {t u : Nat} {q q' : Queue} {s s' : World}

theorem Rely.refl (t : Nat) (a : Queue × World) : Rely t a a :=
  ⟨.refl _, fun _ h => h, fun h => h, fun _ hk mine => ⟨hk, mine⟩⟩

theorem Rely.trans {a b c : Queue × World} (h : Rely t a b) (h' : Rely t b c) : Rely t a c where
  loop := h.loop.trans h'.loop
  came u hu := h'.came u (h.came u hu)
  mine hu := h.mine (h'.mine hu)
  place k hk mine := h'.place k (h.place k hk mine).1 (h.place k hk mine).2

/-- What leaves the lock alone keeps everything. -/
theorem Holds.ungated (h : q.Holds s) (ungated : s.Ungated s') : q.Holds s' where
  line := by rw [ungated.gate]; exact h.line
  nodup := h.nodup
  issued k hk := Nat.lt_of_lt_of_le (h.issued k (ungated.gate ▸ hk)) ungated.loop.issued

theorem rely_ungated (ungated : s.Ungated s') (u : Nat) : Rely u (q, s) (q, s') where
  loop := ungated.loop
  came _ h := h
  mine h := h
  place k hk mine := ⟨by rw [ungated.gate]; exact hk, mine⟩

theorem acts_ungated {f : World → World} (ungated : s.Ungated (f s)) : queueing.Acts t f (q, s) q where
  spares u _ := rely_ungated ungated u
  came := (if_pos (.inl ungated.gate)).symm
  entered := by
    have none : Deed.entrant? ⟨t, f, s⟩ = none := by
      refine if_neg ?_
      show ¬ (!s.gate.held && (f s).gate.held) = true
      rw [ungated.gate]
      simp
    rw [none, Option.toList_none, List.append_nil]

/-- A program that leaves the lock alone. -/
theorem wp_ungated {p : Act α} (only : Across World.Ungated p) (h : q.Holds s) :
    queueing.discipline.wp t p (fun _ q' s' => q'.Holds s' ∧ Rely t (q, s) (q', s')) q s :=
  Account.wp_only (I := fun q' s' => q'.Holds s' ∧ Rely t (q, s) (q', s'))
    (fun _ q' s' across h => ⟨q', acts_ungated (across s'), h.1.ungated (across s'),
      h.2.trans (rely_ungated (across s') t)⟩)
    (fun _ _ h => ⟨h.1, fun _ => trivial⟩)
    (fun _ _ _ _ h rely holds _ => ⟨holds, h.2.trans rely⟩) only ⟨h, .refl t _⟩

/-! ## Taking the lock -/

/-- A change of the lock. -/
def turn (f : Lock → Lock) (s : World) : World :=
  s.setSupervisor fun v => { v with lifecycleLock := f v.lifecycleLock }

/-- A task that has come and entered. -/
def Inside (t : Nat) (q : Queue) (s : World) : Prop := q.Holds s ∧ t ∈ q.came

/-- A change of the lock by a task, as its account. -/
theorem acts_turn {f : Lock → Lock} {g : World → World} (step : g s = turn f s)
    (came : q'.came = if f s.gate = s.gate ∨ t ∈ q.came then q.came else q.came ++ [t])
    (entered : q'.entered = q.entered ++ if !s.gate.held && (f s.gate).held then [t] else [])
    (place : ∀ k ∈ s.gate.waiters, q.place k ≠ t → k ∈ (f s.gate).waiters ∧ q'.place k = q.place k) :
    queueing.Acts t g (q, s) q' := by
  have after : (g s).gate = f s.gate := by rw [step]; rfl
  refine ⟨fun u ne => ⟨?_, fun v hv => ?_, fun hu => ?_, fun k hk mine => ?_⟩, ?_, ?_⟩
  · show s.loop.Grows (g s).loop
    rw [step]
    exact .refl _
  · show v ∈ q'.came
    rw [came]
    split
    · exact hv
    · exact List.mem_append_left _ hv
  · change u ∈ q'.came at hu
    rw [came] at hu
    split at hu
    · exact hu
    · rcases List.mem_append.mp hu with hu | hu
      · exact hu
      · exact absurd (List.mem_singleton.mp hu) ne
  · obtain ⟨stays, same⟩ := place k hk fun e => ne (mine.symm.trans e)
    exact ⟨by rw [after]; exact stays, same.trans mine⟩
  · rw [came, Deed.joins]
    show _ = if (g s).gate = s.gate ∨ t ∈ q.came then q.came else q.came ++ [t]
    rw [after]
  · rw [entered, Deed.entrant?]
    show _ = q.entered ++ (if !s.gate.held && (g s).gate.held then some t else none).toList
    rw [after]
    split <;> rfl

/-- The lock is open, and a task takes it at once. -/
theorem wp_take {Q : Except Fault Unit → Queue → World → Prop} (h : q.Holds s) (new : t ∉ q.came)
    (isOpen : s.gate.isOpen = true)
    (next : ∀ q' s', Inside t q' s' → Q (.ok ()) q' s') :
    queueing.discipline.wp t (Act.setLock Supervisor.lifecyclePlace fun l => { l with held := true }) Q q s := by
  obtain ⟨free, nobody⟩ := Bool.and_eq_true_iff.mp isOpen
  have free : s.gate.held = false := by simpa using free
  have nobody : s.gate.waiters = [] := by simpa using nobody
  have line := h.line
  rw [nobody, List.map_nil, List.append_nil] at line
  let q' : Queue := { q with came := q.came ++ [t], entered := q.entered ++ [t] }
  refine ⟨q', acts_turn (f := fun l => { l with held := true }) rfl
    (if_neg fun e => e.elim (fun same => by rw [← congrArg Lock.held same] at free; cases free) new).symm (by simp [q', free])
    (fun k hk _ => ⟨hk, rfl⟩), next _ _ ⟨⟨?_, ?_, h.issued⟩, List.mem_append_right _ List.mem_cons_self⟩⟩
  · show q.came ++ [t] = (q.entered ++ [t]) ++ s.gate.waiters.map q.place
    rw [nobody, line, List.map_nil, List.append_nil]
  · exact List.nodup_append.mpr ⟨h.nodup, by simp, fun a ha b hb e => new (by
      rw [← List.mem_singleton.mp hb, ← e]; exact ha)⟩

/-- Taking the lock, or waiting in line for it. -/
theorem wp_acquire {κ : TaskKind} (h : q.Holds s) (new : t ∉ q.came) (kind : s.loop.kind? t = some κ)
    (fore : ¬ κ.IsBackground) :
    queueing.discipline.wp t (Act.acquire Supervisor.lifecyclePlace)
      (fun r q' s' => r = .ok () ∧ Inside t q' s') q s := by
  refine Wp.look ?_
  split
  · next isOpen => exact wp_take h new isOpen fun _ _ inside => ⟨rfl, inside⟩
  · let k := s.loop.tickets.length
    have issued : s.Ungated { s with loop := s.loop.issue.2 } := ⟨rfl, Loop.grows_issue _⟩
    refine Wp.issue q (acts_ungated issued) ?_
    -- The task comes, and gets a place behind all others.
    let s₁ : World := { s with loop := s.loop.issue.2 }
    let q₂ : Queue := { q with came := q.came ++ [t], place := fun j => if j = k then t else q.place j }
    have old (j : Nat) (hj : j ∈ s.gate.waiters) : q₂.place j = q.place j :=
      if_neg (Nat.ne_of_lt (h.issued j hj))
    have holds₂ : q₂.Holds (turn (fun l => { l with waiters := l.waiters ++ [k] }) s₁) := by
      refine ⟨?_, ?_, fun j hj => ?_⟩
      · show q.came ++ [t] = q.entered ++ (s.gate.waiters ++ [k]).map q₂.place
        rw [List.map_append, List.map_congr_left old, List.map_singleton, show q₂.place k = t from if_pos rfl,
          ← List.append_assoc, ← h.line]
      · exact List.nodup_append.mpr ⟨h.nodup, by simp, fun a ha b hb e => new (by
          rw [← List.mem_singleton.mp hb, ← e]; exact ha)⟩
      · show j < s.loop.issue.2.tickets.length
        simp only [Loop.issue, List.length_append, List.length_singleton]
        rcases List.mem_append.mp hj with hj | hj
        · exact Nat.lt_succ_of_lt (h.issued j hj)
        · rw [List.mem_singleton.mp hj]
          exact Nat.lt_succ_self k
    refine Wp.change q₂ (acts_turn (f := fun l => { l with waiters := l.waiters ++ [k] }) rfl
      (if_neg fun e => e.elim (fun same => by simpa using congrArg Lock.waiters same) new).symm (by simp [q₂])
      fun j hj _ => ⟨List.mem_append_left _ hj, old j hj⟩) ?_
    -- It waits until it is woken, and then it is the first one.
    refine Wp.attempt_seq (P := fun r q₃ s₃ => q₃.Holds s₃ ∧ t ∈ q₃.came ∧ q₃.place k = t ∧ (∃ v, r = .ok v) ∧
        s₃.gate.held = false ∧ ∃ others, s₃.gate.waiters = k :: others)
      (Wp.await (fun r settled => ?_) (fun _ => ⟨holds₂, trivial⟩) fun _ q₃ s₃ r rely resumes => ?_) ?_
    · have bound := Loop.outcome?_lt (show s.loop.outcome? k = some r by
        rw [← Loop.outcome?_issue]; exact settled)
      exact absurd bound (Nat.lt_irrefl _)
    · have last : k ∈ (turn (fun l => { l with waiters := l.waiters ++ [k] }) s₁).gate.waiters :=
        List.mem_append_right _ (List.mem_singleton_self k)
      obtain ⟨waits, mine⟩ := rely.place k last (if_pos rfl)
      have came : t ∈ q₃.came := rely.came t (List.mem_append_right _ (List.mem_singleton_self t))
      have kind₃ := (issued.loop.trans rely.loop).kinds t κ kind
      obtain ⟨woken, free, first⟩ := World.InLine.woken (A := queueing) (fun _ known => known) kind₃ fore waits resumes
      exact ⟨resumes.1, came, mine, woken, free, first⟩
    · rintro r q₃ s₃ ⟨holds₃, came, mine, ⟨v, rfl⟩, free, others, waiting⟩
      have left : s₃.gate.waiters.erase k = others := by rw [waiting, List.erase_cons_head]
      refine Wp.change q₃ (acts_turn (f := fun l => { l with waiters := l.waiters.erase k }) rfl
        (if_pos (.inr came)).symm ?_ fun j hj ne => ⟨List.mem_erase_of_ne ?_ |>.mpr hj, rfl⟩) ?_
      · rw [free]
        simp
      · rintro rfl
        exact ne mine
      let q₅ : Queue := { q₃ with entered := q₃.entered ++ [t] }
      refine ⟨q₅, acts_turn (f := fun l => { l with held := true }) rfl (if_pos (.inr came)).symm ?_
        fun j hj _ => ⟨hj, rfl⟩, rfl, ⟨?_, holds₃.nodup, fun j hj => ?_⟩, came⟩
      · show q₃.entered ++ [t] = q₃.entered ++ if !s₃.gate.held && true then [t] else []
        simp [free]
      · have line := holds₃.line
        rw [waiting, List.map_cons, mine] at line
        show q₃.came = (q₃.entered ++ [t]) ++ (s₃.gate.waiters.erase k).map q₃.place
        rw [left, line, List.append_assoc, List.singleton_append]
      · exact holds₃.issued j (List.erase_subset hj)

/-- An operation under its lock. -/
theorem wp_serialized {κ : TaskKind} {o : Operation} {policy : BusyPolicy} {body : Act LifecycleResult}
    (only : Across World.Ungated body) (h : q.Holds s) (new : t ∉ q.came) (kind : s.loop.kind? t = some κ)
    (fore : ¬ κ.IsBackground) :
    queueing.discipline.wp t (Supervisor.serialized o policy body) (fun _ => Holds) q s := by
  refine Wp.look ?_
  split
  · exact h
  · refine Wp.seq (wp_acquire h new kind fore) (fun _ q₁ s₁ post => ?_) fun _ _ _ post => by cases post.1
    obtain ⟨-, holds₁, came₁⟩ := post
    refine Wp.ensure (Wp.mono (wp_ungated (t := t) only holds₁) fun _ q₂ s₂ post =>
      (⟨post.1, post.2.came t came₁⟩ : Inside t q₂ s₂)) ?_
    rintro r q₂ s₂ ⟨holds₂, came₂⟩
    have freed : q₂.Holds (turn (fun l => { l with held := false }) s₂) := ⟨holds₂.line, holds₂.nodup, holds₂.issued⟩
    refine Wp.change q₂ (acts_turn (f := fun l => { l with held := false }) rfl (if_pos (.inr came₂)).symm
      (by simp) fun j hj _ => ⟨hj, rfl⟩) ?_
    refine Wp.mono (wp_ungated (Aloof.wakeFirst.mono fun _ aloof s => .of_apart (aloof s)) freed) ?_
    rintro r' q₃ s₃ ⟨holds₃, -⟩
    cases r' <;> exact holds₃

/-- A lifecycle operation. -/
theorem wp_operate {κ : TaskKind} {o : Operation} (h : q.Holds s) (new : t ∉ q.came)
    (kind : s.loop.kind? t = some κ) (fore : ¬ κ.IsBackground) :
    queueing.discipline.wp t (Supervisor.operate o) (fun _ => Holds) q s := by
  refine Wp.look ?_
  cases o with
  | start => exact wp_serialized World.Ungated.lifecycle.doStart h new kind fore
  | stop => exact wp_serialized World.Ungated.lifecycle.doStop h new kind fore
  | restart => exact wp_serialized World.Ungated.lifecycle.doRestart h new kind fore
  | shutdown =>
    refine Wp.seq (wp_serialized World.Ungated.lifecycle.doStop h new kind fore) (fun x q₁ s₁ h₁ => ?_)
      fun _ _ _ h₁ => h₁
    exact Wp.change q₁ (acts_ungated ⟨rfl, .refl _⟩) (h₁.ungated ⟨rfl, .refl _⟩)

end Queue

/-- The account of those who come to the lock is kept. -/
theorem queueing_lawful : queueing.Lawful where
  refl := Queue.Rely.refl
  trans _ _ _ _ := Queue.Rely.trans
  acts _ _ _ _ acts := acts.spares
  grows _ _ _ rely := rely.loop
  begins _ _ _ new rely came := new (rely.mine came)
  told _ _ _ _ _ _ _ := trivial
  ends _ _ _ _ _ _ := trivial
  waits _ _ _ _ _ _ := trivial
  backstage q a b holds stage := by
    have ungated : a.Ungated b := ⟨by rw [stage.rest]; rfl, stage.loop⟩
    exact ⟨holds.ungated ungated, Queue.rely_ungated ungated⟩
  stops t k q s s' holds _ stop := by
    subst stop
    have ungated : s.Ungated { s with loop := (s.loop.watch k (.task t)).setWaiting t (some k) } :=
      ⟨rfl, (Loop.grows_watch ..).trans (Loop.grows_setWaiting ..)⟩
    exact ⟨holds.ungated ungated, Queue.rely_ungated ungated⟩
  known _ _ known picks := known.picks rfl picks
  interrupted _ _ _ _ _ _ _ _ := trivial
  turn t κ q s supervised kind holds _ new := by
    by_cases operates : ∃ o, κ = .call (.supervisor (.operate o))
    · obtain ⟨o, rfl⟩ := operates
      have run : queueing.discipline.wp t (Client.runCall (.supervisor (.operate o))) (fun _ => Queue.Holds) q s :=
        Wp.seq (Queue.wp_operate holds new kind fun back => back.elim) (fun _ _ _ post => post) fun _ _ _ post => post
      exact Wp.seq run (fun _ _ _ holds' => ⟨holds', trivial⟩) fun _ _ _ holds' => ⟨holds', trivial⟩
    · have only : Across World.Ungated (Client.turn κ) :=
        (Aloof.turn supervised fun o e => operates ⟨o, e⟩).mono fun _ aloof s => .of_apart (aloof s)
      refine Wp.mono (Wp.returns (Course.returns_turn supervised.sessional) (Queue.wp_ungated only holds)) ?_
      rintro r q' s' ⟨⟨holds', rely⟩, returns⟩
      refine ⟨holds', ?_⟩
      cases r with
      | error f => trivial
      | ok turn =>
        cases turn with
        | onward κ' => exact ⟨returns _ rfl κ' rfl, fun came => new (rely.mine came)⟩
        | finished x => trivial

variable {σ : Setting} {m m' : Machine} {ds : List Deed} {u : Nat} {o : Operation}

/-- What is known of a machine apart from the account of those who wait. -/
theorem Sound.orderly {γ : Ghost} (h : Sound σ γ m) : queueing.Regular m where
  known := h.inLine .lifecycle fun _ suits back => by
    obtain ⟨o, rfl⟩ := suits
    exact back.elim
  serves := h.inv.tasks.supervised
  woken _ _ _ _ _ _ _ := trivial

/-- All deeds of a job, one after the other. -/
theorem Queue.path {a b : Queue × World} {ds : List Deed} (path : queueing.Path ds a b) :
    b.1.came = ds.foldl Deed.joins a.1.came ∧ b.1.entered = a.1.entered ++ entrants ds := by
  induction path with
  | still => exact ⟨rfl, (List.append_nil _).symm⟩
  | later _ _ ih => exact ih
  | @deed t f γ γ' s c ds acts _ ih =>
    refine ⟨by rw [ih.1, acts.came]; rfl, ?_⟩
    rw [ih.2, acts.entered, List.append_assoc]
    congr 1
    simp only [entrants, List.filterMap_cons]
    cases Deed.entrant? ⟨t, f, s⟩ <;> rfl

/-- Lifecycle operations enter in the order in which they came, and who has not entered waits. -/
theorem Setting.Runs.in_line (run : σ.Runs ds m) :
    ∃ waiting, comers ds = entrants ds ++ waiting ∧ waiting.length = m.world.gate.waiters.length ∧
      (comers ds).Nodup := by
  obtain ⟨q, sound, came, entered⟩ := run.account
    (T := fun ds q => q.came = comers ds ∧ q.entered = entrants ds) Queue.blank queueing_lawful
    (fun _ _ sound => sound.orderly) (fun _ _ _ _ _ _ _ _ _ =>
      ⟨rfl, List.nodup_nil, fun _ h => by cases h⟩) (fun _ _ h => by cases h) ⟨rfl, rfl⟩
    (fun path traced => by
      obtain ⟨came, entered⟩ := Queue.path path
      refine ⟨by rw [came, traced.1, comers, comers, List.foldl_append], ?_⟩
      rw [entered, traced.2, entrants, entrants, entrants, List.filterMap_append]) rfl
  refine ⟨m.world.gate.waiters.map q.place, ?_, List.length_map _, came ▸ sound.holds.nodup⟩
  rw [← came, ← entered]
  exact sound.holds.line

/-! ## Being admitted -/

/-- A task that neither waits nor has ended begins its turn. -/
theorem Machine.begins (turn : TaskKind → Act Turn) {t : Nat} {T : TaskState} (found : m.world.loop.tasks[t]? = some T)
    (awake : m.isSuspended t = false) (going : m.hasEnded t = false) (calm : T.interrupted = false) :
    m.beginTask turn t = m.advance t (turn T.kind) ∧ m.deedsIn turn (.begin t) = (turn T.kind).deeds t m.world := by
  simp [beginTask, deedsIn, found, awake, going, calm]

/-- An operation is called: the first turn of its task is next. -/
structure Machine.Calls (m : Machine) (u : Nat) (o : Operation) : Prop where
  next : ∃ l, m.world.loop.next? = some (some (.begin u), l)
  kind : Course.Operates m.world u o
  new : m.isSuspended u = false ∧ m.hasEnded u = false

/-- What becomes of an operation that is called. -/
inductive Admission (m : Machine) (u : Nat) (o : Operation) (m' : Machine) : Prop
  /-- It is turned away: nothing is done, and nothing but the event loop is different. -/
  | refused (policy : m.world.supervisor.config.busyPolicy = .reject) (other : o ≠ .shutdown)
    (busy : m.world.gate.held = true) (still : m.deeds Client.turn = [])
    (same : m'.world = { m.world with loop := m'.world.loop }) (told : m'.result? u = some (.rejected o))
  /-- It enters before anything else happens. -/
  | entered (isOpen : m.world.gate.isOpen = true) (d : Deed) (rest : List Deed)
    (first : m.deeds Client.turn = d :: rest) (enters : d.Enters u)
  /-- It waits behind all others who wait. -/
  | queued (closed : m.world.gate.isOpen = false)
    (patient : m.world.supervisor.config.busyPolicy = .queue ∨ o = .shutdown ∨ m.world.gate.held = false)
    (behind : ∃ k, m'.world.gate.waiters = m.world.gate.waiters ++ [k])
    (outside : ∀ d ∈ m.deeds Client.turn, ¬ d.Enters u) (going : m'.reply? u = none)

namespace Queue

variable {s : World} {t : Nat}

/-- A task that finds the lock open takes it. -/
theorem acquire_open (h : s.gate.isOpen = true) :
    (Act.acquire Supervisor.lifecyclePlace).deeds t s = [⟨t, turn fun l => { l with held := true }, s⟩] := by
  show Program.deeds t (if s.gate.isOpen then _ else _) s = _
  rw [if_pos h]
  rfl

/-- A task that finds the lock closed waits for a new ticket behind the others. -/
theorem acquire_closed (h : s.gate.isOpen = false) : ∃ s' k next,
    (Act.acquire Supervisor.lifecyclePlace).advance (fun s t => s.loop.outcome? t) s = (s', .waiting k next) ∧
    s'.gate = { s.gate with waiters := s.gate.waiters ++ [k] } ∧
    ∀ d ∈ (Act.acquire Supervisor.lifecyclePlace).deeds t s, d.after.gate.held = d.before.gate.held := by
  let k := s.loop.tickets.length
  let s₁ : World := { s with loop := s.loop.issue.2 }
  let s₂ : World := turn (fun l => { l with waiters := l.waiters ++ [k] }) s₁
  have fresh : s₂.loop.outcome? k = none := by
    rcases e : s.loop.issue.2.outcome? k with _ | r
    · exact e
    · rw [Loop.outcome?_issue] at e
      exact absurd (Loop.outcome?_lt e) (Nat.lt_irrefl _)
  have waits : (Program.attempt (Program.await k : Act Json)).advance (fun s t => s.loop.outcome? t) s₂ =
      (s₂, .waiting k fun r => Program.attempt (Program.ofExcept r)) := by
    simp only [Program.await, Program.attempt, Program.advance, fresh]
  have still : (Program.attempt (Program.await k : Act Json)).deeds t s₂ = [] := by
    simp only [Program.await, Program.attempt, Program.deeds, fresh]
  obtain ⟨f, advances, deeds⟩ : ∃ f : Except Fault Json → Act Unit,
      (Act.acquire Supervisor.lifecyclePlace).advance (fun s t => s.loop.outcome? t) s =
        ((Program.attempt (Program.await k : Act Json)).bind f).advance (fun s t => s.loop.outcome? t) s₂ ∧
      (Act.acquire Supervisor.lifecyclePlace).deeds t s =
        ⟨t, fun s => { s with loop := s.loop.issue.2 }, s⟩ ::
          ⟨t, turn fun l => { l with waiters := l.waiters ++ [k] }, s₁⟩ ::
            ((Program.attempt (Program.await k : Act Json)).bind f).deeds t s₂ := by
    rw [show Act.acquire Supervisor.lifecyclePlace = .look fun s : World =>
      if s.gate.isOpen then (Act.setLock Supervisor.lifecyclePlace fun l => { l with held := true })
      else Act.queueFor Supervisor.lifecyclePlace from rfl]
    simp only [Program.advance, Program.deeds, h, Bool.false_eq_true, if_false]
    exact ⟨_, rfl, rfl⟩
  obtain ⟨waits, quiet⟩ := advance_bind_waiting (t := t) f waits
  refine ⟨s₂, k, _, advances.trans waits, rfl, ?_⟩
  rw [deeds, quiet, still]
  intro d hd
  rcases List.mem_cons.mp hd with rfl | hd
  · rfl
  · obtain rfl := List.mem_singleton.mp hd
    rfl

/-- Whether an operation is turned away. -/
def Refuses (s : World) (o : Operation) : Prop :=
  s.supervisor.config.busyPolicy = .reject ∧ o ≠ .shutdown ∧ s.gate.held = true

/-- An operation that is turned away does nothing. -/
theorem turn_refused (h : Refuses s o) :
    (Client.turn (.call (.supervisor (.operate o)))).advance (fun s t => s.loop.outcome? t) s =
      (s, .done (.finished (.lifecycle (.rejected o)))) ∧
    (Client.turn (.call (.supervisor (.operate o)))).deeds t s = [] := by
  obtain ⟨policy, other, busy⟩ := h
  have refused : s.supervisor.config.busyPolicy = .reject ∧ s.supervisor.isBusy = true := ⟨policy, busy⟩
  have first (p : Act LifecycleResult) (o : Operation) :
      (if s.supervisor.config.busyPolicy = .reject ∧ s.supervisor.isBusy = true then
        (pure (.rejected o) : Act LifecycleResult) else p) = pure (.rejected o) := if_pos refused
  cases o with
  | start | stop | restart =>
    simp only [Client.turn, Client.runCall, Supervisor.run, Supervisor.operate, Supervisor.serialized, Supervisor.now,
      Program.peek, Bind.bind, Program.bind, Program.advance, Program.deeds, first]
    exact ⟨rfl, rfl⟩
  | shutdown => exact absurd rfl other

/-- An operation that is not turned away comes to the lock. -/
theorem turn_acquires (h : ¬ Refuses s o) : ∃ f : Unit → Act Turn,
    (Client.turn (.call (.supervisor (.operate o)))).advance (fun s t => s.loop.outcome? t) s =
      ((Act.acquire Supervisor.lifecyclePlace).bind f).advance (fun s t => s.loop.outcome? t) s ∧
    (Client.turn (.call (.supervisor (.operate o)))).deeds t s =
      ((Act.acquire Supervisor.lifecyclePlace).bind f).deeds t s := by
  have other (policy : BusyPolicy) (same : o ≠ .shutdown → policy = s.supervisor.config.busyPolicy)
      (patient : o = .shutdown → policy = .queue) (p q : Act LifecycleResult) :
      (if policy = .reject ∧ s.supervisor.isBusy = true then p else q) = q := by
    refine if_neg ?_
    rintro ⟨policy, busy⟩
    by_cases e : o = .shutdown
    · cases policy.symm.trans (patient e)
    · exact h ⟨(same e).symm.trans policy, e, busy⟩
  cases o with
  | start | stop | restart =>
    simp only [Client.turn, Client.runCall, Supervisor.run, Supervisor.operate, Supervisor.serialized, Supervisor.now,
      Act.locked, Program.peek, Bind.bind, Program.bind, Program.advance, Program.deeds,
      other _ (fun _ => rfl) (fun e => by cases e), Program.bind_assoc]
    exact ⟨_, rfl, rfl⟩
  | shutdown =>
    simp only [Client.turn, Client.runCall, Supervisor.run, Supervisor.operate, Supervisor.serialized, Supervisor.now,
      Act.locked, Program.peek, Bind.bind, Program.bind, Program.advance, Program.deeds,
      other .queue (fun e => absurd rfl e) (fun _ => rfl), Program.bind_assoc]
    exact ⟨_, rfl, rfl⟩

end Queue

/-- An operation is turned away exactly if the policy says so and the lock is held, and then nothing else is done.
Otherwise it takes the lock before anything else happens if it is free and nobody waits, and waits behind all
others if not. -/
theorem Setting.Runs.admitted (run : σ.Runs ds m) (calls : m.Calls u o)
    (step : m.step? Client.turn = some m') : Admission m u o m' := by
  obtain ⟨γ, sound⟩ := run.reaches.sound
  obtain ⟨l, next⟩ := calls.next
  obtain ⟨tickets, tasks, -⟩ := Loop.next?_cases next
  obtain ⟨T, found, kind⟩ := Option.map_eq_some_iff.mp calls.kind
  have calm : T.interrupted = false := by
    rcases e : T.interrupted with _ | _
    · rfl
    · have interrupted : m.world.loop.isInterrupted u = true := by simp [Loop.isInterrupted, found, e]
      obtain ⟨κ, kind', back⟩ := sound.inv.tasks.background u (sound.inv.tasks.interrupted u interrupted)
      cases calls.kind.symm.trans kind'
      exact back.elim
  let w : World := { m.world with loop := l }
  let p := Client.turn (.call (.supervisor (.operate o)))
  have found : (m.onLoop fun _ => l).world.loop.tasks[u]? = some T := by
    show l.tasks[u]? = some T
    rw [tasks]
    exact found
  obtain ⟨advances, does⟩ := Machine.begins Client.turn found calls.new.1 calls.new.2 calm
  rw [kind] at advances does
  have deeds : m.deeds Client.turn = p.deeds u w := by
    simp only [Machine.deeds, next]
    exact does
  have after : m' = (m.onLoop fun _ => l).advance u p := by
    simp only [Machine.step?, next, Option.some.injEq] at step
    exact step.symm.trans advances
  have going : m.reply? u = none := by simpa [Machine.hasEnded] using calls.new.2
  by_cases refuses : Queue.Refuses w o
  · obtain ⟨advance, still⟩ := Queue.turn_refused (t := u) refuses
    obtain ⟨policy, other, busy⟩ := refuses
    have ends : m' = (m.onLoop fun _ => l).endTask u (.ok (.lifecycle (.rejected o))) := by
      rw [after]
      simp only [Machine.advance]
      rw [show p.advance (fun s t => s.loop.outcome? t) (m.onLoop fun _ => l).world = _ from advance]
      rfl
    refine .refused policy other busy (deeds.trans still) (by rw [ends]; rfl) ?_
    rw [ends, Machine.result?_eq_some]
    simp [Machine.reply?, Machine.endTask, Machine.onLoop]
  · obtain ⟨f, advance, does⟩ := Queue.turn_acquires (t := u) refuses
    rcases isOpen : m.world.gate.isOpen with _ | _
    · obtain ⟨s', k, rest, waits, gate, same⟩ := Queue.acquire_closed (s := w) (t := u) isOpen
      obtain ⟨waits, quiet⟩ := advance_bind_waiting (t := u) f waits
      have stops : m' = { (m.onLoop fun _ => l) with
          world := { s' with loop := (s'.loop.watch k (.task u)).setWaiting u (some k) }
          suspended := ⟨u, some k, fun r => (rest r).bind f⟩ :: m.suspended } := by
        rw [after]
        simp only [Machine.advance]
        rw [show p.advance (fun s t => s.loop.outcome? t) (m.onLoop fun _ => l).world = _ from advance.trans waits]
        rfl
      refine .queued isOpen ?_ ⟨k, ?_⟩ (fun d hd enters => ?_) ?_
      · by_cases e : o = .shutdown
        · exact .inr (.inl e)
        · rcases held : m.world.gate.held with _ | _
          · exact .inr (.inr rfl)
          · rcases policy : m.world.supervisor.config.busyPolicy with _ | _
            · exact .inl rfl
            · exact absurd ⟨policy, e, held⟩ refuses
      · rw [stops]
        exact congrArg Lock.waiters gate
      · rw [deeds, show p.deeds u w = _ from does.trans quiet] at hd
        have := same d hd
        rw [show d.before.gate.held = false from enters.free, show d.after.gate.held = true from enters.taken] at this
        cases this
      · rw [stops]
        exact going
    · obtain ⟨rest, first⟩ := Program.deeds_bind_cons f (Queue.acquire_open (s := w) (t := u) isOpen)
      refine .entered isOpen _ rest (deeds.trans (does.trans first)) ⟨rfl, ?_, rfl⟩
      show m.world.gate.held = false
      simpa using (Bool.and_eq_true_iff.mp isOpen).1

/-- A shutdown is never turned away. -/
theorem Setting.Runs.shutdown_executed (run : σ.Runs ds m) (kind : Course.Operates m.world u .shutdown)
    {x : LifecycleResult} (told : m.result? u = some x) : u ∈ entrants ds ∧ x.outcome ≠ .rejected := by
  obtain ⟨c, sound, traced⟩ := run.course
  obtain ⟨κ, kind', tells⟩ := (sound.stands u).ended _ (Machine.result?_eq_some.mp told)
  obtain ⟨y, same, ⟨-, other, -⟩ | ⟨e, he, mine, operation, result, -⟩⟩ :=
    (tells .shutdown (Option.some.inj (kind'.symm.trans kind))).2 _ rfl
  · exact absurd rfl other
  · cases same
    obtain ⟨d, hd, enters, -⟩ := traced.log e he
    exact ⟨List.mem_filterMap.mpr ⟨d, hd, Deed.enters_iff.mp (mine ▸ enters)⟩,
      (sound.holds.told e he x result).executed⟩

/-- An operation that has entered is under way until it is replied to. -/
theorem Course.Traced.underway_of_entered {c : Course} (traced : Course.Traced ds c) (sound : course.Sound c m) {v : Nat}
    (entered : v ∈ entrants ds) (going : m.hasEnded v = false) : ∃ w, c.underway = some w ∧ w.task = v := by
  obtain ⟨d, hd, enters⟩ := List.mem_filterMap.mp entered
  rcases traced.entered v d hd (Deed.enters_iff.mpr enters) with ⟨w, under, mine, -⟩ | ⟨e, he, mine, -⟩
  · exact ⟨w, under, mine⟩
  · -- An operation that was carried out does not wait any more, and begins no other turn.
    rcases awake : m.isSuspended v with _ | _
    · exact absurd mine (((sound.stands v).between awake going).log e he)
    · obtain ⟨x, hx, waits⟩ := List.any_eq_true.mp awake
      exact absurd mine (((sound.stands v).stopped x hx (of_decide_eq_true waits)).1 e he)

/-- The lock is held exactly while an operation that has entered is in flight. -/
theorem Setting.Runs.held_iff (run : σ.Runs ds m) :
    m.world.gate.held = true ↔ ∃ v ∈ entrants ds, m.hasEnded v = false := by
  obtain ⟨c, sound, traced⟩ := run.course
  rw [show m.world.gate.held = c.underway.isSome from sound.holds.held]
  constructor
  · intro held
    obtain ⟨w, under⟩ := Option.isSome_iff_exists.mp held
    obtain ⟨d, hd, enters, -⟩ := traced.underway w under
    refine ⟨w.task, List.mem_filterMap.mpr ⟨d, hd, Deed.enters_iff.mp enters⟩, ?_⟩
    -- An operation that was replied to is under way no more.
    rcases e : m.reply? w.task with _ | r
    · simp [Machine.hasEnded, e]
    · obtain ⟨κ, kind, told⟩ := (sound.stands w.task).ended r e
      have same := Option.some.inj (kind.symm.trans (sound.holds.under w under).2.1)
      exact absurd rfl ((told w.operation same).1 w under)
  · rintro ⟨v, hv, going⟩
    obtain ⟨w, under, -⟩ := traced.underway_of_entered sound hv going
    rw [under]
    rfl

/-- How lifecycle operations take turns. -/
structure InTurn (ds : List Deed) (m : Machine) : Prop where
  /-- The lock is held exactly while an operation that has entered is in flight. -/
  busy : m.world.gate.held = true ↔ ∃ v ∈ entrants ds, m.hasEnded v = false
  /-- Operations enter once, in the order in which they came, and who has not entered waits. -/
  line : ∃ waiting, comers ds = entrants ds ++ waiting ∧ waiting.length = m.world.gate.waiters.length ∧
    (comers ds).Nodup
  /-- A shutdown is never turned away. -/
  shutdown : ∀ u x, Course.Operates m.world u .shutdown → m.result? u = some x →
    u ∈ entrants ds ∧ x.outcome ≠ .rejected
  /-- A call is turned away, enters or waits. -/
  admits : ∀ u o m', m.Calls u o → m.step? Client.turn = some m' → Admission m u o m'

/-- In every run, lifecycle operations take turns. -/
theorem Setting.Runs.in_turn (run : σ.Runs ds m) : InTurn ds m where
  busy := run.held_iff
  line := run.in_line
  shutdown _ _ kind told := run.shutdown_executed kind told
  admits _ _ _ calls step := run.admitted calls step

/-- A client that rejects calls while it is busy. -/
def Setting.rejecting : Setting := ⟨{ Config.sample with busyPolicy := .reject }, [.obedient], "/"⟩

/-- A start has taken its turn, and a stop was called at the same time. -/
def Machine.contended : Machine :=
  (((Machine.ofWorld (.fresh [] ⟨"/", []⟩ [.obedient] (.fresh Setting.rejecting.config .standard none false)
    (.fresh .standard 80) (.empty 0))).start (.call (.supervisor (.operate .start)))).2.start
      (.call (.supervisor (.operate .stop)))).2.runUntil Client.turn 1000 1 2

theorem Setting.reaches_contended : Setting.rejecting.Reaches Machine.contended :=
  Setting.Reaches.runUntil (.next (.next (.fresh [] ⟨"/", []⟩ rfl .standard none false _ _)
    (.host (.call (.supervisor (.operate .start)) trivial)))
    (.host (.call (.supervisor (.operate .stop)) trivial))) _ _ _

/-- The stop is turned away, since the start holds the lock. -/
theorem in_turn_contended : ∃ ds m' x, Machine.contended.step? Client.turn = some m' ∧
    m'.result? 1 = some x ∧ x.outcome = .rejected ∧ InTurn ds Machine.contended ∧
    Admission Machine.contended 1 .stop m' := by
  obtain ⟨ds, run⟩ := Setting.reaches_contended.runs
  have told : ((Machine.contended.step? Client.turn).bind (·.result? 1)).map LifecycleResult.outcome =
    some .rejected := by decide +kernel
  obtain ⟨x, told, rejected⟩ := Option.map_eq_some_iff.mp told
  obtain ⟨m', step, told⟩ := Option.bind_eq_some_iff.mp told
  have next : (Machine.contended.world.loop.next?).map Prod.fst = some (some (.begin 1)) := by decide +kernel
  obtain ⟨⟨job, l⟩, next, same⟩ := Option.map_eq_some_iff.mp next
  have kind : Machine.contended.world.loop.kind? 1 = some (.call (.supervisor (.operate .stop))) := by
    decide +kernel
  have calls : Machine.contended.Calls 1 .stop := ⟨⟨l, next.trans (by rw [← same])⟩, kind, by decide +kernel⟩
  have turn := Setting.Runs.in_turn run
  exact ⟨ds, m', x, step, told, rejected, turn, turn.admits 1 .stop m' calls step⟩

end LspHost
