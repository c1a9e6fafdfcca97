import LspHost.Proofs.Clock.Fate
import LspHost.Proofs.Process.Living

/-!
# What a process does to tickets

A process tampers with no tickets but those of who waits for one of its outputs or for its exit
(`Server.Awaited`), and nobody waits for it because of what it does itself (`Living.Stirs`).
-/

namespace LspHost

/-- Somebody waits with a ticket for an output of a process or for its exit. -/
def Server.Awaited (p : Server) (k : Nat) : Prop :=
  k ∈ p.exitWaiters ∨ ∃ (c : Channel) (d : Demand), (c.get p).waiter = some (k, d)

/-- A process for whose exit somebody waits is alive. -/
def Server.Mortal (p : Server) : Prop := ∀ k ∈ p.exitWaiters, p.isAlive = true

namespace Living

variable {x y z : Living}

/-- What a process does, and the event loop by it, except that it may be dead and not have told so. -/
structure Ripples (x y : Living) : Prop where
  does : x.1.Does x.2.Awaited y.1
  tasks : y.1.tasks = x.1.tasks
  unfed : ∀ k, ¬ x.1.Fed k → ¬ y.1.Fed k
  told : ∀ k r, y.1.outcome? k = some r → x.1.outcome? k = some r ∨ r = .ok .null
  exits : ∀ k ∈ y.2.exitWaiters, k ∈ x.2.exitWaiters
  streams : ∀ (c : Channel) (k : Nat) (d : Demand), (c.get y.2).waiter = some (k, d) → (c.get x.2).waiter = some (k, d)
  dead : x.2.isAlive = false → y.2.isAlive = false
  pid : y.2.pid = x.2.pid
  rung : ∀ k r, y.1.outcome? k = some r → x.1.outcome? k = some r ∨
    (∃ (c : Channel) (d : Demand), (c.get x.2).waiter = some (k, d)) ∨ k ∈ x.2.exitWaiters ∧ y.2.isAlive = false
  left : ∀ k ∈ x.2.exitWaiters, k < x.1.tickets.length → k ∈ y.2.exitWaiters ∨ y.1.isSettled k = true

theorem Ripples.awaited (h : Ripples x y) (k : Nat) (waits : y.2.Awaited k) : x.2.Awaited k :=
  waits.imp (h.exits k) fun ⟨c, d, waits⟩ => ⟨c, d, h.streams c k d waits⟩

theorem Ripples.refl (x : Living) : Ripples x x :=
  ⟨.refl _, rfl, fun _ h => h, fun _ _ h => .inl h, fun _ h => h, fun _ _ _ h => h, fun h => h, rfl, fun _ _ h => .inl h,
    fun _ h _ => .inl h⟩

theorem Ripples.trans (h : Ripples x y) (h' : Ripples y z) : Ripples x z where
  does := h.does.trans (h'.does.mono h.awaited)
  tasks := h'.tasks.trans h.tasks
  unfed k e := h'.unfed k (h.unfed k e)
  told k r e := (h'.told k r e).elim (h.told k r) .inr
  exits k e := h.exits k (h'.exits k e)
  streams c k d e := h.streams c k d (h'.streams c k d e)
  dead e := h'.dead (h.dead e)
  pid := h'.pid.trans h.pid
  rung k r e := by
    rcases h'.rung k r e with old | ⟨c, d, waits⟩ | ⟨waits, gone⟩
    · exact (h.rung k r old).imp_right (.imp_right fun told => ⟨told.1, h'.dead told.2⟩)
    · exact .inr (.inl ⟨c, d, h.streams c k d waits⟩)
    · exact .inr (.inr ⟨h.exits k waits, gone⟩)
  left k waits issued := by
    rcases h.left k waits issued with still | settled
    · exact h'.left k still (Nat.lt_of_lt_of_le issued h.does.grows.issued)
    · exact .inr (h'.does.grows.settled settled)

/-- What a process does, and the event loop by it: who waits for its exit is told as soon as it is dead. -/
structure Stirs (x y : Living) : Prop extends Ripples x y where
  mortal : x.2.Mortal → y.2.Mortal

theorem Stirs.refl (x : Living) : Stirs x x := ⟨.refl x, id⟩

theorem Stirs.trans (h : Stirs x y) (h' : Stirs y z) : Stirs x z :=
  ⟨h.toRipples.trans h'.toRipples, fun e => h'.mortal (h.mortal e)⟩

/-- A change of a process that concerns nobody who waits for it. -/
theorem ripples_passive {l : Loop} {p p' : Server} (exits : p'.exitWaiters = p.exitWaiters)
    (waiter : ∀ c : Channel, (c.get p').waiter = (c.get p).waiter) (dead : p.isAlive = false → p'.isAlive = false)
    (pid : p'.pid = p.pid) : Ripples (l, p) (l, p') where
  does := .refl _
  tasks := rfl
  unfed _ h := h
  told _ _ h := .inl h
  exits _ h := exits ▸ h
  streams c _ _ h := (waiter c).symm.trans h
  dead := dead
  pid := pid
  rung _ _ h := .inl h
  left _ h _ := .inl (exits ▸ h)

theorem stirs_passive {l : Loop} {p p' : Server} (exits : p'.exitWaiters = p.exitWaiters)
    (waiter : ∀ c : Channel, (c.get p').waiter = (c.get p).waiter) (alive : p'.isAlive = p.isAlive)
    (pid : p'.pid = p.pid) : Stirs (l, p) (l, p') where
  toRipples := ripples_passive exits waiter (fun h => alive.trans h) pid
  mortal h k waits := alive.trans (h k (exits ▸ waits))

theorem stirs_stir (c : Channel) {f : Stream → Stream} (waiter : ∀ s : Stream, (f s).waiter = s.waiter) (x : Living) :
    Stirs x (Server.stir c f x) := by
  obtain ⟨l, p⟩ := x
  have passive (s : Stream) (same : s.waiter = (c.get p).waiter) : Stirs (l, p) (l, c.set (fun _ => s) p) := by
    refine stirs_passive (c.exitWaiters_set ..) (fun c' => ?_) (by cases c <;> rfl) (by cases c <;> rfl)
    by_cases e : c' = c
    · subst e
      rw [c'.get_set_self]
      exact same
    · rw [Channel.get_set_ne _ _ e]
  simp only [Server.stir, Server.rouse]
  split
  · next k d waits =>
    have waits : (c.get p).waiter = some (k, d) := (waiter _).symm.trans waits
    have alive (g : Stream → Stream) : (c.set g p).isAlive = p.isAlive := by cases c <;> rfl
    split
    · refine
        { does := (Loop.does_settle k _).mono ?_
          tasks := Loop.tasks_settle ..
          unfed := fun _ h => Loop.not_fed_settle _ _ h
          told := fun _ _ h => (Loop.outcome?_settle_cases h).imp_right And.right
          exits := fun j exit => by rwa [c.exitWaiters_set] at exit
          streams := fun c' j d' waits' => ?_
          dead := fun h => (alive _).trans h
          pid := by cases c <;> rfl
          rung := fun j r h => (Loop.outcome?_settle_cases h).imp_right ?_
          left := fun j exit _ => .inl (by rwa [c.exitWaiters_set])
          mortal := fun h j exit => (alive _).trans (h j (by rwa [c.exitWaiters_set] at exit)) }
      · rintro j rfl
        exact .inr ⟨c, d, waits⟩
      · by_cases e : c' = c
        · subst e
          rw [c'.get_set_self] at waits'
          cases waits'
        · rwa [Channel.get_set_ne _ _ e] at waits'
      · rintro ⟨rfl, -⟩
        exact .inl ⟨c, d, waits⟩
    · exact passive _ (waiter _)
  · exact passive _ (waiter _)

theorem stirs_emit (bytes : List UInt8) (x : Living) : Stirs x (Server.emit bytes x) :=
  stirs_stir .output (f := fun s => s.feed bytes) (fun s => by unfold Stream.feed; split <;> rfl) x

theorem stirs_complain (bytes : List UInt8) (x : Living) : Stirs x (Server.complain bytes x) :=
  stirs_stir .errors (f := fun s => s.feed bytes) (fun s => by unfold Stream.feed; split <;> rfl) x

theorem stirs_closeOutput (x : Living) : Stirs x (Server.closeOutput x) := stirs_stir .output (f := Stream.close) (fun _ => rfl) x

theorem stirs_closeErrors (x : Living) : Stirs x (Server.closeErrors x) := stirs_stir .errors (f := Stream.close) (fun _ => rfl) x

/-- Those who wait for the exit of a dead process are woken. -/
theorem ripples_announceExit (x : Living) (gone : x.2.isAlive = false) : Ripples x (Server.announceExit x) := by
  obtain ⟨l, p⟩ := x
  have woken (ks : List Nat) (all : ∀ k ∈ ks, k ∈ p.exitWaiters) (l : Loop) :
      Ripples (l, p) (ks.foldl (fun l k => l.settle k (.ok .null)) l, p) ∧
        ∀ k ∈ ks, k < l.tickets.length → (ks.foldl (fun l k => l.settle k (.ok .null)) l).isSettled k = true := by
    induction ks generalizing l with
    | nil => exact ⟨.refl _, fun _ h => by cases h⟩
    | cons k rest ih =>
      obtain ⟨ripples, settled⟩ := ih (fun j hj => all j (List.mem_cons_of_mem _ hj)) (l.settle k (.ok .null))
      have first : Ripples (l, p) (l.settle k (.ok .null), p) :=
        { does := (Loop.does_settle k _).mono fun j e => e ▸ .inl (all k List.mem_cons_self)
          tasks := Loop.tasks_settle ..
          unfed := fun _ h => Loop.not_fed_settle _ _ h
          told := fun _ _ h => (Loop.outcome?_settle_cases h).imp_right And.right
          exits := fun _ h => h
          streams := fun _ _ _ h => h
          dead := fun h => h
          pid := rfl
          rung := fun j r h => (Loop.outcome?_settle_cases h).imp_right fun ⟨e, _⟩ => .inr ⟨e ▸ all k List.mem_cons_self, gone⟩
          left := fun _ h _ => .inl h }
      refine ⟨first.trans ripples, fun j hj issued => ?_⟩
      rcases List.mem_cons.mp hj with rfl | hj
      · exact ripples.does.grows.settled (Loop.isSettled_settle _ issued)
      · exact settled j hj (by rwa [Loop.length_tickets_settle])
  obtain ⟨ripples, settled⟩ := woken p.exitWaiters (fun _ hk => hk) l
  exact
    { ripples with
      exits := fun _ h => by cases h
      streams := fun c k d waits => by cases c <;> exact waits
      dead := fun h => h
      pid := rfl
      rung := fun k r e => (ripples.rung k r e).imp_right (.imp_right fun e => ⟨e.1, gone⟩)
      left := fun k waits issued => .inr (settled k waits issued) }

theorem stirs_exit (code : Int) (x : Living) : Stirs x (Server.exit code x) := by
  obtain ⟨l, p⟩ := x
  have dead : Ripples (l, p) (l, { p with exitCode := some code }) :=
    ripples_passive rfl (fun c => by cases c <;> rfl) (fun _ => rfl) rfl
  have closed := (stirs_closeOutput (l, { p with exitCode := some code })).toRipples.trans
    (stirs_closeErrors (Server.closeOutput (l, { p with exitCode := some code }))).toRipples
  refine ⟨(dead.trans closed).trans (ripples_announceExit _ (closed.dead rfl)), fun _ k waits => ?_⟩
  cases waits

theorem stirs_act (trigger : Trigger) (a : Action) (x : Living) : Stirs x (Server.act trigger a x) := by
  cases a with
  | complain => exact stirs_complain ..
  | exit => exact stirs_exit ..
  | closeOutput => exact stirs_closeOutput ..
  | delay => exact .refl _
  | breakInput => exact stirs_passive rfl (fun c => by cases c <;> rfl) rfl rfl
  | respond | echo | send | body | raw => exact stirs_emit ..

/-- Whatever a script does. -/
theorem stirs_perform (id : Nat) (trigger : Trigger) (actions : List Action) (x : Living) :
    Stirs x (Server.perform id trigger actions x) := by
  fun_induction Server.perform id trigger actions x with
  | case1 => exact .refl _
  | case2 =>
    exact
      { Ripples.refl _ with
        does := (Loop.does_later _ _).mono fun k never => by
          obtain ⟨v, e⟩ := never
          cases e
        unfed := fun k unfed => ((Loop.Kept.later fun v e => by cases e).unfed unfed).1
        mortal := fun h => h }
  | case3 => exact .refl _
  | case4 _ _ _ _ _ _ ih => exact (stirs_act ..).trans ih
  | case5 => exact .refl _

theorem stirs_receive (id : Nat) (m : Members) (x : Living) : Stirs x (Server.receive id m x) := by
  obtain ⟨l, p⟩ := x
  have counted : Stirs (l, p) (l, { p with seen := Server.countMethod (Server.methodOf m) p.seen }) :=
    stirs_passive rfl (fun c => by cases c <;> rfl) rfl rfl
  exact counted.trans (stirs_perform ..)

theorem stirs_closeInput (id : Nat) (x : Living) : Stirs x (Server.closeInput id x) := by
  obtain ⟨l, p⟩ := x
  simp only [Server.closeInput]
  split
  · exact .refl _
  · have closed : Stirs (l, p) (l, { p with inputClosed := true }) :=
      stirs_passive rfl (fun c => by cases c <;> rfl) rfl rfl
    exact closed.trans (stirs_perform ..)

theorem stirs_signal (sig : Signal) (x : Living) : Stirs x (Server.signal sig x).2 := by
  obtain ⟨l, p⟩ := x
  simp only [Server.signal]
  split
  · exact stirs_exit ..
  · exact .refl _
  · exact .refl _

end Living

end LspHost
