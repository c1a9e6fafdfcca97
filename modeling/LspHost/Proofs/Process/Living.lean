import LspHost.Proofs.Process.Stream
import LspHost.Proofs.Task.Tidy
import LspHost.Transport.Calls

/-!
# What a process does to an event loop

A process settles the tickets of those who read its outputs or wait for its exit. `Living.Orderly` says
that this is all: tickets that may not be settled stay as they are, except that of who reads the output, who
is woken when the demand can be decided. So it is whatever a script does (`Living.orderly_perform`).
-/

namespace LspHost

namespace Channel

theorem get_set_self (c : Channel) (f : Stream → Stream) (p : Server) :
    c.get (c.set f p) = f (c.get p) := by cases c <;> rfl

theorem get_set_ne {c c' : Channel} (f : Stream → Stream) (p : Server) (h : c' ≠ c) :
    c'.get (c.set f p) = c'.get p := by
  cases c <;> cases c' <;> first | rfl | exact absurd rfl h

theorem exitWaiters_set (c : Channel) (f : Stream → Stream) (p : Server) :
    (c.set f p).exitWaiters = p.exitWaiters := by cases c <;> rfl

theorem pid_set (c : Channel) (f : Stream → Stream) (p : Server) : (c.set f p).pid = p.pid := by
  cases c <;> rfl

theorem errors_set (c : Channel) {f : Stream → Stream} (p : Server)
    (grows : (c.get p).Grows (f (c.get p))) : p.errors.Grows (c.set f p).errors := by
  cases c with
  | output => exact .refl _
  | errors => exact grows

end Channel

/-- Changes a stream of a process and wakes its reader. -/
def Server.stir (c : Channel) (f : Stream → Stream) (a : Living) : Living :=
  ((rouse a.1 (f (c.get a.2))).1, c.set (fun _ => (rouse a.1 (f (c.get a.2))).2) a.2)

/-- Who waits for the exit or the error output of a process may be settled at any time, and nothing that is
guarded waits for its output. -/
structure Server.Tidy (C : Leave) (p : Server) : Prop where
  exits : ∀ k ∈ p.exitWaiters, C.Always k
  errors : ∀ k d, p.errors.waiter = some (k, d) → C.Always k
  output : ∀ k d, p.output.waiter = some (k, d) → ¬ C.guarded k

/-- A stream goes on: what could be decided still can, and its reader still waits unless its demand can be
decided. -/
structure Stream.Follows (x y : Stream) : Prop where
  grows : x.Grows y
  waiter : y.waiter = x.waiter ∨ ∃ k d, x.waiter = some (k, d) ∧ y.waiter = none ∧ y.meets d = true

namespace Stream.Follows

variable {x y z : Stream}

theorem refl (x : Stream) : x.Follows x := ⟨.refl x, .inl rfl⟩

theorem trans (h : x.Follows y) (h' : y.Follows z) : x.Follows z where
  grows := h.grows.trans h'.grows
  waiter := by
    rcases h.waiter, h'.waiter with ⟨same | ⟨k, d, waits, woken, meets⟩, same' | ⟨k', d', waits', woken', meets'⟩⟩
    · exact .inl (same'.trans same)
    · exact .inr ⟨k', d', same ▸ waits', woken', meets'⟩
    · exact .inr ⟨k, d, waits, same'.trans woken, h'.grows.meets d meets⟩
    · cases woken.symm.trans waits'

/-- A stream whose reader is the same. -/
theorem of_grows (grows : x.Grows y) (waiter : y.waiter = x.waiter) : x.Follows y := ⟨grows, .inl waiter⟩

end Stream.Follows

namespace Living

variable {x y z : Living}

/-- What a process does is orderly. -/
structure Orderly (x y : Living) : Prop where
  grows : x.1.Grows y.1
  now : y.1.now = x.1.now
  tasks : y.1.tasks = x.1.tasks
  issued : y.1.tickets.length = x.1.tickets.length
  pid : y.2.pid = x.2.pid
  output : x.2.output.Follows y.2.output
  tidy : ∀ C : Leave, x.1.Tidy C → x.2.Tidy C → y.1.Tidy C ∧ y.2.Tidy C
  settled : ∀ C : Leave, x.1.Tidy C → x.2.Tidy C → ∀ k, ¬ C.allows k x.1.now →
    y.1.outcome? k = x.1.outcome? k ∨
      y.1.outcome? k = some (.ok .null) ∧ y.2.output.waiter = none ∧ ∃ d, x.2.output.waiter = some (k, d)

namespace Orderly

theorem refl (x : Living) : Orderly x x :=
  ⟨.refl _, rfl, rfl, rfl, rfl, .refl _, fun _ h h' => ⟨h, h'⟩, fun _ _ _ _ _ => .inl rfl⟩

theorem trans (h : Orderly x y) (h' : Orderly y z) : Orderly x z where
  grows := h.grows.trans h'.grows
  now := h'.now.trans h.now
  tasks := h'.tasks.trans h.tasks
  issued := h'.issued.trans h.issued
  pid := h'.pid.trans h.pid
  output := h.output.trans h'.output
  tidy C tidy tidy' := by
    obtain ⟨tidy, tidy'⟩ := h.tidy C tidy tidy'
    exact h'.tidy C tidy tidy'
  settled C tidy tidy' k never := by
    obtain ⟨tidy₁, tidy₁'⟩ := h.tidy C tidy tidy'
    rcases h'.settled C tidy₁ tidy₁' k (by rwa [h.now]) with same' | ⟨outcome, woken, d, waits⟩
    · rcases h.settled C tidy tidy' k never with same | ⟨outcome, woken, waits⟩
      · exact .inl (same'.trans same)
      · refine .inr ⟨h'.grows.outcomes k _ outcome, ?_, waits⟩
        rcases h'.output.waiter with still | ⟨_, _, waits', -⟩
        · exact still.trans woken
        · cases woken.symm.trans waits'
    · refine .inr ⟨outcome, woken, ?_⟩
      rcases h.output.waiter with still | ⟨_, _, -, woken', -⟩
      · exact ⟨d, still.symm.trans waits⟩
      · cases woken'.symm.trans waits

end Orderly

/-- A change of a process that concerns nobody who waits for it. -/
theorem orderly_passive {l : Loop} {p p' : Server} (pid : p'.pid = p.pid) (exits : p'.exitWaiters = p.exitWaiters)
    (errors : p'.errors.waiter = p.errors.waiter) (output : p.output.Grows p'.output)
    (waiter : p'.output.waiter = p.output.waiter) : Orderly (l, p) (l, p') where
  grows := .refl _
  now := rfl
  tasks := rfl
  issued := rfl
  pid := pid
  output := .of_grows output waiter
  tidy C h h' := ⟨h, by rw [exits]; exact h'.exits, by rw [errors]; exact h'.errors, by rw [waiter]; exact h'.output⟩
  settled _ _ _ _ _ := .inl rfl

/-- Octets arrive in a stream, or it ends. -/
theorem orderly_stir (c : Channel) {f : Stream → Stream} (grows : ∀ x : Stream, x.Grows (f x))
    (waiter : ∀ x : Stream, (f x).waiter = x.waiter) (x : Living) : Orderly x (Server.stir c f x) := by
  obtain ⟨l, p⟩ := x
  have passive : Orderly (l, p) (l, c.set (fun _ => f (c.get p)) p) := by
    refine orderly_passive (c.pid_set ..) (c.exitWaiters_set ..) ?_ ?_ ?_
    all_goals cases c
    · rfl
    · exact waiter _
    · exact grows _
    · exact .refl _
    · exact waiter _
    · rfl
  simp only [Server.stir, Server.rouse]
  split
  · next k d waits =>
    have waits : (c.get p).waiter = some (k, d) := by rw [← waiter]; exact waits
    split
    · next meets =>
      have free {C : Leave} (h : p.Tidy C) : ¬ C.guarded k := by
        cases c with
        | output => exact h.output k d waits
        | errors => exact C.apart k 0 (h.errors k d waits 0)
      refine
        { grows := l.grows_settle k _, now := Loop.now_settle, tasks := Loop.tasks_settle .., issued := ?_, pid := c.pid_set ..
          output := ?_, tidy := fun C h h' => ⟨h.settle_of (free h'), ?_, ?_, ?_⟩, settled := fun C h h' j never => ?_ }
      · exact Loop.length_tickets_settle ..
      · cases c with
        | output =>
          exact ⟨(grows _).trans (Stream.grows_of_eq rfl rfl),
            .inr ⟨k, d, waits, rfl, (Stream.grows_of_eq (a := f p.output) rfl rfl).meets d meets⟩⟩
        | errors => exact .refl _
      · rw [c.exitWaiters_set]; exact h'.exits
      · cases c with
        | output => exact h'.errors
        | errors => exact fun _ _ e => by cases e
      · cases c with
        | output => exact fun _ _ e => by cases e
        | errors => exact h'.output
      · by_cases same : j = k
        · subst same
          cases c with
          | errors => exact absurd (h'.errors j d waits _) never
          | output =>
            rcases before : l.outcome? j with _ | r
            · rcases found : l.tickets[j]? with _ | T
              · left
                simp only [Loop.settle, found, before]
              · right
                refine ⟨?_, rfl, d, waits⟩
                obtain ⟨r, after, fresh⟩ :=
                  l.isSome_outcome?_settle (k := j) (.ok .null) (List.getElem?_eq_some_iff.mp found).1
                rw [after, fresh before]
            · exact .inl ((l.grows_settle j _).outcomes j r before)
        · exact .inl (Loop.outcome?_settle_ne same)
    · exact passive
  · exact passive

theorem orderly_emit (bytes : List UInt8) (x : Living) : Orderly x (Server.emit bytes x) :=
  orderly_stir .output (fun s => s.grows_feed bytes) (fun s => by unfold Stream.feed; split <;> rfl) x

theorem orderly_complain (bytes : List UInt8) (x : Living) : Orderly x (Server.complain bytes x) :=
  orderly_stir .errors (fun s => s.grows_feed bytes) (fun s => by unfold Stream.feed; split <;> rfl) x

theorem orderly_closeOutput (x : Living) : Orderly x (Server.closeOutput x) :=
  orderly_stir .output Stream.grows_close (fun _ => rfl) x

theorem orderly_closeErrors (x : Living) : Orderly x (Server.closeErrors x) :=
  orderly_stir .errors Stream.grows_close (fun _ => rfl) x

/-- Those who wait for the exit are woken. -/
theorem orderly_announceExit (x : Living) : Orderly x (Server.announceExit x) := by
  obtain ⟨l, p⟩ := x
  have kept (waiters : List Nat) (l : Loop) :
      l.Grows (waiters.foldl (fun l k => l.settle k (.ok .null)) l) ∧
      (waiters.foldl (fun l k => l.settle k (.ok .null)) l).now = l.now ∧
      (waiters.foldl (fun l k => l.settle k (.ok .null)) l).tasks = l.tasks ∧
      (waiters.foldl (fun l k => l.settle k (.ok .null)) l).tickets.length = l.tickets.length ∧
      ∀ j, j ∉ waiters →
        (waiters.foldl (fun l k => l.settle k (.ok .null)) l).outcome? j = l.outcome? j := by
    induction waiters generalizing l with
    | nil => exact ⟨.refl l, rfl, rfl, rfl, fun _ _ => rfl⟩
    | cons k rest ih =>
      obtain ⟨grows, now, tasks, issued, others⟩ := ih (l.settle k (.ok .null))
      refine ⟨(l.grows_settle k _).trans grows, now.trans Loop.now_settle, tasks.trans (Loop.tasks_settle ..),
        issued.trans (Loop.length_tickets_settle ..), fun j hj => ?_⟩
      rw [List.mem_cons, not_or] at hj
      exact (others j hj.2).trans (Loop.outcome?_settle_ne hj.1)
  obtain ⟨grows, now, tasks, issued, others⟩ := kept p.exitWaiters l
  exact
    { grows, now, tasks, issued, pid := rfl, output := .refl _
      tidy := fun C h h' =>
        ⟨(h.settleAll p.exitWaiters h'.exits).1, fun _ e => (by cases e), h'.errors, h'.output⟩
      settled := fun C h h' k never => .inl (others k fun hk => never (h'.exits k hk _)) }

theorem orderly_exit (code : Int) (x : Living) : Orderly x (Server.exit code x) := by
  obtain ⟨l, p⟩ := x
  have dead : Orderly (l, p) (l, { p with exitCode := some code }) :=
    orderly_passive rfl rfl rfl (.refl _) rfl
  exact ((dead.trans (orderly_closeOutput _)).trans (orderly_closeErrors _)).trans (orderly_announceExit _)

theorem orderly_act (trigger : Trigger) (a : Action) (x : Living) : Orderly x (Server.act trigger a x) := by
  cases a with
  | complain => exact orderly_complain ..
  | exit => exact orderly_exit ..
  | closeOutput => exact orderly_closeOutput ..
  | delay => exact .refl _
  | breakInput => exact orderly_passive rfl rfl rfl (.refl _) rfl
  | respond | echo | send | body | raw => exact orderly_emit ..

/-- Something is put off. -/
theorem orderly_later {l : Loop} {p : Server} {nanos : Nat} {job : Job} (other : ∀ k v, job ≠ .settle k v) :
    Orderly (l, p) ((l.later nanos job).2, p) where
  grows := l.grows_later nanos job
  now := rfl
  tasks := rfl
  issued := rfl
  pid := rfl
  output := .refl _
  tidy _ h h' := ⟨h.later fun _ _ e => absurd e (other _ _), h'⟩
  settled _ _ _ _ _ := .inl rfl

/-- Whatever a script does is orderly. -/
theorem orderly_perform (id : Nat) (trigger : Trigger) (actions : List Action) (x : Living) :
    Orderly x (Server.perform id trigger actions x) := by
  fun_induction Server.perform id trigger actions x with
  | case1 => exact .refl _
  | case2 => exact orderly_later fun _ _ e => by cases e
  | case3 => exact .refl _
  | case4 _ _ _ _ _ _ ih => exact (orderly_act ..).trans ih
  | case5 => exact .refl _

theorem orderly_receive (id : Nat) (m : Members) (x : Living) : Orderly x (Server.receive id m x) := by
  obtain ⟨l, p⟩ := x
  have counted : Orderly (l, p) (l, { p with seen := Server.countMethod (Server.methodOf m) p.seen }) :=
    orderly_passive rfl rfl rfl (.refl _) rfl
  exact counted.trans (orderly_perform ..)

theorem orderly_closeInput (id : Nat) (x : Living) : Orderly x (Server.closeInput id x) := by
  obtain ⟨l, p⟩ := x
  simp only [Server.closeInput]
  split
  · exact .refl _
  · have closed : Orderly (l, p) (l, { p with inputClosed := true }) :=
      orderly_passive rfl rfl rfl (.refl _) rfl
    exact closed.trans (orderly_perform ..)

theorem orderly_signal (sig : Signal) (x : Living) : Orderly x (Server.signal sig x).2 := by
  obtain ⟨l, p⟩ := x
  simp only [Server.signal]
  split
  · exact orderly_exit ..
  · exact .refl _
  · exact .refl _

end Living

end LspHost
