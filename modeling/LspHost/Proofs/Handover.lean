import LspHost.Proofs.Heedless
import LspHost.Proofs.Queueing

/-!
# The lock is handed over

`Client.oneByOne` is a client that makes its calls for lifecycle operations one by one: a call is put off while another
one is in flight, and when that one has returned, the call that has waited longest is made. So nobody ever waits for
the lock there.

An operation goes through the same steps in both clients (`Operation.going`). It takes the lock
(`Operation.advance_at_once`) or waits for it (`Operation.advance_closed`), and what it does when it returns wakes the
same task in both (`Operation.advance_finish`). `Machine.Alongside` relates the two clients in the middle of a job:
their worlds differ in who waits for the lock, and those who wait there are put off here. A segment of a task keeps
this (`Alongside.goes`, `Alongside.operates`).
-/

namespace LspHost

open Act Program

/-! ## A client that makes its calls one by one -/

/-- The tickets for which calls for lifecycle operations wait. -/
def Loop.waitingCalls (l : Loop) : List Nat :=
  l.tasks.filterMap fun T =>
    match T.kind with
    | .call (.supervisor (.operate _)) => T.waitingFor
    | _ => none

/-- The call that has waited longest goes on, if there is one. -/
def Loop.callNext (l : Loop) : Loop :=
  match l.waitingCalls.min? with
  | some ticket => l.settle ticket (.ok .null)
  | none => l

namespace Client

/-- Lets the next call go on, and then returns. -/
def passOn (r : Except Fault Turn) : Act Turn := (tell Loop.callNext).bind fun _ => Program.ofExcept r

/-- Makes a call for an operation, and lets the next one go on when it has returned. -/
def inTurn (o : Operation) : Act Turn :=
  (Program.attempt (turn (.call (.supervisor (.operate o))))).bind passOn

/-- What a task does in its turn if calls for lifecycle operations are made one by one: a call is put off while
another one is in flight. -/
def oneByOne : TaskKind → Act Turn
  | .call (.supervisor (.operate o)) => do
    let others ← Program.peek fun s : World => s.supervisor.isBusy || !s.loop.waitingCalls.isEmpty
    if others then do
      let ticket ← issue
      let _ ← Program.await ticket
      inTurn o
    else inTurn o
  | κ => turn κ

end Client

/-! ## Operations by their parts -/

namespace Operation

/-- What is done under the lock. -/
def body : Operation → Act LifecycleResult
  | .start => Supervisor.doStart
  | .stop => Supervisor.doStop
  | .restart => Supervisor.doRestart
  | .shutdown => Supervisor.doStop

/-- What is done when the lock was given back. -/
def conclude : Operation → LifecycleResult → Act Turn
  | .shutdown, x => do
    Supervisor.modify fun v => { v with documents := [] }
    pure (.finished (.lifecycle { x with operation := .shutdown }))
  | _, x => pure (.finished (.lifecycle x))

/-- The lock is given back, and the call returns. -/
def finish (o : Operation) (r : Except Fault LifecycleResult) : Act Turn :=
  (release Supervisor.lifecyclePlace).bind fun _ => (ofExcept r).bind o.conclude

/-- What is done once the lock was taken. -/
def underLock (o : Operation) : Act Turn := (Program.attempt o.body).bind o.finish

end Operation

/-- The least ticket of a list is the first one of the same tickets in their order. -/
theorem List.min?_of_sorted {l ws : List Nat} (sorted : ws.Pairwise (· < ·)) (same : ∀ k, k ∈ l ↔ k ∈ ws) :
    l.min? = ws.head? := by
  cases ws with
  | nil => rw [List.eq_nil_iff_forall_not_mem.mpr fun k hk => List.not_mem_nil ((same k).mp hk)]; rfl
  | cons k rest =>
    refine List.min?_eq_some_iff.mpr ⟨(same k).mpr List.mem_cons_self, fun j hj => ?_⟩
    rcases List.mem_cons.mp ((same j).mp hj) with rfl | hj
    · exact Nat.le_refl _
    · exact Nat.le_of_lt (List.rel_of_pairwise_cons sorted hj)

namespace Program

variable {α β γ : Type} {s : World}

theorem attempt_bind_attempt (p : Act α) (f : Except Fault α → Act β) :
    Program.attempt ((Program.attempt p).bind f) = (Program.attempt p).bind fun r => Program.attempt (f r) := by
  induction p with
  | done a => rfl
  | fail e => rfl
  | look k ih => simp only [bind, attempt, ih]
  | change g k ih => simp only [bind, attempt, ih]
  | wait t k ih => simp only [bind, attempt, ih]
  | pause k ih => simp only [bind, attempt, ih]

theorem attempt_bind_ofExcept (p : Act α) : (Program.attempt p).bind ofExcept = p := by
  induction p with
  | done a => rfl
  | fail e => rfl
  | look k ih => simp only [bind, attempt, ih]
  | change g k ih => simp only [bind, attempt, ih]
  | wait t k ih => simp only [bind, attempt, ih]
  | pause k ih => simp only [bind, attempt, ih]

/-- What follows an attempt goes on where the attempt ends, and waits while it does. -/
def proceed (f : Except Fault α → Act β) (s : World) : Stop World Fault α → World × Stop World Fault β
  | .done a => (f (.ok a)).advance (fun s t => s.loop.outcome? t) s
  | .failed e => (f (.error e)).advance (fun s t => s.loop.outcome? t) s
  | .waiting k next => (s, .waiting k fun r => (Program.attempt (next r)).bind f)
  | .pausing next => (s, .pausing fun r => (Program.attempt (next r)).bind f)

theorem advance_attempt_bind (p : Act α) (f : Except Fault α → Act β) (s : World) :
    ((Program.attempt p).bind f).advance (fun s t => s.loop.outcome? t) s =
      proceed f (p.advance (fun s t => s.loop.outcome? t) s).1 (p.advance (fun s t => s.loop.outcome? t) s).2 := by
  induction p generalizing s with
  | done a => rfl
  | fail e => rfl
  | look k ih => exact ih s s
  | change g k ih => exact ih (g s)
  | wait t k ih =>
    simp only [bind, attempt, advance]
    split
    · next r settled => exact ih r s
    · next unsettled => rfl
  | pause k ih => rfl

end Program

/-- The lock is given back, and the first one who waits for it is woken. -/
def World.released (s : World) : World :=
  { s.withGate { s.gate with held := false } with
    loop := s.gate.waiters.head?.elim s.loop fun k => s.loop.settle k (.ok .null) }

namespace Operation

variable {s : World} {o : Operation} {β : Type}

/-- An operation that is not turned away takes the lock, or waits for it. -/
theorem advance_turn (patient : s.supervisor.config.busyPolicy = .queue) (f : Except Fault Turn → Act β) :
    ((Program.attempt (Client.turn (.call (.supervisor (.operate o))))).bind f).advance (fun s t => s.loop.outcome? t) s =
      ((Program.attempt ((acquire Supervisor.lifecyclePlace).bind fun _ => o.underLock)).bind f).advance
        (fun s t => s.loop.outcome? t) s := by
  have other (p q : Act LifecycleResult) :
      (if s.supervisor.config.busyPolicy = .reject ∧ s.supervisor.isBusy = true then p else q) = q := by
    refine if_neg ?_
    rintro ⟨policy, -⟩
    cases policy.symm.trans patient
  have other' (p q : Act LifecycleResult) :
      (if BusyPolicy.queue = .reject ∧ s.supervisor.isBusy = true then p else q) = q := if_neg (by simp)
  cases o with
  | start | stop | restart =>
    simp only [Client.turn, Client.runCall, Supervisor.run, Supervisor.operate, Supervisor.serialized, Supervisor.now,
      Act.locked, Program.peek, Bind.bind, Program.bind, Program.attempt, Program.advance,
      other, Program.bind_assoc, underLock, Program.ensure]
    rfl
  | shutdown =>
    simp only [Client.turn, Client.runCall, Supervisor.run, Supervisor.operate, Supervisor.serialized, Supervisor.now,
      Act.locked, Program.peek, Bind.bind, Program.bind, Program.attempt, Program.advance,
      other', Program.bind_assoc, underLock, Program.ensure]
    rfl

/-- An operation that has the lock is in the middle of something, and is followed by something when it has returned. -/
def going (o : Operation) (f : Except Fault Turn → Act Turn) (p : Act LifecycleResult) : Act Turn :=
  (Program.attempt p).bind fun r => (Program.attempt (o.finish r)).bind f

theorem underLock_going (f : Except Fault Turn → Act Turn) :
    (Program.attempt o.underLock).bind f = o.going f o.body := by
  rw [underLock, Program.attempt_bind_attempt, Program.bind_assoc, going]

/-- The lock is open: the operation takes it and goes on. -/
theorem advance_open (isOpen : s.gate.isOpen = true) (f : Except Fault Turn → Act Turn) :
    ((Program.attempt ((acquire Supervisor.lifecyclePlace).bind fun _ => o.underLock)).bind f).advance
        (fun s t => s.loop.outcome? t) s =
      (o.going f o.body).advance (fun s t => s.loop.outcome? t) (s.withGate { s.gate with held := true }) := by
  rw [← underLock_going]
  show Program.advance _ (((Program.attempt ((if s.gate.isOpen then _ else _ : Act Unit).bind _)).bind f)) s = _
  rw [if_pos isOpen]
  rfl

/-- An operation that finds the lock open takes it and goes on. -/
theorem advance_at_once (patient : s.supervisor.config.busyPolicy = .queue)
    (isOpen : s.gate.isOpen = true) (f : Except Fault Turn → Act Turn) :
    ((Program.attempt (Client.turn (.call (.supervisor (.operate o))))).bind f).advance (fun s t => s.loop.outcome? t) s =
      (o.going f o.body).advance (fun s t => s.loop.outcome? t) (s.withGate { s.gate with held := true }) :=
  (advance_turn patient f).trans (advance_open isOpen f)

/-- The lock is closed: the operation waits, and takes the lock when it goes on. -/
theorem advance_closed (closed : s.gate.isOpen = false) (f : Except Fault Turn → Act Turn) : ∃ next,
    ((Program.attempt ((acquire Supervisor.lifecyclePlace).bind fun _ => o.underLock)).bind f).advance
        (fun s t => s.loop.outcome? t) s =
      (({ s with loop := s.loop.issue.2 } : World).withGate { s.gate with waiters := s.gate.waiters ++ [s.loop.tickets.length] },
        .waiting s.loop.tickets.length next) ∧
    ∀ v s', (next (.ok v)).advance (fun s t => s.loop.outcome? t) s' =
      (o.going f o.body).advance (fun s t => s.loop.outcome? t)
        (s'.withGate ⟨true, s'.gate.waiters.erase s.loop.tickets.length⟩) := by
  let k := s.loop.tickets.length
  let s₂ : World := ({ s with loop := s.loop.issue.2 } : World).withGate { s.gate with waiters := s.gate.waiters ++ [k] }
  have fresh : s₂.loop.outcome? k = none := by
    rcases e : s.loop.issue.2.outcome? k with _ | r
    · exact e
    · rw [Loop.outcome?_issue] at e
      exact absurd (Loop.outcome?_lt e) (Nat.lt_irrefl _)
  obtain ⟨next, advances, goes⟩ : ∃ next : Except Fault Json → Act Turn,
      ((Program.attempt ((acquire Supervisor.lifecyclePlace).bind fun _ => o.underLock)).bind f).advance
        (fun s t => s.loop.outcome? t) s = (Program.wait k next).advance (fun s t => s.loop.outcome? t) s₂ ∧
      ∀ v s', (next (.ok v)).advance (fun s t => s.loop.outcome? t) s' =
        ((Program.attempt o.underLock).bind f).advance (fun s t => s.loop.outcome? t)
          (s'.withGate ⟨true, s'.gate.waiters.erase k⟩) := by
    show ∃ next, Program.advance _ (((Program.attempt ((if s.gate.isOpen then _ else _ : Act Unit).bind _)).bind f)) s = _ ∧ _
    rw [if_neg (by simp [closed])]
    exact ⟨_, rfl, fun _ _ => rfl⟩
  refine ⟨next, advances.trans ?_, fun v s' => by rw [goes, underLock_going]⟩
  simp only [Program.advance, fresh]
  rfl

/-- How an operation returns. -/
def Returned (stop : Program.Stop World Fault Turn) : Prop :=
  (∃ x, stop = .done (.finished x)) ∨ ∃ e, stop = .failed e

theorem advance_release {α β : Type} (g : Unit → Act α) (f : Except Fault α → Act β) (s : World) :
    ((Program.attempt ((release Supervisor.lifecyclePlace).bind g)).bind f).advance (fun s t => s.loop.outcome? t) s =
      ((Program.attempt (g ())).bind f).advance (fun s t => s.loop.outcome? t) s.released := by
  show ((Program.attempt ((wakeFirst Supervisor.lifecyclePlace).bind g)).bind f).advance (fun s t => s.loop.outcome? t)
    (s.withGate { s.gate with held := false }) = _
  unfold World.released
  show ((Program.attempt (g ())).bind f).advance (fun s t => s.loop.outcome? t)
    (((wakeFirst Supervisor.lifecyclePlace).advance (fun s t => s.loop.outcome? t)
      (s.withGate { s.gate with held := false })).1) = _
  congr 1
  rcases s.gate with ⟨held, _ | ⟨k, rest⟩⟩ <;> rfl

/-- The lock is given back, which wakes the first one who waits, and the operation returns. It is the same if
nobody waits for the lock and the next call is let go on. -/
theorem advance_finish (o : Operation) (r : Except Fault LifecycleResult) (s : World) : ∃ s' stop,
    ((Program.attempt (o.finish r)).bind ofExcept).advance (fun s t => s.loop.outcome? t) s = (s', stop) ∧
    Returned stop ∧ s'.gate = { s.gate with held := false } ∧ s'.loop.tasks = s.loop.tasks ∧ s.loop.Grows s'.loop ∧
    (s.loop.waitingCalls.min? = s.gate.waiters.head? →
      ((Program.attempt (o.finish r)).bind Client.passOn).advance (fun s t => s.loop.outcome? t) (s.withGate ⟨true, []⟩) =
        (s'.withGate ⟨false, []⟩, stop)) := by
  obtain ⟨tasks, grows⟩ : s.released.loop.tasks = s.loop.tasks ∧ s.loop.Grows s.released.loop := by
    unfold World.released
    rcases s.gate.waiters with _ | ⟨k, _⟩
    · exact ⟨rfl, .refl _⟩
    · exact ⟨Loop.tasks_settle .., Loop.grows_settle ..⟩
  have called (next : s.loop.waitingCalls.min? = s.gate.waiters.head?) : s.loop.callNext = s.released.loop := by
    simp only [Loop.callNext, next, World.released]
    cases s.gate.waiters <;> rfl
  simp only [finish, advance_release]
  cases r with
  | error e =>
    refine ⟨s.released, .failed e, rfl, .inr ⟨e, rfl⟩, rfl, tasks, grows, fun next => ?_⟩
    show (({ (s.withGate ⟨true, []⟩).released with loop := s.loop.callNext } : World), _) = _
    rw [called next]
    rfl
  | ok x =>
    cases o with
    | start | stop | restart =>
      refine ⟨s.released, .done (.finished (.lifecycle x)), rfl, .inl ⟨_, rfl⟩, rfl, tasks, grows, fun next => ?_⟩
      show (({ (s.withGate ⟨true, []⟩).released with loop := s.loop.callNext } : World), _) = _
      rw [called next]
      rfl
    | shutdown =>
      refine ⟨s.released.setSupervisor fun v => { v with documents := [] },
        .done (.finished (.lifecycle { x with operation := .shutdown })), rfl, .inl ⟨_, rfl⟩, rfl, tasks, grows, fun next => ?_⟩
      show (({ (s.withGate ⟨true, []⟩).released.setSupervisor fun v => { v with documents := [] } with
        loop := s.loop.callNext } : World), _) = _
      rw [called next]
      rfl

/-- What is done under the lock does not depend on who waits for it. -/
theorem heedless_body (o : Operation) : o.body.Heedless := by
  cases o with
  | start => exact Heedless.lifecycle.doStart
  | stop | shutdown => exact Heedless.lifecycle.doStop
  | restart => exact Heedless.lifecycle.doRestart

end Operation

/-! ## Two clients beside each other -/

/-- A task that waits in a client, and the same task in one that makes its calls one by one. The task `h` has the
lock, and the task `place k` waits for it with the ticket `k`. -/
inductive Suspended.Pairs (h : Option Nat) (place : Nat → Nat) (s : World) (x y : Suspended) : Prop
  /-- It is not a lifecycle operation, and goes on in the same way. -/
  | apart (κ : TaskKind) (kind : s.loop.kind? x.task = some κ) (other : ∀ o, κ ≠ .call (.supervisor (.operate o)))
      (next : ∀ r, (x.next r).Heedless ∧ (x.next r).Returns fun t => ∀ κ', t = .onward κ' → κ' = κ) (same : y = x)
  /-- It has the lock, and goes on in the same way until it returns. -/
  | inside (o : Operation) (operates : Course.Operates s x.task o) (holds : h = some x.task)
      (q : Except Fault Json → Act LifecycleResult) (heedless : ∀ r, (q r).Heedless)
      (next : x.next = fun r => o.going ofExcept (q r))
      (same : y = ⟨x.task, x.on, fun r => o.going Client.passOn (q r)⟩)
  /-- It waits for the lock, and in the other client it is put off. -/
  | line (o : Operation) (operates : Course.Operates s x.task o) (outside : h ≠ some x.task) (k : Nat)
      (waits : x.on = some k) (queued : k ∈ s.gate.waiters) (mine : place k = x.task)
      (next : ∀ v s', (x.next (.ok v)).advance (fun s t => s.loop.outcome? t) s' =
        (o.going ofExcept o.body).advance (fun s t => s.loop.outcome? t) (s'.withGate ⟨true, s'.gate.waiters.erase k⟩))
      (same : y = ⟨x.task, x.on, fun r => (ofExcept r : Act Json).bind fun _ => Client.inTurn o⟩)

/-- Two clients that differ in who waits for the lock: in the second one nobody does. The task `h` has the lock, and
the ticket `new` is one that no task waits for yet. -/
structure Machine.Alongside (new h : Option Nat) (place : Nat → Nat) (m n : Machine) : Prop where
  world : n.world = m.world.withGate ⟨m.world.gate.held, []⟩
  replies : n.replies = m.replies
  pairs : List.Forall₂ (Suspended.Pairs h place m.world) m.suspended n.suspended
  held : m.world.gate.held = h.isSome
  line : ∀ k ∈ m.world.gate.waiters, new = some k ∨
    ∃ x ∈ m.suspended, x.on = some k ∧ h ≠ some x.task ∧ ∃ o, Course.Operates m.world x.task o
  sorted : m.world.gate.waiters.Pairwise (· < ·)
  issued : ∀ k ∈ m.world.gate.waiters, k < m.world.loop.tickets.length

/-- The task that has the lock waits in the middle of its operation. -/
def Machine.Keeper (m : Machine) (h : Option Nat) : Prop :=
  ∀ v, h = some v → m.isSuspended v = true ∧ ∃ o, Course.Operates m.world v o

namespace Machine

variable {m : Machine} {u v : Nat} {p : Act Turn} {s : World} {stop : Stop World Fault Turn}

/-- Only what a program does up to its next stop matters for a segment. -/
theorem advance_congr {q : Act Turn}
    (same : p.advance (fun s t => s.loop.outcome? t) m.world = q.advance (fun s t => s.loop.outcome? t) s) :
    m.advance u p = Machine.advance u q { m with world := s } := by
  simp only [advance, same]

/-- Whoever waits waits after a segment of another task. -/
theorem isSuspended_advance (waits : m.isSuspended v = true) : (m.advance u p).isSuspended v = true := by
  simp only [advance]
  generalize p.advance (fun s t => s.loop.outcome? t) m.world = reached
  obtain ⟨s, stop⟩ := reached
  cases stop with
  | done t => cases t <;> exact waits
  | failed f => exact waits
  | waiting k next | pausing next =>
    refine (List.any_cons ..).trans ?_
    rw [show (m.suspended.any fun x => decide (x.task = v)) = true from waits, Bool.or_true]

/-- A task that stops waits. -/
theorem isSuspended_self
    (stops : (∃ k next, p.advance (fun s t => s.loop.outcome? t) m.world = (s, .waiting k next)) ∨
      ∃ next, p.advance (fun s t => s.loop.outcome? t) m.world = (s, .pausing next)) :
    (m.advance u p).isSuspended u = true := by
  rcases stops with ⟨k, next, runs⟩ | ⟨next, runs⟩ <;>
  · simp only [advance, runs]
    exact (List.any_cons ..).trans (by simp)

/-- The event loop grows when a segment ends. -/
theorem grows_advance (runs : p.advance (fun s t => s.loop.outcome? t) m.world = (s, stop))
    (onward : ∀ κ, stop = .done (.onward κ) → s.loop.kind? u = some κ) :
    s.loop.Grows (m.advance u p).world.loop := by
  simp only [advance, runs]
  cases stop with
  | done t =>
    cases t with
    | onward κ =>
      show s.loop.Grows ((s.loop.setKind u κ).sooner (.begin u))
      rw [Loop.setKind_same (onward κ rfl)]
      exact Loop.grows_sooner ..
    | finished r => exact Loop.grows_settle ..
  | failed f => exact Loop.grows_settle ..
  | waiting k next => exact (Loop.grows_watch ..).trans (Loop.grows_setWaiting ..)
  | pausing next => exact Loop.grows_soon ..

end Machine

namespace Suspended.Pairs

variable {h h' : Option Nat} {place place' : Nat → Nat} {s s' : World} {x y : Suspended}

theorem task (p : Pairs h place s x y) : y.task = x.task := by
  cases p with
  | apart _ _ _ _ same | inside _ _ _ _ _ _ same | line _ _ _ _ _ _ _ _ same => rw [same]

theorem on (p : Pairs h place s x y) : y.on = x.on := by
  cases p with
  | apart _ _ _ _ same | inside _ _ _ _ _ _ same | line _ _ _ _ _ _ _ _ same => rw [same]

/-- A task that waits does so while others go on. -/
theorem mono (p : Pairs h place s x y) (grows : s.loop.Grows s'.loop) (holds : h = some x.task ↔ h' = some x.task)
    (stays : ∀ k ∈ s.gate.waiters, place k = x.task → k ∈ s'.gate.waiters ∧ place' k = x.task) :
    Pairs h' place' s' x y := by
  cases p with
  | apart κ kind other next same => exact .apart κ (grows.kinds _ _ kind) other next same
  | inside o operates mine q heedless next same =>
    exact .inside o (grows.kinds _ _ operates) (holds.mp mine) q heedless next same
  | line o operates outside k waits queued mine next same =>
    obtain ⟨queued, mine⟩ := stays k queued mine
    exact .line o (grows.kinds _ _ operates) (fun mine => outside (holds.mpr mine)) k waits queued mine next same

end Suspended.Pairs

namespace Machine.Alongside

variable {new h h' : Option Nat} {place : Nat → Nat} {m n : Machine} {u : Nat} {κ : TaskKind}

theorem suspends (a : Alongside new h place m n) (u : Nat) : n.isSuspended u = m.isSuspended u := by
  have same : ∀ l l' : List Suspended, List.Forall₂ (Suspended.Pairs h place m.world) l l' →
      (l'.any fun x => x.task = u) = l.any fun x => x.task = u := by
    intro l l' pairs
    induction pairs with
    | nil => rfl
    | cons first _ ih => rw [List.any_cons, List.any_cons, first.task, ih]
  exact same _ _ a.pairs

theorem loop (a : Alongside new h place m n) : n.world.loop = m.world.loop := by rw [a.world]; rfl

/-- Every task that waits does so in both. -/
theorem paired (a : Alongside new h place m n) {x : Suspended} (hx : x ∈ m.suspended) :
    ∃ y, Suspended.Pairs h place m.world x y := by
  have all : ∀ l l' : List Suspended, List.Forall₂ (Suspended.Pairs h place m.world) l l' →
      ∀ x ∈ l, ∃ y, Suspended.Pairs h place m.world x y := by
    intro l l' pairs
    induction pairs with
    | nil => exact fun _ hx => by cases hx
    | cons first _ ih =>
      intro x hx
      rcases List.mem_cons.mp hx with rfl | hx
      · exact ⟨_, first⟩
      · exact ih x hx
  exact all _ _ a.pairs x hx

/-- The event loop of both goes on. -/
theorem onLoop (a : Alongside new h place m n) {l : Loop} (grows : m.world.loop.Grows l) :
    Alongside new h place (m.onLoop fun _ => l) (n.onLoop fun _ => l) where
  world := by simp only [Machine.onLoop, a.world]; rfl
  replies := a.replies
  pairs := a.pairs.imp fun _ _ p => p.mono grows .rfl fun _ hk mine => ⟨hk, mine⟩
  held := a.held
  line k hk := (a.line k hk).imp_right fun ⟨x, hx, on, outside, o, operates⟩ =>
    ⟨x, hx, on, outside, o, grows.kinds _ _ operates⟩
  sorted := a.sorted
  issued k hk := Nat.lt_of_lt_of_le (a.issued k hk) grows.issued

/-- A task of both stops or ends in the same way. -/
inductive Agree (new h : Option Nat) (place : Nat → Nat) (s : World) (u : Nat) : Stop World Fault Turn → Stop World Fault Turn → Prop
  | done (t : Turn) (old : new = none) (onward : ∀ κ, t = .onward κ → s.loop.kind? u = some κ) : Agree new h place s u (.done t) (.done t)
  | failed (f : Fault) (old : new = none) : Agree new h place s u (.failed f) (.failed f)
  | waiting {k : Nat} {next next' : Except Fault Json → Act Turn} (mine : ∀ j, new = some j → j = k ∧ h ≠ some u ∧ ∃ o, Course.Operates s u o)
      (pairs : Suspended.Pairs h place s ⟨u, some k, next⟩ ⟨u, some k, next'⟩) :
      Agree new h place s u (.waiting k next) (.waiting k next')
  | pausing {next next' : Except Fault Json → Act Turn} (old : new = none) (pairs : Suspended.Pairs h place s ⟨u, none, next⟩ ⟨u, none, next'⟩) :
      Agree new h place s u (.pausing next) (.pausing next')

/-- Nobody has a ticket that no task waits for. -/
theorem settled (a : Alongside new h place m n) (old : new = none) : Alongside none h place m n :=
  { a with line := fun k hk => .inr ((a.line k hk).resolve_left fun e => by cases old.symm.trans e) }

/-- A task of both ends. -/
theorem ends (a : Alongside none h place m n) (u : Nat) (r : Except Fault Reply) :
    Alongside none h place (m.endTask u r) (n.endTask u r) := by
  have told : Alongside none h place { m with replies := (u, r) :: m.replies } { n with replies := (u, r) :: n.replies } :=
    { a with replies := by rw [a.replies] }
  have ends := told.onLoop (Loop.grows_settle m.world.loop ((m.world.loop.ending? u).getD 0) (r.map fun _ => .null))
  show Alongside none h place (Machine.onLoop (fun _ => _) _)
    (Machine.onLoop (fun _ => n.world.loop.settle ((n.world.loop.ending? u).getD 0) (r.map fun _ => .null)) _)
  rw [a.loop]
  exact ends

/-- A task of both waits. -/
theorem suspend {x y : Suspended} (a : Alongside new h place m n) (pairs : x.Pairs h place m.world y)
    (mine : ∀ k, new = some k → x.on = some k ∧ h ≠ some x.task ∧ ∃ o, Course.Operates m.world x.task o) :
    Alongside none h place { m with suspended := x :: m.suspended } { n with suspended := y :: n.suspended } :=
  { a with
    pairs := .cons pairs a.pairs
    line := fun k hk => by
      rcases a.line k hk with e | ⟨z, hz, rest⟩
      · exact .inr ⟨x, List.mem_cons_self, mine k e⟩
      · exact .inr ⟨z, List.mem_cons_of_mem _ hz, rest⟩ }

/-- A segment of a task ends in both. -/
theorem lands {s : World} {p p' : Act Turn} (stop stop' : Stop World Fault Turn)
    (a : Alongside new h place { m with world := s } { n with world := s.withGate ⟨s.gate.held, []⟩ })
    (agree : Agree new h place s u stop stop')
    (runs : p.advance (fun s t => s.loop.outcome? t) m.world = (s, stop))
    (runs' : p'.advance (fun s t => s.loop.outcome? t) n.world = (s.withGate ⟨s.gate.held, []⟩, stop')) :
    Alongside none h place (m.advance u p) (n.advance u p') := by
  simp only [Machine.advance, runs, runs']
  cases agree with
  | done t old onward =>
    cases t with
    | onward κ =>
      have grows : s.loop.Grows ((s.loop.setKind u κ).sooner (.begin u)) := by
        rw [Loop.setKind_same (onward κ rfl)]
        exact Loop.grows_sooner ..
      exact (a.settled old).onLoop grows
    | finished r => exact (a.settled old).ends u (.ok r)
  | failed f old => exact (a.settled old).ends u (.error f)
  | @waiting k next next' mine pairs =>
    have grows : s.loop.Grows ((s.loop.watch k (.task u)).setWaiting u (some k)) :=
      (Loop.grows_watch ..).trans (Loop.grows_setWaiting ..)
    exact (a.suspend pairs fun j e => by
      obtain ⟨rfl, outside, operates⟩ := mine j e
      exact ⟨rfl, outside, operates⟩).onLoop grows
  | pausing old pairs =>
    exact (a.suspend pairs fun j e => by cases old.symm.trans e).onLoop (Loop.grows_soon ..)

/-- The world of both is another one. -/
theorem moves {s : World} (a : Alongside new h place m n) (grows : m.world.loop.Grows s.loop) (gate : s.gate = m.world.gate) :
    Alongside new h place { m with world := s } { n with world := s.withGate ⟨s.gate.held, []⟩ } where
  world := rfl
  replies := a.replies
  pairs := a.pairs.imp fun _ _ p => p.mono grows .rfl fun k hk mine => ⟨by rw [gate]; exact hk, mine⟩
  held := by rw [show Machine.world { m with world := s } = s from rfl, gate]; exact a.held
  line k hk := by
    rw [show Machine.world { m with world := s } = s from rfl, gate] at hk
    exact (a.line k hk).imp_right fun ⟨x, hx, on, outside, o, operates⟩ =>
      ⟨x, hx, on, outside, o, grows.kinds _ _ operates⟩
  sorted := by rw [show Machine.world { m with world := s } = s from rfl, gate]; exact a.sorted
  issued k hk := by
    rw [show Machine.world { m with world := s } = s from rfl, gate] at hk
    exact Nat.lt_of_lt_of_le (a.issued k hk) grows.issued

/-- A task of both that is no lifecycle operation takes its turn. -/
theorem goes {p : Act Turn} (a : Alongside none h place m n) (kind : m.world.loop.kind? u = some κ)
    (other : ∀ o, κ ≠ .call (.supervisor (.operate o))) (heedless : p.Heedless)
    (returns : p.Returns fun t => ∀ κ', t = .onward κ' → κ' = κ) :
    Alongside none h place (m.advance u p) (n.advance u p) ∧ m.world.loop.Grows (m.advance u p).world.loop := by
  obtain ⟨same, gate, grows, stops⟩ := heedless.advance m.world
  have returned := returns.advance (fun s t => s.loop.outcome? t) m.world
  generalize runs : p.advance (fun s t => s.loop.outcome? t) m.world = reached at same gate grows stops returned
  obtain ⟨s, stop⟩ := reached
  dsimp only at same gate grows stops returned
  have kind' := grows.kinds u κ kind
  refine ⟨(a.moves grows gate).lands stop stop ?_ runs (by rw [a.world, same, gate]),
    grows.trans (Machine.grows_advance runs fun κ' e => by cases e; exact returned κ' rfl ▸ kind')⟩
  cases stop with
  | done t => exact .done t rfl fun κ' e => returned κ' e ▸ kind'
  | failed f => exact .failed f rfl
  | waiting k next =>
    exact .waiting (fun _ e => by cases e) (.apart κ kind' other (fun r => ⟨stops r, returned r⟩) rfl)
  | pausing next => exact .pausing rfl (.apart κ kind' other (fun r => ⟨stops r, returned r⟩) rfl)

/-- An operation that has the lock goes on in both. -/
theorem operates {o : Operation} {p : Act LifecycleResult} (a : Alongside none h place m n) (holds : h = some u)
    (operates : Course.Operates m.world u o) (heedless : p.Heedless) (awake : m.isSuspended u = false)
    (calls : ∀ k, k ∈ (m.advance u (o.going ofExcept p)).world.loop.waitingCalls ↔
      ∃ x ∈ (m.advance u (o.going ofExcept p)).suspended, x.on = some k ∧
        ∃ o', Course.Operates (m.advance u (o.going ofExcept p)).world x.task o') :
    ∃ h', Alongside none h' place (m.advance u (o.going ofExcept p)) (n.advance u (o.going Client.passOn p)) ∧
      (m.advance u (o.going ofExcept p)).Keeper h' := by
  obtain ⟨same, gate, grows, stops⟩ := heedless.advance m.world
  have world : n.world = m.world.withGate ⟨true, []⟩ := by rw [a.world, a.held, holds]; rfl
  have held : m.world.gate.held = true := by rw [a.held, holds]; rfl
  have runs := Program.advance_attempt_bind p (fun r => (Program.attempt (o.finish r)).bind ofExcept) m.world
  have runs' := Program.advance_attempt_bind p (fun r => (Program.attempt (o.finish r)).bind Client.passOn) n.world
  rw [world, same] at runs'
  generalize p.advance (fun s t => s.loop.outcome? t) m.world = reached at same gate grows stops runs runs'
  obtain ⟨s, stop⟩ := reached
  dsimp only at gate grows stops runs runs'
  have operates' := grows.kinds u _ operates
  -- It returns.
  have returned (r : Except Fault LifecycleResult)
      (runs : (o.going ofExcept p).advance (fun s t => s.loop.outcome? t) m.world =
        ((Program.attempt (o.finish r)).bind ofExcept).advance (fun s t => s.loop.outcome? t) s)
      (runs' : (o.going Client.passOn p).advance (fun s t => s.loop.outcome? t) n.world =
        ((Program.attempt (o.finish r)).bind Client.passOn).advance (fun s t => s.loop.outcome? t) (s.withGate ⟨true, []⟩)) :
      ∃ h', Alongside none h' place (m.advance u (o.going ofExcept p)) (n.advance u (o.going Client.passOn p)) ∧
        (m.advance u (o.going ofExcept p)).Keeper h' := by
    obtain ⟨s', stop, finishes, returned, gate', tasks, grows', finishes'⟩ := o.advance_finish r s
    have grown := grows.trans grows'
    have outside {x : Suspended} (hx : x ∈ m.suspended) : x.task ≠ u := Machine.isSuspended_eq_false.mp awake x hx
    have moved : Alongside none none place { m with world := s' } { n with world := s'.withGate ⟨s'.gate.held, []⟩ } :=
      { world := rfl
        replies := a.replies
        pairs := by
          refine ((List.forall₂_and_left _ _).mpr ⟨fun x hx => outside hx, a.pairs⟩).imp fun x y ⟨other, pair⟩ =>
            pair.mono grown ⟨fun mine => absurd (Option.some.inj (holds.symm.trans mine)).symm other, fun e => by cases e⟩
              fun k hk mine => ⟨?_, mine⟩
          show k ∈ s'.gate.waiters
          rw [gate', gate]
          exact hk
        held := by show s'.gate.held = false; rw [gate']
        line := fun k hk => by
          have hk : k ∈ m.world.gate.waiters := by rw [← gate]; rw [show _ = s'.gate from rfl, gate'] at hk; exact hk
          exact (a.line k hk).imp_right fun ⟨x, hx, on, _, o, operates⟩ =>
            ⟨x, hx, on, fun e => (by cases e), o, grown.kinds _ _ operates⟩
        sorted := by show s'.gate.waiters.Pairwise _; rw [gate', gate]; exact a.sorted
        issued := fun k hk => by
          have hk : k ∈ m.world.gate.waiters := by rw [← gate]; rw [show _ = s'.gate from rfl, gate'] at hk; exact hk
          exact Nat.lt_of_lt_of_le (a.issued k hk) grown.issued }
    refine ⟨none, moved.lands stop stop ?_ (runs.trans finishes) (runs'.trans ((finishes' ?_).trans (by rw [gate']))),
      fun _ e => by cases e⟩
    · rcases returned with ⟨x, rfl⟩ | ⟨f, rfl⟩
      · exact .done _ rfl fun _ e => by cases e
      · exact .failed f rfl
    -- The call that has waited longest is the first one in line.
    have after : (m.advance u (o.going ofExcept p)).suspended = m.suspended ∧
        (m.advance u (o.going ofExcept p)).world.loop.tasks = s.loop.tasks := by
      simp only [Machine.advance, runs.trans finishes]
      rcases returned with ⟨x, rfl⟩ | ⟨f, rfl⟩ <;> exact ⟨rfl, (Loop.tasks_settle ..).trans tasks⟩
    refine List.min?_of_sorted (by rw [gate]; exact a.sorted) fun k => ?_
    have calls := calls k
    rw [after.1, Loop.waitingCalls, after.2] at calls
    refine calls.trans ⟨?_, fun hk => ?_⟩
    · rintro ⟨x, hx, on, o', operates'⟩
      rw [Course.Operates, Loop.kind?, after.2] at operates'
      obtain ⟨y, pair⟩ := a.paired hx
      cases pair with
      | apart κ kind other next same => exact absurd (Option.some.inj ((grows.kinds _ _ kind).symm.trans operates')) (other o')
      | inside o _ mine q heedless next same => exact absurd (Option.some.inj (mine.symm.trans holds)) (outside hx)
      | line o _ _ k' waits queued _ next same =>
        obtain rfl := Option.some.inj (waits.symm.trans on)
        rw [gate]
        exact queued
    · rw [gate] at hk
      obtain ⟨x, hx, on, -, o', operates'⟩ := (a.line k hk).resolve_left fun e => by cases e
      refine ⟨x, hx, on, o', ?_⟩
      rw [Course.Operates, Loop.kind?, after.2]
      exact grows.kinds _ _ operates'
  have held' : s.gate.held = true := by rw [gate]; exact held
  have agree {stop stop' : Stop World Fault Turn} (agree : Agree none h place s u stop stop')
      (runs : (o.going ofExcept p).advance (fun s t => s.loop.outcome? t) m.world = (s, stop))
      (runs' : (o.going Client.passOn p).advance (fun s t => s.loop.outcome? t) n.world = (s.withGate ⟨true, []⟩, stop'))
      (waits : (m.advance u (o.going ofExcept p)).isSuspended u = true) (going : ∀ t, stop ≠ .done t) :
      ∃ h', Alongside none h' place (m.advance u (o.going ofExcept p)) (n.advance u (o.going Client.passOn p)) ∧
        (m.advance u (o.going ofExcept p)).Keeper h' := by
    refine ⟨h, (a.moves grows gate).lands stop stop' agree runs (by rw [held']; exact runs'), fun v mine => ?_⟩
    obtain rfl := Option.some.inj (holds.symm.trans mine)
    exact ⟨waits, o, (Machine.grows_advance runs fun κ e => absurd e (going _)).kinds _ _ operates'⟩
  cases stop with
  | done x => exact returned (.ok x) runs (by rw [world]; exact runs')
  | failed e => exact returned (.error e) runs (by rw [world]; exact runs')
  | waiting k next =>
    exact agree (.waiting (fun _ e => by cases e) (.inside o operates' holds next stops rfl rfl)) runs
      (by rw [world]; exact runs') (Machine.isSuspended_self (.inl ⟨_, _, runs⟩)) fun _ e => by cases e
  | pausing next =>
    exact agree (.pausing rfl (.inside o operates' holds next stops rfl rfl)) runs (by rw [world]; exact runs')
      (Machine.isSuspended_self (.inr ⟨_, runs⟩)) fun _ e => by cases e

end Machine.Alongside

end LspHost
