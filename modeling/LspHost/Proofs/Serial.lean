import LspHost.Proofs.Handover

/-!
# Lifecycle operations one by one

Every step of a client is one of the client that makes its calls one by one, and both stay beside each other
(`Machine.Beside.step?`). So they do in every play, in which the host makes calls whenever it likes and servers do
whatever they do (`Machine.Plays.beside`).

Result: `Machine.Plays.serialized`. Under the policy to queue, lifecycle operations are carried out one after the other,
in the order in which they were called, and replies, messages, events, sessions and documents are those of the client
that makes the calls one by one. There, the next call is made by a task that the return of the one before has woken. It
is not the same if it is made in the very turn in which the one before returns (`handed_over_later`).
-/

namespace LspHost

open Act Program

variable {σ : Setting} {γ γ' : Ghost} {m m' n n' : Machine} {u : Nat} {κ : TaskKind} {o : Operation}
  {new h : Option Nat} {place : Nat → Nat}

/-! ## Who waits -/

/-- The calls for lifecycle operations that wait are those whose tasks were stopped. -/
theorem Sound.mem_waitingCalls (sound : Sound σ γ m) (k : Nat) : k ∈ m.world.loop.waitingCalls ↔
    ∃ x ∈ m.suspended, x.on = some k ∧ ∃ o, Course.Operates m.world x.task o := by
  constructor
  · intro hk
    obtain ⟨T, hT, waits⟩ := List.mem_filterMap.mp hk
    obtain ⟨u, found⟩ := List.getElem?_of_mem hT
    obtain ⟨o, kind, waits⟩ : ∃ o, T.kind = .call (.supervisor (.operate o)) ∧ T.waitingFor = some k := by
      split at waits
      · next o kind => exact ⟨o, kind, waits⟩
      · cases waits
    have operates : Course.Operates m.world u o := by simp [Course.Operates, Loop.kind?, found, kind]
    have stopped : (γ.phase u).on? = some k := by
      rw [← sound.inv.tasks.stopped u, Loop.waitingFor?, found]
      exact waits
    rcases awake : m.isSuspended u with _ | _
    · rcases going : m.reply? u with _ | r
      · rw [((sound.stands u).ready awake (Machine.hasEnded_eq_false.mpr going)).1] at stopped
        cases stopped
      · rw [((sound.stands u).ended r going).1] at stopped
        cases stopped
    · obtain ⟨x, hx, mine⟩ := List.any_eq_true.mp awake
      obtain rfl := of_decide_eq_true mine
      rw [((sound.stands x.task).stopped x hx rfl).1] at stopped
      exact ⟨x, hx, stopped, o, operates⟩
  · rintro ⟨x, hx, on, o, operates⟩
    obtain ⟨T, found, kind⟩ := Option.map_eq_some_iff.mp operates
    refine List.mem_filterMap.mpr ⟨T, List.mem_of_getElem? found, ?_⟩
    have stopped := sound.inv.tasks.stopped x.task
    rw [((sound.stands x.task).stopped x hx rfl).1, Loop.waitingFor?, found, on] at stopped
    simp only [kind]
    exact stopped

/-- A task waits for one thing at a time. -/
theorem Sound.sole (sound : Sound σ γ m) {x z : Suspended} (hx : x ∈ m.suspended) (hz : z ∈ m.suspended)
    (same : z.task = x.task) : z.on = x.on := by
  have first := ((sound.stands x.task).stopped x hx rfl).1
  have second := ((sound.stands x.task).stopped z hz same).1
  exact Phase.stopped.inj (second.symm.trans first)

namespace Machine

/-- A task that waits goes on: it waits no more. -/
def awakened (u : Nat) (m : Machine) : Machine :=
  { m with suspended := m.suspended.filter fun y => y.task ≠ u }.onLoop (Loop.setRunning · u)

theorem isSuspended_awakened {v : Nat} (other : v ≠ u) : (m.awakened u).isSuspended v = m.isSuspended v := by
  rw [Bool.eq_iff_iff]
  constructor <;> intro waits <;> obtain ⟨x, hx, mine⟩ := List.any_eq_true.mp waits
  · exact List.any_eq_true.mpr ⟨x, (List.mem_filter.mp hx).1, mine⟩
  · refine List.any_eq_true.mpr ⟨x, List.mem_filter.mpr ⟨hx, ?_⟩, mine⟩
    simpa [of_decide_eq_true mine] using other

theorem awake_awakened : (m.awakened u).isSuspended u = false :=
  isSuspended_eq_false.mpr fun x hx => by simpa using (List.mem_filter.mp hx).2

theorem Keeper.mono (keeper : m.Keeper h) (waits : ∀ v, h = some v → m.isSuspended v = true → m'.isSuspended v = true)
    (grows : m.world.loop.Grows m'.world.loop) : m'.Keeper h := by
  intro v mine
  obtain ⟨suspended, o, operates⟩ := keeper v mine
  exact ⟨waits v mine suspended, o, grows.kinds _ _ operates⟩

/-- Two clients beside each other between two jobs. -/
def Beside (m n : Machine) : Prop := ∃ h place, Alongside none h place m n ∧ m.Keeper h

end Machine

namespace Machine.Alongside

/-- A task of both goes on. If it was in line, nobody waits for its ticket then. -/
theorem awakens (a : Alongside none h place m n) (new : Option Nat)
    (left : ∀ z ∈ m.suspended, z.task = u → ∀ k, z.on = some k → h ≠ some z.task →
      (∃ o, Course.Operates m.world z.task o) → new = some k) :
    Alongside new h place (m.awakened u) (n.awakened u) := by
  have grows : m.world.loop.Grows (m.world.loop.setRunning u) := Loop.grows_setRunning ..
  have out : Alongside new h place { m with suspended := m.suspended.filter fun y => y.task ≠ u }
      { n with suspended := n.suspended.filter fun y => y.task ≠ u } :=
    { a with
      pairs := List.rel_filter (fun x y pair => by simp [pair.task]) a.pairs
      line := fun k hk => by
        obtain ⟨x, hx, on, outside, operates⟩ := (a.line k hk).resolve_left fun e => by cases e
        by_cases mine : x.task = u
        · exact .inl (left x hx mine k on outside operates)
        · exact .inr ⟨x, List.mem_filter.mpr ⟨hx, by simpa using mine⟩, on, outside, operates⟩ }
  have awake := out.onLoop grows
  show Alongside new h place (Machine.onLoop (fun _ => _) _)
    (Machine.onLoop (fun _ => n.world.loop.setRunning u) _)
  rw [a.loop]
  exact awake

/-- An operation takes the lock in both and goes on. -/
theorem enters {p p' : Act Turn} (a : Alongside new none place m n) (ws : List Nat)
    (operates : Course.Operates m.world u o) (awake : m.isSuspended u = false)
    (sub : ws.Sublist m.world.gate.waiters) (kept : ∀ k ∈ m.world.gate.waiters, place k ≠ u → k ∈ ws)
    (line : ∀ k ∈ ws, new ≠ some k)
    (runs : p.advance (fun s t => s.loop.outcome? t) m.world =
      (o.going ofExcept o.body).advance (fun s t => s.loop.outcome? t) (m.world.withGate ⟨true, ws⟩))
    (runs' : p'.advance (fun s t => s.loop.outcome? t) n.world =
      (o.going Client.passOn o.body).advance (fun s t => s.loop.outcome? t) (m.world.withGate ⟨true, []⟩))
    (sound : Sound σ γ (m.advance u p)) : (m.advance u p).Beside (n.advance u p') := by
  have outside {x : Suspended} (hx : x ∈ m.suspended) : x.task ≠ u := isSuspended_eq_false.mp awake x hx
  have inside : Alongside none (some u) place { m with world := m.world.withGate ⟨true, ws⟩ }
      { n with world := m.world.withGate ⟨true, []⟩ } :=
    { world := rfl
      replies := a.replies
      pairs := ((List.forall₂_and_left _ _).mpr ⟨fun x hx => outside hx, a.pairs⟩).imp fun x y ⟨other, pair⟩ =>
        pair.mono (.refl _) ⟨fun e => (by cases e), fun e => absurd (Option.some.inj e).symm other⟩ fun k hk mine =>
          ⟨kept k hk fun e => other (mine.symm.trans e), mine⟩
      held := rfl
      line := fun k hk => by
        obtain ⟨x, hx, on, -, operates⟩ := (a.line k (sub.subset hk)).resolve_left (line k hk)
        exact .inr ⟨x, hx, on, fun e => outside hx (Option.some.inj e).symm, operates⟩
      sorted := a.sorted.sublist sub
      issued := fun k hk => a.issued k (sub.subset hk) }
  rw [advance_congr runs] at sound ⊢
  rw [advance_congr runs']
  obtain ⟨h, besides, keeper⟩ := inside.operates rfl operates o.heedless_body awake sound.mem_waitingCalls
  exact ⟨h, place, besides, keeper⟩

/-- Whether calls are put off: exactly if the lock is closed. -/
theorem putsOff (a : Alongside none h place m n) (sound : Sound σ γ m) :
    (n.world.supervisor.isBusy || !n.world.loop.waitingCalls.isEmpty) = !m.world.gate.isOpen := by
  have held : n.world.supervisor.isBusy = m.world.gate.held := by rw [a.world]; rfl
  have waiting (free : m.world.gate.held = false) :
      m.world.loop.waitingCalls.isEmpty = m.world.gate.waiters.isEmpty := by
    rw [Bool.eq_iff_iff, List.isEmpty_iff, List.isEmpty_iff, List.eq_nil_iff_forall_not_mem, List.eq_nil_iff_forall_not_mem]
    refine forall_congr' fun k => not_congr ((sound.mem_waitingCalls k).trans ⟨?_, fun hk => ?_⟩)
    · rintro ⟨x, hx, on, o, operates⟩
      obtain ⟨y, pair⟩ := a.paired hx
      cases pair with
      | apart κ kind other => exact absurd (Option.some.inj (kind.symm.trans operates)) (other o)
      | inside o _ mine => rw [a.held, mine] at free; cases free
      | line o _ _ k' waits queued => exact Option.some.inj (waits.symm.trans on) ▸ queued
    · obtain ⟨x, hx, on, -, operates⟩ := (a.line k hk).resolve_left fun e => by cases e
      exact ⟨x, hx, on, operates⟩
  rw [held, a.loop, Lock.isOpen]
  cases free : m.world.gate.held with
  | true => rfl
  | false => rw [waiting free]; simp

/-- An operation that finds the lock closed waits in line, and is put off in the other client. -/
theorem waits (a : Alongside none h place m n) (sound : Sound σ γ m) (keeper : m.Keeper h)
    (patient : m.world.supervisor.config.busyPolicy = .queue) (operates : Course.Operates m.world u o)
    (awake : m.isSuspended u = false) (closed : m.world.gate.isOpen = false) :
    (m.advance u (Client.turn (.call (.supervisor (.operate o))))).Beside
      (n.advance u (Client.oneByOne (.call (.supervisor (.operate o))))) := by
  obtain ⟨next, stops, goes⟩ := Operation.advance_closed (o := o) closed ofExcept
  let k := m.world.loop.tickets.length
  let s : World := ({ m.world with loop := m.world.loop.issue.2 } : World).withGate
    { m.world.gate with waiters := m.world.gate.waiters ++ [k] }
  let place' (j : Nat) : Nat := if j = k then u else place j
  have runs : (Client.turn (.call (.supervisor (.operate o)))).advance (fun s t => s.loop.outcome? t) m.world =
      (s, .waiting k next) := by
    rw [← attempt_bind_ofExcept (Client.turn _), Operation.advance_turn patient, stops]
  have runs' : (Client.oneByOne (.call (.supervisor (.operate o)))).advance (fun s t => s.loop.outcome? t) n.world =
      (s.withGate ⟨s.gate.held, []⟩, .waiting k fun r => (ofExcept r : Act Json).bind fun _ => Client.inTurn o) := by
    have fresh : m.world.loop.issue.2.outcome? k = none := by
      rcases e : m.world.loop.issue.2.outcome? k with _ | r
      · rfl
      · rw [Loop.outcome?_issue] at e
        exact absurd (Loop.outcome?_lt e) (Nat.lt_irrefl _)
    show Program.advance _ (if (n.world.supervisor.isBusy || !n.world.loop.waitingCalls.isEmpty) = true then
      Act.issue.bind _ else _ : Act Turn) n.world = _
    rw [a.putsOff sound, closed, if_pos (show (!false) = true from rfl), a.world]
    show Program.advance _ (Program.wait k _) (s.withGate ⟨s.gate.held, []⟩) = _
    simp only [Program.advance, show (s.withGate ⟨s.gate.held, []⟩).loop.outcome? k = none from fresh]
  have fresh (j : Nat) (hj : j ∈ m.world.gate.waiters) : place' j = place j := if_neg (Nat.ne_of_lt (a.issued j hj))
  have outside : h ≠ some u := fun mine => by rw [(keeper u mine).1] at awake; cases awake
  have grows : m.world.loop.Grows s.loop := Loop.grows_issue _
  have queued : k ∈ s.gate.waiters := List.mem_append_right _ (List.mem_singleton_self k)
  have behind : Alongside (some k) h place' { m with world := s } { n with world := s.withGate ⟨s.gate.held, []⟩ } :=
    { world := rfl
      replies := a.replies
      pairs := a.pairs.imp fun x y pair => pair.mono grows .rfl fun j hj mine =>
        ⟨List.mem_append_left _ hj, (fresh j hj).trans mine⟩
      held := a.held
      line := fun j hj => by
        rcases List.mem_append.mp hj with hj | hj
        · obtain ⟨x, hx, on, outside, o, operates⟩ := (a.line j hj).resolve_left fun e => by cases e
          exact .inr ⟨x, hx, on, outside, o, grows.kinds _ _ operates⟩
        · exact .inl (congrArg some (List.mem_singleton.mp hj).symm)
      sorted := List.pairwise_append.mpr ⟨a.sorted, List.pairwise_singleton .., fun i hi j hj => by
        rw [List.mem_singleton.mp hj]
        exact a.issued i hi⟩
      issued := fun j hj => by
        refine Nat.lt_of_le_of_lt ?_ (show k < m.world.loop.issue.2.tickets.length by simp [Loop.issue, k])
        rcases List.mem_append.mp hj with hj | hj
        · exact Nat.le_of_lt (a.issued j hj)
        · exact Nat.le_of_eq (List.mem_singleton.mp hj) }
  refine ⟨h, place', behind.lands _ _ ?_ runs runs', keeper.mono (fun _ _ => isSuspended_advance)
    (grows.trans (grows_advance runs fun _ e => by cases e))⟩
  have operates' := grows.kinds _ _ operates
  exact .waiting (fun j e => ⟨(Option.some.inj e).symm, outside, o, operates'⟩)
    (.line o operates' outside k rfl queued (if_pos rfl) goes rfl)

/-- A task that waits goes on in both. -/
theorem goesOn {x y : Suspended} {r : Except Fault Json} (a : Alongside none h place m n) (sound : Sound σ γ m)
    (keeper : m.Keeper h) (patient : m.world.supervisor.config.busyPolicy = .queue) (hx : x ∈ m.suspended)
    (pair : x.Pairs h place m.world y)
    (settled : (∃ o, Course.Operates m.world x.task o) → ∀ k, x.on = some k → m.world.loop.outcome? k = some r)
    (sound' : Sound σ γ' ((m.awakened x.task).advance x.task (x.next r))) :
    ((m.awakened x.task).advance x.task (x.next r)).Beside ((n.awakened x.task).advance x.task (y.next r)) := by
  have grows : m.world.loop.Grows (m.awakened x.task).world.loop := Loop.grows_setRunning ..
  cases pair with
  | apart κ kind other next same =>
    subst same
    obtain ⟨besides, grows'⟩ := (a.awakens none fun z hz mine _ _ _ ⟨o, operates⟩ =>
      absurd (Option.some.inj (kind.symm.trans (by rw [← mine]; exact operates))) (other o)).goes (grows.kinds _ _ kind) other
        (next r).1 (next r).2
    refine ⟨h, place, besides, keeper.mono (fun v mine waits => isSuspended_advance ?_) (grows.trans grows')⟩
    rw [isSuspended_awakened fun e => ?_]
    · exact waits
    · obtain ⟨-, o, operates⟩ := keeper v mine
      exact other o (Option.some.inj (kind.symm.trans (e ▸ operates)))
  | inside o operates mine q heedless next same =>
    subst same
    rw [next] at sound' ⊢
    obtain ⟨h', besides, keeper'⟩ := (a.awakens none fun z hz same _ _ outside _ =>
      absurd (same ▸ mine) outside).operates mine (grows.kinds _ _ operates) (heedless r) awake_awakened
        sound'.mem_waitingCalls
    exact ⟨h', place, besides, keeper'⟩
  | line o operates outside k waits queued mine goes same =>
    subst same
    -- It is woken when the lock was given back, and then it is the first one in line.
    have known := sound.orderly.known
    have settled := settled ⟨o, operates⟩
    obtain ⟨v, rfl⟩ : ∃ v, r = .ok v := by
      rcases r with f | v
      · exact absurd (settled k waits) (known.patient k queued f)
      · exact ⟨v, rfl⟩
    have free : m.world.gate.held = false := (known.granted k queued v (settled k waits)).1
    have nobody : h = none := by
      rw [a.held] at free
      exact Option.isSome_eq_false_iff.mp free |> Option.isNone_iff_eq_none.mp
    subst nobody
    have first := a.awakens (u := x.task) (some k) fun z hz same j on _ _ =>
      waits.symm.trans ((sound.sole hx hz same).symm.trans on)
    have nodup : m.world.gate.waiters.Nodup := a.sorted.imp Nat.ne_of_lt
    refine first.enters (m.world.gate.waiters.erase k) (grows.kinds _ _ operates) awake_awakened
      List.erase_sublist (fun j hj other => ?_) (fun j hj e => ?_) (goes v _) ?_ sound'
    · exact (List.mem_erase_of_ne fun e => other (by rw [e, mine])).mpr hj
    · exact (List.Nodup.mem_erase_iff nodup).mp hj |>.1 (Option.some.inj e).symm
    · have world : (n.awakened x.task).world = (m.awakened x.task).world.withGate ⟨false, []⟩ := by
        rw [first.world, show (m.awakened x.task).world.gate.held = false from free]
      show ((Program.attempt (Client.turn (.call (.supervisor (.operate o))))).bind Client.passOn).advance _ _ = _
      rw [world]
      exact Operation.advance_at_once (s := (m.awakened x.task).world.withGate ⟨false, []⟩) patient rfl _

end Machine.Alongside

namespace Machine.Beside

/-- A task goes on in both. -/
theorem goOn {on : Option Nat} {r : Except Fault Json} (b : m.Beside n) (sound : Sound σ γ m)
    (patient : m.world.supervisor.config.busyPolicy = .queue)
    (settled : ∀ k, on = some k → m.world.loop.outcome? k = some r)
    (sound' : Sound σ γ' (m.goOn u on r)) : (m.goOn u on r).Beside (n.goOn u on r) := by
  obtain ⟨h, place, a, keeper⟩ := b
  have find : ∀ l l' : List Suspended, List.Forall₂ (Suspended.Pairs h place m.world) l l' →
      ∀ p : Suspended → Bool, (∀ x y, Suspended.Pairs h place m.world x y → p y = p x) →
      (l.find? p = none ∧ l'.find? p = none) ∨
        ∃ x y, l.find? p = some x ∧ l'.find? p = some y ∧ Suspended.Pairs h place m.world x y := by
    intro l l' pairs p same
    induction pairs with
    | nil => exact .inl ⟨rfl, rfl⟩
    | @cons x y _ _ first _ ih =>
      cases e : p x with
      | true => exact .inr ⟨x, y, by simp [e], by simp [same x y first, e], first⟩
      | false => simpa only [List.find?_cons, same x y first, e] using ih
  unfold Machine.goOn at sound' ⊢
  have interrupted : n.isInterrupted u = m.isInterrupted u := by simp only [isInterrupted, a.loop]
  rcases find _ _ a.pairs (fun x => x.task = u ∧ x.on = on) fun x y pair => by rw [pair.task, pair.on] with
    ⟨none, none'⟩ | ⟨x, y, found, found', pair⟩
  · rw [none, none']
    exact ⟨h, place, a, keeper⟩
  · rw [found] at sound'
    rw [found, found']
    obtain ⟨rfl, rfl⟩ : x.task = u ∧ x.on = on := by simpa using List.find?_some found
    dsimp only at sound' ⊢
    rw [interrupted]
    refine a.goesOn sound keeper patient (List.mem_of_find?_eq_some found) pair (fun operates k on => ?_) sound'
    obtain ⟨o, operates⟩ := operates
    -- Nobody interrupts a call.
    rw [if_neg fun stops => ?_]
    · exact settled k on
    · exact sound.orderly.known.calm _ _ operates (m.isInterrupted_eq _ ▸ stops)

/-- A task of both takes its turn. -/
theorem begins (b : m.Beside n) (sound : Sound σ γ m) (patient : m.world.supervisor.config.busyPolicy = .queue)
    (kind : m.world.loop.kind? u = some κ) (awake : m.isSuspended u = false)
    (sound' : Sound σ γ' (m.advance u (Client.turn κ))) :
    (m.advance u (Client.turn κ)).Beside (n.advance u (Client.oneByOne κ)) := by
  obtain ⟨h, place, a, keeper⟩ := b
  by_cases operates : ∃ o, κ = .call (.supervisor (.operate o))
  · obtain ⟨o, rfl⟩ := operates
    cases isOpen : m.world.gate.isOpen with
    | false => exact a.waits sound keeper patient kind awake isOpen
    | true =>
      have free : m.world.gate.held = false := by simpa using (Bool.and_eq_true_iff.mp isOpen).1
      obtain rfl : h = none := by simpa [a.held] using free
      refine a.enters m.world.gate.waiters kind awake (.refl m.world.gate.waiters) (fun k hk _ => hk) (fun _ _ e => by cases e) ?_ ?_ sound'
      · rw [← attempt_bind_ofExcept (Client.turn _)]
        exact Operation.advance_at_once patient isOpen _
      · show Program.advance _ (if (n.world.supervisor.isBusy || !n.world.loop.waitingCalls.isEmpty) = true then
          _ else Client.inTurn o : Act Turn) n.world = _
        rw [a.putsOff sound, isOpen, if_neg (by simp), a.world, free]
        exact Operation.advance_at_once (s := m.world.withGate ⟨false, []⟩) patient rfl _
  · have other : ∀ o, κ ≠ .call (.supervisor (.operate o)) := fun o e => operates ⟨o, e⟩
    have supervised := sound.inv.tasks.supervised u κ kind
    have same : Client.oneByOne κ = Client.turn κ := by
      unfold Client.oneByOne
      split
      · next o => exact absurd rfl (other o)
      · rfl
    rw [same]
    obtain ⟨besides, grows⟩ := a.goes kind other (Heedless.turn supervised other) (Course.returns_turn supervised.sessional)
    exact ⟨h, place, besides, keeper.mono (fun _ _ => isSuspended_advance) grows⟩

/-- The event loop of both goes on. -/
theorem onLoop {l : Loop} (b : m.Beside n) (grows : m.world.loop.Grows l) :
    (m.onLoop fun _ => l).Beside (n.onLoop fun _ => l) := by
  obtain ⟨h, place, a, keeper⟩ := b
  exact ⟨h, place, a.onLoop grows, keeper.mono (fun _ _ waits => waits) grows⟩

/-- A task of both takes its turn, if it does so at all. -/
theorem beginTask (b : m.Beside n) (sound : Sound σ γ m) (patient : m.world.supervisor.config.busyPolicy = .queue)
    (sound' : Sound σ γ' (m.beginTask Client.turn u)) :
    (m.beginTask Client.turn u).Beside (n.beginTask Client.oneByOne u) := by
  obtain ⟨h, place, a, keeper⟩ := id b
  have ended : n.hasEnded u = m.hasEnded u := by simp only [hasEnded, reply?, a.replies]
  unfold Machine.beginTask at sound' ⊢
  rw [a.loop, a.suspends, ended]
  rcases found : m.world.loop.tasks[u]? with _ | T
  · exact b
  · rw [found] at sound'
    dsimp only at sound' ⊢
    by_cases still : (m.isSuspended u || m.hasEnded u) = true
    · rw [if_pos still, if_pos still]
      exact b
    · rw [if_neg still] at sound' ⊢
      rw [if_neg still]
      by_cases interrupted : T.interrupted = true
      · rw [if_pos interrupted, if_pos interrupted]
        exact ⟨h, place, a.ends u _, keeper.mono (fun _ _ waits => waits) (Loop.grows_settle ..)⟩
      · rw [if_neg interrupted] at sound' ⊢
        rw [if_neg interrupted]
        simp only [Bool.or_eq_true, not_or, Bool.not_eq_true] at still
        exact b.begins sound patient (by simp [Loop.kind?, found]) still.1 sound'

/-- A job of both. -/
theorem perform {job : Job} (b : m.Beside n) (sound : Sound σ γ m)
    (patient : m.world.supervisor.config.busyPolicy = .queue) (sound' : Sound σ γ' (m.perform Client.turn job)) :
    (m.perform Client.turn job).Beside (n.perform Client.oneByOne job) := by
  obtain ⟨h, place, a, keeper⟩ := id b
  cases job with
  | begin t => exact b.beginTask sound patient sound'
  | resume t => exact b.goOn sound patient (fun _ e => by cases e) sound'
  | wake t k =>
    simp only [Machine.perform, a.loop] at sound' ⊢
    rcases settled : m.world.loop.outcome? k with _ | r
    · exact b
    · simp only [settled] at sound'
      exact b.goOn sound patient (fun _ e => Option.some.inj e ▸ settled) sound'
  | settle k v =>
    simp only [Machine.perform, Machine.onLoop, a.loop]
    exact b.onLoop (Loop.grows_settle ..)
  | perform j trigger actions =>
    have heedless : World.Heedless fun s => s.withServer j (Server.perform j trigger actions) :=
      .withServer j (Living.orderly_perform j trigger actions)
    have moved := a.moves (heedless.grows m.world) (heedless.same m.world)
    refine ⟨h, place, ?_, keeper.mono (fun _ _ waits => waits) (heedless.grows m.world)⟩
    simp only [Machine.perform, a.world, heedless.gate]
    rw [show m.world.gate = _ from (heedless.same m.world).symm]
    exact moved

/-- A step of both. -/
theorem step? (b : m.Beside n) (sound : Sound σ γ m) (patient : σ.config.busyPolicy = .queue)
    (step : m.step? Client.turn = some m') (sound' : Sound σ γ' m') :
    ∃ n', n.step? Client.oneByOne = some n' ∧ m'.Beside n' := by
  obtain ⟨h, place, a, keeper⟩ := id b
  unfold Machine.step? at step ⊢
  rw [a.loop]
  rcases next : m.world.loop.next? with _ | ⟨_ | job, l⟩
  · rw [next] at step
    cases step
  all_goals
    rw [next] at step
    cases step
    have grows : m.world.loop.Grows l := by
      obtain ⟨tickets, tasks, -⟩ := Loop.next?_cases next
      exact .of_eq tickets tasks
  · exact ⟨_, rfl, b.onLoop grows⟩
  · have taken := sound.quiet (sound.quiet_next? next) sound.ease
    have patient : m.world.supervisor.config.busyPolicy = .queue := by
      rw [show m.world.supervisor.config = σ.config from sound.inv.life.config]
      exact patient
    exact ⟨_, rfl, (b.onLoop grows).perform taken patient sound'⟩

end Machine.Beside

/-! ## Runs of both -/

/-- What a host does between two jobs: it makes a call, or it waits. -/
inductive HostAct where
  | call (c : Call)
  | after (ticket : Nat)
  | timer (nanos : Nat)
  | idle (time : Nat)

/-- What comes of it. -/
def HostAct.on : HostAct → Machine → Machine
  | .call c, m => (m.start (.call c)).2
  | .after ticket, m => (m.after ticket).2
  | .timer nanos, m => (m.timer nanos).2
  | .idle time, m => m.idleUntil time

/-- The host asks nothing but its supervisor. -/
def HostAct.Proper : HostAct → Prop
  | .call c => (TaskKind.call c).Supervised
  | _ => True

/-- The runs of a client from a machine on, with what happens one after the other: the host does something, or else
the client takes a step. -/
inductive Machine.Plays (turn : TaskKind → Act Turn) (m₀ : Machine) : List (Option HostAct) → List Deed → Machine → Prop
  | still : Plays turn m₀ [] [] m₀
  | step {hs : List (Option HostAct)} {ds : List Deed} {m m' : Machine} (play : Plays turn m₀ hs ds m)
    (step : m.step? turn = some m') : Plays turn m₀ (hs ++ [none]) (ds ++ m.deeds turn) m'
  | host {hs : List (Option HostAct)} {ds : List Deed} {m : Machine} (play : Plays turn m₀ hs ds m) (a : HostAct) :
    Plays turn m₀ (hs ++ [some a]) ds (a.on m)

/-- A client to which nothing has happened yet. -/
inductive Setting.Fresh (σ : Setting) : Machine → Prop
  | mk (env : Environment) (files : Files) (cwd : files.cwd = σ.cwd) (scope : DocumentScope)
      (clientVersion : Option String) (hasListener : Bool) (host : Host) (broker : Broker) :
    σ.Fresh (.ofWorld (.fresh env files σ.scripts (.fresh σ.config scope clientVersion hasListener) host broker))

/-- Lifecycle operations are carried out one after the other. -/
structure Serialized (m₀ : Machine) (hs : List (Option HostAct)) (ds : List Deed) (m : Machine) : Prop where
  /-- No two of them are under way at the same time. -/
  apart : ∀ u ∈ entrants ds, ∀ v ∈ entrants ds, m.hasEnded u = false → m.hasEnded v = false → u = v
  /-- They enter in the order in which they came, each once, and who has not entered waits. -/
  line : ∃ waiting, comers ds = entrants ds ++ waiting ∧ waiting.length = m.world.gate.waiters.length ∧
    (comers ds).Nodup
  /-- They come when they are called: each one enters in its first turn, or gets in line behind all others. -/
  admits : ∀ u o m', m.Calls u o → m.step? Client.turn = some m' → Admission m u o m'
  /-- The client that makes the calls one by one replies the same and is in the same state, but that nobody waits for
  the lock. -/
  same : ∃ ds' n, m₀.Plays Client.oneByOne hs ds' n ∧ n.replies = m.replies ∧
    n.world = m.world.withGate ⟨m.world.gate.held, []⟩

variable {m₀ : Machine} {hs : List (Option HostAct)} {ds : List Deed}

/-- Plays of a client whose host asks nothing but its supervisor are its runs. -/
theorem Machine.Plays.runs (play : m₀.Plays Client.turn hs ds m) (fresh : σ.Fresh m₀)
    (proper : ∀ a, some a ∈ hs → a.Proper) : σ.Runs ds m := by
  induction play with
  | still =>
    cases fresh with
    | mk env files cwd scope clientVersion hasListener host broker => exact .fresh env files cwd ..
  | step _ step ih => exact (ih fun a ha => proper a (List.mem_append_left _ ha)).step step
  | host _ a ih =>
    refine (ih fun a ha => proper a (List.mem_append_left _ ha)).host ?_
    have fine := proper a (List.mem_append_right _ (List.mem_singleton_self _))
    cases a with
    | call c => exact .call c fine
    | after ticket => exact .after ticket
    | timer nanos => exact .timer nanos
    | idle time => exact .idle time

/-- The host of both does something. -/
theorem Machine.Beside.host (b : m.Beside n) (a : HostAct) : (a.on m).Beside (a.on n) := by
  obtain ⟨h, place, besides, -⟩ := id b
  have same := besides.loop
  cases a with
  | call c =>
    show (m.onLoop fun _ => _).Beside (n.onLoop fun _ => (n.world.loop.start (.call c)).2)
    rw [same]
    exact b.onLoop (Loop.grows_start ..)
  | after ticket =>
    show (m.onLoop fun _ => _).Beside (n.onLoop fun _ => n.world.loop.issue.2.watch ticket (.ticket n.world.loop.issue.1))
    rw [same]
    exact b.onLoop ((Loop.grows_issue _).trans (Loop.grows_watch ..))
  | timer nanos =>
    show (m.onLoop fun _ => _).Beside
      (n.onLoop fun _ => (n.world.loop.issue.2.later nanos (.settle n.world.loop.issue.1 .null)).2)
    rw [same]
    exact b.onLoop ((Loop.grows_issue _).trans (Loop.grows_later ..))
  | idle time =>
    show (m.onLoop fun _ => _).Beside (n.onLoop fun _ => { n.world.loop with now := max n.world.loop.now time })
    rw [same]
    exact b.onLoop (.of_eq rfl rfl)

/-- Whatever happens, the client that makes its calls one by one is beside the other one. -/
theorem Machine.Plays.beside (play : m₀.Plays Client.turn hs ds m) (fresh : σ.Fresh m₀)
    (patient : σ.config.busyPolicy = .queue) (proper : ∀ a, some a ∈ hs → a.Proper) :
    ∃ ds' n, m₀.Plays Client.oneByOne hs ds' n ∧ m.Beside n := by
  induction play with
  | still =>
    refine ⟨_, _, .still, none, fun _ => 0, ?_, fun _ e => by cases e⟩
    cases fresh
    exact ⟨rfl, rfl, .nil, rfl, fun _ e => (by cases e), .nil, fun _ e => by cases e⟩
  | step play step ih =>
    have before : ∀ a : HostAct, some a ∈ _ → a.Proper := fun a ha => proper a (List.mem_append_left _ ha)
    obtain ⟨ds', n, plays, besides⟩ := ih before
    have reaches := (play.runs fresh before).reaches
    obtain ⟨γ, sound⟩ := reaches.sound
    obtain ⟨γ', sound'⟩ := (Setting.Reaches.next reaches (.step step)).sound
    obtain ⟨n', steps, besides'⟩ := besides.step? sound patient step sound'
    exact ⟨_, n', plays.step steps, besides'⟩
  | host play a ih =>
    obtain ⟨ds', n, plays, besides⟩ := ih fun a ha => proper a (List.mem_append_left _ ha)
    exact ⟨ds', _, plays.host a, besides.host a⟩

/-- Under the policy to queue, lifecycle operations are carried out one after the other, in the order in which they were
called, and all comes to the same as if they were called one by one. -/
theorem Machine.Plays.serialized (play : m₀.Plays Client.turn hs ds m) (fresh : σ.Fresh m₀)
    (patient : σ.config.busyPolicy = .queue) (proper : ∀ a, some a ∈ hs → a.Proper) : Serialized m₀ hs ds m := by
  have run := play.runs fresh proper
  obtain ⟨c, sound, traced⟩ := run.course
  obtain ⟨ds', n, plays, h, place, besides, -⟩ := play.beside fresh patient proper
  refine ⟨fun u hu v hv going going' => ?_, run.in_line, fun _ _ _ => run.admitted, ds', n, plays, besides.replies, besides.world⟩
  obtain ⟨w, under, mine⟩ := traced.underway_of_entered sound hu going
  obtain ⟨w', under', mine'⟩ := traced.underway_of_entered sound hv going'
  obtain rfl := Option.some.inj (under.symm.trans under')
  exact mine.symm.trans mine'

/-- A client that goes on until a ticket is settled does so in some play. -/
theorem Machine.Plays.runUntil {turn : TaskKind → Act Turn} (play : m₀.Plays turn hs ds m) (ticket deadline fuel : Nat) :
    ∃ k ds', m₀.Plays turn (hs ++ List.replicate k none) ds' (m.runUntil turn ticket deadline fuel) := by
  induction fuel generalizing m hs ds with
  | zero => exact ⟨0, ds, by simpa [Machine.runUntil] using play⟩
  | succ fuel ih =>
    have still : ∃ k ds', m₀.Plays turn (hs ++ List.replicate k none) ds' m := ⟨0, ds, by simpa using play⟩
    simp only [Machine.runUntil]
    split
    · exact still
    · split
      · exact still
      · split
        · exact still
        · split
          · exact still
          · next step =>
            obtain ⟨k, ds', plays⟩ := ih (play.step step)
            exact ⟨k + 1, ds', by simpa [List.replicate_succ] using plays⟩

/-- A client whose host calls for the same operation twice at once. -/
def Machine.pressed (scripts : List Script) (o : Operation) : Machine :=
  ((Machine.ofWorld (.sample scripts)).start (.call (.supervisor (.operate o)))).2.start
    (.call (.supervisor (.operate o))) |>.2

/-- Both starts have been carried out. -/
def Machine.startedTwice : Machine := (Machine.pressed [.obedient] .start).runUntil Client.turn 1000 1 100

/-- A second start, called while the first one is under way, waits for it and then does nothing. -/
theorem serialized_starts : ∃ hs ds,
    (Machine.startedTwice.result? 0).map LifecycleResult.outcome = some .success ∧
    (Machine.startedTwice.result? 1).map LifecycleResult.outcome = some .noop ∧
    Serialized (.ofWorld (.sample [.obedient])) hs ds Machine.startedTwice := by
  have fresh : Setting.sample.Fresh (.ofWorld (.sample [.obedient])) := .mk [] ⟨"/", []⟩ rfl .standard none false _ _
  have nothing : Machine.Plays Client.turn (.ofWorld (.sample [.obedient])) [] [] (.ofWorld (.sample [.obedient])) := .still
  obtain ⟨k, ds, plays⟩ := ((nothing.host (.call (.supervisor (.operate .start)))).host
    (.call (.supervisor (.operate .start)))).runUntil 1000 1 100
  refine ⟨_, ds, by decide +kernel, by decide +kernel, Machine.Plays.serialized plays fresh rfl fun a ha => ?_⟩
  rcases List.mem_append.mp ha with ha | ha
  · simp only [List.nil_append, List.mem_append, List.mem_singleton, Option.some.injEq, or_self] at ha
    rw [ha]
    trivial
  · cases (List.mem_replicate.mp ha).2

/-! ## Calls of one task -/

/-- A client of which one task makes two calls, the second one as soon as the first one has returned. -/
def Client.twice : TaskKind → Act Turn
  | .call (.supervisor (.operate o)) => do
    let _ ← Supervisor.operate o
    let x ← Supervisor.operate o
    pure (.finished (.lifecycle x))
  | κ => turn κ

/-- A server that exits a moment after it was told that it is initialized. -/
def Script.frail : Script :=
  { Script.obedient with on := ("initialized", [.delay (some 0), .exit 0]) :: Script.obedient.on }

/-- The lock is handed over a moment after it was given back. If two starts are called at once, the second one finds that
the server has exited in between, and starts another one. A task that calls for the second one as soon as the first one
has returned finds the server alive. -/
theorem handed_over_later :
    (((Machine.pressed [.frail, .obedient] .start).runUntil Client.turn 1000 1 100).result? 1).map
      LifecycleResult.outcome = some .success ∧
    ((((Machine.ofWorld (.sample [.frail, .obedient])).start (.call (.supervisor (.operate .start)))).2.runUntil
      Client.twice 1000 1 100).result? 0).map LifecycleResult.outcome = some .noop := by
  constructor <;> decide +kernel

end LspHost
