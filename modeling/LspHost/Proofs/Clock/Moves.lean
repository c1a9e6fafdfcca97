import Mathlib.Data.List.Nodup
import LspHost.Proofs.Clock.Roster

/-!
# What a task does to the roster

Most changes leave the ledger alone and settle nothing but what others wait for anyway (`Passive`). What is left are
tickets that are issued, fed, settled or cancelled, and tasks that are started. Each lemma says that a task may do so
and that it is fit to go on.
-/

namespace LspHost

namespace World

variable {s : World} {i j id : Nat} {p p' q : Server} {g : Server → Server}

/-- A process is what it was, unless it is the one that is another now. -/
theorem getElem?_set (found : s.servers[id]? = some p) (h : (s.servers.set id p')[i]? = some q) :
    (i ≠ id ∧ s.servers[i]? = some q) ∨ i = id ∧ q = p' := by
  by_cases e : id = i
  · subst e
    rw [List.getElem?_set_self (List.getElem?_eq_some_iff.mp found).1] at h
    exact .inr ⟨rfl, (Option.some.inj h).symm⟩
  · rw [List.getElem?_set_ne e] at h
    exact .inl ⟨Ne.symm e, h⟩

theorem getElem?_setServer (h : (s.setServer id g).servers[i]? = some q) :
    ∃ p, s.servers[i]? = some p ∧ (q = p ∨ q = g p) := by
  simp only [setServer, List.getElem?_modify] at h
  obtain ⟨p, found, rfl⟩ := Option.map_eq_some_iff.mp h
  exact ⟨p, found, by split <;> simp⟩

theorem getElem?_setServer_of (found : s.servers[i]? = some p) :
    ∃ q, (s.setServer j g).servers[i]? = some q ∧ (q = p ∨ q = g p) := by
  simp only [setServer, List.getElem?_modify, found]
  exact ⟨_, rfl, by split <;> simp⟩

end World

namespace Clock

open Discipline

variable {t u : Nat} {o : Option Nat} {κ : TaskKind} {γ γ' : Roster} {s s' : World} {L : Ledger} {l l' : Loop}
  {f : World → World} {P : Nat → Prop}

/-! ## The event loop goes on -/

theorem CalledOff.moved (h : CalledOff u l) (grows : l.Grows l')
    (interrupted : l.isInterrupted u = true → l'.isInterrupted u = true)
    (waiting : l'.waitingFor? u = l.waitingFor? u) : CalledOff u l' := by
  rcases h with ⟨e, ending, settled⟩ | marked | ⟨k, waits, outcome⟩
  · exact .inl ⟨e, grows.endings u e ending, grows.settled settled⟩
  · exact .inr (.inl (interrupted marked))
  · exact .inr (.inr ⟨k, waiting.trans waits, grows.outcomes k _ outcome⟩)

theorem Tasks.loop (h : Tasks o γ L l) (grows : l.Grows l') (tasks : l'.tasks = l.tasks) : Tasks o γ L l' := by
  have kind (u : Nat) : l'.kind? u = l.kind? u := by simp only [Loop.kind?, tasks]
  have waiting (u : Nat) : l'.waitingFor? u = l.waitingFor? u := by simp only [Loop.waitingFor?, tasks]
  have marked (u : Nat) : l'.isInterrupted u = l.isInterrupted u := by simp only [Loop.isInterrupted, tasks]
  exact
    { kinds := fun u κ e => h.kinds u κ ((kind u).symm.trans e)
      doomed := fun u e => by rw [kind u]; exact h.doomed u e
      interrupted := fun u e => h.interrupted u ((marked u).symm.trans e)
      woken := fun u k e e' =>
        grows.settled (h.woken u k ((marked u).symm.trans e) ((waiting u).symm.trans e'))
      waiting := fun u κ k e b e' => h.waiting u κ k ((kind u).symm.trans e) b ((waiting u).symm.trans e')
      calledOff := fun u ne e => (h.calledOff u ne e).moved grows (fun e => by rw [marked u]; exact e) (waiting u)
      running := fun u e => (waiting u).trans (h.running u e)
      drains := fun i T e found drain => by
        obtain ⟨u, j, ending, kind'⟩ := h.drains i T e found drain
        exact ⟨u, j, grows.endings u e ending, (kind u).trans kind'⟩
      readers := fun i x e found reader => by
        obtain ⟨u, ending, kind'⟩ := h.readers i x e found reader
        exact ⟨u, grows.endings u e ending, (kind u).trans kind'⟩ }

theorem Locked.loop {p : Place} (h : Locked p γ L l) (grows : l.Grows l') : Locked p γ L l' :=
  ⟨h.nodup, h.queue, h.holder, fun free k head => grows.settled (h.handed free k head)⟩

theorem Asked.loop (h : Asked γ L l) (grows : l.Grows l') : Asked γ L l' where
  numbers := h.numbers
  sessions := h.sessions
  tickets := h.tickets
  owned := h.owned
  patience q hq := by
    obtain ⟨κ, x, kind, rest⟩ := h.patience q hq
    exact ⟨κ, x, grows.kinds _ κ kind, rest⟩
  asking := h.asking
  finished := h.finished
  once := h.once
  verdicts q r he := by
    obtain ⟨known, how⟩ := h.verdicts q r he
    refine ⟨known, how.imp_left ?_⟩
    rintro ⟨r', outcome, e⟩
    exact ⟨r', grows.outcomes _ _ outcome, e⟩
  unheard u q e none := h.unheard u q e (grows.unsettled none)
  requests := h.requests
  written := h.written
  unsent := h.unsent
  queries q known c kind := by
    obtain ⟨κ, x, kind', -⟩ := h.patience q known
    exact h.queries q known c (kind'.trans ((grows.kinds _ κ kind').symm.trans kind))

theorem Tables.loop (h : Tables γ L l) (grows : l.Grows l') : Tables γ L l' :=
  { h with listed := fun u q x e none => h.listed u q x e (grows.unsettled none) }

/-- The event loop goes on, with the ledger as it is. -/
theorem Inv.onward (h : Inv o γ s) (ledger : s'.ledger = s.ledger) (pids : ∀ j pid, s.pidAt? j = some pid → s'.pidAt? j = some pid)
    (tickets : Tickets γ s') (grows : s.loop.Grows s'.loop) (tasks : s'.loop.tasks = s.loop.tasks) : Inv o γ s' where
  tickets := tickets
  tasks := by rw [ledger]; exact h.tasks.loop grows tasks
  locked p := by rw [ledger]; exact (h.locked p).loop grows
  queuers := h.queuers
  asked := by rw [ledger]; exact h.asked.loop grows
  tables := by rw [ledger]; exact h.tables.loop grows
  servers i T j found held := by
    rw [ledger] at found
    obtain ⟨pid, here, home⟩ := h.servers i T j found held
    exact ⟨pid, pids j pid here, home⟩
  homes := by rw [ledger]; exact h.homes
  idle := by rw [ledger]; exact h.idle
  getters := by rw [ledger]; exact h.getters
  plain := by rw [ledger]; exact h.plain

/-- A task is still fit when its segment goes on. -/
theorem Fit.onward (h : Fit t κ γ s) (inv : Inv (some t) γ' s') (grows : s.loop.Grows s'.loop)
    (now : s'.loop.now = s.loop.now) (duty : γ'.duty t = γ.duty t) (alarm : γ'.alarm t = γ.alarm t) :
    Fit t κ γ' s' where
  inv := inv
  kind := grows.kinds t κ h.kind
  alarm := by rw [alarm, now]; exact h.alarm
  limit := by rw [duty, now]; exact h.limit

/-! ## What others are spared -/

theorem Intent.Passes.of_eq {c c' : Intent} (h : c' = c) : c.Passes c' s := .inr (.inl h)

theorem Intent.Passes.trans {c c' c'' : Intent} (h : c.Passes c' s) (h' : c'.Passes c'' s) : c.Passes c'' s := by
  rcases h with idle | rfl | closed
  · exact .inl idle
  · exact h'
  · exact .inr (.inr closed)

/-- How a task may change the roster, and what the world is like then. -/
structure Roster.Moves (t : Nat) (s : World) (γ γ' : Roster) : Prop where
  owner : ∀ k v, γ.owner k = some v → γ'.owner k = some v
  doomed : ∀ u, γ.doomed u → γ'.doomed u
  used : ∀ i, γ.used i → γ'.used i
  home : ∀ pid i, γ.home pid = some i → γ'.home pid = some i
  asks : ∀ q ∈ γ.asks, q ∈ γ'.asks
  ended : ∀ e ∈ γ.ended, e ∈ γ'.ended
  duty : ∀ u, u ≠ t → γ'.duty u = γ.duty u
  alarm : ∀ u, u ≠ t → γ'.alarm u = γ.alarm u
  opener : ∀ u i, u ≠ t → (γ.duty u).opening = some i → γ'.used i → γ.used i
  closing : (γ.duty t).closing.Passes (γ'.duty t).closing s
  made : ∀ q ∈ γ'.asks, q ∉ γ.asks → q.Made t s

namespace Roster.Moves

theorem refl (t : Nat) (γ : Roster) : γ.Moves t s γ :=
  ⟨fun _ _ h => h, fun _ h => h, fun _ h => h, fun _ _ h => h, fun _ h => h, fun _ h => h, fun _ _ => rfl, fun _ _ => rfl,
    fun _ _ _ _ h => h, .of_eq rfl, fun _ h new => absurd h new⟩

theorem own {k : Nat} {use : Use} (fresh : γ.owner k = none) : γ.Moves t s (γ.own k t use) :=
  { refl t γ with
    owner := fun j v e => by
      rw [Roster.own_ne]
      · exact e
      · rintro rfl
        cases fresh.symm.trans e }

theorem charge {d : Duty} (closing : (γ.duty t).closing.Passes d.closing s) : γ.Moves t s (γ.charge t d) :=
  { refl t γ with
    duty := fun _ ne => γ.charge_ne d ne
    closing := by rw [Roster.charge_self]; exact closing }

theorem ring (time : ℕ∞) : γ.Moves t s (γ.ring t time) :=
  { refl t γ with alarm := fun _ ne => γ.ring_ne time ne }

theorem doom (u : Nat) : γ.Moves t s (γ.doom u) := { refl t γ with doomed := fun _ h => .inr h }

theorem trans {γ'' : Roster} (h : γ.Moves t s γ') (h' : γ'.Moves t s γ'') : γ.Moves t s γ'' where
  owner k v e := h'.owner k v (h.owner k v e)
  doomed u e := h'.doomed u (h.doomed u e)
  used i e := h'.used i (h.used i e)
  home pid i e := h'.home pid i (h.home pid i e)
  asks q e := h'.asks q (h.asks q e)
  ended q e := h'.ended q (h.ended q e)
  duty u ne := (h'.duty u ne).trans (h.duty u ne)
  alarm u ne := (h'.alarm u ne).trans (h.alarm u ne)
  opener u i ne e used := h.opener u i ne e (h'.opener u i ne (by rw [h.duty u ne]; exact e) used)
  closing := h.closing.trans h'.closing
  made q mem new := by
    by_cases between : q ∈ γ'.asks
    · exact h.made q between new
    · exact h'.made q mem between

end Roster.Moves

/-- The time of a task is as it was. -/
theorem bill_same {quota : Grant} (lock : s'.supervisor.lifecycleLock.held = s.supervisor.lifecycleLock.held)
    (attempts : s'.attempts = s.attempts) : quota = World.bill t s s' quota := by
  have not : ¬ (s.supervisor.lifecycleLock.held = false ∧ s'.supervisor.lifecycleLock.held = true) := by
    rintro ⟨free, taken⟩
    cases free.symm.trans (lock.symm.trans taken)
  simp only [World.bill, World.advance, if_neg not, if_pos (Or.inl attempts)]

/-- A ticket that has an owner is not apart. -/
theorem Tickets.not_apart (h : Tickets γ s) {k : Nat} {v : Nat × Use} (mine : γ.owner k = some v) : ¬ s.loop.Apart k := by
  rintro (⟨u, ending⟩ | new)
  · cases (h.endings u k ending).symm.trans mine
  · exact absurd (h.issued k v mine) (Nat.not_lt_of_le new)

/-- What a task may do: it tampers with no relay but its own, cancels no request but its own, and settles requests
rightly. -/
theorem acts (moves : γ.Moves t (f s) γ') (does : s.loop.Does P (f s).loop)
    (mine : ∀ k, P k → ¬ (f s).loop.Apart k ∧ ∀ u, γ.owner k = some (u, .relay) → u = t)
    (requests : ∀ k u, u ≠ t → γ.owner k = some (u, .request) →
      (f s).loop.outcome? k = some (.error .cancelled) → s.loop.outcome? k = some (.error .cancelled))
    (rightly : ∀ q ∈ γ.asks, s.loop.outcome? q.ticket = none → ∀ r, (f s).loop.outcome? q.ticket = some r →
      Rightly t q r s ((γ'.duty t).closing = ·))
    (lasts : s.Lasts (f s))
    (dead : ∀ i, γ.used i → (f s).isConnected i = true → s.isConnected i = true)
    (bill : (γ'.duty t).quota = World.bill t s (f s) (γ.duty t).quota) : Acts t f (γ, s) γ' := by
  have onward : Onward (γ, s) (γ', f s) :=
    ⟨does.grows, Nat.le_of_eq does.now.symm, does.timers, moves.owner, moves.doomed, moves.used, moves.home, moves.asks, moves.ended,
      lasts, dead⟩
  refine ⟨does.toDrives, onward, fun k apart => does.kept k fun tampered => (mine k tampered).1 apart, fun u ne => ⟨⟨onward, moves.duty u ne, fun k owned => requests k u ne owned,
    fun i e => moves.opener u i ne e⟩, le_of_eq (moves.alarm u ne), fun q known task => ?_, fun k owned => ?_⟩, moves.alarm,
    moves.closing, moves.made, rightly, bill⟩
  · by_contra new
    exact ne (task.symm.trans (moves.made q known new).task)
  · exact does.kept k fun tampered => ne ((mine k tampered).2 u owned)

/-- A task goes on with what it has in hand. -/
theorem Acts.step (h : Acts t f (γ, s) γ') (fit : Fit t κ γ' (f s)) (duty : γ'.duty t = γ.duty t)
    (used : γ'.used = γ.used)
    (requests : ∀ k, γ.owner k = some (t, .request) → (f s).loop.outcome? k = some (.error .cancelled) →
      s.loop.outcome? k = some (.error .cancelled)) : Step t κ f γ s γ' :=
  ⟨h, fit, ⟨h.onward, duty, requests, fun i _ e => (by rw [← used]; exact e)⟩,
    h.drives.now⟩

/-! ## Who waits for a process -/

/-- Nobody waits longer for a process than it lives, and who waits for its exit is told nothing else. -/
structure Heeds (s s' : World) : Prop where
  streams : ∀ p' ∈ s'.servers, ∀ (c : Channel) (k : Nat) (d : Demand), (c.get p').waiter = some (k, d) →
    ∃ p ∈ s.servers, (c.get p).waiter = some (k, d)
  exits : ∀ (i : Nat) (p' : Server), s'.servers[i]? = some p' → ∀ k ∈ p'.exitWaiters,
    ∃ p, s.servers[i]? = some p ∧ k ∈ p.exitWaiters
  mortal : (∀ p ∈ s.servers, p.Mortal) → ∀ p ∈ s'.servers, p.Mortal
  stays : ∀ (i : Nat) (p : Server), s.servers[i]? = some p → ∃ p', s'.servers[i]? = some p' ∧
    (p.isAlive = false → p'.isAlive = false) ∧
    ∀ k ∈ p.exitWaiters, k < s.loop.tickets.length → k ∈ p'.exitWaiters ∨ s'.loop.isSettled k = true
  rung : ∀ k r, s'.loop.outcome? k = some r → s.loop.outcome? k = some r ∨
    (∃ p ∈ s.servers, ∃ (c : Channel) (d : Demand), (c.get p).waiter = some (k, d)) ∨
    ∃ (i : Nat) (p p' : Server), s.servers[i]? = some p ∧ k ∈ p.exitWaiters ∧ s'.servers[i]? = some p' ∧ p'.isAlive = false

theorem Heeds.trans {s'' : World} (h : Heeds s s') (h' : Heeds s' s'') (grows : s.loop.Grows s'.loop)
    (grows' : s'.loop.Grows s''.loop) : Heeds s s'' where
  streams p mem c k d waits := by
    obtain ⟨q, mem, waits⟩ := h'.streams p mem c k d waits
    exact h.streams q mem c k d waits
  exits i p found k mem := by
    obtain ⟨q, found, mem⟩ := h'.exits i p found k mem
    exact h.exits i q found k mem
  mortal all := h'.mortal (h.mortal all)
  stays i p found := by
    obtain ⟨q, found', dies, left⟩ := h.stays i p found
    obtain ⟨q', found'', dies', left'⟩ := h'.stays i q found'
    refine ⟨q', found'', fun e => dies' (dies e), fun k mem issued => ?_⟩
    rcases left k mem issued with still | settled
    · exact left' k still (Nat.lt_of_lt_of_le issued grows.issued)
    · exact .inr (grows'.settled settled)
  rung k r e := by
    rcases h'.rung k r e with old | ⟨p, mem, c, d, waits⟩ | ⟨i, p, p', found, mem, found', dead⟩
    · refine (h.rung k r old).imp_right (.imp_right ?_)
      rintro ⟨i, p, p', found, mem, found', dead⟩
      obtain ⟨q, found'', dies, -⟩ := h'.stays i p' found'
      exact ⟨i, p, q, found, mem, found'', dies dead⟩
    · obtain ⟨q, mem, waits⟩ := h.streams p mem c k d waits
      exact .inr (.inl ⟨q, mem, c, d, waits⟩)
    · obtain ⟨q, found'', mem⟩ := h.exits i p found k mem
      exact .inr (.inr ⟨i, q, p', found'', mem, found', dead⟩)

/-- Processes stay as they are while tickets are settled that are for no exits. -/
theorem Exits.loop (h : Exits γ s) (servers : s'.servers = s.servers) (grows : s.loop.Grows s'.loop)
    (told : ∀ k u, γ.owner k = some (u, .exit) → ∀ v, s'.loop.outcome? k = some (.ok v) →
      s.loop.outcome? k = some (.ok v)) : Exits γ s' where
  exits i p found k mem := by
    obtain ⟨alive, u, mine, kind⟩ := h.exits i p (servers ▸ found) k mem
    exact ⟨alive, u, mine, grows.kinds u _ kind⟩
  streams p mem := h.streams p (servers ▸ mem)
  watches k u mine := by
    obtain ⟨j, p, kind, found, waits, gone⟩ := h.watches k u mine
    exact ⟨j, p, grows.kinds u _ kind, servers ▸ found, fun none => waits (grows.unsettled none),
      fun v e => gone v (told k u mine v e)⟩

/-- A ticket that is not for an exit gets an owner. -/
theorem Exits.own (h : Exits γ s) {k : Nat} {use : Use} (fresh : γ.owner k = none) (other : use ≠ .exit) :
    Exits (γ.own k u use) s where
  exits i p found j mem := by
    obtain ⟨alive, v, mine, kind⟩ := h.exits i p found j mem
    refine ⟨alive, v, (γ.own_ne u use ?_).trans mine, kind⟩
    rintro rfl
    cases fresh.symm.trans mine
  streams p mem c j d waits := by
    obtain ⟨v, mine⟩ := h.streams p mem c j d waits
    refine ⟨v, (γ.own_ne u use ?_).trans mine⟩
    rintro rfl
    cases fresh.symm.trans mine
  watches j v mine := by
    refine h.watches j v ((γ.own_ne u use ?_).symm.trans mine)
    rintro rfl
    rw [Roster.own_self] at mine
    cases mine
    exact other rfl

theorem Exits.heeds (h : Exits γ s) (heeds : Heeds s s') (grows : s.loop.Grows s'.loop)
    (issued : ∀ k v, γ.owner k = some v → k < s.loop.tickets.length) : Exits γ s' where
  exits i p' found k mem := by
    obtain ⟨p, old, waits⟩ := heeds.exits i p' found k mem
    obtain ⟨-, u, mine, kind⟩ := h.exits i p old k waits
    have mortal : ∀ p ∈ s.servers, p.Mortal := fun p mem j waits => by
      obtain ⟨i, found⟩ := List.mem_iff_getElem?.mp mem
      exact (h.exits i p found j waits).1
    exact ⟨heeds.mortal mortal p' (List.mem_of_getElem? found) k mem, u, mine, grows.kinds u _ kind⟩
  streams p' mem c k d waits := by
    obtain ⟨p, old, waits⟩ := heeds.streams p' mem c k d waits
    exact h.streams p old c k d waits
  watches k u mine := by
    obtain ⟨j, p, kind, found, waits, gone⟩ := h.watches k u mine
    obtain ⟨p', found', dies, stays⟩ := heeds.stays j p found
    refine ⟨j, p', grows.kinds u _ kind, found', fun none => ?_, fun v e => ?_⟩
    · refine (stays k (waits (grows.unsettled none)) (issued k _ mine)).resolve_right fun settled => ?_
      simp only [Loop.isSettled, none, Option.isSome_none, Bool.false_eq_true] at settled
    · rcases heeds.rung k _ e with old | ⟨q, mem, c, d, reads⟩ | ⟨i, q, q', old, waits, new, dead⟩
      · exact dies (gone v old)
      · obtain ⟨w, reader⟩ := h.streams q mem c k d reads
        cases reader.symm.trans mine
      · -- A ticket is for the exit of one process only.
        obtain ⟨-, w, mine', kind'⟩ := h.exits i q old k waits
        cases mine'.symm.trans mine
        cases kind'.symm.trans kind
        cases new.symm.trans found'
        exact dead

/-- Somebody waits for a process, either way. -/
theorem Tickets.servers (h : Tickets γ s) (k : Nat) (awaited : s.Awaited k) :
    ∃ u use, γ.owner k = some (u, use) ∧ use.Outward := by
  obtain ⟨p, mem, waits | ⟨c, d, waits⟩⟩ := awaited
  · obtain ⟨i, found⟩ := List.mem_iff_getElem?.mp mem
    obtain ⟨-, u, mine, -⟩ := h.awaited.exits i p found k waits
    exact ⟨u, _, mine, trivial⟩
  · obtain ⟨u, mine⟩ := h.awaited.streams p mem c k d waits
    exact ⟨u, _, mine, trivial⟩

/-! ## Passive changes -/

/-- A change that leaves the ledger alone and settles nothing but what somebody waits for from a process. -/
structure Passive (s s' : World) : Prop where
  ledger : s'.ledger = s.ledger
  does : s.loop.Does s.Awaited s'.loop
  tasks : s'.loop.tasks = s.loop.tasks
  unfed : ∀ k, ¬ s.loop.Fed k → ¬ s'.loop.Fed k
  told : ∀ k r, s'.loop.outcome? k = some r → s.loop.outcome? k = some r ∨ r = .ok .null
  awaited : ∀ k, s'.Awaited k → s.Awaited k
  pids : ∀ j pid, s.pidAt? j = some pid → s'.pidAt? j = some pid
  dead : ∀ j pid, s.pidAt? j = some pid → s'.isAlive j = true → s.isAlive j = true
  servers : Heeds s s'

theorem Tickets.passive (h : Tickets γ s) (p : Passive s s') : Tickets γ s' where
  sane := p.does.sane h.sane
  issued k v e := Nat.lt_of_lt_of_le (h.issued k v e) p.does.grows.issued
  endings u k e := h.endings u k (by simpa only [Loop.ending?, p.tasks] using e)
  unfed k u use e other := p.unfed k (h.unfed k u use e other)
  fed k e := by
    by_cases fed : s.loop.Fed k
    · exact Nat.lt_of_lt_of_le (h.fed k fed) p.does.grows.issued
    · exact absurd e (p.unfed k fed)
  proper k u use r e outcome := by
    rcases p.told k r outcome with old | rfl
    · exact h.proper k u use r e old
    · exact γ.proper_ok u use _
  awaited := h.awaited.heeds p.servers p.does.grows h.issued

/-- Neither the tickets nor the processes change. -/
theorem Tickets.same (h : Tickets γ s) (servers : s'.servers = s.servers) (loop : s'.loop = s.loop) : Tickets γ s' where
  sane := loop ▸ h.sane
  issued := loop ▸ h.issued
  endings := loop ▸ h.endings
  unfed := loop ▸ h.unfed
  fed := loop ▸ h.fed
  proper := loop ▸ h.proper
  awaited := h.awaited.loop servers (by rw [loop]; exact .refl _) fun k _ _ v e => by rwa [loop] at e

/-- Nobody gets a living process by a passive change. -/
theorem Passive.connected (p : Passive s s') (h : Inv o γ s) {i : Nat} (connected : s'.isConnected i = true) :
    s.isConnected i = true := by
  have transports : s'.transports = s.transports := congrArg Ledger.transports p.ledger
  simp only [World.isConnected, World.serverOf?, transports] at connected ⊢
  rcases found : s.transports[i]? with _ | T
  · simp [found] at connected
  · rcases held : T.server with _ | j
    · simp [found, held] at connected
    · simp only [found, Option.bind_some, held] at connected ⊢
      obtain ⟨pid, here, -⟩ := h.servers i T j found held
      exact p.dead j pid here connected

/-- A passive change cancels nothing. -/
theorem Passive.uncancelled (p : Passive s s') {k : Nat} (e : s'.loop.outcome? k = some (.error .cancelled)) :
    s.loop.outcome? k = some (.error .cancelled) := by
  rcases p.told k _ e with old | e
  · exact old
  · cases e

/-- A passive change settles no requests. -/
theorem Passive.unasked (p : Passive s s') (h : Inv o γ s) {q : Inquiry} (known : q ∈ γ.asks) :
    s'.loop.outcome? q.ticket = s.loop.outcome? q.ticket := by
  refine p.does.outcomes _ fun awaited => ?_
  obtain ⟨v, use, e, outward⟩ := h.tickets.servers _ awaited
  cases (h.asked.owned q known).symm.trans e
  exact outward

theorem Inv.passive (h : Inv o γ s) (p : Passive s s') : Inv o γ s' :=
  h.onward p.ledger p.pids (h.tickets.passive p) p.does.grows p.tasks

theorem Inv.acts_passive (h : Inv o γ s) (p : Passive s (f s)) : Acts t f (γ, s) γ := by
  refine acts (.refl t γ) p.does ?_ (fun k _ _ _ => p.uncancelled) (fun q known unsettled r e => ?_) (.of_ledger p.ledger)
    (fun i _ => p.connected h) ?_
  · intro k awaited
    obtain ⟨v, use, e, outward⟩ := h.tickets.servers k awaited
    refine ⟨(h.tickets.passive p).not_apart e, fun u mine => ?_⟩
    cases mine.symm.trans e
    exact outward.elim
  · cases unsettled.symm.trans ((p.unasked h known).symm.trans e)
  · refine bill_same ?_ (congrArg Ledger.attempts p.ledger)
    exact congrArg (fun L : Ledger => L.supervisor.lifecycleLock.held) p.ledger

/-- Whoever is fit may change the world passively. -/
theorem Fit.passive (h : Fit t κ γ s) (p : Passive s (f s)) : Step t κ f γ s γ :=
  (h.inv.acts_passive p).step (h.onward (h.inv.passive p) p.does.grows p.does.now rfl rfl) rfl rfl fun _ _ => p.uncancelled

namespace Passive

/-- Neither the event loop nor a process changes. -/
theorem still (ledger : s'.ledger = s.ledger) (loop : s'.loop = s.loop) (servers : s'.servers = s.servers) :
    Passive s s' where
  ledger := ledger
  does := by rw [loop]; exact .refl _
  tasks := by rw [loop]
  unfed k h := by rw [loop]; exact h
  told k r h := .inl (by rw [← loop]; exact h)
  awaited k h := by simpa only [World.Awaited, servers] using h
  pids j pid h := by simpa only [World.pidAt?, servers] using h
  dead j _ _ h := by simpa only [World.isAlive, servers] using h
  servers :=
    { streams := fun p mem c k d waits => ⟨p, servers ▸ mem, waits⟩
      exits := fun i p found k mem => ⟨p, servers ▸ found, mem⟩
      mortal := fun all p mem => all p (servers ▸ mem)
      stays := fun i p found => ⟨p, servers ▸ found, id, fun _ mem _ => .inl mem⟩
      rung := fun k r e => .inl (by rwa [loop] at e) }

theorem refl (s : World) : Passive s s := still rfl rfl rfl

theorem trans {s'' : World} (h : Passive s s') (h' : Passive s' s'') : Passive s s'' where
  ledger := h'.ledger.trans h.ledger
  does := h.does.trans (h'.does.mono h.awaited)
  tasks := h'.tasks.trans h.tasks
  unfed k e := h'.unfed k (h.unfed k e)
  told k r e := (h'.told k r e).elim (h.told k r) .inr
  awaited k e := h.awaited k (h'.awaited k e)
  pids j pid e := h'.pids j pid (h.pids j pid e)
  dead j pid here e := h.dead j pid here (h'.dead j pid (h.pids j pid here) e)
  servers := h.servers.trans h'.servers h.does.grows h'.does.grows

/-- A process acts. -/
theorem withServer {g : Living → Living} (id : Nat) (stirs : ∀ x, Living.Stirs x (g x)) (s : World) :
    Passive s (s.withServer id g) := by
  unfold World.withServer
  split
  · next p found =>
    have acted := stirs (s.loop, p)
    generalize g (s.loop, p) = y at acted
    obtain ⟨l, p'⟩ := y
    have mem := List.mem_of_getElem? found
    exact
      { ledger := rfl
        does := acted.does.mono fun k e => ⟨p, mem, e⟩
        tasks := acted.tasks
        unfed := acted.unfed
        told := acted.told
        awaited := fun k ⟨q, hq, e⟩ => by
          rcases List.mem_or_eq_of_mem_set hq with hq | rfl
          · exact ⟨q, hq, e⟩
          · exact ⟨p, mem, acted.awaited k e⟩
        pids := fun j pid here => by
          have bound := (List.getElem?_eq_some_iff.mp found).1
          simp only [World.pidAt?] at here ⊢
          by_cases e : id = j
          · subst e
            rw [found] at here
            rw [List.getElem?_set_self bound]
            exact (congrArg some acted.pid).trans here
          · rwa [List.getElem?_set_ne e]
        dead := fun j _ _ alive => by
          have bound := (List.getElem?_eq_some_iff.mp found).1
          simp only [World.isAlive] at alive ⊢
          by_cases e : id = j
          · subst e
            rw [List.getElem?_set_self bound] at alive
            rw [found]
            rcases h : p.isAlive with _ | _
            · exact absurd (acted.dead h) (by simpa using alive)
            · exact h
          · rwa [List.getElem?_set_ne e] at alive
        servers :=
          { streams := fun q hq c k d waits => by
              rcases List.mem_or_eq_of_mem_set hq with hq | rfl
              · exact ⟨q, hq, waits⟩
              · exact ⟨p, mem, acted.streams c k d waits⟩
            exits := fun i q hq k waits => by
              rcases World.getElem?_set found hq with ⟨-, old⟩ | ⟨rfl, rfl⟩
              · exact ⟨q, old, waits⟩
              · exact ⟨p, found, acted.exits k waits⟩
            mortal := fun all q hq => by
              rcases List.mem_or_eq_of_mem_set hq with hq | rfl
              · exact all q hq
              · exact acted.mortal (all p mem)
            stays := fun i q hq => by
              by_cases e : id = i
              · subst e
                cases found.symm.trans hq
                exact ⟨p', List.getElem?_set_self (List.getElem?_eq_some_iff.mp found).1, acted.dead, acted.left⟩
              · exact ⟨q, (List.getElem?_set_ne e).trans hq, fun h => h, fun _ mem _ => .inl mem⟩
            rung := fun k r e => (acted.rung k r e).imp_right (.imp (fun ⟨c, d, waits⟩ => ⟨p, mem, c, d, waits⟩)
              fun ⟨waits, dead⟩ => ⟨id, p, p', found, waits,
                List.getElem?_set_self (List.getElem?_eq_some_iff.mp found).1, dead⟩) } }
  · exact refl s

/-- A process is told something that concerns nobody who waits for it. -/
theorem setServer {g : Server → Server} (id : Nat)
    (streams : ∀ (p : Server) (c : Channel) (k : Nat) (d : Demand), (c.get (g p)).waiter = some (k, d) →
      (c.get p).waiter = some (k, d))
    (exits : ∀ p, (g p).exitWaiters = p.exitWaiters)
    (alive : ∀ p, (g p).isAlive = p.isAlive) (pid : ∀ p, (g p).pid = p.pid) (s : World) : Passive s (s.setServer id g) where
  ledger := rfl
  does := .refl _
  tasks := rfl
  unfed _ h := h
  told _ _ h := .inl h
  awaited k := by
    rintro ⟨q, hq, e⟩
    obtain ⟨j, found⟩ := List.mem_iff_getElem?.mp hq
    simp only [World.setServer, List.getElem?_modify] at found
    obtain ⟨p, at_, rfl⟩ := Option.map_eq_some_iff.mp found
    refine ⟨p, List.mem_of_getElem? at_, ?_⟩
    split at e
    · rcases e with e | ⟨c, d, e⟩
      · exact .inl (exits p ▸ e)
      · exact .inr ⟨c, d, streams p c k d e⟩
    · exact e
  pids j n h := (World.pidAt?_setServer pid id j s).trans h
  dead j _ _ h := by
    simp only [World.isAlive, World.setServer, List.getElem?_modify] at h ⊢
    rcases found : s.servers[j]? with _ | p
    · simp [found] at h
    · by_cases e : id = j
      · simpa [found, e, alive] using h
      · simpa [found, e] using h
  servers :=
    { streams := fun q hq c k d waits => by
        obtain ⟨j, found⟩ := List.mem_iff_getElem?.mp hq
        obtain ⟨p, old, rfl | rfl⟩ := World.getElem?_setServer found
        · exact ⟨q, List.mem_of_getElem? old, waits⟩
        · exact ⟨p, List.mem_of_getElem? old, streams p c k d waits⟩
      exits := fun i q found k mem => by
        obtain ⟨p, old, rfl | rfl⟩ := World.getElem?_setServer found
        · exact ⟨q, old, mem⟩
        · exact ⟨p, old, exits p ▸ mem⟩
      mortal := fun all q hq k mem => by
        obtain ⟨j, found⟩ := List.mem_iff_getElem?.mp hq
        obtain ⟨p, old, rfl | rfl⟩ := World.getElem?_setServer found
        · exact all q (List.mem_of_getElem? old) k mem
        · exact (alive p).trans (all p (List.mem_of_getElem? old) k (exits p ▸ mem))
      stays := fun i p found => by
        obtain ⟨q, now, rfl | rfl⟩ := World.getElem?_setServer_of found (j := id) (g := g)
        · exact ⟨q, now, fun h => h, fun _ mem _ => .inl mem⟩
        · exact ⟨_, now, fun h => (alive p).trans h, fun _ mem _ => .inl (by rwa [exits])⟩
      rung := fun _ _ e => .inl e }

end Passive

/-! ## Tickets -/

/-- Who looks at a roster with more owners and other alarms sees the same tasks, locks and requests, whatever processes are told. -/
theorem Inv.regardServers (h : Inv o γ s) (ledger : s'.ledger = s.ledger) (loop : s'.loop = s.loop)
    (pids : ∀ j pid, s.pidAt? j = some pid → s'.pidAt? j = some pid) (tickets : Tickets γ' s')
    (owner : ∀ k v, γ.owner k = some v → γ'.owner k = some v)
    (rest : γ' = { γ with owner := γ'.owner, alarm := γ'.alarm }) : Inv o γ' s' := by
  obtain ⟨owner', duty, alarm, doomed, used, home, asks, ended, written⟩ := γ'
  cases rest
  exact
    { tickets
      tasks := by
        rw [ledger, loop]
        exact { h.tasks with waiting := fun u κ k e b e' => owner _ _ (h.tasks.waiting u κ k e b e') }
      locked := fun p => by
        rw [ledger, loop]
        exact { h.locked p with }
      queuers := fun u p k e => owner _ _ (h.queuers u p k e)
      asked := by
        rw [ledger, loop]
        exact { h.asked with owned := fun q hq => owner _ _ (h.asked.owned q hq) }
      tables := by
        rw [ledger, loop]
        exact { h.tables with }
      servers := fun i T j found held => by
        rw [ledger] at found
        obtain ⟨pid, here, home⟩ := h.servers i T j found held
        exact ⟨pid, pids j pid here, home⟩
      homes := by rw [ledger]; exact h.homes
      idle := by rw [ledger]; exact h.idle
      getters := by rw [ledger]; exact h.getters
      plain := by rw [ledger]; exact h.plain }

/-- Who looks at a roster with more owners and other alarms sees the same tasks, locks and requests. -/
theorem Inv.regard (h : Inv o γ s) (tickets : Tickets γ' s) (owner : ∀ k v, γ.owner k = some v → γ'.owner k = some v)
    (rest : γ' = { γ with owner := γ'.owner, alarm := γ'.alarm }) : Inv o γ' s :=
  h.regardServers rfl rfl (fun _ _ h => h) tickets owner rest

/-- A ticket that nothing is going to settle gets an owner, if processes are told of it. -/
theorem Tickets.ownTold (h : Tickets γ s) {k : Nat} {use : Use} (loop : s'.loop = s.loop) (fresh : γ.owner k = none)
    (issued : k < s.loop.tickets.length) (ending : ∀ v, s.loop.ending? v ≠ some k) (unfed : ¬ s.loop.Fed k)
    (unsettled : s.loop.outcome? k = none) (awaited : Exits (γ.own k u use) s') : Tickets (γ.own k u use) s' where
  sane := by rw [loop]; exact h.sane
  issued j v e := by
    rw [loop]
    by_cases same : j = k
    · rw [same]; exact issued
    · exact h.issued j v ((γ.own_ne u use same).symm.trans e)
  endings v j e := by
    rw [loop] at e
    by_cases same : j = k
    · exact absurd (same ▸ e) (ending v)
    · exact (γ.own_ne u use same).trans (h.endings v j e)
  unfed j v use' e relay := by
    rw [loop]
    by_cases same : j = k
    · rw [same]; exact unfed
    · exact h.unfed j v use' ((γ.own_ne u use same).symm.trans e) relay
  fed := by rw [loop]; exact h.fed
  proper j v use' r e outcome := by
    rw [loop] at outcome
    have ne : j ≠ k := by
      rintro rfl
      cases unsettled.symm.trans outcome
    have old := h.proper j v use' r ((γ.own_ne u use ne).symm.trans e) outcome
    exact ⟨old.relay, old.wait⟩
  awaited := awaited

/-- A ticket that nothing is going to settle gets an owner. -/
theorem Tickets.own (h : Tickets γ s) {k : Nat} {use : Use} (other : use ≠ .exit) (fresh : γ.owner k = none)
    (issued : k < s.loop.tickets.length) (ending : ∀ v, s.loop.ending? v ≠ some k) (unfed : ¬ s.loop.Fed k)
    (unsettled : s.loop.outcome? k = none) : Tickets (γ.own k u use) s :=
  h.ownTold rfl fresh issued ending unfed unsettled (h.awaited.own fresh other)

/-- The next ticket belongs to nobody. -/
theorem Tickets.fresh (h : Tickets γ s) : γ.owner s.loop.tickets.length = none := by
  rcases e : γ.owner s.loop.tickets.length with _ | v
  · rfl
  · exact absurd (h.issued _ v e) (Nat.lt_irrefl _)

theorem Tickets.issue (h : Tickets γ s) : Tickets γ { s with loop := s.loop.issue.2 } where
  sane := h.sane.issue
  issued k v e := Nat.lt_of_lt_of_le (h.issued k v e) s.loop.grows_issue.issued
  endings := h.endings
  unfed k u use e other := ((Loop.Kept.issue _ k).unfed (h.unfed k u use e other)).1
  fed k e := by
    by_cases fed : s.loop.Fed k
    · exact Nat.lt_of_lt_of_le (h.fed k fed) s.loop.grows_issue.issued
    · exact absurd e ((Loop.Kept.issue _ k).unfed fed).1
  proper k u use r e outcome := h.proper k u use r e (by rwa [Loop.outcome?_issue] at outcome)
  awaited := h.awaited.loop rfl s.loop.grows_issue fun k _ _ v e => by rwa [Loop.outcome?_issue] at e

/-- A task gets a ticket of its own. -/
theorem Fit.issue (h : Fit t κ γ s) (use : Use) (other : use ≠ .exit) :
    Step t κ (fun s => { s with loop := s.loop.issue.2 }) γ s (γ.own s.loop.tickets.length t use) := by
  have fresh := h.inv.tickets.fresh
  have tickets : Tickets (γ.own s.loop.tickets.length t use) { s with loop := s.loop.issue.2 } := by
    refine h.inv.tickets.issue.own other fresh (by simp [Loop.issue]) (fun v e => ?_) (fun fed => ?_) ?_
    · exact absurd (h.inv.tickets.sane.endings v _ e) (Nat.lt_irrefl _)
    · refine ((Loop.Kept.issue s.loop s.loop.tickets.length).unfed fun fed => ?_).1 fed
      exact absurd (h.inv.tickets.fed _ fed) (Nat.lt_irrefl _)
    · rw [Loop.outcome?_issue]
      rcases e : s.loop.outcome? s.loop.tickets.length with _ | r
      · rfl
      · exact absurd (Loop.outcome?_lt e) (Nat.lt_irrefl _)
  have moves {w : World} : γ.Moves t w (γ.own s.loop.tickets.length t use) := .own fresh
  have issued : Inv (some t) γ { s with loop := s.loop.issue.2 } :=
    h.inv.onward rfl (fun _ _ h => h) h.inv.tickets.issue s.loop.grows_issue rfl
  have inv := issued.regard tickets (moves (w := s)).owner rfl
  have requests (k : Nat) (e : s.loop.issue.2.outcome? k = some (.error .cancelled)) :
      s.loop.outcome? k = some (.error .cancelled) := by rwa [Loop.outcome?_issue] at e
  refine (acts moves (s.loop.does_issue (P := fun _ => False)) (fun _ e => e.elim) (fun k _ _ _ => requests k)
    (fun q _ unsettled r e => ?_) (.of_ledger rfl) (fun _ _ e => e) (bill_same rfl rfl)).step
    (h.onward inv s.loop.grows_issue rfl rfl rfl) rfl rfl fun k _ => requests k
  rw [Loop.outcome?_issue] at e
  cases unsettled.symm.trans e

/-- A task does something with its own relay. -/
theorem Fit.relay (h : Fit t κ γ s) {g : Loop → Loop} {k : Nat} (mine : γ.owner k = some (t, .relay))
    (does : s.loop.Does P (g s.loop)) (only : ∀ j, P j → j = k)
    (outcomes : ∀ j, (g s.loop).outcome? j = s.loop.outcome? j) (tasks : (g s.loop).tasks = s.loop.tasks) :
    Step t κ (fun s => { s with loop := g s.loop }) γ s γ := by
  have tickets : Tickets γ { s with loop := g s.loop } :=
    { sane := does.sane h.inv.tickets.sane
      issued := fun j v e => Nat.lt_of_lt_of_le (h.inv.tickets.issued j v e) does.grows.issued
      endings := fun u j e => h.inv.tickets.endings u j (by simpa only [Loop.ending?, tasks] using e)
      unfed := fun j u use e other => by
        refine ((does.kept j fun tampered => ?_).unfed (h.inv.tickets.unfed j u use e other)).1
        rw [only j tampered, mine] at e
        cases e
        exact other rfl
      fed := fun j e => by
        by_cases same : j = k
        · rw [same]; exact Nat.lt_of_lt_of_le (h.inv.tickets.issued k _ mine) does.grows.issued
        · by_cases fed : s.loop.Fed j
          · exact Nat.lt_of_lt_of_le (h.inv.tickets.fed j fed) does.grows.issued
          · exact absurd e ((does.kept j fun tampered => same (only j tampered)).unfed fed).1
      proper := fun j u use r e outcome => h.inv.tickets.proper j u use r e ((outcomes j).symm.trans outcome)
      awaited := h.inv.tickets.awaited.loop rfl does.grows fun j _ _ v e => (outcomes j).symm.trans e }
  have inv : Inv (some t) γ { s with loop := g s.loop } := h.inv.onward rfl (fun _ _ h => h) tickets does.grows tasks
  refine (acts (.refl t γ) does (fun j tampered => ?_) (fun j _ _ _ e => (outcomes j).symm.trans e)
    (fun q _ unsettled r e => ?_) (.of_ledger rfl) (fun _ _ e => e) (bill_same rfl rfl)).step
    (h.onward inv does.grows does.now rfl rfl) rfl rfl fun j _ e => (outcomes j).symm.trans e
  · obtain rfl := only j tampered
    refine ⟨tickets.not_apart mine, fun u e => ?_⟩
    cases mine.symm.trans e
    rfl
  · cases unsettled.symm.trans ((outcomes _).symm.trans e)

/-- A ticket is settled as it may be. -/
theorem Tickets.settle (h : Tickets γ s) {j : Nat} {r : Except Fault Json}
    (proper : ∀ u use, γ.owner j = some (u, use) → γ.Proper u use r)
    (exits : ∀ u v, γ.owner j = some (u, .exit) → r ≠ .ok v) :
    Tickets γ { s with loop := s.loop.settle j r } where
  sane := h.sane.settle j r
  issued k v e := by
    rw [show (s.loop.settle j r).tickets.length = s.loop.tickets.length from Loop.length_tickets_settle ..]
    exact h.issued k v e
  endings u k e := h.endings u k (by simpa only [Loop.ending?, Loop.tasks_settle] using e)
  unfed k u use e other := Loop.not_fed_settle j r (h.unfed k u use e other)
  fed k e := by
    rw [show (s.loop.settle j r).tickets.length = s.loop.tickets.length from Loop.length_tickets_settle ..]
    by_cases fed : s.loop.Fed k
    · exact h.fed k fed
    · exact absurd e (Loop.not_fed_settle j r fed)
  proper k u use r' e outcome := by
    rcases Loop.outcome?_settle_cases outcome with old | ⟨rfl, rfl⟩
    · exact h.proper k u use r' e old
    · exact proper u use e
  awaited := h.awaited.loop rfl (s.loop.grows_settle j r) fun k u mine v e => by
    rcases Loop.outcome?_settle_cases e with old | ⟨rfl, ok⟩
    · exact old
    · exact absurd ok.symm (exits u v mine)

/-- A task wakes somebody who waits for it. -/
theorem Fit.wake (h : Fit t κ γ s) {j : Nat} (waits : ∃ u, γ.owner j = some (u, .wait)) (v : Json) :
    Step t κ (fun s => { s with loop := s.loop.settle j (.ok v) }) γ s γ := by
  obtain ⟨u, waits⟩ := waits
  have does := Loop.does_settle (l := s.loop) j (.ok v)
  have inv : Inv (some t) γ { s with loop := s.loop.settle j (.ok v) } := h.inv.onward rfl (fun _ _ h => h)
    (h.inv.tickets.settle (fun u use _ => γ.proper_ok u use v) fun u' _ mine => by cases waits.symm.trans mine) does.grows
    (Loop.tasks_settle ..)
  have requests (k : Nat) (e : (s.loop.settle j (.ok v)).outcome? k = some (.error .cancelled)) :
      s.loop.outcome? k = some (.error .cancelled) := by
    rcases Loop.outcome?_settle_cases e with old | ⟨-, e⟩
    · exact old
    · cases e
  refine (acts (.refl t γ) does ?_ (fun k _ _ _ => requests k) (fun q hq unsettled r e => ?_) (.of_ledger rfl)
    (fun _ _ e => e) (bill_same rfl rfl)).step (h.onward inv does.grows does.now rfl rfl) rfl rfl
    fun k _ => requests k
  · rintro k rfl
    exact ⟨inv.tickets.not_apart waits, fun u mine => by cases waits.symm.trans mine⟩
  · rcases Loop.outcome?_settle_cases e with old | ⟨same, -⟩
    · cases unsettled.symm.trans old
    · cases ((h.inv.asked.owned q hq).symm.trans (same ▸ waits))

/-- No task ends in a ticket that has an owner. -/
theorem Tickets.taskEndingIn? (h : Tickets γ s) {k : Nat} {v : Nat × Use} (mine : γ.owner k = some v) :
    s.loop.taskEndingIn? k = none := by
  rcases e : s.loop.taskEndingIn? k with _ | u
  · rfl
  · cases (h.endings u k (Loop.ending?_of_taskEndingIn? e)).symm.trans mine

/-- A task gives up its request when the time is up. -/
theorem Fit.renounce (h : Fit t κ γ s) {q : Inquiry} (asking : (γ.duty t).asking = some q)
    (due : q.due ≤ s.loop.now) :
    Acts t (fun s => { s with loop := s.loop.cancelTicket q.ticket }) (γ, s) γ ∧
      Fit t κ γ { s with loop := s.loop.settle q.ticket (.error .cancelled) } ∧
      s.loop.cancelTicket q.ticket = s.loop.settle q.ticket (.error .cancelled) := by
  obtain ⟨known, task, -⟩ := h.inv.asked.asking t q asking
  have mine := h.inv.asked.owned q known
  have step : s.loop.cancelTicket q.ticket = s.loop.settle q.ticket (.error .cancelled) := by
    simp only [Loop.cancelTicket, h.inv.tickets.taskEndingIn? mine]
  have does := Loop.does_settle (l := s.loop) q.ticket (.error .cancelled)
  have inv : Inv (some t) γ { s with loop := s.loop.settle q.ticket (.error .cancelled) } := h.inv.onward rfl (fun _ _ h => h)
    (h.inv.tickets.settle (fun u use e => by
      cases mine.symm.trans e
      exact ⟨fun e => (by cases e), fun e => e.elim⟩) fun u v e => by cases mine.symm.trans e) does.grows
    (Loop.tasks_settle ..)
  refine ⟨acts (.refl t γ) (P := fun k => k = q.ticket) (by simp only [step]; exact does) ?_ (fun k u ne mine' e => ?_)
    (fun q' hq' unsettled r e => ?_) (.of_ledger rfl) (fun _ _ e => e) (bill_same rfl rfl),
    h.onward inv does.grows does.now rfl rfl, step⟩
  · rintro k rfl
    simp only [step]
    exact ⟨inv.tickets.not_apart mine, fun u mine' => by cases mine.symm.trans mine'⟩
  · simp only [step] at e
    rcases Loop.outcome?_settle_cases e with old | ⟨rfl, -⟩
    · exact old
    · cases mine.symm.trans mine'
      exact absurd task ne
  · simp only [step] at e
    rcases Loop.outcome?_settle_cases e with old | ⟨same, rfl⟩
    · cases unsettled.symm.trans old
    · obtain rfl := List.inj_on_of_nodup_map h.inv.asked.tickets hq' known same
      exact .inr ⟨h.inv.asked.unheard t q' asking unsettled, .inl ⟨rfl, task.symm, due⟩⟩

/-! ## Tasks -/

theorem Tickets.start (h : Tickets γ s) (κ' : TaskKind) : Tickets γ { s with loop := (s.loop.start κ').2 } := by
  have does := Loop.does_start (l := s.loop) (P := fun _ => False) κ'
  exact
    { sane := does.sane h.sane
      issued := fun k v e => Nat.lt_of_lt_of_le (h.issued k v e) does.grows.issued
      endings := fun u k e => by
        rcases Loop.ending?_start_cases e with old | ⟨-, rfl⟩
        · exact h.endings u k old
        · exact h.fresh
      unfed := fun k u use e other => ((does.kept k id).unfed (h.unfed k u use e other)).1
      fed := fun k e => by
        by_cases fed : s.loop.Fed k
        · exact Nat.lt_of_lt_of_le (h.fed k fed) does.grows.issued
        · exact absurd e ((does.kept k id).unfed fed).1
      proper := fun k u use r e outcome => h.proper k u use r e ((does.outcomes k id).symm.trans outcome)
      awaited := h.awaited.loop rfl does.grows fun k _ _ v e => (does.outcomes k id).symm.trans e }

theorem Tasks.start (h : Tasks o γ L l) {κ' : TaskKind} (sessional : κ'.Sessional) : Tasks o γ L (l.start κ').2 := by
  have grows := l.grows_start κ'
  have waiting (u : Nat) : (l.start κ').2.waitingFor? u = l.waitingFor? u :=
    (Loop.does_start (l := l) (P := fun _ => False) κ').waiting u
  exact
    { kinds := fun u κ'' e => (Loop.kind?_start_cases e).elim (h.kinds u κ'') fun new => new.2 ▸ sessional
      doomed := fun u e => by
        obtain ⟨κ'', kind, background⟩ := h.doomed u e
        exact ⟨κ'', grows.kinds u κ'' kind, background⟩
      interrupted := fun u e => h.interrupted u ((Loop.isInterrupted_start κ' u).symm.trans e)
      woken := fun u k e e' =>
        grows.settled (h.woken u k ((Loop.isInterrupted_start κ' u).symm.trans e) ((waiting u).symm.trans e'))
      waiting := fun u κ'' k e b e' => by
        rcases Loop.kind?_start_cases e with old | ⟨rfl, -⟩
        · exact h.waiting u κ'' k old b ((waiting u).symm.trans e')
        · rw [waiting, Loop.waitingFor?, List.getElem?_eq_none (Nat.le_refl _)] at e'
          cases e'
      calledOff := fun u ne e =>
        (h.calledOff u ne e).moved grows (fun e => by rw [Loop.isInterrupted_start]; exact e) (waiting u)
      running := fun u e => (waiting u).trans (h.running u e)
      drains := fun i T e found drain => by
        obtain ⟨u, j, ending, kind⟩ := h.drains i T e found drain
        exact ⟨u, j, grows.endings u e ending, grows.kinds u _ kind⟩
      readers := fun i x e found reader => by
        obtain ⟨u, ending, kind⟩ := h.readers i x e found reader
        exact ⟨u, grows.endings u e ending, grows.kinds u _ kind⟩ }

theorem Inv.start (h : Inv o γ s) {κ' : TaskKind} (sessional : κ'.Sessional) :
    Inv o γ { s with loop := (s.loop.start κ').2 } :=
  { h with
    tickets := h.tickets.start κ'
    tasks := h.tasks.start sessional
    locked := fun p => (h.locked p).loop (s.loop.grows_start κ')
    asked := h.asked.loop (s.loop.grows_start κ')
    tables := h.tables.loop (s.loop.grows_start κ') }

/-- A task starts another one. -/
theorem Fit.start (h : Fit t κ γ s) {κ' : TaskKind} (sessional : κ'.Sessional) :
    Step t κ (fun s => { s with loop := (s.loop.start κ').2 }) γ s γ := by
  have does := Loop.does_start (l := s.loop) (P := fun _ => False) κ'
  refine (acts (.refl t γ) does (fun _ e => e.elim) (fun k _ _ _ e => (does.outcomes k id).symm.trans e)
    (fun q _ unsettled r e => ?_) (.of_ledger rfl) (fun _ _ e => e) (bill_same rfl rfl)).step
    (h.onward (h.inv.start sessional) does.grows does.now rfl rfl) rfl rfl
    fun k _ e => (does.outcomes k id).symm.trans e
  cases unsettled.symm.trans ((does.outcomes _ id).symm.trans e)

/-! ## Cancelling -/

theorem Tickets.doom (h : Tickets γ s) (u : Nat) : Tickets (γ.doom u) s :=
  { h with
    proper := fun k v use r e outcome =>
      have old := h.proper k v use r e outcome
      ⟨old.relay, fun wait f fails => (old.wait wait f fails).imp_right .inr⟩
    awaited := { h.awaited with } }

theorem Tasks.doom (h : Tasks o γ L l) (kind : l.kind? u = some κ) (background : κ.IsBackground)
    (off : CalledOff u l) : Tasks o (γ.doom u) L l :=
  { h with
    doomed := fun v e => by
      rcases e with rfl | e
      · exact ⟨κ, kind, background⟩
      · exact h.doomed v e
    interrupted := fun v e => .inr (h.interrupted v e)
    calledOff := fun v ne e => by
      rcases e with rfl | e
      · exact off
      · exact h.calledOff v ne e }

theorem Tasks.interrupt (h : Tasks o γ L l) (kind : l.kind? u = some κ) (background : κ.IsBackground)
    (idle : ∀ k, l.waitingFor? u = some k → l.isSettled k = true) :
    Tasks o (γ.doom u) L (l.interrupt u) where
  kinds v κ' e := h.kinds v κ' ((Loop.kind?_interrupt u v).symm.trans e)
  doomed v e := by
    rw [Loop.kind?_interrupt]
    rcases e with rfl | e
    · exact ⟨κ, kind, background⟩
    · exact h.doomed v e
  interrupted v e := (Loop.isInterrupted_interrupt e).imp_right (h.interrupted v)
  woken v k e e' := by
    rw [Loop.waitingFor?_interrupt] at e'
    rcases Loop.isInterrupted_interrupt e with rfl | e
    · exact idle k e'
    · exact h.woken v k e e'
  waiting v κ' k e b e' := h.waiting v κ' k ((Loop.kind?_interrupt u v).symm.trans e) b
    ((Loop.waitingFor?_interrupt u v).symm.trans e')
  calledOff v ne e := by
    rcases e with rfl | e
    · exact .inr (.inl (Loop.isInterrupted_interrupt_self kind))
    · exact (h.calledOff v ne e).moved (Loop.does_interrupt (P := fun _ => False) u).grows
        Loop.isInterrupted_interrupt_mono (Loop.waitingFor?_interrupt u v)
  running v e := (Loop.waitingFor?_interrupt u v).trans (h.running v e)
  drains i T e found drain := by
    obtain ⟨v, j, ending, kind'⟩ := h.drains i T e found drain
    exact ⟨v, j, (Loop.ending?_interrupt u v).trans ending, (Loop.kind?_interrupt u v).trans kind'⟩
  readers i x e found reader := by
    obtain ⟨v, ending, kind'⟩ := h.readers i x e found reader
    exact ⟨v, (Loop.ending?_interrupt u v).trans ending, (Loop.kind?_interrupt u v).trans kind'⟩

/-- What is left to see to when a task is cancelled: its tickets and those that say how the tasks stand. -/
theorem Inv.doom (h : Inv o γ s) (u : Nat) {l : Loop} (tickets : Tickets (γ.doom u) { s with loop := l })
    (tasks : Tasks o (γ.doom u) s.ledger l) (grows : s.loop.Grows l) : Inv o (γ.doom u) { s with loop := l } where
  tickets := tickets
  tasks := tasks
  locked p := { (h.locked p).loop grows with }
  queuers := h.queuers
  asked := { h.asked.loop grows with }
  tables := { h.tables.loop grows with }
  servers := h.servers
  homes := h.homes
  idle := h.idle
  getters := h.getters
  plain := h.plain

/-- A background task is cancelled: it has ended, or its end is under way. -/
theorem Fit.cancel (h : Fit t κ γ s) {e : Nat} {κ' : TaskKind} (ending : s.loop.ending? u = some e)
    (kind : s.loop.kind? u = some κ') (background : κ'.IsBackground) :
    Step t κ (fun s => { s with loop := s.loop.cancelTicket e }) γ s (γ.doom u) ∧
      ∀ k v, γ.owner k = some (v, .relay) → s.loop.Kept k (s.loop.cancelTicket e) := by
  have step : s.loop.cancelTicket e = s.loop.cancel u := by
    obtain ⟨v, hv⟩ := Loop.exists_taskEndingIn? ending
    obtain rfl := h.inv.tickets.sane.distinct v u e (Loop.ending?_of_taskEndingIn? hv) ending
    simp only [Loop.cancelTicket, hv]
  have waits : ∀ k, s.loop.waitingFor? u = some k → s.loop.taskEndingIn? k = none := fun k e =>
    h.inv.tickets.taskEndingIn? (h.inv.tasks.waiting u κ' k kind background e)
  have other (k v : Nat) (use : Use) (inward : ¬ use.Outward) (waits : γ.owner k = some (u, κ'.use))
      (mine : γ.owner k = some (v, use)) : False := by
    cases mine.symm.trans waits
    exact inward (outward_use κ')
  -- Whatever the loop does then, it tampers with nothing but what the task itself waits for.
  have go {P : Nat → Prop} {l : Loop} (same : s.loop.cancelTicket e = l) (does : s.loop.Does P l)
      (only : ∀ k, P k → γ.owner k = some (u, κ'.use))
      (inv : Inv (some t) (γ.doom u) { s with loop := l }) :
      Step t κ (fun s => { s with loop := s.loop.cancelTicket e }) γ s (γ.doom u) ∧
        ∀ k v, γ.owner k = some (v, .relay) → s.loop.Kept k (s.loop.cancelTicket e) := by
    have kept (k v : Nat) (mine : γ.owner k = some (v, .relay)) : s.loop.Kept k l :=
      does.kept k fun tampered => other k v .relay id (only k tampered) mine
    have requests (k v : Nat) (mine : γ.owner k = some (v, .request))
        (outcome : (s.loop.cancelTicket e).outcome? k = some (.error .cancelled)) :
        s.loop.outcome? k = some (.error .cancelled) := by
      rw [← same] at does
      exact (does.outcomes k fun tampered => other k v .request id (only k tampered) mine).symm.trans outcome
    refine ⟨(acts (.doom u) (by rw [same]; exact does) (fun k tampered => ?_) (fun k v _ => requests k v)
      (fun q hq unsettled r e => ?_) (.of_ledger rfl) (fun _ _ e => e) (bill_same rfl rfl)).step ?_ rfl rfl
      fun k => requests k t, by rw [same]; exact kept⟩
    · simp only [same]
      exact ⟨inv.tickets.not_apart (only k tampered), fun v mine => (other k v .relay id (only k tampered) mine).elim⟩
    · have mine := h.inv.asked.owned q hq
      rw [← same] at does
      cases unsettled.symm.trans ((does.outcomes _ fun tampered => other _ _ .request id (only _ tampered) mine).symm.trans e)
    · rw [same]
      exact h.onward inv does.grows does.now rfl rfl
  rcases Loop.cancel_cases waits with ⟨still, ended⟩ | ⟨T, found, idle, marked⟩ | ⟨k, waiting, unsettled, settled⟩
  · refine go (P := fun _ => False) (step.trans still) (.refl _) (fun _ e => e.elim) ?_
    exact h.inv.doom u (h.inv.tickets.doom u)
      (h.inv.tasks.doom kind background (.inl ⟨e, ending, ended e ending⟩)) (.refl _)
  · have does := Loop.does_interrupt (l := s.loop) (P := fun _ => False) u
    rw [Loop.interrupt_eq found] at marked
    refine go (step.trans marked) does (fun _ e => e.elim) (h.inv.doom u ?_ (h.inv.tasks.interrupt kind background ?_) does.grows)
    · have old := h.inv.tickets.doom u
      exact
        { sane := does.sane old.sane
          issued := old.issued
          endings := fun v k e => old.endings v k ((Loop.ending?_interrupt u v).symm.trans e)
          unfed := fun k v use e other => ((does.kept k id).unfed (old.unfed k v use e other)).1
          fed := fun k fed => by
            by_cases before : s.loop.Fed k
            · exact old.fed k before
            · exact absurd fed ((does.kept k id).unfed before).1
          proper := old.proper
          awaited := old.awaited.loop rfl does.grows fun k _ _ v e => (does.outcomes k id).symm.trans e }
    · intro k e
      refine idle k ?_
      simpa only [Loop.waitingFor?, found, Option.bind_some] using e
  · have does := Loop.does_settle (l := s.loop) k (.error .cancelled)
    have mine := h.inv.tasks.waiting u κ' k kind background waiting
    refine go (step.trans settled) does (fun j e => e ▸ mine) (h.inv.doom u ((h.inv.tickets.doom u).settle ?_ ?_) ?_ does.grows)
    · intro v use e
      cases mine.symm.trans e
      refine ⟨fun e => ?_, fun _ f e => (by cases e; exact ⟨rfl, .inl rfl⟩)⟩
      exact (other k u .relay id mine (mine.trans (by rw [e]))).elim
    · intro _ _ _ e
      cases e
    · refine (h.inv.tasks.loop does.grows (Loop.tasks_settle ..)).doom ?_ background (.inr (.inr ⟨k, ?_, ?_⟩))
      · exact does.grows.kinds u κ' kind
      · exact (does.waiting u).trans waiting
      · obtain ⟨r, outcome, fresh⟩ :=
          Loop.isSome_outcome?_settle (l := s.loop) (.error .cancelled) (h.inv.tickets.issued k _ mine)
        rw [outcome, fresh unsettled]

end Clock

end LspHost
