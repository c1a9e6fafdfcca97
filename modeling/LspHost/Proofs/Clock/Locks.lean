import LspHost.Proofs.Clock.Stopping
import LspHost.Proofs.Locking

/-!
# Locks in time

Who holds the lock of a pipe or of the documents lets go of it in no time, so to take one takes no time either
(`wp_acquire`). Who takes the lock of lifecycle operations may have waited for it, and is given its time then
(`wp_enter`). Whoever leaves a lock that is free sees to it that the next one that waits is woken.
-/

namespace LspHost

/-- A lock without somebody who waits for it. -/
def Lock.without (M : Lock) (k : Nat) : Lock := ⟨M.held, M.waiters.erase k⟩

namespace Place

variable {p : Place} {s : World} {M : Lock}

theorem put_put (N : Lock) : p.put N (p.put M s) = p.put N s := by
  cases p with
  | lifecycle => rfl
  | documents => rfl
  | writing i =>
    simp only [put, toLockPlace, Transport.writePlace, World.setTransport, List.modify_modify_eq]
    rfl

theorem exists_put {q : Place} (there : q.Exists s) : q.Exists (p.put M s) := by
  cases q with
  | lifecycle => trivial
  | documents => trivial
  | writing i =>
    show i < (p.put M s).transports.length
    rw [length_transports_put]
    exact there

/-- Which processes are held, and by whom their error outputs are emptied. -/
theorem holds_put (i : Nat) :
    ((p.put M s).transports[i]?).map Transport.hold = (s.transports[i]?).map Transport.hold := by
  have same := congrArg Overview.holds (overview_put M (p := p) (s := s))
  simpa only [World.overview, List.getElem?_map] using congrArg (fun hs : List Hold => hs[i]?) same

theorem isConnected_put (i : Nat) : (p.put M s).isConnected i = s.isConnected i := by
  have held : (p.put M s).serverOf? i = s.serverOf? i := by
    rw [← World.overview_serverOf?, overview_put, World.overview_serverOf?]
  simp only [World.isConnected, World.isAlive, held, servers_put]

theorem attempts_put : (p.put M s).attempts = s.attempts := by cases p <;> rfl

theorem config_put : (p.put M s).supervisor.config = s.supervisor.config := by cases p <;> rfl

/-- The first that waits for a lock is woken. -/
def wake (p : Place) (s : World) : World :=
  match (p.lock s).waiters with
  | [] => s
  | k :: _ => { s with loop := s.loop.settle k (.ok .null) }

theorem lasts_put : s.Lasts (p.put M s) :=
  ⟨Nat.le_of_eq (length_transports_put M).symm, fun i o e => by rw [sessions_put]; exact e, config_put⟩

end Place

/-- Two ledgers differ in their locks only. -/
structure Ledger.Alike (L L' : Ledger) : Prop where
  sessions : L'.sessions = L.sessions
  session : L'.supervisor.session = L.supervisor.session
  config : L'.supervisor.config = L.supervisor.config
  plain : L.supervisor.Plain → L'.supervisor.Plain
  attempts : L'.attempts = L.attempts
  getters : L'.getters = L.getters
  requests : L'.requests = L.requests
  answers : L'.answers = L.answers
  length : L'.transports.length = L.transports.length
  holds : ∀ i : Nat, (L'.transports[i]?).map Transport.hold = (L.transports[i]?).map Transport.hold

theorem Place.alike_put {p : Place} {s : World} {M : Lock} : s.ledger.Alike (p.put M s).ledger where
  sessions := by cases p <;> rfl
  session := by cases p <;> rfl
  config := by cases p <;> rfl
  plain h := by cases p <;> exact ⟨h.reused, h.legible⟩
  attempts := Place.attempts_put
  getters := by cases p <;> rfl
  requests := by cases p <;> rfl
  answers := by cases p <;> rfl
  length := Place.length_transports_put M
  holds := Place.holds_put

namespace Clock

open Discipline

variable {t u k : Nat} {o : Option Nat} {κ : TaskKind} {γ γ' : Roster} {s s' : World} {L L' : Ledger} {l : Loop} {p : Place}
  {M : Lock} {d : Duty} {a b : Roster × World} {α β : Type}

/-! ## What does not depend on locks -/

theorem Ledger.Alike.held (h : L.Alike L') {i : Nat} {T' : Transport} (found : L'.transports[i]? = some T') :
    ∃ T, L.transports[i]? = some T ∧ T.server = T'.server ∧ T.drain = T'.drain := by
  have holds := h.holds i
  rw [found] at holds
  obtain ⟨T, found', same⟩ := Option.map_eq_some_iff.mp holds.symm
  exact ⟨T, found', congrArg Hold.server same, congrArg Hold.drain same⟩

theorem Tasks.alike (h : Tasks o γ L l) (alike : L.Alike L') : Tasks o γ L' l :=
  { h with
    drains := fun i T' e found drain => by
      obtain ⟨T, found', -, same⟩ := Ledger.Alike.held alike found
      exact h.drains i T e found' (same.trans drain)
    readers := fun i x e found reader => h.readers i x e (alike.sessions ▸ found) reader }

theorem Asked.alike (h : Asked γ L l) (alike : L.Alike L') : Asked γ L' l :=
  { h with
    numbers := by rw [alike.sessions]; exact h.numbers
    sessions := by rw [alike.sessions]; exact h.sessions
    patience := by rw [alike.sessions, alike.config]; exact h.patience
    unheard := by rw [alike.answers]; exact h.unheard
    requests := by rw [alike.requests]; exact h.requests }

theorem Tables.alike (h : Tables γ L l) (alike : L.Alike L') : Tables γ L' l where
  paired := by rw [alike.sessions, alike.length]; exact h.paired
  entries := by rw [alike.sessions]; exact h.entries
  listed := by rw [alike.sessions]; exact h.listed
  closed := by rw [alike.sessions]; exact h.closed
  bare i T' found free := by
    obtain ⟨T, found', same, -⟩ := Ledger.Alike.held alike found
    rw [← same]
    exact h.bare i T found' free
  fresh := by rw [alike.sessions]; exact h.fresh
  openers := by rw [alike.sessions]; exact h.openers
  bound := by rw [alike.sessions]; exact h.bound
  held := by rw [alike.session]; exact h.held

/-! ## What a task has in hand -/

/-- Two duties are about the same request and the same session. -/
structure Duty.Alike (d d' : Duty) : Prop where
  asking : d'.asking = d.asking
  opening : d'.opening = d.opening

theorem Duty.Alike.refl (d : Duty) : d.Alike d := ⟨rfl, rfl⟩

theorem Duty.Alike.charge (h : (γ.duty t).Alike d) (u : Nat) : (γ.duty u).Alike ((γ.charge t d).duty u) := by
  by_cases e : u = t
  · subst e
    rw [Roster.charge_self]
    exact h
  · rw [Roster.charge_ne _ _ e]
    exact .refl _

theorem Tasks.charge (h : Tasks o γ L l) : Tasks o (γ.charge t d) L l := { h with }

theorem Tickets.charge (h : Tickets γ s) : Tickets (γ.charge t d) s :=
  { h with
    proper := fun k u use r e e' => ⟨(h.proper k u use r e e').relay, (h.proper k u use r e e').wait⟩
    awaited := { h.awaited with } }

theorem Asked.charge (h : Asked γ L l) (asking : d.asking = (γ.duty t).asking) (unsent : d.unsent = (γ.duty t).unsent) :
    Asked (γ.charge t d) L l := by
  have same (u : Nat) : ((γ.charge t d).duty u).asking = (γ.duty u).asking := by
    by_cases e : u = t
    · subst e
      rw [Roster.charge_self, asking]
    · rw [Roster.charge_ne _ _ e]
  exact
    { h with
      asking := fun u q e => h.asking u q ((same u).symm.trans e)
      finished := fun q hq => by rw [same q.task]; exact h.finished q hq
      unheard := fun u q e => h.unheard u q ((same u).symm.trans e)
      unsent := fun u q e e' => by
        refine h.unsent u q ((same u).symm.trans e) ?_
        by_cases here : u = t
        · subst here
          rw [Roster.charge_self, unsent] at e'
          exact e'
        · rwa [Roster.charge_ne _ _ here] at e' }

theorem Tables.charge (h : Tables γ L l) (alike : (γ.duty t).Alike d) : Tables (γ.charge t d) L l :=
  { h with
    entries := fun i x n k found mem => by
      obtain ⟨u, q, asking, rest⟩ := h.entries i x n k found mem
      exact ⟨u, q, (alike.charge u).asking.trans asking, rest⟩
    listed := fun u q x e => h.listed u q x ((alike.charge u).asking.symm.trans e)
    closed := fun i x n k found shut mem => by
      obtain ⟨u, q, asking, rest⟩ := h.closed i x n k found shut mem
      exact ⟨u, q, (alike.charge u).asking.trans asking, rest⟩
    fresh := fun i x found new => by
      refine ⟨(h.fresh i x found new).1, fun u => ?_⟩
      rw [(alike.charge u).opening]
      exact (h.fresh i x found new).2 u
    openers := fun u i e => by
      obtain ⟨unused, bound, sole⟩ := h.openers u i ((alike.charge u).opening.symm.trans e)
      exact ⟨unused, bound, fun v e' => sole v ((alike.charge v).opening.symm.trans e')⟩ }

/-- A lock that is not concerned. -/
theorem Locked.charge {q : Place} (h : Locked q γ L l) (queued : ∀ k, d.queued = some (q, k) ↔ (γ.duty t).queued = some (q, k))
    (holds : q ∈ (γ.duty t).holds → q ∈ d.holds) : Locked q (γ.charge t d) L l where
  nodup := h.nodup
  queue k := by
    rw [h.queue k]
    refine exists_congr fun u => ?_
    by_cases e : u = t
    · subst e
      rw [Roster.charge_self, queued]
    · rw [Roster.charge_ne _ _ e]
  holder held := by
    obtain ⟨u, mine⟩ := h.holder held
    refine ⟨u, ?_⟩
    by_cases e : u = t
    · subst e
      rw [Roster.charge_self]
      exact holds mine
    · rw [Roster.charge_ne _ _ e]
      exact mine
  handed := h.handed

theorem Locked.of_lock {q : Place} (h : Locked q γ L l) (same : L'.lock q = L.lock q) : Locked q γ L' l where
  nodup := by rw [same]; exact h.nodup
  queue := by rw [same]; exact h.queue
  holder := by rw [same]; exact h.holder
  handed := by rw [same]; exact h.handed

/-! ## A lock changes -/

theorem lock_put (there : p.Exists s) : (p.put M s).ledger.lock p = M := by
  rw [World.ledger_lock, Place.lock_put _ there]

/-- One lock changes, with what a task has in hand. -/
theorem Inv.relock (h : Inv o γ s) (alike : (γ.duty t).Alike d) (unsent : d.unsent = (γ.duty t).unsent)
    (queued : ∀ q k, q ≠ p → (d.queued = some (q, k) ↔ (γ.duty t).queued = some (q, k)))
    (holds : ∀ q, q ≠ p → q ∈ (γ.duty t).holds → q ∈ d.holds)
    (queuer : ∀ k, d.queued = some (p, k) → γ.owner k = some (t, .wait))
    (locked : Locked p (γ.charge t d) (p.put M s).ledger s.loop) : Inv o (γ.charge t d) (p.put M s) where
  tickets := by
    have tickets := h.tickets.charge (t := t) (d := d)
    have loop : (p.put M s).loop = s.loop := Place.loop_put M
    exact
      { sane := by rw [loop]; exact tickets.sane
        issued := by rw [loop]; exact tickets.issued
        endings := by rw [loop]; exact tickets.endings
        unfed := by rw [loop]; exact tickets.unfed
        fed := by rw [loop]; exact tickets.fed
        proper := by rw [loop]; exact tickets.proper
        awaited := tickets.awaited.loop (Place.servers_put ..) (by rw [loop]; exact .refl _) fun k _ _ v e => by rwa [loop] at e }
  tasks := by rw [Place.loop_put]; exact (h.tasks.alike Place.alike_put).charge
  locked q := by
    rw [Place.loop_put]
    by_cases e : q = p
    · rw [e]; exact locked
    · refine ((h.locked q).charge (fun k => queued q k e) (holds q e)).of_lock ?_
      rw [World.ledger_lock, World.ledger_lock, Place.lock_put_ne _ e]
  queuers u q k e := by
    by_cases same : u = t
    · subst same
      rw [Roster.charge_self] at e
      by_cases here : q = p
      · exact queuer k (here ▸ e)
      · exact h.queuers u q k ((queued q k here).mp e)
    · rw [Roster.charge_ne _ _ same] at e
      exact h.queuers u q k e
  asked := by rw [Place.loop_put]; exact (h.asked.alike Place.alike_put).charge alike.asking unsent
  tables := by rw [Place.loop_put]; exact (h.tables.alike Place.alike_put).charge alike
  servers i T' j found held := by
    obtain ⟨T, found', same, -⟩ := Ledger.Alike.held Place.alike_put found
    simp only [World.pidAt?, Place.servers_put]
    exact h.servers i T j found' (same.trans held)
  homes := by
    rw [(Place.alike_put (p := p) (s := s) (M := M)).attempts]
    exact h.homes
  idle := by
    rw [(Place.alike_put (p := p) (s := s) (M := M)).sessions]
    exact h.idle
  getters := (Place.alike_put (p := p) (s := s) (M := M)).getters.trans h.getters
  plain := (Place.alike_put (p := p) (s := s) (M := M)).plain h.plain

/-- What a task may do to a lock. -/
theorem acts_put {f : Lock → Lock}
    (bill : d.quota = World.bill t s (p.put (f (p.lock s)) s) (γ.duty t).quota)
    (closing : d.closing = (γ.duty t).closing) :
    Acts t (fun s => p.put (f (p.lock s)) s) (γ, s) (γ.charge t d) := by
  have loop : (p.put (f (p.lock s)) s).loop = s.loop := Place.loop_put _
  refine acts (P := fun _ => False) (.charge (.of_eq closing)) (by rw [loop]; exact .refl _) (fun _ e => e.elim)
    (fun k _ _ _ e => by rwa [loop] at e) (fun q _ unsettled r e => ?_) Place.lasts_put
    (fun i _ e => by rwa [Place.isConnected_put] at e) (by rw [Roster.charge_self]; exact bill)
  rw [loop] at e
  cases unsettled.symm.trans e

theorem bill_put {quota : Grant} (same : p = .lifecycle → M.held = true → (p.lock s).held = true) :
    quota = World.bill t s (p.put M s) quota := by
  have not : ¬ (s.supervisor.lifecycleLock.held = false ∧ (p.put M s).supervisor.lifecycleLock.held = true) := by
    rintro ⟨free, taken⟩
    by_cases e : p = .lifecycle
    · subst e
      cases free.symm.trans (same rfl taken)
    · cases free.symm.trans ((congrArg Lock.held (Place.lock_put_ne M (Ne.symm e))).symm.trans taken)
  simp only [World.bill, World.advance, if_neg not, if_pos (Or.inl Place.attempts_put)]

/-- By when who takes a lock must be done. -/
noncomputable def toll (κ : TaskKind) (p : Place) (s : World) (quota : Grant) : Grant :=
  open Classical in
  if p = .lifecycle ∧ (p.lock s).held = false then
    κ.award s.supervisor.config s.loop.now quota else quota

theorem bill_take {quota : Grant} (kind : s.loop.kind? t = some κ) (there : p.Exists s) (taken : M.held = true) :
    toll κ p s quota = World.bill t s (p.put M s) quota := by
  unfold toll
  split
  · next free =>
    obtain ⟨rfl, free⟩ := free
    have taken' : (Place.put .lifecycle M s).supervisor.lifecycleLock.held = true := taken
    simp only [World.bill, World.advance, kind, Option.elim_some, if_pos (Or.inl Place.attempts_put)]
    rw [if_pos ⟨free, taken'⟩]
  · next busy =>
    refine bill_put fun e _ => ?_
    rcases held : (p.lock s).held with _ | _
    · exact absurd ⟨e, held⟩ busy
    · rfl

/-! ## To wake the next one -/

theorem acts_wake (owned : ∀ q ∈ γ.asks, γ.owner q.ticket = some (q.task, .request))
    (whole : ∀ k v, γ.owner k = some v → ¬ s.loop.Apart k)
    (waits : ∀ k ∈ (p.lock s).waiters, ∃ u, γ.owner k = some (u, .wait)) : Acts t p.wake (γ, s) γ := by
  rcases waiters : (p.lock s).waiters with _ | ⟨k, rest⟩
  · have same : p.wake s = s := by simp only [Place.wake, waiters]
    refine acts (P := fun _ => False) (.refl t γ) (by rw [same]; exact .refl _) (fun _ e => e.elim)
      (fun _ _ _ _ e => by rwa [same] at e) (fun q _ unsettled r e => ?_) (by rw [same]; exact .refl _)
      (fun _ _ e => by rwa [same] at e) (by rw [same]; exact bill_same rfl rfl)
    rw [same] at e
    cases unsettled.symm.trans e
  · have step : p.wake s = { s with loop := s.loop.settle k (.ok .null) } := by simp only [Place.wake, waiters]
    obtain ⟨u, mine⟩ := waits k (waiters ▸ List.mem_cons_self)
    refine acts (P := fun j => j = k) (.refl t γ) (by rw [step]; exact Loop.does_settle k _) ?_
      (fun j _ _ _ e => ?_) (fun q hq unsettled r e => ?_) (by rw [step]; exact .of_ledger rfl)
      (fun _ _ e => by rwa [step] at e) (by rw [step]; exact bill_same rfl rfl)
    · rintro j rfl
      rw [step]
      exact ⟨(Loop.apart_settle ..).not.mpr (whole j _ mine), fun v e => by cases mine.symm.trans e⟩
    · rw [step] at e
      rcases Loop.outcome?_settle_cases e with old | ⟨-, e⟩
      · exact old
      · cases e
    · rw [step] at e
      rcases Loop.outcome?_settle_cases e with old | ⟨same, -⟩
      · cases unsettled.symm.trans old
      · cases (owned q hq).symm.trans (same ▸ mine)

/-- A free lock is handed on: the next one that waits is woken. -/
theorem Fit.handOn (h : Fit t κ γ s) (there : p.Exists s) (alike : (γ.duty t).Alike d)
    (unsent : d.unsent = (γ.duty t).unsent) (quota : d.quota = (γ.duty t).quota)
    (queued : ∀ q k, q ≠ p → (d.queued = some (q, k) ↔ (γ.duty t).queued = some (q, k)))
    (holds : ∀ q, q ≠ p → q ∈ (γ.duty t).holds → q ∈ d.holds) (idle : ∀ k, d.queued ≠ some (p, k))
    (free : M.held = false) (nodup : M.waiters.Nodup)
    (queue : ∀ k, k ∈ M.waiters ↔ ∃ u, ((γ.charge t d).duty u).queued = some (p, k)) :
    Acts t p.wake (γ.charge t d, p.put M s) (γ.charge t d) ∧ Fit t κ (γ.charge t d) (p.wake (p.put M s)) := by
  have waits (k : Nat) (hk : k ∈ M.waiters) : ∃ u, γ.owner k = some (u, .wait) := by
    obtain ⟨u, mine⟩ := (queue k).mp hk
    by_cases e : u = t
    · subst e
      rw [Roster.charge_self] at mine
      exact absurd mine (idle k)
    · rw [Roster.charge_ne _ _ e] at mine
      exact ⟨u, h.inv.queuers u p k mine⟩
  refine ⟨acts_wake h.inv.asked.owned (fun k v mine => by rw [Place.loop_put]; exact h.inv.tickets.not_apart mine) fun k hk => waits k (by rwa [Place.lock_put _ there] at hk), ?_⟩
  -- Whether the next one is woken before the lock changes or after it makes no difference.
  have put {s₁ : World} (fit : Fit t κ γ s₁) (there₁ : p.Exists s₁)
      (handed : ∀ k, M.waiters.head? = some k → s₁.loop.isSettled k = true) : Fit t κ (γ.charge t d) (p.put M s₁) := by
    have inv : Inv (some t) (γ.charge t d) (p.put M s₁) := by
      refine fit.inv.relock alike unsent queued holds (fun k e => absurd e (idle k)) ?_
      have lock := lock_put (M := M) there₁
      exact
        { nodup := by rw [lock]; exact nodup
          queue := by rw [lock]; exact queue
          holder := by rw [lock, free]; exact fun e => by cases e
          handed := by rw [lock]; exact fun _ => handed }
    refine ⟨inv, by rw [Place.loop_put]; exact fit.kind, by rw [Place.loop_put]; exact fit.alarm, ?_⟩
    rw [Place.loop_put, Roster.charge_self, Duty.limit, quota, alike.asking]
    exact fit.limit
  rcases waiters : M.waiters with _ | ⟨k, rest⟩
  · have same : p.wake (p.put M s) = p.put M s := by simp only [Place.wake, Place.lock_put _ there, waiters]
    rw [same]
    exact put h there fun k e => by rw [waiters] at e; cases e
  · have step : p.wake (p.put M s) = p.put M { s with loop := s.loop.settle k (.ok .null) } := by
      simp only [Place.wake, Place.lock_put _ there, waiters, Place.put_withLoop, Place.loop_put]
    obtain ⟨u, mine⟩ := waits k (waiters ▸ List.mem_cons_self)
    have woken := h.wake ⟨u, mine⟩ .null
    rw [step]
    refine put woken.still.fit there fun j e => ?_
    rw [waiters] at e
    cases e
    exact Loop.isSettled_settle _ (h.inv.tickets.issued k _ mine)

/-! ## To give a lock back -/

/-- What a task has in hand when it has taken a lock, and when it has given it back. -/
def Duty.hold (d : Duty) (p : Place) (quota : Grant) : Duty := { d with holds := p :: d.holds, quota := quota }

def Duty.drop (d : Duty) (p : Place) : Duty := { d with holds := d.holds.erase p }

/-- No time passes while a task gets something else in hand. -/
theorem Still.shift (onward : Onward (γ, s) (γ', s')) (fit : Fit t κ γ' s')
    (used : γ'.used = γ.used) (now : s'.loop.now = s.loop.now)
    (requests : ∀ k, s'.loop.outcome? k = some (.error .cancelled) → s.loop.outcome? k = some (.error .cancelled)) :
    Still t κ (γ.charge t (γ'.duty t), s) (γ', s') where
  fit := fit
  stays :=
    { onward with
      duty := (Roster.charge_self ..).symm
      requests := fun k _ => requests k
      opener := fun i _ e => (by rw [← used]; exact e : γ.used i) }
  now := now

theorem outcome?_wake {r : Except Fault Json} (h : (p.wake s).loop.outcome? k = some r) :
    s.loop.outcome? k = some r ∨ r = .ok .null := by
  unfold Place.wake at h
  split at h
  · exact .inl h
  · exact (Loop.outcome?_settle_cases h).imp_right And.right

theorem now_wake : (p.wake s).loop.now = s.loop.now := by
  unfold Place.wake
  split
  · rfl
  · exact Loop.now_settle_eq ..

/-- A task gives a lock back. -/
theorem wp_release (h : Fit t κ γ s) (there : p.Exists s) (free : ∀ k, (γ.duty t).queued ≠ some (p, k)) :
    discipline.wp t (Act.release p.toLockPlace) (fun r γ' s' => r = .ok () ∧ γ' = γ.charge t ((γ.duty t).drop p) ∧
      Still t κ (γ', s) (γ', s')) γ s := by
  have lock := h.inv.locked p
  have queue (k : Nat) : k ∈ (p.lock s).waiters ↔
      ∃ u, ((γ.charge t ((γ.duty t).drop p)).duty u).queued = some (p, k) := by
    rw [← World.ledger_lock, lock.queue k]
    refine exists_congr fun u => ?_
    by_cases e : u = t
    · subst e
      rw [Roster.charge_self, Duty.drop]
    · rw [Roster.charge_ne _ _ e]
  obtain ⟨acts', fit⟩ := h.handOn (M := { p.lock s with held := false }) (d := (γ.duty t).drop p) there ⟨rfl, rfl⟩ rfl rfl
    (fun _ _ _ => .rfl) (fun q ne mine => (List.mem_erase_of_ne ne).mpr mine) free rfl
    (by rw [← World.ledger_lock]; exact lock.nodup) queue
  have acts := acts_put (t := t) (γ := γ) (s := s) (p := p) (f := fun l => { l with held := false }) (d := (γ.duty t).drop p)
    (bill_put fun _ e => by cases e) rfl
  refine Wp.change _ acts (Wp.update _ acts' ⟨rfl, rfl, ?_⟩)
  have still := Still.shift (acts.onward.trans acts'.onward) fit rfl (now_wake.trans (by rw [Place.loop_put]))
    fun k e => by
      rcases outcome?_wake e with old | e
      · rwa [Place.loop_put] at old
      · cases e
  rwa [Roster.charge_self] at still

/-! ## To take a lock -/

/-- A task that has these things in hand may wait for a lock. -/
structure Duty.MayTake (d : Duty) (p : Place) : Prop where
  queued : d.queued = none
  closing : d.closing = .none
  pipes : ∀ i, .writing i ∉ d.holds
  documents : .documents ∈ d.holds → ∃ i, p = .writing i

/-- What a task has in hand while it waits for a lock. -/
def Duty.queue (d : Duty) (p : Place) (k : Nat) : Duty := { d with queued := some (p, k) }

/-- Who takes a lock that nobody else takes. -/
theorem Locked.take (nodup : M.waiters.Nodup) (held : M.held = true) (mine : p ∈ d.holds) (there : p.Exists s)
    (queue : ∀ k, k ∈ M.waiters ↔ ∃ u, ((γ.charge t d).duty u).queued = some (p, k)) :
    Locked p (γ.charge t d) (p.put M s).ledger s.loop := by
  have lock := lock_put (M := M) there
  exact
    { nodup := by rw [lock]; exact nodup
      queue := by rw [lock]; exact queue
      holder := fun _ => ⟨t, by rw [Roster.charge_self]; exact mine⟩
      handed := by rw [lock, held]; exact fun e => by cases e }

/-- The limit of who takes a lock. -/
theorem Fit.limit_toll (h : Fit t κ γ s) : (s.loop.now : ℕ∞) ≤ ((γ.duty t).hold p (toll κ p s (γ.duty t).quota)).limit := by
  have limit := h.limit
  simp only [Duty.limit, Duty.hold, le_min_iff] at limit ⊢
  refine ⟨?_, limit.2⟩
  unfold toll
  split
  · exact le_min limit.1 le_self_add
  · exact limit.1

/-- A task takes a lock that is open. -/
theorem wp_take (h : Fit t κ γ s) (there : p.Exists s) (may : (γ.duty t).MayTake p) (opened : (p.lock s).isOpen = true) :
    discipline.wp t (Act.setLock p.toLockPlace fun l => { l with held := true }) (fun r γ' s' => r = .ok () ∧
      γ' = γ.charge t ((γ.duty t).hold p (toll κ p s (γ.duty t).quota)) ∧ Still t κ (γ', s) (γ', s')) γ s := by
  obtain ⟨free, alone⟩ : (p.lock s).held = false ∧ (p.lock s).waiters = [] := by
    simpa only [Lock.isOpen, Bool.and_eq_true, Bool.not_eq_true', List.isEmpty_iff] using opened
  have acts := acts_put (t := t) (γ := γ) (s := s) (p := p) (f := fun l => { l with held := true })
    (d := (γ.duty t).hold p (toll κ p s (γ.duty t).quota)) (bill_take h.kind there rfl) rfl
  have inv : Inv (some t) (γ.charge t ((γ.duty t).hold p (toll κ p s (γ.duty t).quota)))
      (p.put { p.lock s with held := true } s) := by
    refine h.inv.relock ⟨rfl, rfl⟩ rfl (fun _ _ _ => .rfl) (fun q _ mine => List.mem_cons_of_mem _ mine)
      (fun k e => by rw [Duty.hold, may.queued] at e; cases e)
      (.take (by rw [alone]; exact .nil) rfl List.mem_cons_self there fun k => ?_)
    rw [← World.ledger_lock, (h.inv.locked p).queue k]
    refine exists_congr fun u => ?_
    by_cases e : u = t
    · subst e
      rw [Roster.charge_self, Duty.hold]
    · rw [Roster.charge_ne _ _ e]
  refine Wp.update _ acts ⟨rfl, rfl, ?_⟩
  have still := Still.shift (κ := κ) acts.onward
    ⟨inv, by rw [Place.loop_put]; exact h.kind, by rw [Place.loop_put]; exact h.alarm,
      by rw [Place.loop_put, Roster.charge_self]; exact h.limit_toll⟩ rfl (by rw [Place.loop_put])
    fun k e => by rwa [Place.loop_put] at e
  rwa [Roster.charge_self] at still

/-! ## To wait for a lock -/

theorem Roster.charge_duty (γ : Roster) (t : Nat) : γ.charge t (γ.duty t) = γ := by
  have same : (fun u => if u = t then γ.duty t else γ.duty u) = γ.duty := by
    funext u
    split
    · next e => rw [e]
    · rfl
  simp only [Roster.charge, same]

theorem Roster.charge_charge (γ : Roster) (t : Nat) (d d' : Duty) : (γ.charge t d).charge t d' = γ.charge t d' := by
  have same : (fun u => if u = t then d' else if u = t then d else γ.duty u) = fun u => if u = t then d' else γ.duty u := by
    funext u
    split <;> rfl
  simp only [Roster.charge, same]

/-- What a task has in hand changes twice. -/
theorem Stays.next {d' : Duty} (h : Stays t (γ.charge t d, s) (γ', s')) (h' : Stays t (γ'.charge t d', s') b)
    (opening : d'.opening = d.opening) : Stays t (γ.charge t d', s) b where
  toOnward := { h.toOnward.trans { h'.toOnward with } with }
  duty := by
    rw [h'.duty]
    exact (Roster.charge_self ..).trans (Roster.charge_self ..).symm
  requests k mine e := h.requests k mine (h'.requests k (h.owner k _ mine) e)
  opener i e used := by
    have e' : d'.opening = some i := by simpa only [Roster.charge_self] using e
    exact h.opener i (by simpa only [Roster.charge_self, ← opening] using e')
      (h'.opener i (by simpa only [Roster.charge_self] using e') used)

/-- Who waits for a lock once a task has left the queue. -/
theorem Inv.queue_erase (h : Inv o γ s) (queued : (γ.duty t).queued = some (p, k)) (none : d.queued = none) (j : Nat) :
    j ∈ (p.lock s).waiters.erase k ↔ ∃ u, ((γ.charge t d).duty u).queued = some (p, j) := by
  have lock := h.locked p
  have nodup : (p.lock s).waiters.Nodup := by rw [← World.ledger_lock]; exact lock.nodup
  have queue := lock.queue j
  rw [World.ledger_lock] at queue
  rw [nodup.mem_erase_iff, queue]
  constructor
  · rintro ⟨other, u, waits⟩
    refine ⟨u, ?_⟩
    rw [Roster.charge_ne]
    · exact waits
    · rintro rfl
      cases queued.symm.trans waits
      exact other rfl
  · rintro ⟨u, waits⟩
    by_cases e : u = t
    · subst e
      rw [Roster.charge_self, none] at waits
      cases waits
    · rw [Roster.charge_ne _ _ e] at waits
      refine ⟨?_, u, waits⟩
      rintro rfl
      cases (h.queuers u p j waits).symm.trans (h.queuers t p j queued)
      exact e rfl

/-- What a task has in hand that waits no longer. -/
def Duty.leave (d : Duty) : Duty := { d with queued := none }

theorem acts_leave (k : Nat) :
    Acts t (fun s => p.put ((p.lock s).without k) s) (γ, s) (γ.charge t (γ.duty t).leave) :=
  acts_put (γ := γ) (s := s) (d := (γ.duty t).leave) (f := fun l => l.without k)
    (bill_put (p := p) (M := (p.lock s).without k) fun _ e => e) rfl

/-- A task that was woken takes the lock. -/
theorem wp_leave_take (h : Fit t κ γ s) (there : p.Exists s) (queued : (γ.duty t).queued = some (p, k)) :
    discipline.wp t (Act.setLock p.toLockPlace (fun l => { l with waiters := l.waiters.erase k }) >>= fun _ =>
      Act.setLock p.toLockPlace fun l => { l with held := true }) (fun r γ' s' => r = .ok () ∧
      γ' = γ.charge t ((γ.duty t).leave.hold p (toll κ p s (γ.duty t).quota)) ∧ Still t κ (γ', s) (γ', s')) γ s := by
  have first := acts_leave (t := t) (p := p) (γ := γ) (s := s) k
  have lock := Place.lock_put ((p.lock s).without k) there
  have same : toll κ p (p.put ((p.lock s).without k) s) (γ.duty t).quota = toll κ p s (γ.duty t).quota := by
    simp only [toll, lock, Place.loop_put, Place.config_put]
    rfl
  have second := acts_put (t := t) (γ := γ.charge t (γ.duty t).leave) (s := p.put ((p.lock s).without k) s) (p := p)
    (f := fun l => ⟨true, l.waiters⟩) (d := (γ.duty t).leave.hold p (toll κ p s (γ.duty t).quota))
    (by
      rw [← bill_take (κ := κ) (by rw [Place.loop_put]; exact h.kind) (Place.exists_put there) rfl, Roster.charge_self]
      exact same.symm) (by rw [Roster.charge_self]; rfl)
  rw [Roster.charge_charge] at second
  have step : p.put ⟨true, (p.lock (p.put ((p.lock s).without k) s)).waiters⟩ (p.put ((p.lock s).without k) s) =
      p.put ⟨true, (p.lock s).waiters.erase k⟩ s := by
    rw [lock, Place.put_put]
    rfl
  have inv : Inv (some t) (γ.charge t ((γ.duty t).leave.hold p (toll κ p s (γ.duty t).quota)))
      (p.put ⟨true, (p.lock s).waiters.erase k⟩ s) := by
    refine h.inv.relock ⟨rfl, rfl⟩ rfl (fun q j ne => ?_) (fun q _ mine => List.mem_cons_of_mem _ mine)
      (fun j e => by cases e)
      (.take ?_ rfl List.mem_cons_self there fun j => h.inv.queue_erase queued rfl j)
    · rw [queued]
      refine ⟨fun e => (by cases e), fun e => ?_⟩
      cases e
      exact absurd rfl ne
    · exact List.Nodup.erase _ (by rw [← World.ledger_lock]; exact (h.inv.locked p).nodup)
  have onward := first.onward.trans second.onward
  simp only [step] at onward
  refine Wp.change _ first (Wp.update _ second ⟨rfl, rfl, ?_⟩)
  have still := Still.shift (κ := κ) onward
    ⟨inv, by rw [Place.loop_put]; exact h.kind, by rw [Place.loop_put]; exact h.alarm,
      by rw [Place.loop_put, Roster.charge_self]; exact h.limit_toll⟩ rfl (by rw [Place.loop_put])
    fun k e => by rwa [Place.loop_put] at e
  rw [Roster.charge_self, ← step] at still
  exact still

/-- A task that was cancelled leaves, and sees to it that the next one is woken if the lock is free. -/
theorem wp_leave_fail (h : Fit t κ γ s) (there : p.Exists s) (queued : (γ.duty t).queued = some (p, k)) (f : Fault) :
    discipline.wp t (do
      Act.setLock p.toLockPlace fun l => { l with waiters := l.waiters.erase k }
      let lock ← Program.peek p.toLockPlace.get
      if !lock.held then Act.wakeFirst p.toLockPlace
      Act.fail f) (fun (r : Except Fault Unit) γ' s' => r = .error f ∧ γ' = γ.charge t (γ.duty t).leave ∧
        Still t κ (γ', s) (γ', s')) γ s := by
  have first := acts_leave (t := t) (p := p) (γ := γ) (s := s) k
  have lock := Place.lock_put ((p.lock s).without k) there
  have others (q : Place) (j : Nat) (ne : q ≠ p) :
      (γ.duty t).leave.queued = some (q, j) ↔ (γ.duty t).queued = some (q, j) := by
    rw [queued]
    refine ⟨fun e => (by cases e), fun e => ?_⟩
    cases e
    exact absurd rfl ne
  have nodup : ((p.lock s).without k).waiters.Nodup :=
    List.Nodup.erase _ (by rw [← World.ledger_lock]; exact (h.inv.locked p).nodup)
  have queue (j : Nat) := h.inv.queue_erase (d := (γ.duty t).leave) queued rfl j
  have limit : (s.loop.now : ℕ∞) ≤ (γ.duty t).leave.limit := h.limit
  refine Wp.change _ first (Wp.look ?_)
  have view : p.toLockPlace.get (p.put ((p.lock s).without k) s) = (p.lock s).without k := lock
  show discipline.wp t (if !(p.toLockPlace.get (p.put ((p.lock s).without k) s)).held then
    Act.wakeFirst p.toLockPlace >>= fun _ => Act.fail f else Act.fail f) _ _ (p.put ((p.lock s).without k) s)
  rw [view]
  rcases held : (p.lock s).held with _ | _
  · rw [show ((p.lock s).without k).held = false from held]
    obtain ⟨acts', fit⟩ := h.handOn (M := (p.lock s).without k) (d := (γ.duty t).leave) there ⟨rfl, rfl⟩ rfl rfl others
      (fun _ _ mine => mine) (fun j e => by cases e) held nodup queue
    refine Wp.change _ acts' ⟨rfl, rfl, ?_⟩
    have still := Still.shift (first.onward.trans acts'.onward) fit rfl (now_wake.trans (by rw [Place.loop_put]))
      fun k e => by
        rcases outcome?_wake e with old | e
        · rwa [Place.loop_put] at old
        · cases e
    rwa [Roster.charge_self] at still
  · rw [show ((p.lock s).without k).held = true from held]
    have inv : Inv (some t) (γ.charge t (γ.duty t).leave) (p.put ((p.lock s).without k) s) := by
      have now := lock_put (M := (p.lock s).without k) there
      refine h.inv.relock ⟨rfl, rfl⟩ rfl others (fun _ _ mine => mine) (fun j e => by cases e)
        { nodup := by rw [now]; exact nodup
          queue := by rw [now]; exact queue
          holder := fun _ => ?_
          handed := by rw [now, show ((p.lock s).without k).held = true from held]; exact fun e => by cases e }
      obtain ⟨u, mine⟩ := (h.inv.locked p).holder (by rw [World.ledger_lock]; exact held)
      refine ⟨u, ?_⟩
      by_cases e : u = t
      · subst e
        rw [Roster.charge_self]
        exact mine
      · rw [Roster.charge_ne _ _ e]
        exact mine
    refine ⟨rfl, rfl, ?_⟩
    have still := Still.shift (κ := κ) first.onward
      ⟨inv, by rw [Place.loop_put]; exact h.kind, by rw [Place.loop_put]; exact h.alarm,
        by rw [Place.loop_put, Roster.charge_self]; exact limit⟩ rfl (by rw [Place.loop_put])
      fun k e => by rwa [Place.loop_put] at e
    rwa [Roster.charge_self] at still

/-- A task has taken a lock by some time. -/
structure Took (t : Nat) (κ : TaskKind) (p : Place) (time : ℕ∞) (a b : Roster × World) : Prop where
  fit : Fit t κ b.1 b.2
  calm : ¬ b.1.doomed t
  stays : Stays t (a.1.charge t ((a.1.duty t).hold p (b.1.duty t).quota), a.2) b
  time : (b.2.loop.now : ℕ∞) ≤ time
  quota : (b.1.duty t).quota = (a.1.duty t).quota ∨ p = .lifecycle ∧
    (b.1.duty t).quota = κ.award a.2.supervisor.config b.2.loop.now (a.1.duty t).quota

/-- A task was cancelled by some time, before it took a lock. -/
structure Missed (t : Nat) (κ : TaskKind) (time : ℕ∞) (a b : Roster × World) : Prop where
  fit : Fit t κ b.1 b.2
  doomed : b.1.doomed t
  stays : Stays t a b
  time : (b.2.loop.now : ℕ∞) ≤ time

/-- How an attempt to take a lock ends by some time. -/
def Tries (t : Nat) (κ : TaskKind) (p : Place) (time : ℕ∞) (a : Roster × World) (r : Except Fault Unit) (γ : Roster)
    (s : World) : Prop :=
  (r = .ok () ∧ Took t κ p time a (γ, s)) ∨ (r = .error .cancelled ∧ Missed t κ time a (γ, s))

/-- By when a task has a lock that it waits for: a lock held in passing at once. -/
def Passing (p : Place) (d : Duty) (now : Nat) (time : ℕ∞) : Prop :=
  (p ≠ .lifecycle ∧ time = now) ∨ p = .lifecycle ∧ time = ⊤ ∧ d.limit = ⊤

theorem Passing.later {now : Nat} {time : ℕ∞} (h : Passing p d now time) : (now : ℕ∞) ≤ time := by
  rcases h with ⟨-, rfl⟩ | ⟨-, rfl, -⟩
  · exact le_refl _
  · exact le_top

theorem exists_lasts (h : p.Exists s) (lasts : s.Lasts s') : p.Exists s' := by
  cases p with
  | lifecycle => trivial
  | documents => trivial
  | writing i => exact Nat.lt_of_lt_of_le h lasts.transports

/-- A task queues up. -/
theorem Fit.enqueue (h : Fit t κ γ s) (there : p.Exists s) (queued : (γ.duty t).queued = none)
    (mine : γ.owner k = some (t, .wait)) (new : k ∉ (p.lock s).waiters) (shut : (p.lock s).isOpen = false) :
    Acts t (fun s => p.put ⟨(p.lock s).held, (p.lock s).waiters ++ [k]⟩ s) (γ, s) (γ.charge t ((γ.duty t).queue p k)) ∧
      Fit t κ (γ.charge t ((γ.duty t).queue p k)) (p.put ⟨(p.lock s).held, (p.lock s).waiters ++ [k]⟩ s) := by
  have lock := lock_put (M := ⟨(p.lock s).held, (p.lock s).waiters ++ [k]⟩) there
  have old := h.inv.locked p
  refine ⟨acts_put (s := s) (d := (γ.duty t).queue p k) (f := fun l => ⟨l.held, l.waiters ++ [k]⟩)
    (bill_put (p := p) (M := ⟨(p.lock s).held, (p.lock s).waiters ++ [k]⟩) fun _ e => e) rfl, ?_, ?_, ?_, ?_⟩
  · refine h.inv.relock ⟨rfl, rfl⟩ rfl (fun q j ne => ?_) (fun q _ mine => mine) (fun j e => ?_)
      { nodup := ?_, queue := fun j => ?_, holder := fun held => ?_, handed := fun free j head => ?_ }
    · rw [queued]
      refine ⟨fun e => ?_, fun e => (by cases e)⟩
      cases e
      exact absurd rfl ne
    · cases e
      exact mine
    · rw [lock]
      refine List.nodup_append.mpr ⟨by rw [← World.ledger_lock]; exact old.nodup, List.nodup_singleton k, ?_⟩
      rintro i hi j hj rfl
      rw [List.mem_singleton.mp hj] at hi
      exact new hi
    · rw [lock, List.mem_append, ← World.ledger_lock, old.queue j, List.mem_singleton]
      constructor
      · rintro (⟨u, waits⟩ | rfl)
        · refine ⟨u, ?_⟩
          rw [Roster.charge_ne]
          · exact waits
          · rintro rfl
            cases queued.symm.trans waits
        · exact ⟨t, by rw [Roster.charge_self, Duty.queue]⟩
      · rintro ⟨u, waits⟩
        by_cases e : u = t
        · subst e
          rw [Roster.charge_self, Duty.queue] at waits
          cases waits
          exact .inr rfl
        · rw [Roster.charge_ne _ _ e] at waits
          exact .inl ⟨u, waits⟩
    · rw [lock] at held
      obtain ⟨u, holds⟩ := old.holder (by rw [World.ledger_lock]; exact held)
      refine ⟨u, ?_⟩
      by_cases e : u = t
      · subst e
        rw [Roster.charge_self]
        exact holds
      · rw [Roster.charge_ne _ _ e]
        exact holds
    · rw [lock] at free head
      refine old.handed (by rw [World.ledger_lock]; exact free) j ?_
      rw [World.ledger_lock]
      rcases waiters : (p.lock s).waiters with _ | ⟨i, rest⟩
      · have free : (p.lock s).held = false := free
        simp only [Lock.isOpen, free, waiters, Bool.not_false, List.isEmpty_nil, Bool.and_self, Bool.true_eq_false] at shut
      · simpa only [waiters, List.cons_append, List.head?_cons] using head
  · rw [Place.loop_put]; exact h.kind
  · rw [Place.loop_put]; exact h.alarm
  · rw [Place.loop_put, Roster.charge_self]; exact h.limit

/-- What is left to do when the wait for a lock is over. -/
def leaveQueue (p : Place) (k : Nat) (r : Except Fault Json) : Act Unit := do
  Act.setLock p.toLockPlace fun l => { l with waiters := l.waiters.erase k }
  match r with
  | .ok _ => Act.setLock p.toLockPlace fun l => { l with held := true }
  | .error f =>
    let lock ← Program.peek p.toLockPlace.get
    if !lock.held then Act.wakeFirst p.toLockPlace
    Act.fail f

theorem Duty.leave_queue (h : d.queued = none) : (d.queue p k).leave = d := by
  cases d
  cases h
  rfl

/-- A task that was woken in the queue of a lock. -/
theorem wp_leaveQueue {r : Except Fault Json} {time : ℕ∞} (fit : Fit t κ γ' s') (there : p.Exists s') (free : (γ.duty t).queued = none)
    (stays : Stays t (γ.charge t ((γ.duty t).queue p k), s) (γ', s')) (late : (s'.loop.now : ℕ∞) ≤ time)
    (doomed : γ'.doomed t → r = .error .cancelled) (calm : ¬ γ'.doomed t → ∃ v, r = .ok v) :
    discipline.wp t (leaveQueue p k r) (Tries t κ p time (γ, s)) γ' s' := by
  have duty : γ'.duty t = (γ.duty t).queue p k := stays.duty.trans (Roster.charge_self ..)
  have queued : (γ'.duty t).queued = some (p, k) := by rw [duty, Duty.queue]
  have left : (γ'.duty t).leave = γ.duty t := by rw [duty, Duty.leave_queue free]
  by_cases off : γ'.doomed t
  · cases doomed off
    refine Wp.mono (wp_leave_fail fit there queued .cancelled) ?_
    rintro r γ'' s'' ⟨rfl, rfl, still⟩
    rw [left] at still ⊢
    have all := stays.next still.stays rfl
    rw [Roster.charge_duty] at all
    exact .inr ⟨rfl, still.fit, off, all, by rw [still.now]; exact late⟩
  · obtain ⟨v, rfl⟩ := calm off
    refine Wp.mono (wp_leave_take fit there queued) ?_
    rintro r γ'' s'' ⟨rfl, rfl, still⟩
    rw [left] at still ⊢
    have quota : (γ'.duty t).quota = (γ.duty t).quota := by rw [duty, Duty.queue]
    refine .inl ⟨rfl, still.fit, off, ?_, by rw [still.now]; exact late, ?_⟩
    · rw [Roster.charge_self]
      exact stays.next still.stays rfl
    · rw [Roster.charge_self, Duty.hold, quota]
      unfold toll
      split
      · next free =>
        exact .inr ⟨free.1, by rw [still.now, stays.lasts.config]⟩
      · exact .inl rfl

/-- How a task waits in the queue of a lock. -/
theorem waits_queue {time : ℕ∞} (may : (γ.duty t).MayTake p) (passing : Passing p (γ.duty t) s.loop.now time)
    (limit : (s.loop.now : ℕ∞) ≤ (γ.duty t).limit) (issued : k < l.tickets.length) :
    Waits t (some k) ((γ.charge t ((γ.duty t).queue p k)).ring t time) l := by
  have duty : ((γ.charge t ((γ.duty t).queue p k)).ring t time).duty t = (γ.duty t).queue p k := γ.charge_self t _
  refine
    { prompt := fun j e => ?_
      limit := ?_
      pipes := fun i held => ?_
      documents := fun held => ?_
      queued := fun q j e => ?_
      closing := by rw [duty]; exact may.closing
      issued := fun j e => by cases e; exact issued }
  · cases e
    rcases passing with ⟨ne, -⟩ | ⟨-, rfl, -⟩
    · exact .inr (.inr (.inr ⟨p, ne, by rw [duty, Duty.queue]⟩))
    · exact .inl (Roster.ring_self ..)
  · rw [Roster.ring_self, duty]
    rcases passing with ⟨-, rfl⟩ | ⟨-, rfl, free⟩
    · exact limit
    · exact le_of_eq free.symm
  · rw [duty] at held
    exact absurd held (may.pipes i)
  · rw [duty] at held
    obtain ⟨i, rfl⟩ := may.documents held
    exact .inr ⟨i, k, rfl, by rw [duty, Duty.queue]⟩
  · rw [duty] at e
    cases e
    rfl

/-- A task with a ticket of its own waits in the queue of a lock. -/
theorem wp_queue (h : Fit t κ γ s) (calm : ¬ γ.doomed t) (use : κ.use = .wait) (there : p.Exists s) (may : (γ.duty t).MayTake p) {time : ℕ∞}
    (passing : Passing p (γ.duty t) s.loop.now time) (shut : (p.lock s).isOpen = false)
    (mine : γ.owner k = some (t, .wait)) (new : k ∉ (p.lock s).waiters) (unsettled : s.loop.outcome? k = none) :
    discipline.wp t (Act.setLock p.toLockPlace (fun l => { l with waiters := l.waiters ++ [k] }) >>= fun _ =>
      Program.attempt (Program.await k) >>= leaveQueue p k) (Tries t κ p time (γ, s)) γ s := by
  obtain ⟨acts, fit⟩ := h.enqueue there may.queued mine new shut
  have loop : (p.put ⟨(p.lock s).held, (p.lock s).waiters ++ [k]⟩ s).loop = s.loop := Place.loop_put _
  have shift := Still.shift acts.onward fit rfl (by rw [loop]) fun k e => by rwa [loop] at e
  rw [Roster.charge_self] at shift
  have waits : Waits t (some k) ((γ.charge t ((γ.duty t).queue p k)).ring t time)
      (p.put ⟨(p.lock s).held, (p.lock s).waiters ++ [k]⟩ s).loop := by
    rw [loop]
    exact waits_queue may passing h.limit (h.inv.tickets.issued k _ mine)
  have later : ((p.put ⟨(p.lock s).held, (p.lock s).waiters ++ [k]⟩ s).loop.now : ℕ∞) ≤ time := by
    rw [loop]
    exact passing.later
  have unsettled' : (p.put ⟨(p.lock s).held, (p.lock s).waiters ++ [k]⟩ s).loop.outcome? k = none := by
    rw [loop]
    exact unsettled
  refine Wp.change ((γ.charge t ((γ.duty t).queue p k)).ring t time) acts.ring (Wp.attempt_seq (P := fun r γ' s' =>
    Woken t κ (some k) r ((γ.charge t ((γ.duty t).queue p k)).ring t time,
      p.put ⟨(p.lock s).held, (p.lock s).waiters ++ [k]⟩ s) (γ', s'))
    (wp_await_until fit calm later waits (fun _ => use ▸ mine) unsettled' fun _ _ _ w => w) fun r γ' s' w => ?_)
  have stays := shift.stays.trans w.stays.of_ring
  refine wp_leaveQueue w.fit (exists_lasts there stays.lasts) may.queued stays ?_ w.doomed fun off => ?_
  · have time' := w.time
    rwa [Roster.ring_self] at time'
  · have outcome := (w.outcome off).1 k rfl
    rcases r with f | v
    · exact absurd ((w.fit.inv.tickets.proper k t .wait _ (stays.owner k _ mine) outcome).wait trivial f rfl).2 off
    · exact ⟨v, rfl⟩

/-- The requests of nobody are settled when a ticket is issued. -/
theorem outcome?_next (l : Loop) : l.issue.2.outcome? l.tickets.length = none := by
  rw [Loop.outcome?_issue]
  rcases e : l.outcome? l.tickets.length with _ | r
  · rfl
  · exact absurd (Loop.outcome?_lt e) (Nat.lt_irrefl _)

/-- A task takes a lock, and waits for it if it has to. -/
theorem wp_acquire (h : Fit t κ γ s) (calm : ¬ γ.doomed t) (use : κ.use = .wait) (there : p.Exists s) (may : (γ.duty t).MayTake p) {time : ℕ∞}
    (passing : Passing p (γ.duty t) s.loop.now time) :
    discipline.wp t (Act.acquire p.toLockPlace) (Tries t κ p time (γ, s)) γ s := by
  refine Wp.look ?_
  split
  · next opened =>
    refine Wp.mono (wp_take h there may opened) ?_
    rintro r γ' s' ⟨rfl, rfl, still⟩
    refine .inl ⟨rfl, still.fit, calm, by rw [Roster.charge_self]; exact still.stays, ?_, ?_⟩
    · rw [still.now]
      exact passing.later
    · rw [Roster.charge_self, Duty.hold]
      unfold toll
      split
      · next free => exact .inr ⟨free.1, by rw [still.now]⟩
      · exact .inl rfl
  · next shut =>
    have issued := h.issue .wait (by decide)
    have lock : p.lock { s with loop := s.loop.issue.2 } = p.lock s := by cases p <;> rfl
    show discipline.wp t (Act.issue >>= fun k =>
      Act.setLock p.toLockPlace (fun l => { l with waiters := l.waiters ++ [k] }) >>= fun _ =>
        Program.attempt (Program.await k) >>= leaveQueue p k) _ γ s
    refine Wp.yield _ issued.acts (Wp.mono (wp_queue issued.still.fit calm use (by cases p <;> exact there) may passing
      (by rw [lock]; exact (Bool.not_eq_true _).mp shut) (γ.own_self ..) ?_ (outcome?_next s.loop)) ?_)
    · rw [lock]
      intro mem
      obtain ⟨u, waits⟩ := ((h.inv.locked p).queue _).mp (by rw [World.ledger_lock]; exact mem)
      exact absurd (h.inv.tickets.issued _ _ (h.inv.queuers u p _ waits)) (Nat.lt_irrefl _)
    · rintro r γ' s' (⟨rfl, took⟩ | ⟨rfl, missed⟩)
      · refine .inl ⟨rfl, took.fit, took.calm, ?_, took.time, ?_⟩
        · have first : Stays t (γ.charge t (γ.duty t), s)
              (γ.own s.loop.tickets.length t .wait, { s with loop := s.loop.issue.2 }) := by
            rw [Roster.charge_duty]
            exact issued.still.stays
          exact first.next took.stays rfl
        · exact took.quota
      · exact .inr ⟨rfl, missed.fit, missed.doomed, issued.still.stays.trans missed.stays, missed.time⟩

/-! ## To do something under a lock -/

/-- A task does something while it holds a lock. -/
theorem wp_locked {R Q : Except Fault α → Roster → World → Prop} {body : Act α} {time : ℕ∞} (h : Fit t κ γ s)
    (calm : ¬ γ.doomed t) (use : κ.use = .wait) (there : p.Exists s) (may : (γ.duty t).MayTake p)
    (passing : Passing p (γ.duty t) s.loop.now time)
    (inside : ∀ γ' s', Took t κ p time (γ, s) (γ', s') → discipline.wp t body R γ' s')
    (fits : ∀ r γ' s', R r γ' s' → Fit t κ γ' s' ∧ p.Exists s' ∧ (γ'.duty t).queued = none)
    (after : ∀ r γ' s' s'', R r γ' s' →
      Still t κ (γ'.charge t ((γ'.duty t).drop p), s') (γ'.charge t ((γ'.duty t).drop p), s'') →
        Q r (γ'.charge t ((γ'.duty t).drop p)) s'')
    (missed : ∀ γ' s', Missed t κ time (γ, s) (γ', s') → Q (.error .cancelled) γ' s') :
    discipline.wp t (Act.locked p.toLockPlace body) Q γ s := by
  refine Wp.seq (P := Tries t κ p time (γ, s)) (wp_acquire h calm use there may passing) ?_ ?_
  · intro _ γ₁ s₁ tried
    rcases tried with ⟨-, took⟩ | ⟨e, -⟩
    · refine Wp.ensure (inside γ₁ s₁ took) fun r γ₂ s₂ post => ?_
      obtain ⟨fit, there', free⟩ := fits r γ₂ s₂ post
      refine Wp.mono (wp_release fit there' fun k e => by rw [free] at e; cases e) ?_
      rintro r' γ₃ s₃ ⟨rfl, rfl, still⟩
      exact after r γ₂ s₂ s₃ post still
    · cases e
  · intro f γ₁ s₁ tried
    rcases tried with ⟨e, -⟩ | ⟨e, missed'⟩
    · cases e
    · cases e
      exact missed γ₁ s₁ missed'

theorem Duty.drop_hold (d : Duty) (p : Place) (quota : Grant) : (d.hold p quota).drop p = { d with quota := quota } := by
  simp only [Duty.hold, Duty.drop, List.erase_cons_head]

/-- A task takes a lock that others hold in passing. -/
theorem Took.held (h : Took t κ p s.loop.now (γ, s) (γ', s')) (passing : p ≠ .lifecycle) :
    γ'.duty t = (γ.duty t).hold p (γ.duty t).quota ∧ s'.loop.now = s.loop.now := by
  have quota : (γ'.duty t).quota = (γ.duty t).quota := h.quota.elim id fun e => absurd e.1 passing
  refine ⟨?_, Nat.le_antisymm (by exact_mod_cast h.time) h.stays.time⟩
  exact h.stays.duty.trans ((Roster.charge_self ..).trans (by rw [quota]))

/-- A task does something in no time while it holds a lock that others hold in passing. -/
theorem wp_locked_passing {body : Act α} (h : Fit t κ γ s) (calm : ¬ γ.doomed t) (use : κ.use = .wait) (there : p.Exists s)
    (may : (γ.duty t).MayTake p) (passing : p ≠ .lifecycle)
    (inside : ∀ γ' s', Fit t κ γ' s' → ¬ γ'.doomed t → γ'.duty t = (γ.duty t).hold p (γ.duty t).quota → s.Lasts s' →
      Onward (γ, s) (γ', s') → discipline.wp t body (fun r γ'' s'' => Goes t κ (γ', s') r γ'' s'') γ' s') :
    discipline.wp t (Act.locked p.toLockPlace body) (fun r γ' s' => Goes t κ (γ, s) r γ' s') γ s := by
  refine wp_locked (R := fun r γ₂ s₂ => ∃ γ₁ s₁, Took t κ p s.loop.now (γ, s) (γ₁, s₁) ∧ Goes t κ (γ₁, s₁) r γ₂ s₂)
    h calm use there may (.inl ⟨passing, rfl⟩) (fun γ₁ s₁ took => ?_) ?_ ?_ fun γ₁ s₁ missed => ?_
  · have onward : Onward (γ, s) (γ₁, s₁) := { took.stays.toOnward with }
    exact Wp.mono (inside γ₁ s₁ took.fit took.calm (took.held passing).1 took.stays.lasts onward) fun r γ₂ s₂ goes =>
      ⟨γ₁, s₁, took, goes⟩
  · rintro r γ₂ s₂ ⟨γ₁, s₁, took, still, -⟩
    refine ⟨still.fit, exists_lasts there (took.stays.lasts.trans still.stays.lasts), ?_⟩
    rw [show γ₂.duty t = γ₁.duty t from still.stays.duty, show γ₁.duty t = _ from (took.held passing).1, Duty.hold]
    exact may.queued
  · rintro r γ₂ s₂ s₃ ⟨γ₁, s₁, took, still, doomed⟩ released
    obtain ⟨duty, now⟩ := took.held passing
    have back : (γ₂.duty t).drop p = γ.duty t := by
      rw [show γ₂.duty t = γ₁.duty t from still.stays.duty, show γ₁.duty t = _ from duty, Duty.drop_hold]
    have stays := (took.stays.trans still.stays).next released.stays (by rw [back]; rfl)
    rw [back, show Roster.charge (γ, s).1 t (γ.duty t) = γ from Roster.charge_duty γ t] at stays
    rw [back] at released ⊢
    exact ⟨⟨released.fit, stays, released.now.trans (still.now.trans now)⟩, doomed⟩
  · exact ⟨⟨missed.fit, missed.stays, Nat.le_antisymm (by exact_mod_cast missed.time) missed.stays.time⟩, fun _ => rfl⟩

end Clock

end LspHost
