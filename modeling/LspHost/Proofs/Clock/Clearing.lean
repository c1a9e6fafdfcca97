import LspHost.Proofs.Clock.Concluding

/-!
# Sessions in time

What a task does to a session beside its requests: it moves on to another state, its reader comes and goes, and when it
is closed or its connection is lost all requests that still wait are ended (`wp_failPending`).
-/

namespace LspHost

namespace Loop

variable {l : Loop} {k : Nat} {ks : List Nat} {r : Except Fault Json}

/-- Tickets are settled with one outcome, unless they are already. -/
def settleAll (ks : List Nat) (r : Except Fault Json) (l : Loop) : Loop := ks.foldl (fun l k => l.settle k r) l

theorem settleAll_cons : l.settleAll (k :: ks) r = (l.settle k r).settleAll ks r := rfl

theorem does_settleAll (l : Loop) (ks : List Nat) (r : Except Fault Json) :
    l.Does (fun k => k ∈ ks) (l.settleAll ks r) := by
  induction ks generalizing l with
  | nil => exact .refl l
  | cons k ks ih =>
    refine ((does_settle k r).mono ?_).trans ((ih (l.settle k r)).mono fun _ => List.mem_cons_of_mem k)
    rintro j rfl
    exact List.mem_cons_self

@[simp] theorem tasks_settleAll : (l.settleAll ks r).tasks = l.tasks := by
  induction ks generalizing l with
  | nil => rfl
  | cons k ks ih => rw [settleAll_cons, ih, tasks_settle]

@[simp] theorem apart_settleAll : (l.settleAll ks r).Apart k ↔ l.Apart k := by
  induction ks generalizing l with
  | nil => rfl
  | cons j ks ih => rw [settleAll_cons, ih, apart_settle]

theorem outcome?_settleAll_cases {r' : Except Fault Json} (h : (l.settleAll ks r).outcome? k = some r') :
    l.outcome? k = some r' ∨ k ∈ ks ∧ r' = r := by
  induction ks generalizing l with
  | nil => exact .inl h
  | cons j ks ih =>
    rcases ih h with old | ⟨mem, e⟩
    · rcases outcome?_settle_cases old with older | ⟨rfl, rfl⟩
      · exact .inl older
      · exact .inr ⟨List.mem_cons_self, rfl⟩
    · exact .inr ⟨List.mem_cons_of_mem _ mem, e⟩

theorem isSettled_settleAll (mem : k ∈ ks) (issued : k < l.tickets.length) : (l.settleAll ks r).isSettled k = true := by
  induction ks generalizing l with
  | nil => cases mem
  | cons j ks ih =>
    rcases List.mem_cons.mp mem with rfl | mem
    · exact (does_settleAll (l.settle k r) _ r).grows.settled (isSettled_settle r issued)
    · exact ih mem (by rwa [length_tickets_settle])

end Loop

namespace Clock

open Discipline

variable {t u i k : Nat} {o : Option Nat} {κ : TaskKind} {γ γ' : Roster} {s s' : World} {L : Ledger} {l : Loop} {d : Duty}
  {q : Inquiry} {f : Session → Session} {x : Session} {a b c : Roster × World} {r : Except Fault Json} {α β : Type}

/-! ## What is in hand -/

/-- A task has something else in hand that others do not see. -/
theorem Inv.charge (h : Inv o γ s) (alike : (γ.duty t).Alike d) (unsent : d.unsent = (γ.duty t).unsent)
    (queued : d.queued = (γ.duty t).queued) (holds : d.holds = (γ.duty t).holds) : Inv o (γ.charge t d) s where
  tickets := h.tickets.charge
  tasks := h.tasks.charge
  locked p := (h.locked p).charge (fun k => by rw [queued]) fun mine => by rwa [holds]
  queuers u p k e := by
    refine h.queuers u p k ?_
    by_cases same : u = t
    · subst same
      rwa [Roster.charge_self, queued] at e
    · rwa [Roster.charge_ne _ _ same] at e
  asked := h.asked.charge alike.asking unsent
  tables := h.tables.charge alike
  servers := h.servers
  homes := h.homes
  idle := h.idle
  getters := h.getters
  plain := h.plain

/-! ## A session moves on -/

/-- A change of a session that requests do not mind. -/
structure Mild (i : Nat) (f : Session → Session) (γ : Roster) (s : World) : Prop where
  frank : Session.Frank f
  options : ∀ x, (f x).options = x.options
  transport : ∀ x, (f x).transport = x.transport
  last : ∀ x, (f x).lastRequest = x.lastRequest
  readers : ∀ x e, s.ledger.sessions[i]? = some x → (f x).reader = some e →
    ∃ u, s.loop.ending? u = some e ∧ s.loop.kind? u = some (.reader i)
  fresh : ∀ x, (f x).state = .notStarted → x.state = .notStarted
  pending : ∀ x n k, (n, k) ∈ (f x).pending → (n, k) ∈ x.pending
  listed : ∀ x u q, s.ledger.sessions[i]? = some x → (γ.duty u).asking = some q → q.session = i →
    s.loop.outcome? q.ticket = none → (q.number, q.ticket) ∈ x.pending → (q.number, q.ticket) ∈ (f x).pending
  closed : ∀ x n k, s.ledger.sessions[i]? = some x → (f x).state = .closed → (n, k) ∈ (f x).pending →
    x.state = .closed ∨ ∃ u q, (γ.duty u).asking = some q ∧ q.ticket = k ∧ q.method = .str "initialize"

theorem Mild.tables (m : Mild i f γ s) (h : Tables γ s.ledger s.loop) : Tables γ (s.ledger.setSession i f) s.loop where
  paired := by
    refine ⟨by rw [Ledger.length_setSession]; exact h.paired.1, fun j y found => ?_⟩
    rcases Ledger.getElem?_setSession found with ⟨-, old⟩ | ⟨y, rfl, old, rfl⟩
    · exact h.paired.2 j y old
    · exact (m.transport y).trans (h.paired.2 _ y old)
  entries j y n k found mem := by
    rcases Ledger.getElem?_setSession found with ⟨-, old⟩ | ⟨y, rfl, old, rfl⟩
    · exact h.entries j y n k old mem
    · exact h.entries _ y n k old (m.pending y n k mem)
  listed u q y e unsettled found := by
    rcases Ledger.getElem?_setSession found with ⟨-, old⟩ | ⟨y, here, old, rfl⟩
    · exact h.listed u q y e unsettled old
    · exact m.listed y u q old e here unsettled (h.listed u q y e unsettled (here ▸ old))
  closed j y n k found shut mem := by
    rcases Ledger.getElem?_setSession found with ⟨-, old⟩ | ⟨y, rfl, old, rfl⟩
    · exact h.closed j y n k old shut mem
    · exact (m.closed y n k old shut mem).elim (fun shut => h.closed _ y n k old shut (m.pending y n k mem)) id
  bare := h.bare
  fresh j y found new := by
    rcases Ledger.getElem?_setSession found with ⟨-, old⟩ | ⟨y, rfl, old, rfl⟩
    · exact h.fresh j y old new
    · exact h.fresh _ y old (m.fresh y new)
  openers u j e := by rw [Ledger.length_setSession]; exact h.openers u j e
  bound j e := by rw [Ledger.length_setSession]; exact h.bound j e
  held := h.held

/-- A task changes a session mildly. -/
theorem Fit.mild (h : Fit t κ γ s) (m : Mild i f γ s) : Step t κ (World.setSession i f) γ s γ := by
  have inv : Inv (some t) γ (s.setSession i f) := by
    refine h.inv.setSession (.refl γ) m.frank m.readers (h.inv.asked.setSession m.last m.options) (m.tables h.inv.tables)
      fun j y found unused => ?_
    rcases Ledger.getElem?_setSession found with ⟨-, old⟩ | ⟨y, rfl, old, rfl⟩
    · exact h.inv.idle j y old unused
    · refine List.eq_nil_iff_forall_not_mem.mpr fun e mem => ?_
      have mem := m.pending y e.1 e.2 mem
      rw [h.inv.idle _ y old unused] at mem
      cases mem
  exact (acts_setSession m.options (.refl t γ) rfl).step ⟨inv, h.kind, h.alarm, h.limit⟩ rfl rfl fun _ _ e => e

/-- A session moves on to another state; one that is closed has no requests left that wait, save for its handshake. -/
theorem Fit.setState (h : Fit t κ γ s) (i : Nat) (state : SessionState) (started : state ≠ .notStarted)
    (closed : state = .closed → ∀ x n k, s.ledger.sessions[i]? = some x → (n, k) ∈ x.pending → x.state = .closed ∨
      ∃ u q, (γ.duty u).asking = some q ∧ q.ticket = k ∧ q.method = .str "initialize") :
    Step t κ (World.setSession i fun x => { x with state := state }) γ s γ :=
  h.mild
    { frank := fun _ => rfl
      options := fun _ => rfl
      transport := fun _ => rfl
      last := fun _ => rfl
      readers := fun x e found reader => h.inv.tasks.readers i x e found reader
      fresh := fun _ e => absurd e started
      pending := fun _ _ _ mem => mem
      listed := fun _ _ _ _ _ _ _ mem => mem
      closed := fun x n k found shut mem => closed shut x n k found mem }

/-- A session gets a reader, or loses it. -/
theorem Fit.setReader (h : Fit t κ γ s) (i : Nat) (reader : Option Nat)
    (reads : ∀ e, reader = some e → ∃ u, s.loop.ending? u = some e ∧ s.loop.kind? u = some (.reader i)) :
    Step t κ (World.setSession i fun x => { x with reader := reader }) γ s γ :=
  h.mild
    { frank := fun _ => rfl
      options := fun _ => rfl
      transport := fun _ => rfl
      last := fun _ => rfl
      readers := fun _ e _ mine => reads e mine
      fresh := fun _ e => e
      pending := fun _ _ _ mem => mem
      listed := fun _ _ _ _ _ _ _ mem => mem
      closed := fun _ _ _ _ shut _ => .inl shut }

/-! ## A table is cleared -/

theorem Tickets.settleAll (h : Tickets γ s) {ks : List Nat} {fault : Fault}
    (proper : ∀ k ∈ ks, ∀ u use, γ.owner k = some (u, use) → γ.Proper u use (.error fault)) :
    Tickets γ { s with loop := s.loop.settleAll ks (.error fault) } := by
  induction ks generalizing s with
  | nil => exact h
  | cons k ks ih =>
    exact ih (h.settle (proper k List.mem_cons_self) fun _ _ _ e => by cases e) fun j mem => proper j (List.mem_cons_of_mem k mem)

/-- What a task has in hand that is about to do something. -/
def Duty.wind (d : Duty) (c : Intent) : Duty := { d with closing := c }

/-- Why the requests of a session are ended: its reader ends, or it is closed. -/
def Severs (i : Nat) (f : Fault) (κ : TaskKind) (c : Intent) : Prop :=
  (f = .closed (.sessionLost (Session.nameOf i)) ∧ κ = .reader i ∧ c = .finish) ∨
    (f = .closed (.sessionClosed (Session.nameOf i)) ∨ f = .closed (.sessionAborted (Session.nameOf i))) ∧ c = .close i

theorem Severs.ne_cancelled {fault : Fault} {c : Intent} (h : Severs i fault κ c) : fault ≠ .cancelled := by
  rintro rfl
  rcases h with ⟨e, -⟩ | ⟨e | e, -⟩ <;> cases e

/-- All requests of a session that still wait are ended. -/
theorem Fit.sever (h : Fit t κ γ s) {fault : Fault} {c : Intent} (found : s.sessions[i]? = some x)
    (idle : (γ.duty t).closing = .none) (severs : Severs i fault κ c) :
    Acts t (fun s => { s with loop := s.loop.settleAll (x.pending.map Prod.snd) (.error fault) }) (γ, s)
        (γ.charge t ((γ.duty t).wind c)) ∧
      Fit t κ (γ.charge t ((γ.duty t).wind c))
        { s with loop := s.loop.settleAll (x.pending.map Prod.snd) (.error fault) } := by
  have does := s.loop.does_settleAll (x.pending.map Prod.snd) (.error fault)
  -- Whatever is in the table is a request that some task has in hand.
  have asked {k : Nat} (mem : k ∈ x.pending.map Prod.snd) :
      ∃ u q, (γ.duty u).asking = some q ∧ q.session = i ∧ q.ticket = k ∧ γ.owner k = some (u, .request) := by
    obtain ⟨e, there, rfl⟩ := List.mem_map.mp mem
    obtain ⟨u, q, asking, session, -, ticket⟩ := h.inv.tables.entries i x.bare e.1 e.2 (World.ledger_session found) there
    obtain ⟨known, task, -⟩ := h.inv.asked.asking u q asking
    exact ⟨u, q, asking, session, ticket, by rw [← ticket, h.inv.asked.owned q known, task]⟩
  have outcome {k : Nat} {r : Except Fault Json}
      (e : (s.loop.settleAll (x.pending.map Prod.snd) (.error fault)).outcome? k = some r) :
      s.loop.outcome? k = some r ∨ k ∈ x.pending.map Prod.snd ∧ r = .error fault := Loop.outcome?_settleAll_cases e
  refine ⟨acts (.charge ?_) does (fun k mem => ?_) (fun k u _ mine e => ?_) (fun q hq unsettled r e => ?_) (.of_ledger rfl)
    (fun _ _ e => e) ?_, ?_, ?_, ?_, ?_⟩
  · exact .inl idle
  · obtain ⟨u', q, -, -, -, owner⟩ := asked mem
    exact ⟨Loop.apart_settleAll.not.mpr (h.inv.tickets.not_apart owner), fun u mine => by cases mine.symm.trans owner⟩
  · rcases outcome e with old | ⟨-, e⟩
    · exact old
    · cases e
      exact absurd rfl severs.ne_cancelled
  · rcases outcome e with old | ⟨mem, rfl⟩
    · cases unsettled.symm.trans old
    · obtain ⟨u, q', asking, session, ticket, -⟩ := asked mem
      obtain ⟨known, -⟩ := h.inv.asked.asking u q' asking
      obtain rfl : q' = q := List.inj_on_of_nodup_map h.inv.asked.tickets known hq ticket
      refine .inr ⟨h.inv.asked.unheard u q' asking unsettled, .inr ?_⟩
      rw [Roster.charge_self, session]
      rcases severs with ⟨e, reader, rfl⟩ | ⟨e, rfl⟩
      · exact .inl ⟨by rw [e], by rw [← reader]; exact h.kind, rfl⟩
      · exact .inr ⟨e.imp (congrArg _) (congrArg _), rfl⟩
  · rw [Roster.charge_self, Duty.wind]
    exact bill_same rfl rfl
  · have inv : Inv (some t) γ { s with loop := s.loop.settleAll (x.pending.map Prod.snd) (.error fault) } := h.inv.onward rfl
      (fun _ _ h => h) (h.inv.tickets.settleAll fun k mem u use mine => ?_) does.grows Loop.tasks_settleAll
    · exact inv.charge ⟨rfl, rfl⟩ rfl rfl rfl
    · obtain ⟨u', q, -, -, -, owner⟩ := asked mem
      cases mine.symm.trans owner
      exact ⟨fun e => (by cases e), fun e => e.elim⟩
  · exact does.grows.kinds t κ h.kind
  · rw [show ({ s with loop := s.loop.settleAll (x.pending.map Prod.snd) (.error fault) } : World).loop.now = s.loop.now
      from does.now]
    exact h.alarm
  · rw [show ({ s with loop := s.loop.settleAll (x.pending.map Prod.snd) (.error fault) } : World).loop.now = s.loop.now
      from does.now, Roster.charge_self]
    exact h.limit

/-- A table whose requests have all ended is cleared. -/
theorem Fit.clear (h : Fit t κ γ s) (ended : ∀ x n k, s.ledger.sessions[i]? = some x → (n, k) ∈ x.pending →
    s.loop.isSettled k = true) : Step t κ (World.setSession i fun x => { x with pending := [] }) γ s γ :=
  h.mild
    { frank := fun _ => rfl
      options := fun _ => rfl
      transport := fun _ => rfl
      last := fun _ => rfl
      readers := fun x e found reader => h.inv.tasks.readers i x e found reader
      fresh := fun _ e => e
      pending := fun _ _ _ mem => by cases mem
      listed := fun x _ q found _ _ unsettled mem => by
        have settled := ended x _ _ found mem
        simp only [Loop.isSettled, unsettled, Option.isSome_none, Bool.false_eq_true] at settled
      closed := fun _ _ _ _ _ mem => by cases mem }

/-- A task ends all requests of a session that still wait. -/
theorem wp_failPending (h : Fit t κ γ s) {fault : Fault} (c : Intent) (found : s.sessions[i]? = some x)
    (idle : (γ.duty t).closing = .none) (severs : Severs i fault κ c) :
    discipline.wp t (Session.failPending i fault) (fun r γ' s' => r = .ok () ∧ γ' = γ.charge t ((γ.duty t).wind c) ∧
      Still t κ (γ', s) (γ', s') ∧ s'.sessions[i]? = some { x with pending := [] }) γ s := by
  obtain ⟨acts, fit⟩ := h.sever found idle severs
  have same : (fun l => x.pending.foldl (fun l p => l.settle p.2 (.error fault)) l) =
      Loop.settleAll (x.pending.map Prod.snd) (.error fault) := by
    funext l
    simp only [Loop.settleAll, List.foldl_map]
  refine wp_getKnown found ?_
  rw [same]
  have does := s.loop.does_settleAll (x.pending.map Prod.snd) (.error fault)
  have cleared := fit.clear (i := i) fun y n k found' mem => ?_
  · refine Wp.change _ acts (Wp.update _ cleared.acts ⟨rfl, rfl, ?_, ?_⟩)
    · have still := Still.shift acts.onward fit rfl does.now fun k e => ?_
      · rw [Roster.charge_self] at still
        exact still.trans cleared.still
      · rcases Loop.outcome?_settleAll_cases e with old | ⟨-, e⟩
        · exact old
        · cases e
          exact absurd rfl severs.ne_cancelled
    · simp [World.setSession, found]
  · cases (World.ledger_session found).symm.trans found'
    refine Loop.isSettled_settleAll (List.mem_map.mpr ⟨(n, k), mem, rfl⟩) ?_
    obtain ⟨u, q, asking, -, -, rfl⟩ := h.inv.tables.entries i x.bare n k (World.ledger_session found) mem
    exact h.inv.tickets.issued _ _ (h.inv.asked.owned q (h.inv.asked.asking u q asking).1)

end Clock

end LspHost
