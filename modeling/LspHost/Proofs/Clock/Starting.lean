import LspHost.Proofs.Clock.Processes

/-!
# Processes that start

Who starts a process is given the time that it takes beside its own (`Spends`). While it starts nobody else starts one
for the same session, and from then on the session has had one (`wp_connect`).
-/

namespace LspHost

/-- An attempt to start a process is noted. -/
def World.attempt (command : List String) (cwd : Datum) (s : World) : World :=
  { s.record (.spawned command cwd) with attempts := s.attempts + 1 }

/-- The process of an attempt is there; it does at once what it does at its start. -/
def World.addServer (attempt : Nat) (script : Script) (s : World) : World :=
  { s with servers := s.servers ++ [Server.fresh (World.pidOf attempt) script] }.withServer s.servers.length
    (Server.perform s.servers.length Server.noTrigger script.onStart)

namespace Clock

open Discipline

variable {t u i j k : Nat} {o : Option Nat} {κ : TaskKind} {γ γ' : Roster} {s s' : World} {L : Ledger} {l : Loop} {d : Duty}
  {a b c : Roster × World} {n m : ℕ∞} {time : Seconds} {α β : Type}

/-! ## To spend time -/

/-- A task that has been given other time. -/
def Duty.grant (d : Duty) (quota : Grant) : Duty := { d with quota := quota }

/-- A task goes on with what it has in hand; it has spent some of its time, and what it was given beside. -/
structure Spends (t : Nat) (κ : TaskKind) (n : ℕ∞) (a b : Roster × World) : Prop where
  fit : Fit t κ b.1 b.2
  stays : Stays t (a.1.charge t ((a.1.duty t).grant (b.1.duty t).quota), a.2) b
  room : ∀ c, (a.2.loop.now : ℕ∞) + (n + c) ≤ (a.1.duty t).quota.time → (b.2.loop.now : ℕ∞) + c ≤ (b.1.duty t).quota.time

theorem Within.spends (h : Within t κ n a b) : Spends t κ n a b := by
  have duty : b.1.duty t = a.1.duty t := h.stays.duty
  refine ⟨h.fit, ?_, fun c room => ?_⟩
  · rw [duty, show (a.1.duty t).grant (a.1.duty t).quota = a.1.duty t from rfl, Roster.charge_duty]
    exact h.stays
  · rw [duty]
    refine le_trans ?_ room
    rw [← add_assoc]
    gcongr
    exact h.time

theorem Still.spends (h : Still t κ a b) : Spends t κ 0 a b := h.within.spends

theorem Spends.duty (h : Spends t κ n a b) : b.1.duty t = (a.1.duty t).grant (b.1.duty t).quota :=
  h.stays.duty.trans (Roster.charge_self ..)

theorem Spends.trans (h : Spends t κ n a b) (h' : Spends t κ m b c) : Spends t κ (n + m) a c := by
  have stays := h.stays.next h'.stays (by rw [show (b.1, b.2).1.duty t = _ from h.duty]; rfl)
  rw [show (b.1, b.2).1.duty t = _ from h.duty] at stays
  exact ⟨h'.fit, stays, fun c room => h'.room c (h.room (m + c) (by rwa [← add_assoc n]))⟩

theorem Spends.mono (h : Spends t κ n a b) (more : n ≤ m) : Spends t κ m a b :=
  ⟨h.fit, h.stays, fun c room => h.room c (le_trans (by gcongr) room)⟩

/-- What a task has in hand that neither asks for anything nor holds anything for which others wait in passing. -/
structure Duty.Poised (d : Duty) : Prop extends d.Free where
  asking : d.asking = none
  opening : d.opening = none

theorem Duty.Poised.limit (h : d.Poised) : d.limit = d.quota.time := by
  simp only [Duty.limit, h.asking, Option.map_none, Option.getD_none, le_top, inf_of_le_left]

theorem Duty.Poised.grant (h : d.Poised) (quota : Grant) : (d.grant quota).Poised :=
  ⟨⟨h.pipes, h.documents, h.queued, h.closing⟩, h.asking, h.opening⟩

theorem Spends.poised (h : Spends t κ n a b) (poised : (a.1.duty t).Poised) : (b.1.duty t).Poised := by
  rw [h.duty]
  exact poised.grant _

theorem Stays.poised (h : Stays t a b) (poised : (a.1.duty t).Poised) : (b.1.duty t).Poised := by
  rw [h.duty]
  exact poised

/-- What takes a while, and then something for which other time is given. -/
theorem wp_within_spends {p : Act α} {g : α → Act β} (first : discipline.wp t p (fun _ γ' s' => Within t κ n a (γ', s')) γ s)
    (next : ∀ x γ' s', Within t κ n a (γ', s') →
      discipline.wp t (g x) (fun _ γ'' s'' => Spends t κ m (γ', s') (γ'', s'')) γ' s') :
    discipline.wp t (p >>= g) (fun _ γ' s' => Spends t κ (n + m) a (γ', s')) γ s :=
  Wp.seq first (fun x γ' s' w => Wp.mono (next x γ' s' w) fun _ _ _ w' => w.spends.trans w') fun _ _ _ w =>
    w.spends.mono le_self_add

/-! ## To start a process -/

/-- What a task has in hand that starts the process of a session, and when it has. -/
def Duty.embark (d : Duty) (i : Nat) (quota : Grant) : Duty := { d with opening := some i, quota := quota }

def Duty.land (d : Duty) : Duty := { d with opening := none }

/-- Nobody has started a process for a session or is about to. -/
structure Untried (i : Nat) (γ : Roster) (s : World) : Prop where
  unused : ¬ γ.used i
  bound : i < s.ledger.sessions.length
  nobody : ∀ u, (γ.duty u).opening ≠ some i
  started : ∀ x, s.ledger.sessions[i]? = some x → x.state ≠ .notStarted

/-- What a task has in hand does not matter to who asks and who waits, as long as it is about the same. -/
theorem Tables.recharge (h : Tables γ L l) (asking : d.asking = (γ.duty t).asking)
    (fresh : ∀ (j : Nat) (x : Session), L.sessions[j]? = some x → x.state = .notStarted → d.opening ≠ some j)
    (openers : ∀ j, d.opening = some j → ¬ γ.used j ∧ j < L.sessions.length ∧ ∀ u, (γ.duty u).opening = some j → u = t) :
    Tables (γ.charge t d) L l := by
  have same (u : Nat) : ((γ.charge t d).duty u).asking = (γ.duty u).asking := by
    by_cases e : u = t
    · subst e
      rw [Roster.charge_self, asking]
    · rw [Roster.charge_ne _ _ e]
  exact
    { h with
      entries := fun i x n k found mem => by
        obtain ⟨u, q, asking, rest⟩ := h.entries i x n k found mem
        exact ⟨u, q, (same u).trans asking, rest⟩
      listed := fun u q x e => h.listed u q x ((same u).symm.trans e)
      closed := fun i x n k found shut mem => by
        obtain ⟨u, q, asking, rest⟩ := h.closed i x n k found shut mem
        exact ⟨u, q, (same u).trans asking, rest⟩
      fresh := fun j x found new => by
        refine ⟨(h.fresh j x found new).1, fun u => ?_⟩
        by_cases e : u = t
        · subst e
          rw [Roster.charge_self]
          exact fresh j x found new
        · rw [Roster.charge_ne _ _ e]
          exact (h.fresh j x found new).2 u
      openers := fun u j e => by
        have sole {v : Nat} (e' : ((γ.charge t d).duty v).opening = some j) (mine : d.opening = some j) : v = t := by
          by_cases same : v = t
          · exact same
          · rw [Roster.charge_ne _ _ same] at e'
            exact (openers j mine).2.2 v e'
        by_cases here : u = t
        · subst here
          rw [Roster.charge_self] at e
          exact ⟨(openers j e).1, (openers j e).2.1, fun v e' => sole e' e⟩
        · rw [Roster.charge_ne _ _ here] at e
          obtain ⟨unused, bound, alone⟩ := h.openers u j e
          refine ⟨unused, bound, fun v e' => ?_⟩
          by_cases same : v = t
          · subst same
            rw [Roster.charge_self] at e'
            exact ((openers j e').2.2 u e).symm
          · rw [Roster.charge_ne _ _ same] at e'
            exact alone v e' }

theorem Inv.recharge (h : Inv o γ s) (tables : Tables (γ.charge t d) s.ledger s.loop) (asking : d.asking = (γ.duty t).asking)
    (unsent : d.unsent = (γ.duty t).unsent) (queued : d.queued = (γ.duty t).queued) (holds : d.holds = (γ.duty t).holds) :
    Inv o (γ.charge t d) s where
  tickets := h.tickets.charge
  tasks := h.tasks.charge
  locked p := (h.locked p).charge (fun k => by rw [queued]) fun mine => by rwa [holds]
  queuers u p k e := by
    refine h.queuers u p k ?_
    by_cases same : u = t
    · subst same
      rwa [Roster.charge_self, queued] at e
    · rwa [Roster.charge_ne _ _ same] at e
  asked := h.asked.charge asking unsent
  tables := tables
  servers := h.servers
  homes := h.homes
  idle := h.idle
  getters := h.getters
  plain := h.plain

/-- An attempt to start a process is noted. -/
theorem Inv.attempt (h : Inv o γ s) (command : List String) (cwd : Datum) : Inv o γ (s.attempt command cwd) where
  tickets := h.tickets.same rfl rfl
  tasks := { h.tasks with }
  locked p := (h.locked p).of_lock (by cases p <;> rfl)
  queuers := h.queuers
  asked := { h.asked with }
  tables := { h.tables with }
  servers := h.servers
  homes pid i e := by
    obtain ⟨n, bound, same⟩ := h.homes pid i e
    exact ⟨n, Nat.lt_succ_of_lt bound, same⟩
  idle := h.idle
  getters := h.getters
  plain := h.plain

/-- The process of the next attempt was not started for any session. -/
theorem Inv.homeless (h : Inv o γ s) : γ.home (World.pidOf s.attempts) = none := by
  rcases e : γ.home (World.pidOf s.attempts) with _ | i
  · rfl
  · obtain ⟨n, bound, same⟩ := h.homes _ i e
    exact absurd (Nat.add_left_cancel same) (Nat.ne_of_gt bound)

/-- A process is started for a session for which none was started by that attempt. -/
theorem Inv.house {pid : Nat} (h : Inv o γ s) (fresh : γ.home pid = none)
    (attempted : ∃ n, n < s.ledger.attempts ∧ pid = World.pidOf n) (i : Nat) : Inv o (γ.house pid i) s := by
  have kept {n j : Nat} (e : γ.home n = some j) : (γ.house pid i).home n = some j := by
    rw [Roster.house_ne]
    · exact e
    · rintro rfl
      cases fresh.symm.trans e
  exact
    { h with
      tickets := { h.tickets with
        proper := fun k u use r e e' => ⟨(h.tickets.proper k u use r e e').relay, (h.tickets.proper k u use r e e').wait⟩
        awaited := { h.tickets.awaited with } }
      tasks := { h.tasks with }
      locked := fun p => { h.locked p with }
      asked := { h.asked with
        written := ⟨h.asked.written.1, fun w hw =>
          ⟨(h.asked.written.2 w hw).1, (h.asked.written.2 w hw).2.1, kept (h.asked.written.2 w hw).2.2⟩⟩ }
      tables := { h.tables with }
      servers := fun j T k found held => by
        obtain ⟨n, here, home⟩ := h.servers j T k found held
        exact ⟨n, here, kept home⟩
      homes := fun n j e => by
        by_cases same : n = pid
        · rw [same]
          exact attempted
        · exact h.homes n j ((γ.house_ne i same).symm.trans e) }

theorem bill_attempt {command : List String} {cwd : Datum} {g : Grant} (first : g.launched = false) :
    s.launch g = World.bill t s (s.attempt command cwd) g := by
  have not : ¬ (s.supervisor.lifecycleLock.held = false ∧
      (s.attempt command cwd).supervisor.lifecycleLock.held = true) := by
    rintro ⟨free, taken⟩
    cases free.symm.trans taken
  have more : (s.attempt command cwd).attempts ≠ s.attempts := Nat.succ_ne_self _
  simp [World.bill, World.advance, if_neg not, more, first, World.launch]

/-- The roster of a task that starts the process of a session. -/
def Roster.embark (γ : Roster) (t i pid : Nat) (quota : Grant) : Roster :=
  (γ.charge t ((γ.duty t).embark i quota)).house pid i

theorem Roster.embark_self (γ : Roster) (t i pid : Nat) (quota : Grant) :
    (γ.embark t i pid quota).duty t = (γ.duty t).embark i quota := γ.charge_self t _

/-- A task starts the process of a session. -/
theorem Fit.embark (h : Fit t κ γ s) (asking : (γ.duty t).asking = none)
    (first : (γ.duty t).quota.launched = false) (untried : Untried i γ s) (command : List String) (cwd : Datum) :
    Acts t (World.attempt command cwd) (γ, s) (γ.embark t i (World.pidOf s.attempts) (s.launch (γ.duty t).quota)) ∧
      Fit t κ (γ.embark t i (World.pidOf s.attempts) (s.launch (γ.duty t).quota)) (s.attempt command cwd) := by
  have tables : Tables (γ.charge t ((γ.duty t).embark i (s.launch (γ.duty t).quota))) s.ledger s.loop := by
    refine h.inv.tables.recharge rfl (fun j x found new e => ?_) fun j e => ?_
    · cases e
      exact untried.started x found new
    · cases e
      exact ⟨untried.unused, untried.bound, fun u e => absurd e (untried.nobody u)⟩
  have moves {w : World} : γ.Moves t w (γ.embark t i (World.pidOf s.attempts) (s.launch (γ.duty t).quota)) :=
    { Roster.Moves.charge (t := t) (s := w) (γ := γ) (d := (γ.duty t).embark i (s.launch (γ.duty t).quota)) (.of_eq rfl) with
      home := fun pid j e => by
        refine (Roster.house_ne _ _ ?_).trans e
        rintro rfl
        cases h.inv.homeless.symm.trans e }
  have inv := ((h.inv.recharge tables rfl rfl rfl rfl).attempt command cwd).house h.inv.homeless
    ⟨s.attempts, Nat.lt_succ_self _, rfl⟩ i
  refine ⟨acts_silent moves rfl ⟨Nat.le_refl _, fun _ _ e => e, rfl⟩ (fun _ _ e => e) ?_, inv, h.kind, h.alarm, ?_⟩
  · rw [Roster.embark_self]
    exact bill_attempt first
  · have limit := h.limit
    rw [Roster.embark_self]
    simp only [Duty.limit, Duty.embark, asking, Option.map_none, Option.getD_none, le_min_iff, le_top, and_true] at limit ⊢
    exact le_trans limit le_self_add

/-- What a task has in hand that has started the process of a session, with the time that it was given for it. -/
structure Launched (t : Nat) (κ : TaskKind) (i : Nat) (a b : Roster × World) : Prop where
  fit : Fit t κ b.1 b.2
  stays : Stays t (a.1.charge t ((a.1.duty t).embark i (b.1.duty t).quota), a.2) b
  room : ∀ c, (a.2.loop.now : ℕ∞) + c ≤ (a.1.duty t).quota.time → (b.2.loop.now : ℕ∞) + c ≤ (b.1.duty t).quota.time
  unused : ¬ b.1.used i

theorem Launched.still (h : Launched t κ i a b) (more : Still t κ b c) : Launched t κ i a c := by
  have duty : c.1.duty t = b.1.duty t := more.stays.duty
  refine ⟨more.fit, ?_, fun n room => ?_, fun used => ?_⟩
  · rw [duty]
    exact h.stays.trans more.stays
  · rw [duty, more.now]
    exact h.room n room
  · refine h.unused (more.stays.opener i ?_ used)
    rw [show b.1.duty t = _ from h.stays.duty, Roster.charge_self]
    rfl

/-- The process of an attempt is there. -/
theorem passive_addServer (attempt : Nat) (script : Script) (s : World) : Passive s (s.addServer attempt script) := by
  have added : Passive s { s with servers := s.servers ++ [Server.fresh (World.pidOf attempt) script] } :=
    { ledger := rfl
      does := .refl _
      tasks := rfl
      unfed := fun _ h => h
      told := fun _ _ h => .inl h
      awaited := by
        rintro k ⟨p, mem, waits⟩
        rcases List.mem_append.mp mem with old | new
        · exact ⟨p, old, waits⟩
        · rw [List.mem_singleton.mp new] at waits
          rcases waits with exit | ⟨c, d, waits⟩
          · cases exit
          · cases c <;> cases waits
      servers :=
        { streams := fun p mem c k d waits => by
            rcases List.mem_append.mp mem with old | new
            · exact ⟨p, old, waits⟩
            · rw [List.mem_singleton.mp new] at waits
              cases c <;> cases waits
          exits := fun j p found k mem => by
            rcases Nat.lt_trichotomy j s.servers.length with old | rfl | beyond
            · exact ⟨p, by rwa [List.getElem?_append_left old] at found, mem⟩
            · rw [List.getElem?_concat_length] at found
              cases found
              cases mem
            · rw [List.getElem?_eq_none (by simpa using beyond)] at found
              cases found
          mortal := fun all p mem => by
            rcases List.mem_append.mp mem with old | new
            · exact all p old
            · rw [List.mem_singleton.mp new]
              exact fun k mem => by cases mem
          stays := fun j p found => ⟨p, by rwa [List.getElem?_append_left (List.getElem?_eq_some_iff.mp found).1], fun h => h,
            fun _ mem _ => .inl mem⟩
          rung := fun _ _ e => .inl e }
      pids := fun j pid here => by
        obtain ⟨p, found, e⟩ := Option.map_eq_some_iff.mp here
        have bound := (List.getElem?_eq_some_iff.mp found).1
        simpa only [World.pidAt?, List.getElem?_append_left bound] using here
      dead := fun j pid here alive => by
        obtain ⟨p, found, e⟩ := Option.map_eq_some_iff.mp here
        have bound := (List.getElem?_eq_some_iff.mp found).1
        simpa only [World.isAlive, List.getElem?_append_left bound] using alive }
  exact added.trans (.withServer _ (fun x => Living.stirs_perform ..) _)

theorem pidAt?_addServer (attempt : Nat) (script : Script) (s : World) :
    (s.addServer attempt script).pidAt? s.servers.length = some (World.pidOf attempt) := by
  have here : World.pidAt? { s with servers := s.servers ++ [Server.fresh (World.pidOf attempt) script] } s.servers.length =
      some (World.pidOf attempt) := by
    simp only [World.pidAt?, List.getElem?_concat_length, Option.map_some, Server.fresh]
  exact (Passive.withServer _ (fun x => Living.stirs_perform ..) _).pids _ _ here

/-- A task starts a process. -/
theorem wp_spawn (h : Fit t κ γ s) (foreground : ¬ κ.IsBackground) (poised : (γ.duty t).Poised)
    (first : (γ.duty t).quota.launched = false) (untried : Untried i γ s) {T : Transport} {command : String} :
    discipline.wp t (Transport.spawn T command) (fun r γ' s' => Launched t κ i (γ, s) (γ', s') ∧
      (∀ j, r = .ok j → ∃ pid, s'.pidAt? j = some pid ∧ γ'.home pid = some i) ∧ ∀ f, r = .error f → f.isTransport = true)
      γ s := by
  obtain ⟨acts, fit⟩ := h.embark poised.asking first untried (command :: T.args) T.cwd
  have duty := γ.embark_self t i (World.pidOf s.attempts) (s.launch (γ.duty t).quota)
  have limit := h.limit
  rw [poised.limit] at limit
  have length : nanosOf (World.scriptOf s.scripts s.attempts).spawnDelay = s.spawnTime := rfl
  refine Wp.yield _ acts ?_
  refine Wp.seq (wp_sleep fit foreground ?_ (World.scriptOf s.scripts s.attempts).spawnDelay ?_) ?_ ?_
  · rw [duty]
    exact ⟨poised.pipes, poised.documents, poised.queued, poised.closing⟩
  · rw [duty, length]
    simp only [Duty.limit, Duty.embark, poised.asking, Option.map_none, Option.getD_none, le_top, inf_of_le_left]
    exact add_le_add_left limit _
  · rintro _ γ₁ s₁ ⟨-, slept⟩
    have shift := Still.shift acts.onward fit rfl rfl fun _ e => e
    have duty₁ : γ₁.duty t = (γ.duty t).embark i (s.launch (γ.duty t).quota) := slept.stays.duty.trans duty
    have launched : Launched t κ i (γ, s) (γ₁, s₁) := by
      refine ⟨slept.fit, ?_, fun n room => ?_, fun used => ?_⟩
      · have stays := shift.stays.trans slept.stays
        rw [duty] at stays
        rw [duty₁]
        exact stays
      · rw [duty₁]
        refine le_trans (add_le_add_left slept.time n) ?_
        rw [length, add_right_comm]
        exact add_le_add_left room _
      · exact untried.unused (slept.stays.opener i (by rw [show Roster.duty (γ.embark t i _ _) t = _ from duty]; rfl) used)
    have home := slept.stays.home _ i (Roster.house_self ..)
    split
    · have step := launched.fit.passive (f := World.addServer s.attempts (World.scriptOf s.scripts s.attempts))
        (passive_addServer ..)
      refine ⟨_, step.acts, launched.still step.still, fun j e => ?_, fun f e => (by cases e)⟩
      cases e
      exact ⟨_, pidAt?_addServer .., home⟩
    · exact ⟨launched, fun j e => (by cases e), fun f e => (by cases e; rfl)⟩
    · exact ⟨launched, fun j e => (by cases e), fun f e => (by cases e; rfl)⟩
    · exact ⟨launched, fun j e => (by cases e), fun f e => (by cases e; rfl)⟩
  · rintro f γ₁ s₁ ⟨⟨⟩, -⟩

/-- A session has a process from now on. -/
theorem Inv.use (h : Inv o γ s) (bound : i < s.ledger.sessions.length) (nobody : ∀ u, (γ.duty u).opening ≠ some i)
    (started : ∀ x, s.ledger.sessions[i]? = some x → x.state ≠ .notStarted) : Inv o (γ.use i) s where
  tickets := { h.tickets with
    proper := fun k u use r e e' => ⟨(h.tickets.proper k u use r e e').relay, (h.tickets.proper k u use r e e').wait⟩
    awaited := { h.tickets.awaited with } }
  tasks := { h.tasks with }
  locked p := { h.locked p with }
  queuers := h.queuers
  asked := { h.asked with }
  tables :=
    { h.tables with
      bare := fun j T found unused => h.tables.bare j T found fun used => unused (.inr used)
      fresh := fun j x found new => by
        obtain ⟨unused, unopened⟩ := h.tables.fresh j x found new
        refine ⟨?_, unopened⟩
        rintro (rfl | used)
        · exact started x found new
        · exact unused used
      openers := fun u j e => by
        obtain ⟨unused, bound, sole⟩ := h.tables.openers u j e
        refine ⟨?_, bound, sole⟩
        rintro (rfl | used)
        · exact nobody u e
        · exact unused used
      bound := fun j used => by
        rcases used with rfl | used
        · exact bound
        · exact h.tables.bound j used
      held := fun j e => .inr (h.tables.held j e) }
  servers := h.servers
  homes := h.homes
  idle j x found unused := h.idle j x found fun used => unused (.inr used)
  getters := h.getters
  plain := h.plain

/-- The roster of a task that has started the process of a session. -/
def Roster.board (γ : Roster) (t i : Nat) : Roster := (γ.charge t (γ.duty t).land).use i

/-- A transport gets the process that was started for it. -/
theorem Fit.board (h : Fit t κ γ s) (opening : (γ.duty t).opening = some i) (there : ∃ pid, s.pidAt? j = some pid ∧ γ.home pid = some i) :
    Acts t (World.setTransport i fun T => { T with server := some j }) (γ, s) (γ.board t i) ∧
      Fit t κ (γ.board t i) (s.setTransport i fun T => { T with server := some j }) := by
  obtain ⟨unused, bound, sole⟩ := h.inv.tables.openers t i opening
  have landed : Inv (some t) (γ.charge t (γ.duty t).land) s :=
    h.inv.recharge (h.inv.tables.recharge rfl (fun _ _ _ _ e => by cases e) fun _ e => by cases e) rfl rfl rfl rfl
  have boarded : Inv (some t) (γ.board t i) s := by
    refine landed.use bound (fun u e => ?_) fun x found new => (h.inv.tables.fresh i x found new).2 t opening
    by_cases same : u = t
    · subst same
      rw [Roster.charge_self] at e
      cases e
    · rw [Roster.charge_ne _ _ same] at e
      exact same (sole u e)
  have moves {w : World} : γ.Moves t w (γ.board t i) :=
    { Roster.Moves.charge (t := t) (s := w) (γ := γ) (d := (γ.duty t).land) (.of_eq rfl) with
      used := fun _ used => .inr used
      opener := fun u j ne e used => by
        rcases used with rfl | used
        · exact absurd (sole u e) ne
        · exact used }
  refine ⟨acts_silent moves rfl (World.lasts_setTransport i _ s) (fun j used e => ?_) ?_,
    boarded.setTransport (fun _ => rfl) (fun T e found drain => boarded.tasks.drains i T e found drain)
      (fun _ _ unused => absurd (.inl rfl) unused) fun T k _ e => by cases e; exact there, h.kind, h.alarm, ?_⟩
  · have ne : i ≠ j := by
      rintro rfl
      exact unused used
    simpa only [World.isConnected, World.serverOf?, World.isAlive, World.setTransport, List.getElem?_modify_ne _ _ ne] using e
  · rw [show (γ.board t i).duty t = (γ.duty t).land from γ.charge_self t _]
    exact bill_same rfl rfl
  · rw [show (γ.board t i).duty t = (γ.duty t).land from γ.charge_self t _]
    exact h.limit

/-- Whoever has started a process, or failed to, has spent nothing but the time that it was given for it. -/
theorem Launched.land {f : World → World} (h : Launched t κ i a (γ, s)) (poised : (a.1.duty t).Poised)
    (acts : Acts t f (γ, s) γ') (landed : γ'.duty t = (γ.duty t).land) (fit : Fit t κ γ' (f s)) (loop : (f s).loop = s.loop) :
    Spends t κ 0 a (γ', f s) := by
  have before : γ.duty t = (a.1.duty t).embark i (γ.duty t).quota := h.stays.duty.trans (Roster.charge_self ..)
  have duty : γ'.duty t = (a.1.duty t).grant (γ.duty t).quota := by
    rw [landed, before]
    simp only [Duty.land, Duty.embark, Duty.grant, poised.opening]
  have onward : Onward a (γ, s) := { h.stays.toOnward with }
  refine ⟨fit, ⟨{ onward.trans acts.onward with }, ?_, fun k mine e => ?_, fun j e => ?_⟩, fun n room => ?_⟩
  · rw [duty]
    exact (Roster.charge_self ..).symm
  · rw [loop] at e
    exact h.stays.requests k mine e
  · rw [show Roster.duty (a.1.charge t _) t = _ from Roster.charge_self .., Duty.grant, poised.opening] at e
    cases e
  · rw [duty, loop]
    exact h.room n (by rwa [zero_add] at room)

/-- How the start of the process of a session ends. -/
def Connects (t : Nat) (κ : TaskKind) (i : Nat) (a : Roster × World) (r : Except Fault Unit) (b : Roster × World) : Prop :=
  (r = .ok () ∧ Spends t κ 0 a b ∧ b.1.used i) ∨
    ∃ f, r = .error f ∧ (b = a ∨ f.isTransport = true ∧ Launched t κ i a b)

/-- A task starts the process of a session. -/
theorem wp_connect (h : Fit t κ γ s) (foreground : ¬ κ.IsBackground) (poised : (γ.duty t).Poised)
    (first : (γ.duty t).quota.launched = false) (untried : Untried i γ s) :
    discipline.wp t (Transport.connect i) (fun r γ' s' => Connects t κ i (γ, s) r (γ', s')) γ s := by
  refine wp_getTransport (fun T found => ?_) fun _ => .inr ⟨_, rfl, .inl rfl⟩
  split
  · exact .inr ⟨_, rfl, .inl rfl⟩
  · refine Wp.seq (P := fun r γ' s' => γ' = γ ∧ s' = s) ?_ ?_ ?_
    · unfold Transport.commandText
      split <;> exact ⟨rfl, rfl⟩
    · rintro command γ₁ s₁ ⟨rfl, rfl⟩
      refine Wp.seq (wp_spawn h foreground poised first untried) ?_ ?_
      · rintro j γ₂ s₂ ⟨launched, there, -⟩
        have opening : (γ₂.duty t).opening = some i := by
          rw [show γ₂.duty t = _ from launched.stays.duty, Roster.charge_self]
          rfl
        obtain ⟨acts, fit⟩ := launched.fit.board (j := j) opening (there j rfl)
        have spends := launched.land poised acts (Roster.charge_self ..) fit rfl
        refine Wp.change _ acts (wp_start fit trivial fun γ₃ s₃ still ends loop => ?_)
        have drained := still.fit.setTransport (i := i)
          (f := fun T => { T with drain := some (s₂.setTransport i fun T => { T with server := some j }).loop.tickets.length })
          (fun _ => rfl) (fun T e _ drain => ?_) fun _ => .inr rfl
        · refine Wp.update _ drained.acts (.inl ⟨rfl, ?_, drained.still.stays.used i (still.stays.used i (.inl rfl))⟩)
          exact (add_zero (0 : ℕ∞)) ▸ spends.trans (still.trans drained.still).spends
        · obtain rfl := Option.some.inj drain
          refine ⟨_, j, ends.1, ?_⟩
          rw [loop]
          simp [Loop.kind?, Loop.tasks_start]
      · rintro f γ₂ s₂ ⟨launched, -, transport⟩
        exact .inr ⟨f, rfl, .inr ⟨transport f rfl, launched⟩⟩
    · rintro f γ₁ s₁ ⟨rfl, rfl⟩
      exact .inr ⟨f, rfl, .inl rfl⟩

end Clock

end LspHost
