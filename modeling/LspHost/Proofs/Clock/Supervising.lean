import Mathlib.Tactic.Ring
import LspHost.Proofs.Clock.Calling

/-!
# Lifecycle operations in time

Who carries out an operation of the lifecycle is given its time when it takes the lock (`Operation.allowance`), and keeps
to it: a start takes as long as its process takes to start and its handshake may take, and three seconds more if that
fails (`wp_doStart`), a stop takes twice as long as a shutdown may take, and two seconds more if the process must be forced
(`wp_doStop`), and a restart takes as long as both (`wp_doRestart`).
-/

namespace LspHost

/-- A session that was not opened yet, and its transport. -/
def World.enrol (server : ServerConfig) (options : SessionOptions) (s : World) : World :=
  { s with
    transports := s.transports ++ [Transport.ofConfig s.env server]
    sessions := s.sessions ++ [Session.fresh options s.transports.length] }

/-- The supervisor holds another session, or none. -/
def World.hold (session : Option Nat) (s : World) : World := s.setSupervisor fun v => { v with session := session }

/-- The elements of a list and one more behind. -/
theorem getElem?_concat_cases {α : Type} {xs : List α} {y z : α} {i : Nat} (h : (xs ++ [y])[i]? = some z) :
    xs[i]? = some z ∨ i = xs.length ∧ z = y := by
  rcases Nat.lt_or_ge i xs.length with old | new
  · exact .inl (by rwa [List.getElem?_append_left old] at h)
  · have bound := (List.getElem?_eq_some_iff.mp h).1
    rw [List.length_append, List.length_singleton] at bound
    obtain rfl : i = xs.length := Nat.le_antisymm (Nat.le_of_lt_succ bound) new
    rw [List.getElem?_concat_length] at h
    exact .inr ⟨rfl, (Option.some.inj h).symm⟩

theorem getElem?_concat_old {α : Type} {xs : List α} {z : α} {i : Nat} (y : α) (h : xs[i]? = some z) :
    (xs ++ [y])[i]? = some z := by
  rw [List.getElem?_append_left (List.getElem?_eq_some_iff.mp h).1]
  exact h

namespace Clock

open Discipline

variable {t u i j k : Nat} {o : Option Nat} {κ : TaskKind} {γ γ' : Roster} {s s' : World} {L : Ledger} {l : Loop} {d : Duty}
  {x : Session} {a b c : Roster × World} {n m : ℕ∞} {time grace : Seconds} {α β : Type}

/-! ## Sessions come and go -/

theorem ledger_enrol (server : ServerConfig) (options : SessionOptions) (s : World) :
    (s.enrol server options).ledger = { s.ledger with
      transports := s.transports ++ [Transport.ofConfig s.env server]
      sessions := s.ledger.sessions ++ [Session.fresh options s.transports.length] } := by
  simp only [World.ledger, World.enrol, List.map_append, List.map_cons, List.map_nil]
  rfl

theorem Inv.enrol (h : Inv o γ s) (server : ServerConfig) (options : SessionOptions) : Inv o γ (s.enrol server options) := by
  have lengths : s.ledger.sessions.length = s.transports.length := h.tables.paired.1
  have unused : ¬ γ.used s.transports.length := fun used =>
    absurd (h.tables.bound _ used) (by rw [lengths]; exact Nat.lt_irrefl _)
  have lock (p : Place) : (s.enrol server options).ledger.lock p = s.ledger.lock p := by
    rw [ledger_enrol]
    cases p with
    | lifecycle | documents => rfl
    | writing i =>
      show (((s.transports ++ [Transport.ofConfig s.env server])[i]?).map Transport.writing).getD .free = _
      rcases Nat.lt_trichotomy i s.transports.length with old | rfl | far
      · rw [List.getElem?_append_left old]; rfl
      · have before : s.transports[s.transports.length]? = none := List.getElem?_eq_none (Nat.le_refl _)
        simp only [Ledger.lock, World.ledger, before, List.getElem?_concat_length]
        rfl
      · have before : s.transports[i]? = none := List.getElem?_eq_none (Nat.le_of_lt far)
        have after : (s.transports ++ [Transport.ofConfig s.env server])[i]? = none :=
          List.getElem?_eq_none (by rw [List.length_append]; exact far)
        simp only [Ledger.lock, World.ledger, before, after]
  have asked := h.asked
  have tables := h.tables
  refine
    { tickets := h.tickets.same rfl rfl
      tasks := ?_
      locked := fun p => (h.locked p).of_lock (lock p)
      queuers := h.queuers
      asked := ?_
      tables := ?_
      servers := ?_
      homes := h.homes
      idle := ?_
      getters := h.getters
      plain := h.plain }
  · rw [ledger_enrol]
    refine { h.tasks with drains := fun j U e found drain => ?_, readers := fun j y e found reader => ?_ }
    · rcases getElem?_concat_cases found with old | ⟨-, rfl⟩
      · exact h.tasks.drains j U e old drain
      · cases drain
    · rcases getElem?_concat_cases found with old | ⟨-, rfl⟩
      · exact h.tasks.readers j y e old reader
      · cases reader
  · rw [ledger_enrol]
    refine { asked with numbers := fun j y found => ?_, sessions := fun q hq => ?_, patience := fun q hq => ?_ }
    · rcases getElem?_concat_cases found with old | ⟨rfl, rfl⟩
      · exact asked.numbers j y old
      · have nobody : (γ.asks.filter fun q => q.session = s.ledger.sessions.length) = [] :=
          List.filter_eq_nil_iff.mpr fun q hq => by simpa using Nat.ne_of_lt (asked.sessions q hq)
        rw [nobody]
        rfl
    · rw [List.length_append]
      exact Nat.lt_of_lt_of_le (asked.sessions q hq) (Nat.le_add_right ..)
    · obtain ⟨κ, x, kind, found, rest⟩ := asked.patience q hq
      exact ⟨κ, x, kind, getElem?_concat_old _ found, rest⟩
  · rw [ledger_enrol]
    refine
      { paired := ⟨by simp [lengths], fun j y found => ?_⟩
        entries := fun j y n k found mem => ?_
        listed := fun u q y asking none found => ?_
        closed := fun j y n k found shut mem => ?_
        bare := fun j U found unused => ?_
        fresh := fun j y found new => ?_
        openers := fun u j opening => ?_
        bound := fun j used => ?_
        held := tables.held }
    · rcases getElem?_concat_cases found with old | ⟨rfl, rfl⟩
      · exact tables.paired.2 j y old
      · exact lengths.symm
    · rcases getElem?_concat_cases found with old | ⟨-, rfl⟩
      · exact tables.entries j y n k old mem
      · cases mem
    · rcases getElem?_concat_cases found with old | ⟨same, -⟩
      · exact tables.listed u q y asking none old
      · exact absurd (asked.sessions q (asked.asking u q asking).1) (by rw [same]; exact Nat.lt_irrefl _)
    · rcases getElem?_concat_cases found with old | ⟨-, rfl⟩
      · exact tables.closed j y n k old shut mem
      · cases mem
    · rcases getElem?_concat_cases found with old | ⟨-, rfl⟩
      · exact tables.bare j U old unused
      · rfl
    · rcases getElem?_concat_cases found with old | ⟨rfl, -⟩
      · exact tables.fresh j y old new
      · refine ⟨by rwa [lengths], fun u opening => ?_⟩
        exact absurd (tables.openers u _ opening).2.1 (Nat.lt_irrefl _)
    · obtain ⟨unused, bound, alone⟩ := tables.openers u j opening
      exact ⟨unused, by rw [List.length_append]; exact Nat.lt_of_lt_of_le bound (Nat.le_add_right ..), alone⟩
    · rw [List.length_append]
      exact Nat.lt_of_lt_of_le (tables.bound j used) (Nat.le_add_right ..)
  · intro j U k found held
    rw [ledger_enrol] at found
    rcases getElem?_concat_cases found with old | ⟨-, rfl⟩
    · exact h.servers j U k old held
    · cases held
  · intro j y found unused
    rw [ledger_enrol] at found
    rcases getElem?_concat_cases found with old | ⟨-, rfl⟩
    · exact h.idle j y old unused
    · rfl

theorem lasts_enrol (server : ServerConfig) (options : SessionOptions) (s : World) : s.Lasts (s.enrol server options) := by
  refine ⟨by simp [World.enrol], fun i o e => ?_, rfl⟩
  obtain ⟨x, found, rfl⟩ := Option.map_eq_some_iff.mp e
  simp only [World.enrol, getElem?_concat_old _ found, Option.map_some]

/-- A new session does not matter to those that have had a process. -/
theorem Inv.isConnected_enrol (h : Inv o γ s) {server : ServerConfig} {options : SessionOptions} (used : γ.used i) :
    (s.enrol server options).isConnected i = s.isConnected i := by
  have bound : i < s.transports.length := Nat.lt_of_lt_of_eq (h.tables.bound i used) h.tables.paired.1
  have held : (s.enrol server options).serverOf? i = s.serverOf? i := by
    simp only [World.serverOf?, World.enrol, List.getElem?_append_left bound]
  simp only [World.isConnected, held]
  rfl

/-- A task makes a session. -/
theorem Fit.enrol (h : Fit t κ γ s) (server : ServerConfig) (options : SessionOptions) :
    Step t κ (World.enrol server options) γ s γ := by
  have act : Acts t (World.enrol server options) (γ, s) γ :=
    acts_silent (.refl t γ) rfl (lasts_enrol server options s)
      (fun i used connected => by rwa [h.inv.isConnected_enrol used] at connected) (bill_same rfl rfl)
  exact act.step ⟨h.inv.enrol server options, h.kind, h.alarm, h.limit⟩ rfl rfl fun _ _ e => e

theorem Inv.hold (h : Inv o γ s) {session : Option Nat} (used : ∀ i, session = some i → γ.used i) :
    Inv o γ (s.hold session) where
  tickets := h.tickets.same rfl rfl
  tasks := { h.tasks with }
  locked p := (h.locked p).of_lock (by cases p <;> rfl)
  queuers := h.queuers
  asked := { h.asked with }
  tables := { h.tables with held := used }
  servers := h.servers
  homes := h.homes
  idle := h.idle
  getters := h.getters
  plain := ⟨h.plain.reused, h.plain.legible⟩

/-- A task gives the present session up, or takes up another. -/
theorem Fit.hold (h : Fit t κ γ s) (session : Option Nat) (used : ∀ i, session = some i → γ.used i) :
    Step t κ (World.hold session) γ s γ := by
  have act : Acts t (World.hold session) (γ, s) γ :=
    acts_silent (.refl t γ) rfl ⟨Nat.le_refl _, fun _ _ e => e, rfl⟩ (fun _ _ e => e) (bill_same rfl rfl)
  exact act.step ⟨h.inv.hold used, h.kind, h.alarm, h.limit⟩ rfl rfl fun _ _ e => e

/-! ## News -/

/-- While nobody waits for events, news wakes nobody. -/
theorem publish_quiet (nobody : s.getters = []) (e : Event) :
    s.publish e = { s.record (.published e) with broker := s.broker.publish e } := by
  have idle (queues : List Nat) {s : World} (nobody : s.getters = []) :
      queues.foldl (fun s queue => World.wakeGetter queue s) s = s := by
    induction queues with
    | nil => rfl
    | cons q rest ih => rw [List.foldl_cons, show s.wakeGetter q = s by simp [World.wakeGetter, nobody], ih]
  exact idle (s := { s.record (.published e) with broker := s.broker.publish e }) _ nobody

theorem passive_publish (nobody : s.getters = []) (e : Event) : Passive s (s.publish e) := by
  rw [publish_quiet nobody]
  exact .still (World.ledger_record rfl rfl s) rfl rfl

/-- A task tells the news of a session. -/
theorem wp_publish {type : EventType} {session : Option Nat} {message : String} {g : Unit → Act β}
    {Q : Except Fault β → Roster → World → Prop} (h : Fit t κ γ s)
    (next : ∀ s', Still t κ (γ, s) (γ, s') → s'.supervisor = s.supervisor → discipline.wp t (g ()) Q γ s') :
    discipline.wp t (Supervisor.publish type session message >>= g) Q γ s := by
  refine wp_passive h (passive_publish h.inv.getters _) fun still => next _ still ?_
  rw [World.publishLifecycle, publish_quiet h.inv.getters]
  rfl

/-! ## Operations -/

/-- Tasks that carry out operations of the lifecycle. -/
structure Leading (κ : TaskKind) : Prop where
  foreground : ¬ κ.IsBackground
  opens : ∀ o c, κ.patience o c (.str "initialize") = some o.handshakeTimeout
  closes : ∀ o c, κ.patience o c (.str "shutdown") = some c.timeouts.shutdownGrace

/-- How long it takes to close a session. -/
def stopTime (c : Config) : ℕ∞ := c.timeouts.shutdownGrace.limit + (c.timeouts.shutdownGrace.limit + (second + second))

/-- How long it takes to open a session, beside the start of its process. -/
def startTime (c : Config) : ℕ∞ := c.timeouts.handshake.limit + (second + (second + second))

/-- A task makes the session that it is to open. -/
theorem wp_nextSession {g : Nat → Act β} {Q : Except Fault β → Roster → World → Prop} (h : Fit t κ γ s)
    (next : ∀ options : SessionOptions, options.handshakeTimeout = s.supervisor.config.timeouts.handshake →
      Still t κ (γ, s) (γ, s.enrol s.supervisor.config.server options) →
        discipline.wp t (g s.sessions.length) Q γ (s.enrol s.supervisor.config.server options)) :
    discipline.wp t (Supervisor.nextSession >>= g) Q γ s := by
  have new : s.supervisor.reused = none := h.inv.plain.reused
  have step := h.enrol s.supervisor.config.server (Supervisor.sessionOptions s.supervisor)
  refine Wp.yield γ (step.acts.congr ?_) ?_
  · simp only [new]
    rfl
  · simp only [new]
    exact next _ rfl step.still

/-- A task takes up a session and tells it of all open documents. -/
theorem wp_takeUp (h : Fit t κ γ s) (foreground : ¬ κ.IsBackground) (free : (γ.duty t).Free) (used : γ.used i) :
    discipline.wp t (Supervisor.takeUp i) (fun _ γ' s' => Still t κ (γ, s) (γ', s')) γ s := by
  refine wp_withDocuments h foreground free fun γ₁ s₁ fit onward may => ?_
  have step := fit.hold (some i) fun j e => by cases e; exact onward.used i used
  have same := step.still.stays.duty
  refine Wp.change _ step.acts (Wp.look ?_)
  exact Wp.mono (wp_replay step.still.fit foreground may) fun _ _ _ told => step.still.trans told

/-- A start has failed. -/
theorem wp_startFailed {kind : ErrorKind} {f : Fault} (h : Fit t κ γ s) :
    discipline.wp t (Supervisor.startFailed i kind f) (fun _ γ' s' => Still t κ (γ, s) (γ', s')) γ s :=
  wp_publish h fun _ still _ => still

/-- A task opens a new session and takes it up. -/
theorem wp_launch (h : Fit t κ γ s) (leading : Leading κ) (poised : (γ.duty t).Poised)
    (first : (γ.duty t).quota.launched = false) (room : (s.loop.now : ℕ∞) + startTime s.supervisor.config ≤ (γ.duty t).quota.time) :
    discipline.wp t Supervisor.launch (fun _ γ' s' => Spends t κ (startTime s.supervisor.config) (γ, s) (γ', s')) γ s := by
  refine wp_nextSession h fun options length made => wp_publish made.fit fun s₁ told _ => ?_
  have ready := made.trans told
  have room₁ := ready.left (n := startTime s.supervisor.config) (by rw [poised.limit]; exact room)
  have poised₁ := ready.stays.poised poised
  rw [poised₁.limit] at room₁
  have enrolled : (s.enrol s.supervisor.config.server options).sessions[s.sessions.length]? =
      some (Session.fresh options s.transports.length) := List.getElem?_concat_length
  refine Wp.attempt_seq (wp_openSession told.fit leading.foreground poised₁ first leading.opens (fun y found => ?_) room₁) ?_
  · obtain ⟨z, found', same⟩ := World.Lasts.session told.stays.lasts enrolled
    cases found'.symm.trans found
    rw [same]
    exact length
  · rintro r γ₂ s₂ ⟨opened, used⟩
    have spent : Spends t κ (startTime s.supervisor.config) (γ, s) (γ₂, s₂) := by
      have all := ready.spends.trans opened
      rwa [zero_add] at all
    have after {γ₃ : Roster} {s₃ : World} (still : Still t κ (γ₂, s₂) (γ₃, s₃)) :
        Spends t κ (startTime s.supervisor.config) (γ, s) (γ₃, s₃) := by
      have all := spent.trans still.spends
      rwa [add_zero] at all
    have poised₂ := spent.poised poised
    split
    · refine Wp.seq (wp_takeUp spent.fit leading.foreground poised₂.toFree (used _ rfl)) (fun _ γ₃ s₃ taken => ?_)
        fun _ _ _ taken => after taken
      refine Wp.look (wp_publish taken.fit fun s₄ told₄ _ => Wp.look ?_)
      exact after (taken.trans told₄)
    · exact Wp.mono (wp_startFailed spent.fit) fun _ _ _ still => after still
    · split
      · exact Wp.mono (wp_startFailed spent.fit) fun _ _ _ still => after still
      · exact spent

/-- A task stops the present session. -/
theorem wp_stopSession (h : Fit t κ γ s)
    (closes : ∀ s', Still t κ (γ, s) (γ, s') → discipline.wp t (Session.closeSession i s.supervisor.config.timeouts.shutdownGrace)
      (fun _ γ'' s'' => Within t κ n (γ, s') (γ'', s'')) γ s') :
    discipline.wp t (Supervisor.stopSession i) (fun _ γ' s' => Within t κ n (γ, s) (γ', s')) γ s := by
  refine wp_publish h fun s₁ told same => Wp.look (Wp.look ?_)
  rw [same]
  refine Wp.attempt_seq (closes s₁ told) fun r γ₂ s₂ closed => ?_
  have step := closed.fit.hold none fun j e => by cases e
  have all := told.trans_within (closed.still step.still)
  refine Wp.change _ step.acts ?_
  split
  · exact wp_publish step.still.fit fun s₃ told₃ _ => all.still told₃
  · split
    · exact wp_publish step.still.fit fun s₃ told₃ _ => all.still told₃
    · exact all

/-- A task stops the present session, whose process may be alive. -/
theorem wp_stopRunning (h : Fit t κ γ s) (leading : Leading κ) (poised : (γ.duty t).Poised)
    (room : (s.loop.now : ℕ∞) + stopTime s.supervisor.config ≤ (γ.duty t).quota.time) :
    discipline.wp t (Supervisor.stopSession i)
      (fun _ γ' s' => Within t κ (stopTime s.supervisor.config) (γ, s) (γ', s')) γ s := by
  refine wp_stopSession h fun s₁ told => ?_
  have room₁ := told.left (n := stopTime s.supervisor.config) (by rw [poised.limit]; exact room)
  rw [poised.limit] at room₁
  exact wp_closeSession told.fit leading.foreground poised
    (fun o => by rw [told.stays.lasts.config]; exact leading.closes _ _) room₁

/-- A task stops the present session, whose process has exited. -/
theorem wp_stopExited (h : Fit t κ γ s) (leading : Leading κ) (poised : (γ.duty t).Poised) (exited : Exited i (γ, s)) :
    discipline.wp t (Supervisor.stopSession i) (fun _ γ' s' => Within t κ 0 (γ, s) (γ', s')) γ s := by
  refine wp_stopSession h fun s₁ told => ?_
  refine Wp.mono (wp_closeSession_dead told.fit leading.foreground poised
    (fun o => by rw [told.stays.lasts.config]; exact leading.closes _ _) (exited.onward told.stays.toOnward)) fun _ _ _ still => ?_
  exact still.within

/-- A task stops the present session, if there is one. -/
theorem wp_doStop (h : Fit t κ γ s) (leading : Leading κ) (poised : (γ.duty t).Poised)
    (room : (s.loop.now : ℕ∞) + stopTime s.supervisor.config ≤ (γ.duty t).quota.time) :
    discipline.wp t Supervisor.doStop (fun _ γ' s' => Within t κ (stopTime s.supervisor.config) (γ, s) (γ', s')) γ s := by
  refine Wp.look ?_
  split
  · exact (Still.refl h).within
  · exact wp_stopRunning h leading poised room

/-- The first half of a restart. -/
theorem wp_stopForRestart (h : Fit t κ γ s) (leading : Leading κ) (poised : (γ.duty t).Poised)
    (room : (s.loop.now : ℕ∞) + stopTime s.supervisor.config ≤ (γ.duty t).quota.time) :
    discipline.wp t Supervisor.stopForRestart
      (fun _ γ' s' => Within t κ (stopTime s.supervisor.config) (γ, s) (γ', s')) γ s := by
  refine Wp.look ?_
  split
  · exact (Still.refl h).within
  · exact wp_stopRunning h leading poised room

/-- A process that is not alive has exited. -/
theorem Fit.exited (h : Fit t κ γ s) (held : s.supervisor.session = some i) (dead : s.isSessionAlive i = false) :
    Exited i (γ, s) := by
  have used := h.inv.tables.held i held
  refine ⟨used, ?_⟩
  have bound := h.inv.tables.bound i used
  rw [World.length_ledger_sessions] at bound
  have found := List.getElem?_eq_getElem bound
  simpa only [World.isSessionAlive, found, h.transport found] using dead

/-- A task starts a session unless one is running. -/
theorem wp_doStart (h : Fit t κ γ s) (leading : Leading κ) (poised : (γ.duty t).Poised)
    (first : (γ.duty t).quota.launched = false) (room : (s.loop.now : ℕ∞) + startTime s.supervisor.config ≤ (γ.duty t).quota.time) :
    discipline.wp t Supervisor.doStart (fun _ γ' s' => Spends t κ (startTime s.supervisor.config) (γ, s) (γ', s')) γ s := by
  refine Wp.look ?_
  split
  · exact wp_launch h leading poised first room
  · next i held =>
    refine Wp.look ?_
    split
    · exact (Still.refl h).within.spends
    · next dead =>
      have stopped := wp_stopExited h leading poised (h.exited held (Bool.eq_false_iff.mpr dead))
      refine Wp.mono (wp_within_spends stopped (m := startTime s.supervisor.config) fun _ γ₁ s₁ within => ?_) fun _ _ _ all => ?_
      · rw [← within.stays.lasts.config]
        refine wp_launch within.fit leading (within.stays.poised poised) (by rw [within.stays.duty]; exact first) ?_
        rw [within.stays.lasts.config]
        exact within.spends.room _ (by rw [zero_add]; exact room)
      · rwa [zero_add] at all

/-- A task stops the present session, if there is one, and starts a new one. -/
theorem wp_doRestart (h : Fit t κ γ s) (leading : Leading κ) (poised : (γ.duty t).Poised)
    (first : (γ.duty t).quota.launched = false)
    (room : (s.loop.now : ℕ∞) + (stopTime s.supervisor.config + startTime s.supervisor.config) ≤ (γ.duty t).quota.time) :
    discipline.wp t Supervisor.doRestart (fun _ γ' s' =>
      Spends t κ (stopTime s.supervisor.config + startTime s.supervisor.config) (γ, s) (γ', s')) γ s := by
  refine Wp.look (wp_publish h fun s₁ told same => ?_)
  have config : s₁.supervisor.config = s.supervisor.config := congrArg Supervisor.config same
  have room₁ := told.left (by rw [poised.limit]; exact room)
  rw [poised.limit] at room₁
  have stop := wp_stopForRestart told.fit leading poised
    (le_trans (by rw [config]; gcongr; exact le_self_add) room₁)
  rw [config] at stop
  have both := wp_within_spends (g := fun stop => Supervisor.doStart >>= fun start => do
      if (Supervisor.restartResult stop start).ok then Supervisor.publish .restarted (← Supervisor.now).session ""
      pure (Supervisor.restartResult stop start)) stop (m := startTime s.supervisor.config) fun stopped γ₂ s₂ within => ?_
  · refine Wp.mono both fun _ _ _ all => ?_
    have whole := told.spends.trans all
    rwa [zero_add] at whole
  · have config₂ : s₂.supervisor.config = s.supervisor.config := within.stays.lasts.config.trans config
    have start := wp_doStart within.fit leading (within.stays.poised (told.stays.poised poised))
      (by rw [within.stays.duty]; exact first) (by rw [config₂]; exact within.spends.room _ room₁)
    rw [config₂] at start
    refine Wp.seq start (fun started γ₃ s₃ all => ?_) fun _ _ _ all => all
    split
    · refine Wp.look (wp_publish all.fit fun s₄ told₄ _ => ?_)
      have whole := all.trans told₄.spends
      rwa [add_zero] at whole
    · exact all

/-- A task has nothing in hand any more. -/
structure Rested (t : Nat) (κ : TaskKind) (γ : Roster) (s : World) : Prop where
  fit : Fit t κ γ s
  clear : (γ.duty t).Clear

theorem Rested.still (h : Rested t κ γ s) (still : Still t κ (γ, s) (γ', s')) : Rested t κ γ' s' := by
  have same : γ'.duty t = γ.duty t := still.stays.duty
  exact ⟨still.fit, by rw [same]; exact h.clear⟩

theorem Within.rested (h : Within t κ n (γ, s) (γ', s')) (clear : (γ.duty t).Clear) : Rested t κ γ' s' := by
  have same : γ'.duty t = γ.duty t := h.stays.duty
  exact ⟨h.fit, by rw [same]; exact clear⟩

theorem Spends.rested (h : Spends t κ n (γ, s) (γ', s')) (clear : (γ.duty t).Clear) : Rested t κ γ' s' := by
  refine ⟨h.fit, ?_⟩
  rw [h.duty]
  exact ⟨clear.holds, clear.queued, clear.asking, clear.opening, clear.closes⟩

/-- A task that has nothing in hand and can take its time. -/
structure Duty.Fresh (d : Duty) : Prop extends d.Clear where
  quota : d.quota = .endless
  closing : d.closing = .none

theorem Duty.Fresh.limit (h : d.Fresh) : d.limit = ⊤ := by
  simp only [Duty.limit, h.quota, h.asking, Grant.endless, Option.map_none, Option.getD_none, min_self]

theorem Duty.fresh_idle : Duty.idle.Fresh := ⟨clear_idle, rfl, rfl⟩

theorem Duty.Fresh.poised (h : d.Fresh) : d.Poised :=
  ⟨⟨by simp [h.holds], by simp [h.holds], h.queued, h.closing⟩, h.asking, h.opening⟩

/-- Whoever takes the lock of lifecycle operations has the time that it may take. -/
theorem Took.room {time : ℕ∞} (h : Took t κ .lifecycle time (γ, s) (γ', s')) (quota : (γ.duty t).quota = .endless) :
    (κ.launches = true → (γ'.duty t).quota.launched = false) ∧ (s'.loop.now : ℕ∞) + κ.allowance s'.supervisor.config ≤ (γ'.duty t).quota.time := by
  have config : s'.supervisor.config = s.supervisor.config := h.stays.lasts.config
  rcases h.quota with same | ⟨-, given⟩
  · rw [same, quota]
    exact ⟨fun _ => rfl, le_top⟩
  · rw [given, config, quota]
    exact ⟨fun launches => by simp [TaskKind.award, Grant.endless, launches], le_min le_top le_rfl⟩

/-- An operation is carried out while no other one is. -/
theorem wp_serialized {o : Operation} {b : BusyPolicy} {p : Act LifecycleResult} {n : Config → ℕ∞} (h : Fit t κ γ s)
    (leading : Leading κ) (fresh : (γ.duty t).Fresh)
    (inside : ∀ γ' s', Fit t κ γ' s' → (γ'.duty t).Poised → (κ.launches = true → (γ'.duty t).quota.launched = false) →
      (s'.loop.now : ℕ∞) + κ.allowance s'.supervisor.config ≤ (γ'.duty t).quota.time →
        discipline.wp t p (fun _ γ'' s'' => Spends t κ (n s'.supervisor.config) (γ', s') (γ'', s'')) γ' s') :
    discipline.wp t (Supervisor.serialized o b p) (fun _ γ' s' => Rested t κ γ' s') γ s := by
  have rested : Rested t κ γ s := ⟨h, fresh.toClear⟩
  refine Wp.look ?_
  split
  · exact rested
  · have may : (γ.duty t).MayTake .lifecycle :=
      ⟨fresh.queued, fresh.closing, by simp [fresh.holds], by simp [fresh.holds]⟩
    refine wp_locked (p := .lifecycle) (R := fun _ γ' s' => Fit t κ γ' s' ∧
      ∃ q, γ'.duty t = (γ.duty t).hold .lifecycle q) h (h.calm leading.foreground) (use_of_foreground leading.foreground) trivial may
      (.inr ⟨rfl, rfl, fresh.limit⟩) (fun γ₁ s₁ took => ?_) (fun r γ₁ s₁ post => ?_) (fun r γ₁ s₁ s₂ post still => ?_)
      fun γ₁ s₁ missed => ?_
    · have duty : γ₁.duty t = (γ.duty t).hold .lifecycle (γ₁.duty t).quota := took.stays.duty.trans (Roster.charge_self ..)
      refine Wp.mono (inside γ₁ s₁ took.fit ?_ (took.room fresh.quota).1 (took.room fresh.quota).2) fun _ γ₂ s₂ spent => ⟨spent.fit, (γ₂.duty t).quota, ?_⟩
      · rw [duty]
        exact ⟨⟨by simp [Duty.hold, fresh.holds], by simp [Duty.hold, fresh.holds], fresh.queued, fresh.closing⟩, fresh.asking,
          fresh.opening⟩
      · have spent := spent.duty
        rw [duty] at spent
        exact spent
    · obtain ⟨fit, q, duty⟩ := post
      refine ⟨fit, trivial, ?_⟩
      rw [duty]
      exact fresh.queued
    · obtain ⟨fit, q, duty⟩ := post
      refine ⟨still.fit, ?_⟩
      rw [Roster.charge_self, duty, Duty.drop_hold]
      exact ⟨fresh.holds, fresh.queued, fresh.asking, fresh.opening, fresh.closes⟩
    · exact absurd missed.doomed (missed.fit.calm leading.foreground)

theorem leading_operate (op : Operation) : Leading (.call (.supervisor (.operate op))) :=
  ⟨fun e => e, fun _ _ => by simp [TaskKind.patience], fun _ _ => by simp [TaskKind.patience]⟩

theorem allowance_start (c : Config) : Operation.start.allowance c = startTime c := by
  simp only [Operation.allowance, startTime]
  ring

theorem allowance_stop (c : Config) : Operation.stop.allowance c = stopTime c := by
  simp only [Operation.allowance, stopTime]
  ring

theorem allowance_restart (c : Config) : Operation.restart.allowance c = stopTime c + startTime c := by
  rw [← allowance_start, ← allowance_stop]
  rfl

/-- A task carries out an operation of the lifecycle. -/
theorem wp_operate {op : Operation} (kind : κ = .call (.supervisor (.operate op))) (h : Fit t κ γ s)
    (fresh : (γ.duty t).Fresh) :
    discipline.wp t (Supervisor.operate op) (fun _ γ' s' => Rested t κ γ' s') γ s := by
  subst kind
  have leading := leading_operate op
  refine Wp.look ?_
  cases op with
  | start =>
    refine wp_serialized (n := startTime) h leading fresh fun γ₁ s₁ fit poised first room => ?_
    exact wp_doStart fit leading poised (first rfl) (by rw [← allowance_start]; exact room)
  | stop =>
    refine wp_serialized (n := stopTime) h leading fresh fun γ₁ s₁ fit poised _ room => ?_
    exact Wp.mono (wp_doStop fit leading poised (by rw [← allowance_stop]; exact room)) fun _ _ _ within => within.spends
  | restart =>
    refine wp_serialized (n := fun c => stopTime c + startTime c) h leading fresh fun γ₁ s₁ fit poised first room => ?_
    exact wp_doRestart fit leading poised (first rfl) (by rw [← allowance_restart]; exact room)
  | shutdown =>
    have stopped := wp_serialized (n := stopTime) (o := .shutdown) (b := .queue) (p := Supervisor.doStop) h leading fresh
      fun γ₁ s₁ fit poised _ room =>
        Wp.mono (wp_doStop fit leading poised (by rw [← allowance_stop]; exact room)) fun _ _ _ within => within.spends
    refine Wp.seq stopped (fun _ γ₁ s₁ rested => ?_) fun _ _ _ rested => rested
    exact wp_passive rested.fit (passive_setDocuments (f := fun v => { v with documents := [] }) (fun _ => rfl)
      rested.fit.inv.legible fun _ e => by cases e) fun still => rested.still still

/-! ## Calls -/

/-- A task carries out a call to the supervisor. -/
theorem wp_supervisorRun {c : SupervisorCall} (kind : κ = .call (.supervisor c)) (h : Fit t κ γ s) (fresh : (γ.duty t).Fresh)
    (silent : ∀ q ∈ γ.asks, q.task ≠ t) :
    discipline.wp t (Supervisor.run c) (fun r γ' s' => Rested t κ γ' s' ∧
      (c.subject?.isSome = true → Queried t c γ' r)) γ s := by
  have foreground : ¬ κ.IsBackground := by rw [kind]; exact fun e => e
  have poised := fresh.poised
  -- Whatever is no query is told nothing of this kind.
  have plain {α : Type} {p : Act α} {reply : α → Reply} (other : c.subject?.isSome = false)
      (run : discipline.wp t p (fun _ γ' s' => Rested t κ γ' s') γ s) :
      discipline.wp t (do pure (reply (← p))) (fun r γ' s' => Rested t κ γ' s' ∧
        (c.subject?.isSome = true → Queried t c γ' r)) γ s := by
    have vacuous {r : Except Fault Reply} {γ' : Roster} (e : c.subject?.isSome = true) : Queried t c γ' r := by
      cases other.symm.trans e
    exact Wp.seq run (fun _ _ _ rested => ⟨rested, vacuous⟩) fun _ _ _ rested => ⟨rested, vacuous⟩
  have still {γ' : Roster} {s' : World} (still : Still t κ (γ, s) (γ', s')) : Rested t κ γ' s' :=
    Rested.still ⟨h, fresh.toClear⟩ still
  have patient (other : ∀ o, c ≠ .operate o) (o : SessionOptions) (cfg : Config) (m : Json) :
      κ.patience o cfg m = some o.requestTimeout := by
    rw [kind]
    cases c with
    | operate op => exact absurd rfl (other op)
    | _ => rfl
  cases c with
  | operate op => exact plain rfl (wp_operate kind h fresh)
  | openDocument => exact plain rfl (Wp.mono (wp_openDocument h foreground poised.toFree) fun _ _ _ => still)
  | changeDocument => exact plain rfl (Wp.mono (wp_changeDocument h foreground poised.toFree) fun _ _ _ => still)
  | closeDocument => exact plain rfl (Wp.mono (wp_closeDocument h foreground poised.toFree) fun _ _ _ => still)
  | hover =>
    exact Wp.seq (wp_queried .hover kind h poised fresh.quota (patient fun _ e => by cases e) silent rfl rfl rfl
      (fun _ => rfl) rfl (fun _ => rfl) fun _ => rfl)
      (fun _ _ _ told => ⟨told.1.rested fresh.toClear, fun _ => told.2⟩) fun _ _ _ told =>
        ⟨told.1.rested fresh.toClear, fun _ => told.2⟩
  | tokens uri range =>
    cases range with
    | none | some =>
      exact Wp.seq (wp_queried .tokens kind h poised fresh.quota (patient fun _ e => by cases e) silent rfl rfl rfl
        (fun _ => rfl) rfl (fun _ => rfl) fun _ => rfl)
        (fun _ _ _ told => ⟨told.1.rested fresh.toClear, fun _ => told.2⟩) fun _ _ _ told =>
          ⟨told.1.rested fresh.toClear, fun _ => told.2⟩
  | request =>
    refine plain rfl (Wp.look ?_)
    split
    · refine Wp.mono (wp_request h foreground poised fresh.quota (patient fun _ e => by cases e) fun c e => ?_) fun _ _ _ asked =>
        asked.1.rested fresh.toClear
      cases kind.symm.trans e
      rfl
    · exact ⟨h, fresh.toClear⟩

/-- A task carries out a call to a session. -/
theorem wp_sessionRun {c : SessionCall} (kind : κ = .call (.session i c)) (h : Fit t κ γ s) (fresh : (γ.duty t).Fresh) :
    discipline.wp t (Session.run i c) (fun r γ' s' => Rested t κ γ' s' ∧ ∀ method params, c = .request method params →
      ∃ r', r = r'.map .value ∧ (Got t i method params r' γ' ∨ Unasked i r')) γ s := by
  have foreground : ¬ κ.IsBackground := by rw [kind]; exact fun e => e
  have poised := fresh.poised
  have plain {α : Type} {p : Act α} {g : α → Act Reply} (other : ∀ method params, c ≠ .request method params)
      (last : ∀ a, ∃ r, g a = pure r) (run : discipline.wp t p (fun _ γ' s' => Rested t κ γ' s') γ s) :
      discipline.wp t (p >>= g) (fun r γ' s' => Rested t κ γ' s' ∧ ∀ method params, c = .request method params →
        ∃ r', r = r'.map .value ∧ (Got t i method params r' γ' ∨ Unasked i r')) γ s := by
    refine Wp.seq run (fun a γ' s' rested => ?_) fun _ _ _ rested => ⟨rested, fun _ _ e => absurd e (other _ _)⟩
    obtain ⟨r, same⟩ := last a
    rw [same]
    exact ⟨rested, fun _ _ e => absurd e (other _ _)⟩
  have still {γ' : Roster} {s' : World} (still : Still t κ (γ, s) (γ', s')) : Rested t κ γ' s' :=
    Rested.still ⟨h, fresh.toClear⟩ still
  have within {n : ℕ∞} {γ' : Roster} {s' : World} (within : Within t κ n (γ, s) (γ', s')) : Rested t κ γ' s' :=
    within.rested fresh.toClear
  have room (n : ℕ∞) : (s.loop.now : ℕ∞) + n ≤ (γ.duty t).quota.time := by rw [fresh.quota]; exact le_top
  have other (c : SupervisorCall) (e : κ = .call (.supervisor c)) : c.subject? = none := by cases kind.symm.trans e
  cases c with
  | «open» =>
    have opens (o : SessionOptions) (c : Config) : κ.patience o c (.str "initialize") = some o.handshakeTimeout := by
      simp [kind, TaskKind.patience]
    refine plain (fun _ _ e => by cases e) (fun _ => ⟨_, rfl⟩) ?_
    rcases found : s.sessions[i]? with _ | x
    · exact wp_getOr (fun x e => by cases found.symm.trans e) fun _ => ⟨h, fresh.toClear⟩
    · have length (y : Session) (e : s.sessions[i]? = some y) :
          y.options.handshakeTimeout = x.options.handshakeTimeout := by
        cases found.symm.trans e
        rfl
      exact Wp.mono (wp_openSession h foreground poised (by rw [fresh.quota]; rfl) opens length (room _)) fun _ _ _ opened =>
        opened.1.rested fresh.toClear
  | close grace =>
    have closes (o : SessionOptions) : κ.patience o s.supervisor.config (.str "shutdown") = some grace := by
      simp [kind, TaskKind.patience]
    exact plain (fun _ _ e => by cases e) (fun _ => ⟨_, rfl⟩)
      (Wp.mono (wp_closeSession h foreground poised closes (room _)) fun _ _ _ => within)
  | request method params =>
    have asks : discipline.wp t (Session.request i method params) _ γ s :=
      wp_request h foreground poised fresh.quota (fun _ _ _ => by simp [kind, TaskKind.patience]) other
    refine Wp.seq asks (fun v _ _ asked => ⟨within asked.1, fun _ _ e => ?_⟩) fun f _ _ asked => ⟨within asked.1, fun _ _ e => ?_⟩
    · cases e
      exact ⟨.ok v, rfl, asked.2⟩
    · cases e
      exact ⟨.error f, rfl, asked.2⟩
  | hover =>
    exact plain (fun _ _ e => by cases e) (fun _ => ⟨_, rfl⟩)
      (Wp.mono (wp_hover h foreground poised fresh.quota (fun _ _ _ => by simp [kind, TaskKind.patience]) other) fun _ _ _ => within)
  | tokens =>
    exact plain (fun _ _ e => by cases e) (fun _ => ⟨_, rfl⟩)
      (Wp.mono (wp_semanticTokens h foreground poised fresh.quota (fun _ _ _ => by simp [kind, TaskKind.patience]) other)
        fun _ _ _ => within)
  | didOpen =>
    exact plain (fun _ _ e => by cases e) (fun _ => ⟨_, rfl⟩)
      (Wp.mono (wp_didOpen h foreground poised.toFree.maySend) fun _ _ _ => still)
  | didChange =>
    exact plain (fun _ _ e => by cases e) (fun _ => ⟨_, rfl⟩)
      (Wp.mono (wp_notify h foreground poised.toFree.maySend) fun _ _ _ => still)
  | didClose =>
    exact plain (fun _ _ e => by cases e) (fun _ => ⟨_, rfl⟩)
      (Wp.mono (wp_didClose h foreground poised.toFree.maySend) fun _ _ _ => still)

/-- A task carries out a call. -/
theorem wp_runCall {c : Call} (kind : κ = .call c) (h : Fit t κ γ s) (fresh : (γ.duty t).Fresh)
    (silent : ∀ q ∈ γ.asks, q.task ≠ t) :
    discipline.wp t (Client.runCall c) (fun r γ' s' => Rested t κ γ' s' ∧ Told t κ r γ') γ s := by
  have rested : Rested t κ γ s := ⟨h, fresh.toClear⟩
  have sessional := h.inv.tasks.kinds t κ h.kind
  rw [kind] at sessional
  cases c with
  | transport => exact sessional.elim
  | host => exact sessional.elim
  | session i c =>
    refine Wp.mono (wp_sessionRun kind h fresh) fun r γ' s' ended => ⟨ended.1, fun i method params e => ?_, fun c e => ?_⟩
    · cases kind.symm.trans e
      exact ended.2 method params rfl
    · cases kind.symm.trans e
  | supervisor c =>
    refine Wp.mono (wp_supervisorRun kind h fresh silent) fun r γ' s' ended => ⟨ended.1, fun i method params e => ?_, fun c e => ?_⟩
    · cases kind.symm.trans e
    · cases kind.symm.trans e
      exact ended.2
  | sleep time =>
    have foreground : ¬ κ.IsBackground := by rw [kind]; exact fun e => e
    have told {r : Except Fault Reply} {γ' : Roster} : Told t κ r γ' :=
      ⟨fun _ _ _ e => (by cases kind.symm.trans e), fun _ e => by cases kind.symm.trans e⟩
    refine Wp.seq (wp_sleep h foreground fresh.poised.toFree _ (by rw [fresh.limit]; exact le_top)) ?_ ?_
    · rintro _ γ₁ s₁ ⟨-, slept⟩
      exact ⟨slept.rested fresh.toClear, told⟩
    · rintro f γ₁ s₁ ⟨-, slept⟩
      exact ⟨slept.rested fresh.toClear, told⟩
  | act server actions =>
    exact wp_passive h (.withServer server (fun x => Living.stirs_perform server Server.noTrigger actions x) s) fun still =>
      ⟨rested.still still, fun _ _ _ e => (by cases kind.symm.trans e), fun _ e => by cases kind.symm.trans e⟩

end Clock

end LspHost
