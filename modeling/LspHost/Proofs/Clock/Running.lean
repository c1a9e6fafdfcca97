import LspHost.Proofs.Clock.Standing

/-!
# Tasks run in time

One job after another keeps everything (`Sound.step?`): what is done between two turns concerns nobody
(`Sound.between`), and a turn ends with its task waiting in time, at its end, or about to take the next one
(`Midturn.advances`). Time goes on only when nothing is ready, and then never beyond an alarm (`Sound.round`).
-/

namespace LspHost

namespace Loop

variable {l l' : Loop} {u t k : Nat} {f : TaskState → TaskState}

/-- What a loop tells between two turns: whatever is settled was going to be, with a value. -/
def Tells (l l' : Loop) : Prop :=
  ∀ k r, l'.outcome? k = some r → l.outcome? k = some r ∨ l.Fed k ∧ ∃ v, r = .ok v

theorem waitingFor?_restate_ne (ne : u ≠ t) : (l.restate t f).waitingFor? u = l.waitingFor? u := by
  simp only [waitingFor?, tasks_restate, if_neg ne]

theorem isInterrupted_restate_ne (ne : u ≠ t) : (l.restate t f).isInterrupted u = l.isInterrupted u := by
  simp only [isInterrupted, tasks_restate, if_neg ne]

theorem waitingFor?_restate_self {κ : TaskKind} {on : Option Nat} (kind : l.kind? t = some κ)
    (waits : ∀ T, (f T).waitingFor = on) : (l.restate t f).waitingFor? t = on := by
  obtain ⟨T, found, -⟩ := Option.map_eq_some_iff.mp kind
  simp only [waitingFor?, tasks_restate, found, if_pos, Option.map_some, Option.bind_some, waits]

theorem passes_restate {P : Nat → Prop} (same : Restates f) : l.Passes P (l.restate t f) :=
  passes_modify same.kind same.ending

theorem passes_sooner {P : Nat → Prop} {job : Job} (other : ∀ k v, job ≠ .settle k v) : l.Passes P (l.sooner job) where
  grows := l.grows_sooner job
  sane h := h.of_same rfl (fun _ => rfl) rfl rfl rfl
  timers := ⟨Nat.le_refl _, fun _ h => .inl h⟩
  kept _ _ := .of_same (Nat.le_refl _) rfl
    ⟨fun ⟨v, near⟩ => ⟨v, (List.mem_cons.mp near).resolve_left fun e => other _ v e.symm⟩, fun ⟨v, near⟩ => ⟨v, List.mem_cons_of_mem _ near⟩⟩
    (fun _ => .rfl) rfl

theorem passes_idle {P : Nat → Prop} {time : Nat} (later : l.now ≤ time) (first : ∀ x ∈ l.timers, time ≤ x.due) :
    l.Passes P { l with now := time } where
  grows := .of_eq rfl rfl
  sane h := { h with due := first }
  timers := ⟨Nat.le_refl _, fun _ h => .inl h⟩
  kept _ _ := .of_same later rfl .rfl (fun _ => .rfl) rfl

/-- A task of which nothing else is known is set to wait, or to go on in a moment. -/
structure Parks (t : Nat) (on : Option Nat) (l l' : Loop) : Prop where
  passes : l.Passes (fun _ => False) l'
  now : l'.now = l.now
  jobs : ∀ j ∈ l.ready, j ∈ l'.ready
  outcomes : ∀ k, l'.outcome? k = l.outcome? k
  kind : ∀ u, l'.kind? u = l.kind? u
  ending : ∀ u, l'.ending? u = l.ending? u
  length : l'.tasks.length = l.tasks.length
  marked : ∀ u, l'.isInterrupted u = true → l.isInterrupted u = true
  unmarked : ∀ u, u ≠ t → l.isInterrupted u = true → l'.isInterrupted u = true
  watchers : ∀ u k, Watcher.task u ∈ l.watchers k → Watcher.task u ∈ l'.watchers k
  waiting : ∀ u, u ≠ t → l'.waitingFor? u = l.waitingFor? u
  here : l'.waitingFor? t = on
  wakes : ∀ k, on = some k → k < l.tickets.length →
    Watcher.task t ∈ l'.watchers k ∨ l'.isSettled k = true ∧ .wake t k ∈ l'.ready
  rests : on = none → .resume t ∈ l'.ready

theorem parks_watch {κ : TaskKind} (kind : l.kind? t = some κ) (k : Nat) :
    l.Parks t (some k) ((l.watch k (.task t)).setWaiting t (some k)) := by
  have does : l.Does (fun _ => False) (l.watch k (.task t)) := (does_watch k (.task t)).mono fun _ e => by cases e
  have same := Restates.waiting (some k)
  show l.Parks t (some k) ((l.watch k (.task t)).restate t _)
  exact
    { passes := does.toPasses.trans (passes_restate same)
      now := does.now
      jobs := does.jobs
      outcomes := fun j => does.outcomes j id
      kind := fun u => by rw [kind?_restate same]; simp only [kind?, tasks_watch]
      ending := fun u => by rw [ending?_restate same]; simp only [ending?, tasks_watch]
      length := by simp [restate]
      marked := fun u e => by simpa only [isInterrupted, tasks_watch] using interrupted_restate same e
      unmarked := fun u ne e => by rw [isInterrupted_restate_ne ne]; simpa only [isInterrupted, tasks_watch] using e
      watchers := fun u j h => mem_watchers_watch h
      waiting := fun u ne => (waitingFor?_restate_ne ne).trans (does.waiting u)
      here := waitingFor?_restate_self (does.grows.kinds t κ kind) fun _ => rfl
      wakes := fun j e issued => by
        cases e
        exact (watch_self (.task t) issued).imp_right (And.imp_left (isSettled_watch ..).trans)
      rests := fun e => by cases e }

theorem parks_soon (waiting : l.waitingFor? t = none) : l.Parks t none (l.soon (.resume t)) :=
  have does : l.Does (fun _ => False) (l.soon (.resume t)) := does_soon fun _ _ e => by cases e
  { passes := does.toPasses
    now := rfl
    jobs := does.jobs
    outcomes := fun _ => rfl
    kind := fun _ => rfl
    ending := fun _ => rfl
    length := rfl
    marked := fun _ e => e
    unmarked := fun _ _ e => e
    watchers := fun _ _ h => h
    waiting := fun _ _ => rfl
    here := waiting
    wakes := fun _ e => by cases e
    rests := fun _ => List.mem_append_right _ (List.mem_singleton_self _) }

/-- Whatever is ready stays so when the next round begins. -/
theorem ready_round (h : l.next? = some (none, l')) : ∀ j ∈ l.ready, j ∈ l'.ready := by
  unfold next? at h
  split at h
  · cases h
  · cases h
    exact fun j hj => List.mem_append_left _ hj
  · next ready =>
    rw [ready]
    exact fun j hj => by cases hj

end Loop

namespace Clock

open Discipline

variable {t u v k : Nat} {o : Option Nat} {κ : TaskKind} {γ γ' : Roster} {s s' : World} {l l' : Loop} {m m' : Machine}
  {a b c : Roster × World} {ds ds' : List Deed} {js js' : List Job} {x : Suspended} {job : Job}

/-! ## Between two turns -/

/-- What leaves all tasks alone but any one leaves all alone. -/
theorem Spares.all (h : ∀ t, Spares (some t) a b) : Spares none a b where
  onward := (h 0).onward
  rely u _ := (h (u + 1)).rely u fun e => absurd (Option.some.inj e) (Nat.succ_ne_self u)
  alarms u _ := (h (u + 1)).alarms u fun e => absurd (Option.some.inj e) (Nat.succ_ne_self u)
  endings k apart _ := (h b.2.loop.tasks.length).endings k apart fun u e ending => by
    cases e
    simp [Loop.ending?] at ending
  begun := (h 0).begun
  begins := (h 0).begins
  wakes := (h 0).wakes
  waiting u _ := (h (u + 1)).waiting u fun e => absurd (Option.some.inj e) (Nat.succ_ne_self u)

/-- It is the turn of another task, or of none. -/
theorem Tasks.shift {L : Ledger} {o' : Option Nat} (h : Tasks o γ L l)
    (calledOff : ∀ u, o' ≠ some u → γ.doomed u → CalledOff u l) (running : ∀ u, o' = some u → l.waitingFor? u = none) :
    Tasks o' γ L l :=
  { h with
    calledOff := calledOff
    running := running }

/-- A task that was not cancelled is set to wait. -/
theorem Tasks.parks {L : Ledger} {on : Option Nat} (h : Tasks (some t) γ L l) (parks : l.Parks t on l') (calm : ¬ γ.doomed t)
    (owns : ∀ κ k, l.kind? t = some κ → κ.IsBackground → on = some k → γ.owner k = some (t, κ.use)) :
    Tasks none γ L l' where
  kinds u κ e := h.kinds u κ ((parks.kind u).symm.trans e)
  doomed u e := by rw [parks.kind]; exact h.doomed u e
  interrupted u e := h.interrupted u (parks.marked u e)
  woken u k e waits := by
    have marked := parks.marked u e
    have ne : u ≠ t := fun e => calm (e ▸ h.interrupted u marked)
    exact parks.passes.grows.settled (h.woken u k marked ((parks.waiting u ne).symm.trans waits))
  waiting u κ k kind back waits := by
    have kind := (parks.kind u).symm.trans kind
    by_cases e : u = t
    · subst e
      exact owns κ k kind back (parks.here.symm.trans waits)
    · exact h.waiting u κ k kind back ((parks.waiting u e).symm.trans waits)
  calledOff u _ off := by
    have ne : u ≠ t := fun e => calm (e ▸ off)
    exact (h.calledOff u (fun e => ne (Option.some.inj e).symm) off).moved parks.passes.grows (parks.unmarked u ne)
      (parks.waiting u ne)
  running u e := by cases e
  drains i T e found drain := by
    obtain ⟨u, j, ending, kind⟩ := h.drains i T e found drain
    exact ⟨u, j, (parks.ending u).trans ending, (parks.kind u).trans kind⟩
  readers i x e found reader := by
    obtain ⟨u, ending, kind⟩ := h.readers i x e found reader
    exact ⟨u, (parks.ending u).trans ending, (parks.kind u).trans kind⟩

theorem Tickets.passes (h : Tickets γ s) (passes : s.loop.Passes (fun _ => False) l')
    (ending : ∀ u, l'.ending? u = s.loop.ending? u) (tells : s.loop.Tells l') : Tickets γ { s with loop := l' } where
  sane := passes.sane h.sane
  issued k v e := Nat.lt_of_lt_of_le (h.issued k v e) passes.grows.issued
  endings u k e := h.endings u k ((ending u).symm.trans e)
  unfed k u use e other := ((passes.kept k id).unfed (h.unfed k u use e other)).1
  fed k fed := by
    by_cases before : s.loop.Fed k
    · exact Nat.lt_of_lt_of_le (h.fed k before) passes.grows.issued
    · exact absurd fed ((passes.kept k id).unfed before).1
  proper k u use r e outcome := by
    rcases tells k r outcome with old | ⟨-, v, rfl⟩
    · exact h.proper k u use r e old
    · exact γ.proper_ok u use v
  awaited := h.awaited.loop rfl passes.grows fun k u mine v e => (tells k _ e).elim id fun fed =>
    absurd fed.1 (h.unfed k u .exit mine fun e => by cases e)

/-- The loop goes on, and some tasks wait for something else than before. -/
theorem Inv.retask (h : Inv o γ s) (passes : s.loop.Passes (fun _ => False) l')
    (ending : ∀ u, l'.ending? u = s.loop.ending? u) (tells : s.loop.Tells l') {o' : Option Nat}
    (tasks : Tasks o' γ s.ledger l') : Inv o' γ { s with loop := l' } where
  tickets := h.tickets.passes passes ending tells
  tasks := tasks
  locked p := (h.locked p).loop passes.grows
  queuers := h.queuers
  asked := h.asked.loop passes.grows
  tables := h.tables.loop passes.grows
  servers := h.servers
  homes := h.homes
  idle := h.idle
  getters := h.getters
  plain := h.plain

theorem Inv.passes (h : Inv o γ s) (passes : s.loop.Passes (fun _ => False) l') (tasks : l'.tasks = s.loop.tasks)
    (tells : s.loop.Tells l') : Inv o γ { s with loop := l' } :=
  h.retask passes (fun u => by simp only [Loop.ending?, tasks]) tells (h.tasks.loop passes.grows tasks)

/-- A request is not settled between two turns. -/
theorem request_of_tells (tells : s.loop.Tells l') (h : Tickets γ s) (mine : γ.owner k = some (u, .request))
    {r : Except Fault Json} (outcome : l'.outcome? k = some r) : s.loop.outcome? k = some r := by
  rcases tells k r outcome with old | ⟨fed, -⟩
  · exact old
  · exact absurd fed (h.unfed k u .request mine fun e => by cases e)

/-- Who waits does not mind what becomes of a ticket that a task ends in. -/
theorem rely_passes {P : Nat → Prop} (h : Tickets γ s) (passes : s.loop.Passes P l')
    (mine : ∀ k, P k → ∃ u, s.loop.ending? u = some k)
    (requests : ∀ k u, γ.owner k = some (u, .request) → ∀ r, l'.outcome? k = some r → s.loop.outcome? k = some r) :
    Rely u (γ, s) (γ, { s with loop := l' }) where
  grows := passes.grows
  time := by
    -- Some ticket is neither issued nor tampered with.
    refine (passes.kept s.loop.tickets.length fun tampered => ?_).time
    obtain ⟨u, ending⟩ := mine _ tampered
    exact Nat.lt_irrefl _ (h.sane.endings u _ ending)
  timers := passes.timers
  owner _ _ e := e
  doomed _ e := e
  used _ e := e
  home _ _ e := e
  asks _ e := e
  ended _ e := e
  lasts := .of_ledger rfl
  dead _ _ e := e
  duty := rfl
  requests k mine := requests k u mine _
  opener _ _ e := e
  alarm := le_refl _
  mine _ known _ := known
  relays k owned := passes.kept k fun tampered => by
    obtain ⟨u, ending⟩ := mine k tampered
    cases (h.endings u k ending).symm.trans owned

theorem spares_passes {P : Nat → Prop} (h : Tickets γ s) (passes : s.loop.Passes P l')
    (mine : ∀ k, P k → ∃ u, o = some u ∧ s.loop.ending? u = some k)
    (requests : ∀ k u, γ.owner k = some (u, .request) → ∀ r, l'.outcome? k = some r → s.loop.outcome? k = some r)
    (ending : ∀ u, l'.ending? u = s.loop.ending? u) (length : l'.tasks.length = s.loop.tasks.length)
    (wakes : ∀ u k, Watcher.task u ∈ s.loop.watchers k →
      Watcher.task u ∈ l'.watchers k ∨ l'.isSettled k = true ∧ .wake u k ∈ l'.ready)
    (waiting : ∀ u, o ≠ some u → l'.waitingFor? u = s.loop.waitingFor? u) :
    Spares o (γ, s) (γ, { s with loop := l' }) where
  onward := (rely_passes (u := 0) h passes (fun k e => (mine k e).imp fun _ => And.right) requests).toOnward
  rely _ _ := rely_passes h passes (fun k e => (mine k e).imp fun _ => And.right) requests
  alarms _ _ := rfl
  endings k _ other := passes.kept k fun tampered => by
    obtain ⟨u, e, mine⟩ := mine k tampered
    exact other u e ((ending u).trans mine)
  begun u _ e := .inl ((ending u).symm.trans e)
  begins _ lo hi := absurd (length ▸ hi) (Nat.not_lt_of_le lo)
  wakes := wakes
  waiting := waiting

/-- The tickets and the tasks stay as they are. -/
theorem spares_same (h : Tickets γ s) (passes : s.loop.Passes (fun _ => False) l') (tickets : l'.tickets = s.loop.tickets)
    (tasks : l'.tasks = s.loop.tasks) : Spares none (γ, s) (γ, { s with loop := l' }) := by
  refine spares_passes h passes (fun _ e => e.elim) (fun k _ _ r e => ?_) (fun u => ?_) (by rw [tasks])
    (fun u k watches => .inl ?_) fun u _ => ?_
  · simpa only [Loop.outcome?, tickets] using e
  · simp only [Loop.ending?, tasks]
  · rwa [Loop.watchers_of_eq tickets]
  · simp only [Loop.waitingFor?, tasks]

theorem History.keep {does does' : Nat → Intent → Prop} (h : History γ ds l does)
    (same : ∀ q ∈ γ.asks, ∀ r, l'.outcome? q.ticket = some r → l.outcome? q.ticket = some r)
    (more : ∀ u c, c ≠ .none → does u c → does' u c) : History γ ds l' does' where
  quota := h.quota
  made := h.made
  settled q known r outcome := by
    obtain ⟨d, hd, settles, rightly⟩ := h.settled q known r (same q known r outcome)
    exact ⟨d, hd, settles, rightly.mono fun c some does => does.mono (fun _ h => h) (more d.task c some)⟩

namespace Sound

/-- Time goes on no further than to the next alarm. -/
theorem time_of_timer (h : Sound γ ds m) (hx : x ∈ m.suspended) (quiet : m.world.loop.ready = []) {time : Nat}
    (next : ∀ z ∈ m.world.loop.timers, time ≤ z.due) : (time : ℕ∞) ≤ γ.alarm x.task := by
  by_cases endless : γ.alarm x.task = ⊤
  · rw [endless]
    exact le_top
  rcases h.soon hx endless with busy | ⟨z, hz, due⟩
  · exact absurd quiet busy
  · exact le_trans (by exact_mod_cast next z hz) due

/-- The next round begins in time. -/
theorem round_time (h : Sound γ ds m) (hx : x ∈ m.suspended) (next : m.world.loop.next? = some (none, l')) :
    (l'.now : ℕ∞) ≤ γ.alarm x.task := by
  rcases Loop.now_round next with same | ⟨quiet, z, -, later, first⟩
  · rw [same]
    exact (h.stopped hx).time
  · rcases max_choice m.world.loop.now z.due with e | e
    · rw [later, e]
      exact (h.stopped hx).time
    · rw [later, e]
      exact h.time_of_timer hx quiet (first h.inv.tickets.sane)

/-- The next round begins. -/
theorem round (h : Sound γ ds m) (next : m.world.loop.next? = some (none, l')) : Sound γ ds (m.onLoop fun _ => l') := by
  have passes := Loop.passes_round (P := fun _ => False) next
  obtain ⟨tickets, tasks, -⟩ := Loop.next?_cases next
  have outcomes (k : Nat) : l'.outcome? k = m.world.loop.outcome? k := by simp only [Loop.outcome?, tickets]
  have inv := h.inv.passes passes tasks fun k r e => .inl ((outcomes k).symm.trans e)
  have sp := spares_same h.inv.tickets passes tickets tasks
  refine ⟨inv, fun u => (h.stands u).moved sp (fun e => by cases e) h.inv.tickets inv.tickets.sane (fun x hx mine => ?_)
    (fun j hj _ => Loop.ready_round next j hj) (fun _ hj => hj) (fun _ _ => .rfl) rfl,
    h.history.keep (fun q _ r e => (outcomes _).symm.trans e) fun _ _ _ e => e⟩
  subst mine
  exact h.round_time hx next

/-- What the loop does in no time that settles no requests. -/
theorem between (h : Sound γ ds m) (inv : Inv none γ s') (sp : Spares none (γ, m.world) (γ, s'))
    (now : s'.loop.now = m.world.loop.now) (jobs : ∀ j ∈ m.world.loop.ready, (∃ u, j.Concerns u) → j ∈ s'.loop.ready)
    (same : ∀ q ∈ γ.asks, ∀ r, s'.loop.outcome? q.ticket = some r → m.world.loop.outcome? q.ticket = some r) :
    Sound γ ds { m with world := s' } := by
  refine ⟨inv, fun u => (h.stands u).moved sp (fun e => by cases e) h.inv.tickets
    inv.tickets.sane (fun x hx mine => ?_) (fun j hj about => jobs j hj ⟨u, about⟩) (fun _ hj => hj) (fun _ _ => .rfl) rfl,
    h.history.keep same fun _ _ _ e => e⟩
  show (s'.loop.now : ℕ∞) ≤ γ.alarm u
  subst mine
  rw [now]
  exact (h.stopped hx).time

/-- A ticket is settled that a job was to settle. -/
theorem settle {w : Json} (h : Sound γ ds m) (next : m.world.loop.next? = some (some (.settle k w), l')) :
    Sound γ ds (m.onLoop fun _ => l'.settle k (.ok w)) := by
  obtain ⟨rest, left, ready, rfl⟩ := Loop.next?_job next
  have near : m.world.loop.Nears k := ⟨w, by rw [ready]; exact List.mem_cons_self⟩
  have passes := Loop.passes_settle (P := fun _ => False) next (h.inv.tickets.fed k (.inl near))
  have tells : m.world.loop.Tells (({ m.world.loop with ready := rest, left := left } : Loop).settle k (.ok w)) := by
    intro j r e
    rcases Loop.outcome?_settle_cases e with old | ⟨rfl, rfl⟩
    · exact .inl old
    · exact .inr ⟨.inl near, w, rfl⟩
  refine h.between (h.inv.passes passes (Loop.tasks_settle ..) tells) (spares_passes h.inv.tickets passes (fun _ e => e.elim)
    (fun k u mine r => request_of_tells tells h.inv.tickets mine) (fun u => ?_)
    (by rw [Loop.tasks_settle]) (fun u j watches => Loop.mem_watchers_settle watches) fun u _ => ?_)
    (Loop.now_settle_eq ..) (fun j hj about => ?_) fun q known r => request_of_tells tells h.inv.tickets (h.inv.asked.owned q known)
  · simp only [Loop.ending?, Loop.tasks_settle]
  · simp only [Loop.waitingFor?, Loop.tasks_settle]
  · obtain ⟨ws, more, -⟩ := Loop.ready_settle ({ m.world.loop with ready := rest, left := left } : Loop) k (.ok w)
    show j ∈ (({ m.world.loop with ready := rest, left := left } : Loop).settle k (.ok w)).ready
    rw [more]
    refine List.mem_append_left _ ?_
    rw [ready] at hj
    rcases List.mem_cons.mp hj with rfl | hj
    · exact about.elim fun _ e => e.elim
    · exact hj

end Sound

/-- A job is taken and to be done. -/
structure Taken (γ : Roster) (ds : List Deed) (job : Job) (m : Machine) : Prop where
  inv : Inv none γ m.world
  stands : ∀ u, Stands γ m (job :: m.world.loop.ready) u
  history : History γ ds m.world.loop (Finished m)

/-- A job is taken that settles nothing. -/
theorem Sound.take (h : Sound γ ds m) (next : m.world.loop.next? = some (some job, l'))
    (other : ∀ k w, job ≠ .settle k w) : Taken γ ds job (m.onLoop fun _ => l') := by
  have passes : m.world.loop.Passes (fun _ => False) l' :=
    (Loop.passes_job next).mono fun k e => other k e.choose e.choose_spec
  obtain ⟨rest, left, ready, rfl⟩ := Loop.next?_job next
  have inv := h.inv.passes passes rfl fun _ _ e => .inl e
  refine ⟨inv, fun u => (h.stands u).moved (spares_same h.inv.tickets passes rfl rfl) (fun e => by cases e) h.inv.tickets
    inv.tickets.sane (fun x hx mine => ?_) (fun j hj _ => by rwa [ready] at hj) (fun _ hj => List.mem_cons_of_mem _ hj)
    (fun _ _ => .rfl) rfl, h.history.keep (fun _ _ _ e => e) fun _ _ _ e => e⟩
  subst mine
  exact (h.stopped hx).time

namespace Taken

/-- A task that a job is not about stands where it stood. -/
theorem other (h : Taken γ ds job m) (other : ¬ job.Concerns u) : Stands γ m m.world.loop.ready u :=
  (h.stands u).moved (.refl none _) (fun e => by cases e) h.inv.tickets h.inv.tickets.sane
    (fun x hx mine => by subst mine; exact ((h.stands x.task).stopped x hx rfl).1.time)
    (fun j hj about => (List.mem_cons.mp hj).elim (fun e => absurd (e ▸ about) other) id) (fun _ hj => hj) (fun _ _ => .rfl) rfl

/-- A job that is about no task. -/
theorem drop (h : Taken γ ds job m) (other : ∀ u, ¬ job.Concerns u) : Sound γ ds m :=
  ⟨h.inv, fun u => h.other (other u), h.history⟩

end Taken

/-! ## A turn -/

/-- A task is in the middle of a segment, after some deeds. -/
structure Midturn (t : Nat) (κ : TaskKind) (γ : Roster) (ds : List Deed) (m : Machine) : Prop where
  inv : Inv (some t) γ m.world
  kind : m.world.loop.kind? t = some κ
  awake : m.isSuspended t = false
  going : m.hasEnded t = false
  unended : ∀ k, m.world.loop.ending? t = some k → m.world.loop.isSettled k = false ∧ ¬ m.world.loop.Fed k
  others : ∀ u, u ≠ t → Stands γ m m.world.loop.ready u
  history : History γ ds m.world.loop fun u c => Finished m u c ∨ u = t ∧ (γ.duty t).closing = c

/-- Time that a task has does not depend on what others do. -/
theorem Grant.after_of_others {g : Grant} (others : ∀ d ∈ ds, d.task ≠ u) : g.after u ds = g := by
  induction ds generalizing g with
  | nil => rfl
  | cons d ds ih =>
    simp only [Grant.after, List.foldl_cons, if_neg (others d List.mem_cons_self)]
    exact ih fun d hd => others d (List.mem_cons_of_mem _ hd)

theorem Grant.after_append {g : Grant} : g.after u (ds ++ ds') = (g.after u ds).after u ds' := List.foldl_append

namespace Midturn

/-- Others who are not concerned stand where they stood. -/
theorem others_moved (h : Midturn t κ γ ds m) (sp : Spares (some t) (γ, m.world) (γ', m'.world)) (sane : m'.world.loop.Sane)
    (now : m'.world.loop.now = m.world.loop.now) (jobs : ∀ j ∈ m.world.loop.ready, j ∈ m'.world.loop.ready)
    (suspended : ∀ x : Suspended, x.task ≠ t → (x ∈ m'.suspended ↔ x ∈ m.suspended))
    (reply : ∀ u, u ≠ t → m'.reply? u = m.reply? u) : ∀ u, u ≠ t → Stands γ' m' m'.world.loop.ready u := by
  intro u ne
  refine (h.others u ne).moved sp (fun e => ne (Option.some.inj e).symm) h.inv.tickets sane (fun x hx mine => ?_)
    (fun j hj _ => jobs j hj) (fun _ hj => hj) (fun x mine => suspended x (mine ▸ ne)) (reply u ne)
  rw [now]
  subst mine
  exact ((h.others x.task ne).stopped x hx rfl).1.time

/-- A task has run up to its next stop. -/
theorem advanced (h : Midturn t κ γ ds m) (idle : (γ.duty t).closing = .none) (seg : Segment t ds' (γ, m.world) (γ', s)) (inv : Inv (some t) γ' s) :
    Midturn t κ γ' (ds ++ ds') { m with world := s } where
  inv := inv
  kind := seg.onward.grows.kinds t κ h.kind
  awake := h.awake
  going := h.going
  unended k ending := seg.toSpares.unended h.inv.tickets (seg.apart k (.inl ⟨t, ending⟩)) ending (h.unended k)
  others := h.others_moved seg.toSpares inv.tickets.sane seg.now seg.jobs (fun _ _ => .rfl)
    fun _ _ => rfl
  history :=
    { quota := fun u => by
        rw [Grant.after_append, ← h.history.quota u]
        by_cases e : u = t
        · subst e
          exact seg.quota
        · rw [Grant.after_of_others fun d hd mine => e (mine.symm.trans (seg.mine d hd))]
          exact congrArg Duty.quota (seg.rely u fun e' => e (Option.some.inj e').symm).duty
      made := fun q known => by
        by_cases old : q ∈ γ.asks
        · obtain ⟨d, hd, made⟩ := h.history.made q old
          exact ⟨d, List.mem_append_left _ hd, made⟩
        · obtain ⟨d, hd, made, -⟩ := seg.made q known old
          refine ⟨d, List.mem_append_right _ hd, ?_, ?_⟩ <;> rw [made.task]
          · exact seg.mine d hd
          · exact made
      settled := fun q known r outcome => by
        rcases before : m.world.loop.outcome? q.ticket with _ | r'
        · obtain ⟨d, hd, settles, now, rightly⟩ := seg.settled q known before r outcome
          refine ⟨d, List.mem_append_right _ hd, settles, ?_⟩
          rw [seg.mine d hd, now]
          exact rightly.mono fun c _ does => does.mono (fun _ => List.mem_append_right _) fun e => .inr ⟨rfl, e⟩
        · obtain rfl : r' = r := Option.some.inj ((seg.onward.grows.outcomes _ _ before).symm.trans outcome)
          by_cases old : q ∈ γ.asks
          · obtain ⟨d, hd, settles, rightly⟩ := h.history.settled q old r' before
            refine ⟨d, List.mem_append_left _ hd, settles, rightly.mono fun c some does =>
              does.mono (fun _ => List.mem_append_left _) (Or.imp_right fun e => absurd (e.2.symm.trans idle) some)⟩
          · obtain ⟨d, -, poses, grows⟩ := seg.made q known old
            cases poses.unsettled.symm.trans (grows.outcomes _ _ before) }

/-- A task ends, with nothing in hand. -/
theorem ends (h : Midturn t κ γ ds m) (clear : (γ.duty t).Clear) (r : Except Fault Reply)
    (told : Told t κ r γ) : Sound γ ds (m.endTask t r) := by
  obtain ⟨T, found, -⟩ := Option.map_eq_some_iff.mp h.kind
  have ending : m.world.loop.ending? t = some T.ending := by simp only [Loop.ending?, found, Option.map_some]
  have unowned := h.inv.tickets.endings t _ ending
  have issued := h.inv.tickets.sane.endings t _ ending
  generalize outcome : (r.map fun _ => Json.null) = r'
  have step : m.endTask t r =
      { m with
        world := { m.world with loop := m.world.loop.settle T.ending r' }
        replies := (t, r) :: m.replies } := by
    simp only [Machine.endTask, Machine.onLoop, ending, Option.getD_some, outcome]
  rw [step]
  have does := Loop.does_settle (l := m.world.loop) T.ending r'
  have ended : (m.world.loop.settle T.ending r').isSettled T.ending = true := Loop.isSettled_settle r' issued
  have tickets := h.inv.tickets.settle (j := T.ending) (r := r') (fun u use e => by cases unowned.symm.trans e)
    fun u _ e => by cases unowned.symm.trans e
  have onward : Inv (some t) γ { m.world with loop := m.world.loop.settle T.ending r' } :=
    h.inv.onward rfl (fun _ _ h => h) tickets does.grows (Loop.tasks_settle ..)
  have inv : Inv none γ { m.world with loop := m.world.loop.settle T.ending r' } :=
    { onward with
      tasks := (h.inv.tasks.loop does.grows (Loop.tasks_settle ..)).shift
        (fun u _ off => by
          by_cases e : u = t
          · subst e
            exact .inl ⟨_, does.grows.endings u _ ending, ended⟩
          · exact (h.inv.tasks.calledOff u (fun e' => e (Option.some.inj e').symm) off).moved does.grows
              (fun e => by simpa only [Loop.isInterrupted, Loop.tasks_settle] using e) (does.waiting u))
        fun u e => by cases e }
  have same (k u : Nat) (mine : γ.owner k = some (u, .request)) (r₁ : Except Fault Json)
      (e : (m.world.loop.settle T.ending r').outcome? k = some r₁) : m.world.loop.outcome? k = some r₁ := by
    rcases Loop.outcome?_settle_cases e with old | ⟨rfl, -⟩
    · exact old
    · cases unowned.symm.trans mine
  have sp : Spares (some t) (γ, m.world) (γ, { m.world with loop := m.world.loop.settle T.ending r' }) :=
    spares_passes h.inv.tickets does.toPasses (fun k e => ⟨t, rfl, e ▸ ending⟩) same
      (fun u => by simp only [Loop.ending?, Loop.tasks_settle]) (by rw [Loop.tasks_settle]) does.wakes fun u _ => does.waiting u
  have reply (u : Nat) := m.reply?_cons { m.world with loop := m.world.loop.settle T.ending r' } t u r
  have others : ∀ u, u ≠ t → Stands γ
      { m with world := { m.world with loop := m.world.loop.settle T.ending r' }, replies := (t, r) :: m.replies }
      (m.world.loop.settle T.ending r').ready u :=
    h.others_moved sp inv.tickets.sane does.now does.jobs (fun _ _ => .rfl) fun u ne => by rw [reply, if_neg ne]
  refine ⟨inv, fun u => ?_, h.history.keep (fun q known r₁ => same _ _ (h.inv.asked.owned q known) r₁) fun u c some does => ?_⟩
  · by_cases e : u = t
    · subst e
      have here := (reply u).trans (if_pos rfl)
      refine ⟨fun x hx mine => absurd mine (Machine.isSuspended_eq_false.mp h.awake x hx), fun r₁ e => ?_, fun _ going => ?_,
        fun _ => (does.waiting u).trans (h.inv.tasks.running u rfl), fun going => ?_⟩
      · obtain rfl : r = r₁ := Option.some.inj (here.symm.trans e)
        exact ⟨clear, ⟨_, does.grows.endings u _ ending, ended⟩, κ, does.grows.kinds u κ h.kind, told⟩
      · cases here.symm.trans (Machine.hasEnded_eq_false.mp going)
      · cases here.symm.trans (Machine.hasEnded_eq_false.mp going)
    · exact others u e
  · rcases does with ⟨finish, ended⟩ | ⟨rfl, e⟩
    · refine ⟨finish, ?_⟩
      rw [Machine.hasEnded, reply]
      split
      · rfl
      · exact ended
    · cases c with
      | none => exact absurd rfl some
      | finish => exact ⟨rfl, by rw [Machine.hasEnded, reply, if_pos rfl]; rfl⟩
      | close i => exact absurd e (clear.closes i)

/-- A task stops. -/
theorem stops {on : Option Nat} {next : Except Fault Json → Act Turn} (h : Midturn t κ γ ds m)
    (stops : discipline.Stops t on γ m.world)
    (ready : discipline.Ready t on (fun r => discipline.wp t (next r) (Turned t κ)) γ m.world)
    (parks : m.world.loop.Parks t on l') :
    Sound γ ds { m with
      world := { m.world with loop := l' }
      suspended := ⟨t, on, next⟩ :: m.suspended } := by
  obtain ⟨-, calm, time, waits, owns⟩ := stops
  have inv : Inv none γ { m.world with loop := l' } :=
    h.inv.retask parks.passes parks.ending (fun k r e => .inl ((parks.outcomes k).symm.trans e))
      (h.inv.tasks.parks parks calm fun κ' k kind back e => owns κ' k kind back e)
  have requests (k u : Nat) (_ : γ.owner k = some (u, .request)) (r : Except Fault Json) (e : l'.outcome? k = some r) :
      m.world.loop.outcome? k = some r := (parks.outcomes k).symm.trans e
  have sp : Spares (some t) (γ, m.world) (γ, { m.world with loop := l' }) :=
    spares_passes h.inv.tickets parks.passes (fun _ e => e.elim) requests parks.ending parks.length
      (fun u k watches => .inl (parks.watchers u k watches)) fun u ne => parks.waiting u fun e => ne (e ▸ rfl)
  have rely : Rely t (γ, m.world) (γ, { m.world with loop := l' }) :=
    rely_passes h.inv.tickets parks.passes (fun _ e => e.elim) requests
  have others : ∀ u, u ≠ t → Stands γ
      { m with world := { m.world with loop := l' }, suspended := ⟨t, on, next⟩ :: m.suspended } l'.ready u :=
    h.others_moved sp inv.tickets.sane parks.now parks.jobs
      (fun x ne => ⟨fun hx => (List.mem_cons.mp hx).resolve_left fun e => ne (e ▸ rfl), List.mem_cons_of_mem _⟩)
      fun _ _ => rfl
  refine ⟨inv, fun u => ?_, h.history.keep (fun q _ r e => (parks.outcomes _).symm.trans e) fun u c some does => ?_⟩
  · by_cases e : u = t
    · subst e
      have here : Machine.isSuspended
          { m with world := { m.world with loop := l' }, suspended := ⟨u, on, next⟩ :: m.suspended } u = true := by
        simp [Machine.isSuspended]
      refine ⟨fun x hx mine => ?_, fun r e => ?_, fun awake _ => ?_, fun awake => ?_, fun _ k ending => ?_⟩
      · obtain rfl := (List.mem_cons.mp hx).resolve_right fun hx => Machine.isSuspended_eq_false.mp h.awake x hx mine
        exact ⟨{ ready := ⟨κ, (parks.kind u).trans h.kind, fun γ' s' r more => ready γ' s' r (rely.trans more)⟩
                 waiting := parks.here
                 time := by rw [show ({ m.world with loop := l' } : World).loop.now = _ from parks.now]; exact time
                 waits := waits.moved rely rfl
                 wakes := fun k e => parks.wakes k e (waits.issued k e)
                 rests := parks.rests }, Machine.hasEnded_eq_false.mp h.going⟩
      · cases (Machine.hasEnded_eq_false.mp h.going).symm.trans e
      · cases here.symm.trans awake
      · cases here.symm.trans awake
      · exact sp.unended h.inv.tickets (parks.passes.kept k id) ending (h.unended k)
    · exact others u e
  · exact does.resolve_right fun e => some (e.2.symm.trans waits.closing)

/-- Another turn follows at once. -/
theorem goesOn (h : Midturn t κ γ ds m) (calm : ¬ γ.doomed t) (back : κ.IsBackground) (fresh : (γ.duty t).Fresh) :
    Sound γ ds (m.onLoop fun l => (l.setKind t κ).sooner (.begin t)) := by
  have passes : m.world.loop.Passes (fun _ => False) (m.world.loop.sooner (.begin t)) :=
    Loop.passes_sooner fun _ _ e => by cases e
  show Sound γ ds { m with world := { m.world with loop := (m.world.loop.setKind t κ).sooner (.begin t) } }
  rw [Loop.setKind_same h.kind]
  have inv' := h.inv.passes passes rfl fun _ _ e => .inl e
  have inv : Inv none γ { m.world with loop := m.world.loop.sooner (.begin t) } :=
    { inv' with
      tasks := inv'.tasks.shift (fun u _ off => inv'.tasks.calledOff u (fun e => calm (Option.some.inj e ▸ off)) off)
        fun u e => by cases e }
  have sp := spares_same h.inv.tickets passes rfl rfl
  refine ⟨inv, fun u => ?_, h.history.keep (fun _ _ _ e => e) fun u c some does => ?_⟩
  · by_cases e : u = t
    · subst e
      refine ⟨fun x hx mine => absurd mine (Machine.isSuspended_eq_false.mp h.awake x hx), fun r e => ?_,
        fun _ _ => ⟨fresh, fun q known mine => ?_, fun _ => List.mem_cons_self⟩, fun _ => h.inv.tasks.running u rfl, fun _ k ending => ?_⟩
      · cases (Machine.hasEnded_eq_false.mp h.going).symm.trans e
      · -- Who serves in the background makes no requests.
        obtain ⟨κ', x, kind, -, time⟩ := h.inv.asked.patience q known
        rw [mine] at kind
        cases h.kind.symm.trans kind
        rw [TaskKind.patience_of_background back] at time
        cases time
      · exact sp.unended h.inv.tickets (passes.kept k id) ending (h.unended k)
    · exact (h.others u e).moved sp
        (fun e => by cases e) h.inv.tickets inv.tickets.sane
        (fun x hx mine => by subst mine; exact ((h.others x.task e).stopped x hx rfl).1.time)
        (fun j hj _ => List.mem_cons_of_mem _ hj) (fun _ hj => hj) (fun _ _ => .rfl) rfl
  · exact does.resolve_right fun e => some (e.2.symm.trans fresh.closing)

end Midturn

/-- A machine is sound after some deeds, and no time has passed. -/
def Leads (ds : List Deed) (m m' : Machine) : Prop := ∃ γ, Sound γ ds m' ∧ m'.world.loop.now = m.world.loop.now

/-- A turn runs until it stops or ends. -/
theorem Midturn.advances {p : Act Turn} (h : Midturn t κ γ ds m) (idle : (γ.duty t).closing = .none) (run : discipline.wp t p (Turned t κ) γ m.world) :
    Leads (ds ++ p.deeds t m.world) m (m.advance t p) := by
  obtain ⟨γ₁, seg, stop⟩ := Wp.advance (K := Segment t) (Segment.refl t) (fun _ _ _ _ _ => .cons) run
  have now := seg.now
  simp only [Machine.advance]
  generalize p.advance (fun s t => s.loop.outcome? t) m.world = reached at seg stop now
  obtain ⟨s, stop'⟩ := reached
  have ends (r : Except Fault Reply) : (Machine.endTask t r { m with world := s }).world.loop.now = m.world.loop.now :=
    (Loop.now_settle_eq ..).trans now
  cases stop' with
  | done turn =>
    have turned : Turned t κ (.ok turn) γ₁ s := stop
    have mid := h.advanced idle seg turned.fit.inv
    cases turn with
    | onward κ' =>
      obtain ⟨rfl, back, fresh⟩ := turned.onward κ' rfl
      exact ⟨γ₁, mid.goesOn (fun doomed => by cases turned.doomed doomed) back fresh, now⟩
    | finished r => exact ⟨γ₁, mid.ends turned.clear (.ok r) (turned.told (.ok r) rfl), ends (.ok r)⟩
  | failed f =>
    have turned : Turned t κ (.error f) γ₁ s := stop
    exact ⟨γ₁, (h.advanced idle seg turned.fit.inv).ends turned.clear (.error f) (turned.told (.error f) rfl), ends (.error f)⟩
  | waiting k next =>
    obtain ⟨stops, ready⟩ := stop
    have mid := h.advanced idle seg stops.1
    exact ⟨γ₁, mid.stops stops ready (Loop.parks_watch mid.kind k), (Loop.now_watch_eq ..).trans now⟩
  | pausing next =>
    obtain ⟨stops, ready⟩ := stop
    exact ⟨γ₁, (h.advanced idle seg stops.1).stops stops ready (Loop.parks_soon (stops.1.tasks.running t rfl)), now⟩

end Clock

end LspHost
