import LspHost.Proofs.Chronicle
import LspHost.Proofs.Clock.Running

/-!
# Lifecycle operations are done in time

One job after another keeps everything (`Sound.step?`), and so does whatever the host does in between, as long as it
lets no time pass in which something else is to happen (`Sound.hosts`). So every client that lives on is sound
(`sound_of_lives`).

Result: an operation that has taken the lock of lifecycle operations goes on in time until it ends, whatever servers do
(`Machine.Lives.in_time`).
-/

namespace LspHost

namespace Loop

theorem not_fed_empty (k : Nat) : ¬ empty.Fed k := by
  rintro (⟨v, e⟩ | ⟨x, e, -⟩ | ⟨j, e⟩)
  · cases e
  · cases e
  · cases e

theorem sane_empty : empty.Sane where
  quiet _ _ := rfl
  sorted := .nil
  due _ e := by cases e
  counted _ e := by cases e
  endings _ _ e := by cases e
  distinct _ _ _ e := by cases e

/-- Nothing is to happen before now. -/
theorem Sane.now_le {l : Loop} {time : Nat} (h : l.Sane) (next : l.nextTime? = some time) : l.now ≤ time := by
  unfold nextTime? at next
  split at next
  · obtain ⟨x, first, rfl⟩ := Option.map_eq_some_iff.mp next
    exact h.due x (List.mem_of_mem_head? first)
  · exact Nat.le_of_eq (Option.some.inj next)

end Loop

namespace Clock

open Discipline

variable {t u v k : Nat} {o : Option Nat} {κ : TaskKind} {γ γ' : Roster} {s s' : World} {l l' : Loop} {m m' : Machine}
  {a b c : Roster × World} {ds ds' : List Deed} {x : Suspended} {job : Job}

/-! ## Jobs -/

/-- The job with which a waiting task goes on. -/
def rejoin (t : Nat) : Option Nat → Job
  | none => .resume t
  | some k => .wake t k

theorem rejoin_concerns {on : Option Nat} : (rejoin t on).Concerns u ↔ u = t := by
  cases on <;> exact eq_comm

theorem Spares.ring {time : ℕ∞} (h : Spares (some t) a (γ', s')) : Spares (some t) a (γ'.ring t time, s') where
  onward := { h.onward with }
  rely u ne :=
    { h.rely u ne with
      alarm := by
        rw [show (γ'.ring t time).alarm u = γ'.alarm u from
          γ'.ring_ne time fun e => ne (congrArg some e.symm)]
        exact (h.rely u ne).alarm }
  alarms u ne := (γ'.ring_ne time fun e => ne (congrArg some e.symm)).trans (h.alarms u ne)
  endings := h.endings
  begun := h.begun
  begins := h.begins
  wakes := h.wakes
  waiting := h.waiting

/-- A task goes on that was stopped. -/
theorem Tasks.goes {L : Ledger} (h : Tasks none γ L l) (kind : l.kind? t = some κ) : Tasks (some t) γ L (l.setRunning t) := by
  have same := Loop.Restates.running
  have waiting {u : Nat} (ne : u ≠ t) : (l.setRunning t).waitingFor? u = l.waitingFor? u := Loop.waitingFor?_restate_ne ne
  have here : (l.setRunning t).waitingFor? t = none := Loop.waitingFor?_restate_self kind fun _ => rfl
  have kinds (u : Nat) : (l.setRunning t).kind? u = l.kind? u := Loop.kind?_restate same u
  have endings (u : Nat) : (l.setRunning t).ending? u = l.ending? u := Loop.ending?_restate same u
  have marked {u : Nat} (e : (l.setRunning t).isInterrupted u = true) : l.isInterrupted u = true :=
    Loop.interrupted_restate same e
  exact
    { kinds := fun u κ e => h.kinds u κ ((kinds u).symm.trans e)
      doomed := fun u e => by rw [kinds]; exact h.doomed u e
      interrupted := fun u e => h.interrupted u (marked e)
      woken := fun u k e waits => by
        by_cases mine : u = t
        · subst mine
          cases here.symm.trans waits
        · exact h.woken u k (marked e) ((waiting mine).symm.trans waits)
      waiting := fun u κ k kind back waits => by
        by_cases mine : u = t
        · subst mine
          cases here.symm.trans waits
        · exact h.waiting u κ k ((kinds u).symm.trans kind) back ((waiting mine).symm.trans waits)
      calledOff := fun u ne off => by
        have ne : u ≠ t := fun e => ne (e ▸ rfl)
        exact (h.calledOff u (fun e => by cases e) off).moved (Loop.grows_setRunning l t)
          (fun e => (Loop.isInterrupted_restate_ne ne).trans e) (waiting ne)
      running := fun u e => Option.some.inj e ▸ here
      drains := fun i T e found drain => by
        obtain ⟨u, j, ending, kind⟩ := h.drains i T e found drain
        exact ⟨u, j, (endings u).trans ending, (kinds u).trans kind⟩
      readers := fun i x e found reader => by
        obtain ⟨u, ending, kind⟩ := h.readers i x e found reader
        exact ⟨u, (endings u).trans ending, (kinds u).trans kind⟩ }

namespace Taken

/-- A job that nobody needs. -/
theorem skip (h : Taken γ ds job m) (resumes : ∀ x ∈ m.suspended, x.on = none → job ≠ .resume x.task)
    (wakes : ∀ x ∈ m.suspended, ∀ k, x.on = some k → m.world.loop.isSettled k = true → job ≠ .wake x.task k)
    (begins : ∀ u, m.isSuspended u = false → m.hasEnded u = false → u < m.world.loop.tasks.length → job ≠ .begin u) :
    Sound γ ds m := by
  refine ⟨h.inv, fun u => ?_, h.history⟩
  have stands := h.stands u
  have other {j : Job} (hj : j ∈ job :: m.world.loop.ready) (ne : job ≠ j) : j ∈ m.world.loop.ready :=
    (List.mem_cons.mp hj).resolve_left ne.symm
  refine ⟨fun x hx mine => ?_, stands.ended, fun awake going => ?_, stands.idle, stands.unended⟩
  · obtain ⟨stopped, going⟩ := stands.stopped x hx mine
    exact ⟨{ stopped with
      wakes := fun k on => (stopped.wakes k on).imp_right fun woken =>
        ⟨woken.1, other woken.2 (wakes x hx k on woken.1)⟩
      rests := fun on => other (stopped.rests on) (resumes x hx on) }, going⟩
  · obtain ⟨fresh, silent, begin⟩ := stands.ready awake going
    exact ⟨fresh, silent, fun there => other (begin there) (begins u awake going there)⟩

/-- Nobody goes on by a job that is for nobody who waits. -/
theorem unclaimed {on : Option Nat} (h : Taken γ ds (rejoin t on) m)
    (nobody : m.suspended.find? (fun x => x.task = t ∧ x.on = on) = none) : Sound γ ds m := by
  have nobody (x : Suspended) (hx : x ∈ m.suspended) : ¬ (x.task = t ∧ x.on = on) := by
    simpa using List.find?_eq_none.mp nobody x hx
  cases on with
  | none =>
    refine h.skip (fun x hx on e => nobody x hx ⟨(Job.resume.inj e).symm, on⟩) (fun _ _ _ _ _ e => ?_) fun _ _ _ _ e => ?_
    · cases e
    · cases e
  | some k =>
    refine h.skip (fun _ _ _ e => ?_) (fun x hx j on _ e => nobody x hx ?_) fun _ _ _ _ e => ?_
    · cases e
    rotate_left
    · cases e
    obtain ⟨task, ticket⟩ := Job.wake.inj e
    exact ⟨task.symm, ticket ▸ on⟩

/-- What a task finds that was stopped: it was cancelled, or its ticket was settled. -/
theorem outcome {r : Except Fault Json} (h : Taken γ ds job m) (hx : x ∈ m.suspended)
    (settled : ∀ k, x.on = some k → m.world.loop.outcome? k = some r) (rested : x.on = none → r = .ok .null) :
    (γ.doomed x.task → (if m.isInterrupted x.task then .error .cancelled else r) = .error .cancelled) ∧
      (¬ γ.doomed x.task → (∀ k, x.on = some k → m.world.loop.outcome? k =
          some (if m.isInterrupted x.task then .error .cancelled else r)) ∧
        (x.on = none → (if m.isInterrupted x.task then .error .cancelled else r) = .ok .null)) := by
  obtain ⟨stopped, going⟩ := (h.stands x.task).stopped x hx rfl
  rw [m.isInterrupted_eq]
  refine ⟨fun doomed => ?_, fun calm => ?_⟩
  · split
    · rfl
    · next calm =>
      rcases h.inv.tasks.calledOff x.task (fun e => by cases e) doomed with ⟨k, ending, ended⟩ | marked | ⟨k, waits, outcome⟩
      · cases ((h.stands x.task).unended (Machine.hasEnded_eq_false.mpr going) k ending).1.symm.trans ended
      · exact absurd marked calm
      · exact Option.some.inj ((settled k (stopped.waiting.symm.trans waits)).symm.trans outcome)
  · have unmarked : ¬ m.world.loop.isInterrupted x.task = true := fun e => calm (h.inv.tasks.interrupted _ e)
    rw [if_neg unmarked]
    exact ⟨settled, rested⟩

/-- A task goes on to its next stop or its end. -/
theorem resumes {r : Except Fault Json} (h : Taken γ ds job m) (hx : x ∈ m.suspended)
    (only : ∀ u, job.Concerns u → u = x.task) (settled : ∀ k, x.on = some k → m.world.loop.outcome? k = some r)
    (rested : x.on = none → r = .ok .null) :
    Leads
      (ds ++ (x.next (if m.isInterrupted x.task then .error .cancelled else r)).deeds x.task
        { m.world with loop := m.world.loop.setRunning x.task }) m
      (({ m with suspended := m.suspended.filter fun y => y.task ≠ x.task }.onLoop (Loop.setRunning · x.task)).advance x.task
        (x.next (if m.isInterrupted x.task then .error .cancelled else r))) := by
  obtain ⟨stopped, going⟩ := (h.stands x.task).stopped x hx rfl
  obtain ⟨κ, kind, ready⟩ := stopped.ready
  have same := Loop.Restates.running
  have passes : m.world.loop.Passes (fun _ => False) (m.world.loop.setRunning x.task) := Loop.passes_restate same
  have ending (u : Nat) : (m.world.loop.setRunning x.task).ending? u = m.world.loop.ending? u := Loop.ending?_restate same u
  have inv := (h.inv.retask passes ending (fun _ _ e => .inl e) (h.inv.tasks.goes kind)).ring (t := x.task) m.world.loop.now
  have requests (k u : Nat) (_ : γ.owner k = some (u, .request)) (r : Except Fault Json)
      (e : (m.world.loop.setRunning x.task).outcome? k = some r) : m.world.loop.outcome? k = some r := e
  have sp : Spares (some x.task) (γ, m.world)
      (γ.ring x.task m.world.loop.now, { m.world with loop := m.world.loop.setRunning x.task }) :=
    (spares_passes h.inv.tickets passes (fun _ e => e.elim) requests ending (by simp [Loop.setRunning])
      (fun _ _ watches => .inl watches) fun u ne => Loop.waitingFor?_restate_ne fun e => ne (e ▸ rfl)).ring
  have rely : Rely x.task (γ, m.world)
      (γ.ring x.task m.world.loop.now, { m.world with loop := m.world.loop.setRunning x.task }) :=
    { rely_passes h.inv.tickets passes (fun _ e => e.elim) requests with
      alarm := by
        rw [show (γ.ring x.task m.world.loop.now).alarm x.task = m.world.loop.now from γ.ring_self ..]
        exact stopped.time }
  have mid : Midturn x.task κ (γ.ring x.task m.world.loop.now) ds
      ({ m with suspended := m.suspended.filter fun y => y.task ≠ x.task }.onLoop (Loop.setRunning · x.task)) :=
    { inv := inv
      kind := (Loop.kind?_restate same x.task).trans kind
      awake := Machine.isSuspended_eq_false.mpr fun y hy => by simpa using (List.mem_filter.mp hy).2
      going := Machine.hasEnded_eq_false.mpr going
      unended := fun k ends => sp.unended h.inv.tickets (passes.kept k id) ends
        ((h.stands x.task).unended (Machine.hasEnded_eq_false.mpr going) k)
      others := fun u ne => by
        refine (h.other fun about => ne (only u about)).moved sp (fun e => ne (Option.some.inj e).symm) h.inv.tickets
          inv.tickets.sane (fun y hy mine => ?_) (fun j hj _ => hj) (fun _ hj => hj) (fun y mine => ?_) rfl
        · subst mine
          exact ((h.stands y.task).stopped y hy rfl).1.time
        · refine ⟨fun hy => (List.mem_filter.mp hy).1, fun hy => List.mem_filter.mpr ⟨hy, ?_⟩⟩
          simpa using fun e => ne (mine.symm.trans e)
      history := { h.history with
        settled := fun q known r outcome => by
          obtain ⟨d, hd, settles, rightly⟩ := h.history.settled q known r outcome
          exact ⟨d, hd, settles, rightly.mono fun _ _ does => does.mono (fun _ h => h) .inl⟩ } }
  have outcome := h.outcome hx settled rested
  exact mid.advances stopped.waits.closing (ready _ _ _ rely ⟨inv, γ.ring_self .., outcome.1, outcome.2⟩)

/-- A task that was stopped goes on, if it waits for what has come. -/
theorem goOn {on : Option Nat} {r : Except Fault Json} (h : Taken γ ds (rejoin t on) m)
    (settled : ∀ k, on = some k → m.world.loop.outcome? k = some r) (rested : on = none → r = .ok .null) :
    Leads (ds ++ (m.rest? t on r).elim [] fun x => x.1.deeds t x.2.world) m (m.goOn t on r) := by
  simp only [Machine.goOn, Machine.rest?]
  generalize found : m.suspended.find? _ = claimant
  cases claimant with
  | none =>
    simp only [Option.map_none, Option.elim_none, List.append_nil]
    exact ⟨γ, h.unclaimed found, rfl⟩
  | some x =>
    obtain ⟨rfl, rfl⟩ : x.task = t ∧ x.on = on := by simpa using List.find?_some found
    exact h.resumes (List.mem_of_find?_eq_some found) (fun _ => rejoin_concerns.mp) settled rested

/-- A task that is between two turns takes the next one. -/
theorem begins (h : Taken γ ds (.begin t) m) (kind : m.world.loop.kind? t = some κ) (awake : m.isSuspended t = false)
    (going : m.hasEnded t = false) : Midturn t κ (γ.ring t m.world.loop.now) ds m := by
  have tasks : Tasks (some t) γ m.world.ledger m.world.loop := h.inv.tasks.shift
    (fun u _ off => h.inv.tasks.calledOff u (fun e => by cases e) off) fun u e => by
      cases e
      exact (h.stands t).idle awake
  have sp : Spares (some t) (γ, m.world) (γ.ring t m.world.loop.now, m.world) := (Spares.refl (some t) (γ, m.world)).ring
  exact
    { inv := Inv.ring { h.inv with tasks := tasks } m.world.loop.now
      kind := kind
      awake := awake
      going := going
      unended := (h.stands t).unended going
      others := fun u ne => by
        refine (h.other fun about => ne about.symm).moved sp (fun e => ne (Option.some.inj e).symm) h.inv.tickets
          h.inv.tickets.sane (fun y hy mine => ?_) (fun j hj _ => hj) (fun _ hj => hj) (fun _ _ => .rfl) rfl
        subst mine
        exact ((h.stands y.task).stopped y hy rfl).1.time
      history := { h.history with
        settled := fun q known r outcome => by
          obtain ⟨d, hd, settles, rightly⟩ := h.history.settled q known r outcome
          exact ⟨d, hd, settles, rightly.mono fun _ _ does => does.mono (fun _ h => h) .inl⟩ } }

/-- A task that is between two turns was not cancelled unless it is to be interrupted. -/
theorem live (h : Taken γ ds job m) (awake : m.isSuspended t = false) (going : m.hasEnded t = false)
    (calm : m.world.loop.isInterrupted t = false) : ¬ γ.doomed t := by
  intro doomed
  rcases h.inv.tasks.calledOff t (fun e => by cases e) doomed with ⟨k, ending, ended⟩ | marked | ⟨k, waits, -⟩
  · cases ((h.stands t).unended going k ending).1.symm.trans ended
  · cases calm.symm.trans marked
  · cases ((h.stands t).idle awake).symm.trans waits

/-- A task takes its turn, or ends if it is interrupted before. -/
theorem beginTask (h : Taken γ ds (.begin t) m) :
    Leads (ds ++ m.deedsIn Client.turn (.begin t)) m (m.beginTask Client.turn t) := by
  have skip (busy : m.world.loop.tasks[t]? = none ∨ m.isSuspended t = true ∨ m.hasEnded t = true) : Sound γ ds m := by
    refine h.skip (fun _ _ _ e => by cases e) (fun _ _ _ _ _ e => by cases e) fun u awake going there e => ?_
    cases e
    rcases busy with none | waits | ended
    · exact absurd there (Nat.not_lt_of_le (List.getElem?_eq_none_iff.mp none))
    · cases awake.symm.trans waits
    · cases going.symm.trans ended
  simp only [Machine.beginTask, Machine.deedsIn]
  rcases found : m.world.loop.tasks[t]? with _ | T
  · simp only [List.append_nil]
    exact ⟨γ, skip (.inl found), rfl⟩
  have kind : m.world.loop.kind? t = some T.kind := by simp only [Loop.kind?, found, Option.map_some]
  rcases awake : m.isSuspended t with _ | _
  swap
  · simp only [Bool.true_or, if_true, List.append_nil]
    exact ⟨γ, skip (.inr (.inl awake)), rfl⟩
  rcases going : m.hasEnded t with _ | _
  swap
  · simp only [Bool.or_true, Bool.true_or, if_true, List.append_nil]
    exact ⟨γ, skip (.inr (.inr going)), rfl⟩
  have mid := h.begins kind awake going
  obtain ⟨fresh, silent, -⟩ := (h.stands t).ready awake going
  have marked : m.world.loop.isInterrupted t = T.interrupted := by
    simp only [Loop.isInterrupted, found, Option.map_some, Option.getD_some]
  rcases interrupted : T.interrupted with _ | _
  · simp only [interrupted, Bool.or_self, Bool.false_eq_true, if_false]
    have fit : Fit t T.kind (γ.ring t m.world.loop.now) m.world :=
      ⟨mid.inv, kind, γ.ring_self .., by
        rw [show (γ.ring t m.world.loop.now).duty t = γ.duty t from rfl, fresh.limit]
        exact le_top⟩
    exact mid.advances fresh.closing (wp_turn fit (h.live awake going (marked.trans interrupted)) fresh silent)
  · simp only [interrupted, Bool.or_self, Bool.false_or, Bool.false_eq_true, if_false, if_true, List.append_nil]
    obtain ⟨κ, kind', back⟩ := h.inv.tasks.doomed t (h.inv.tasks.interrupted t (marked.trans interrupted))
    obtain rfl := Option.some.inj (kind.symm.trans kind')
    exact ⟨_, mid.ends fresh.toClear (.error .cancelled) (told_of_background back), Loop.now_settle_eq ..⟩

end Taken

namespace Sound

/-- A process acts. -/
theorem actsOut {g : Living → Living} (h : Sound γ ds m) (id : Nat) (stirs : ∀ x, Living.Stirs x (g x)) :
    Sound γ ds { m with world := m.world.withServer id g } := by
  have passive := Passive.withServer id stirs m.world
  have sp : Spares none (γ, m.world) (γ, m.world.withServer id g) :=
    Spares.all fun t => (h.inv.acts_passive (f := fun s => s.withServer id g) (t := t) passive).toSpares
  exact h.between (h.inv.passive passive) sp passive.does.now (fun j hj _ => passive.does.jobs j hj)
    fun q known r e => (passive.unasked h.inv known).symm.trans e

/-- A job that was taken. -/
theorem perform (h : Sound γ ds m) (next : m.world.loop.next? = some (some job, l)) :
    Leads (ds ++ (m.onLoop fun _ => l).deedsIn Client.turn job) (m.onLoop fun _ => l)
      ((m.onLoop fun _ => l).perform Client.turn job) := by
  cases job with
  | begin t => exact (h.take next fun _ _ e => by cases e).beginTask
  | resume t =>
    have taken : Taken γ ds (rejoin t none) (m.onLoop fun _ => l) := h.take next fun _ _ e => by cases e
    have leads := taken.goOn (r := .ok .null) (fun _ e => by cases e) fun _ => rfl
    simp only [Machine.deedsIn]
    rcases rest : (m.onLoop fun _ => l).rest? t none (.ok .null) with _ | ⟨p, m₁⟩
    all_goals
      rw [rest] at leads
      exact leads
  | wake t k =>
    have taken : Taken γ ds (rejoin t (some k)) (m.onLoop fun _ => l) := h.take next fun _ _ e => by cases e
    simp only [Machine.perform, Machine.deedsIn]
    rcases outcome : (m.onLoop fun _ => l).world.loop.outcome? k with _ | r
    · simp only [Option.bind_none, List.append_nil]
      refine ⟨γ, taken.skip (fun _ _ _ e => by cases e) (fun x _ j _ settled e => ?_) (fun _ _ _ _ e => by cases e), rfl⟩
      obtain ⟨-, rfl⟩ := Job.wake.inj e
      simp [Loop.isSettled, outcome] at settled
    have leads := taken.goOn (fun _ e => Option.some.inj e ▸ outcome) fun e => by cases e
    simp only [Option.bind_some]
    rcases rest : (m.onLoop fun _ => l).rest? t (some k) r with _ | ⟨p, m₁⟩
    all_goals
      rw [rest] at leads
      exact leads
  | settle k w =>
    simp only [Machine.deedsIn, List.append_nil]
    exact ⟨γ, h.settle next, Loop.now_settle_eq ..⟩
  | perform id trigger actions =>
    have taken := h.take next fun _ _ e => by cases e
    have stirs (x : Living) := Living.stirs_perform id trigger actions x
    simp only [Machine.deedsIn, List.append_nil]
    refine ⟨γ, (taken.skip (fun _ _ _ e => ?_) (fun _ _ _ _ _ e => ?_) fun _ _ _ _ e => ?_).actsOut id stirs,
      (Passive.withServer id stirs _).does.now⟩
    all_goals cases e

/-- One job, which takes no time, or the next round. -/
theorem step? (h : Sound γ ds m) (step : m.step? Client.turn = some m') :
    (∃ γ', Sound γ' (ds ++ m.deeds Client.turn) m') ∧
      (m'.world.loop.now = m.world.loop.now ∨ m.world.loop.next? = some (none, m'.world.loop)) := by
  simp only [Machine.step?, Machine.deeds] at step ⊢
  rcases next : m.world.loop.next? with _ | ⟨_ | job, l⟩
  · rw [next] at step
    cases step
  · rw [next] at step
    cases step
    simp only [List.append_nil]
    exact ⟨⟨γ, h.round next⟩, .inr rfl⟩
  · rw [next] at step
    cases step
    obtain ⟨γ', sound, now⟩ := h.perform next
    obtain ⟨rest, left, -, rfl⟩ := Loop.next?_job next
    exact ⟨⟨γ', sound⟩, .inl now⟩

/-! ## The host -/

/-- What the host does in no time. -/
theorem hosted {f : World → World} {P : Nat → Prop} (h : Sound γ ds m) (inv : Inv none γ (f m.world))
    (does : m.world.loop.Does P (f m.world).loop)
    (new : ∀ k, P k → m.world.loop.tickets.length ≤ k ∧ ¬ (f m.world).loop.Apart k) (lasts : m.world.Lasts (f m.world))
    (dead : ∀ i, γ.used i → (f m.world).isConnected i = true → m.world.isConnected i = true)
    (lock : (f m.world).supervisor = m.world.supervisor) (attempts : (f m.world).attempts = m.world.attempts) :
    Sound γ ds { m with world := f m.world } := by
  have same (k u : Nat) (use : Use) (mine : γ.owner k = some (u, use)) :
      (f m.world).loop.outcome? k = m.world.loop.outcome? k :=
    does.outcomes k fun tampered => absurd (h.inv.tickets.issued k _ mine) (Nat.not_lt_of_le (new k tampered).1)
  have sp : Spares none (γ, m.world) (γ, f m.world) := Spares.all fun t =>
    (acts (f := f) (s := m.world) (t := t) (.refl t γ) does
      (fun k tampered => ⟨(new k tampered).2, fun u mine =>
        absurd (h.inv.tickets.issued k _ mine) (Nat.not_lt_of_le (new k tampered).1)⟩)
      (fun k u _ mine e => (same k u _ mine).symm.trans e)
      (fun q known unsettled r e => by cases unsettled.symm.trans ((same _ _ _ (h.inv.asked.owned q known)).symm.trans e))
      lasts dead (bill_same (by rw [lock]) attempts)).toSpares
  exact h.between inv sp does.now (fun j hj _ => does.jobs j hj)
    fun q known r e => (same _ _ _ (h.inv.asked.owned q known)).symm.trans e

/-- The host makes a session. -/
theorem enrol (h : Sound γ ds m) (server : ServerConfig) (options : SessionOptions) :
    Sound γ ds { m with world := (Supervisor.createSession server options m.world).2 } := by
  refine h.hosted (f := World.enrol server options) (P := fun _ => False) (h.inv.enrol server options) (.refl _)
    (fun _ e => e.elim) (lasts_enrol server options m.world) (fun i used connected => ?_) rfl rfl
  rwa [h.inv.isConnected_enrol used] at connected

/-- The host makes a call. -/
theorem call (h : Sound γ ds m) {κ : TaskKind} (sessional : κ.Sessional) : Sound γ ds (m.start κ).2 :=
  h.hosted (f := fun s => { s with loop := (s.loop.start κ).2 }) (P := fun _ => False) (h.inv.start sessional)
    (Loop.does_start κ) (fun _ e => e.elim) (.of_ledger rfl) (fun _ _ e => e) rfl rfl

/-- The host takes a ticket for something. -/
theorem engage (h : Sound γ ds m) {g : Loop → Loop} (tasks : ∀ l : Loop, (g l).tasks = l.tasks)
    (length : ∀ l : Loop, (g l).tickets.length = l.tickets.length)
    (does : m.world.loop.issue.2.Does (fun k => k = m.world.loop.tickets.length) (g m.world.loop.issue.2)) :
    Sound γ ds (m.onLoop fun l => g l.issue.2) := by
  have does := (Loop.does_issue m.world.loop).trans does
  have count : (g m.world.loop.issue.2).tickets.length = m.world.loop.tickets.length + 1 := by
    rw [length]
    simp [Loop.issue]
  have other {k : Nat} {v : Nat × Use} (mine : γ.owner k = some v) : k ≠ m.world.loop.tickets.length :=
    Nat.ne_of_lt (h.inv.tickets.issued k v mine)
  have ending (u : Nat) : (g m.world.loop.issue.2).ending? u = m.world.loop.ending? u := by
    simp only [Loop.ending?, tasks]
    rfl
  have tickets : Tickets γ { m.world with loop := g m.world.loop.issue.2 } :=
    { sane := does.sane h.inv.tickets.sane
      issued := fun k v e => Nat.lt_of_lt_of_le (h.inv.tickets.issued k v e) does.grows.issued
      endings := fun u k e => h.inv.tickets.endings u k ((ending u).symm.trans e)
      unfed := fun k u use e wait => ((does.kept k (other e)).unfed (h.inv.tickets.unfed k u use e wait)).1
      fed := fun k fed => by
        by_cases e : k = m.world.loop.tickets.length
        · rw [e]
          exact Nat.lt_of_lt_of_eq (Nat.lt_succ_self _) count.symm
        by_cases before : m.world.loop.Fed k
        · exact Nat.lt_of_lt_of_le (h.inv.tickets.fed k before) does.grows.issued
        · exact absurd fed ((does.kept k e).unfed before).1
      proper := fun k u use r e outcome => h.inv.tickets.proper k u use r e ((does.outcomes k (other e)).symm.trans outcome)
      awaited := h.inv.tickets.awaited.loop rfl does.grows fun k u mine v e => (does.outcomes k (other mine)).symm.trans e }
  refine h.hosted (f := fun s => { s with loop := g s.loop.issue.2 })
    (h.inv.onward rfl (fun _ _ h => h) tickets does.grows (tasks _)) does (fun k e => ?_) (.of_ledger rfl) (fun _ _ e => e) rfl rfl
  subst e
  refine ⟨Nat.le_refl _, ?_⟩
  rintro (⟨u, ends⟩ | new)
  · exact absurd (h.inv.tickets.sane.endings u _ ((ending u).symm.trans ends)) (Nat.lt_irrefl _)
  · exact absurd new (by rw [show ({ m.world with loop := g m.world.loop.issue.2 } : World).loop.tickets.length = _ from count]; exact Nat.not_succ_le_self _)

/-- The host lets time pass. -/
theorem idle (h : Sound γ ds m) {time : Nat} (early : ∀ t, m.world.loop.nextTime? = some t → time ≤ t) :
    Sound γ ds (m.idleUntil time) := by
  by_cases later : m.world.loop.now < time
  swap
  · have same : m.idleUntil time = m := by
      simp only [Machine.idleUntil, Machine.onLoop, Nat.max_eq_left (Nat.le_of_not_lt later)]
    rw [same]
    exact h
  -- Time passes only when nothing is ready.
  have quiet : m.world.loop.ready = [] := by
    by_contra busy
    have next : m.world.loop.nextTime? = some m.world.loop.now := by simp [Loop.nextTime?, busy]
    exact absurd later (Nat.not_lt_of_le (early _ next))
  have first : ∀ z ∈ m.world.loop.timers, time ≤ z.due := by
    have sorted := h.inv.tickets.sane.sorted
    rcases timers : m.world.loop.timers with _ | ⟨x, rest⟩
    · exact fun z hz => by cases hz
    have due := early x.due (by simp [Loop.nextTime?, quiet, timers])
    rw [timers, List.pairwise_cons] at sorted
    intro z hz
    rcases List.mem_cons.mp hz with rfl | hz
    · exact due
    · exact Nat.le_trans due (sorted.1 z hz)
  have passes := Loop.passes_idle (P := fun _ => False) (Nat.le_of_lt later) first
  have inv := h.inv.passes passes rfl fun _ _ e => .inl e
  have sp := spares_same h.inv.tickets passes rfl rfl
  have same : m.idleUntil time = { m with world := { m.world with loop := { m.world.loop with now := time } } } := by
    simp only [Machine.idleUntil, Machine.onLoop, Nat.max_eq_right (Nat.le_of_lt later)]
  rw [same]
  refine ⟨inv, fun u => (h.stands u).moved sp (fun e => by cases e) h.inv.tickets inv.tickets.sane (fun x hx mine => ?_)
    (fun j hj _ => hj) (fun _ hj => hj) (fun _ _ => .rfl) rfl, h.history.keep (fun _ _ _ e => e) fun _ _ _ e => e⟩
  subst mine
  exact h.time_of_timer hx quiet first

/-- Whatever the host does between two jobs, if it lets no time pass in which something is to happen. -/
theorem hosts (h : Sound γ ds m) (hosts : m.Hosts (fun c => (TaskKind.call c).Sessional) m')
    (early : ∀ t, m.world.loop.nextTime? = some t → m'.world.loop.now ≤ t) : Sound γ ds m' := by
  cases hosts with
  | call c proper => exact h.call proper
  | after ticket =>
    exact h.engage (g := fun l => l.watch ticket (.ticket m.world.loop.tickets.length)) (fun l => Loop.tasks_watch ..)
      (fun l => Loop.length_tickets_watch ..)
      ((Loop.does_watch ticket _).mono fun k e => (Watcher.ticket.inj e).symm)
  | timer nanos =>
    exact h.engage (g := fun l => (l.later nanos (.settle m.world.loop.tickets.length .null)).2) (fun _ => rfl) (fun _ => rfl)
      ((Loop.does_later nanos _).mono fun k ⟨v, e⟩ => (Job.settle.inj e).1.symm)
  | idle time =>
    refine h.idle fun t next => Nat.le_trans (Nat.le_max_right _ _) (early t next)

end Sound

/-! ## Runs -/

/-- Before anything has happened the invariant holds. -/
theorem inv_blank {env : Environment} {files : Files} {scripts : List Script} {config : Config} {scope : DocumentScope}
    {clientVersion : Option String} {hasListener : Bool} {host : Host} {broker : Broker} :
    Inv none .blank (.fresh env files scripts (.fresh config scope clientVersion hasListener) host broker) where
  tickets :=
    { sane := Loop.sane_empty
      issued := fun _ _ e => by cases e
      endings := fun _ _ _ => rfl
      unfed := fun _ _ _ e => by cases e
      fed := fun k fed => (Loop.not_fed_empty k fed).elim
      proper := fun _ _ _ _ e => by cases e
      awaited := ⟨fun _ _ e => (by cases e), fun _ e => (by cases e), fun _ _ e => by cases e⟩ }
  tasks :=
    { kinds := fun _ _ e => by cases e
      doomed := fun _ e => e.elim
      interrupted := fun _ e => by cases e
      woken := fun _ _ e => by cases e
      waiting := fun _ _ _ e => by cases e
      calledOff := fun _ _ e => e.elim
      running := fun _ e => by cases e
      drains := fun _ _ _ e => by cases e
      readers := fun _ _ _ e => by cases e }
  locked p := by
    cases p <;> exact ⟨.nil, fun _ => ⟨fun e => (by cases e), fun ⟨_, e⟩ => by cases e⟩, fun e => (by cases e), fun _ _ e => by cases e⟩
  queuers := fun _ _ _ e => by cases e
  asked :=
    { numbers := fun _ _ e => by cases e
      sessions := fun _ e => by cases e
      tickets := .nil
      owned := fun _ e => by cases e
      patience := fun _ e => by cases e
      asking := fun _ _ e => by cases e
      finished := fun _ e => by cases e
      once := .nil
      verdicts := fun _ _ e => by cases e
      unheard := fun _ _ e => by cases e
      requests := rfl
      written := ⟨.nil, fun _ e => by cases e⟩
      unsent := fun _ _ e => by cases e
      queries := fun _ e => by cases e }
  tables :=
    { paired := ⟨rfl, fun _ _ e => by cases e⟩
      entries := fun _ _ _ _ e => by cases e
      listed := fun _ _ _ e => by cases e
      closed := fun _ _ _ _ e => by cases e
      bare := fun _ _ e => by cases e
      fresh := fun _ _ e => by cases e
      openers := fun _ _ e => by cases e
      bound := fun _ e => e.elim
      held := fun _ e => by cases e }
  servers := fun _ _ _ e => by cases e
  homes := fun _ _ e => by cases e
  idle := fun _ _ e => by cases e
  getters := rfl
  plain := ⟨rfl, fun _ e => by cases e⟩

end Clock

/-- The runs of a client, and what was done in them: the host makes sessions, asks them and its supervisor for anything
at any time, and lets no time pass in which something else is to happen. -/
inductive Machine.Lives : List Deed → Machine → Prop
  | fresh (env : Environment) (files : Files) (scripts : List Script) (config : Config) (scope : DocumentScope)
      (clientVersion : Option String) (hasListener : Bool) (host : Host) (broker : Broker) :
    Lives [] (.ofWorld (.fresh env files scripts (.fresh config scope clientVersion hasListener) host broker))
  | step {ds : List Deed} {m m' : Machine} (run : Lives ds m) (step : m.step? Client.turn = some m') :
    Lives (ds ++ m.deeds Client.turn) m'
  | session {ds : List Deed} {m : Machine} (run : Lives ds m) (server : ServerConfig) (options : SessionOptions) :
    Lives ds { m with world := (Supervisor.createSession server options m.world).2 }
  | host {ds : List Deed} {m m' : Machine} (run : Lives ds m) (hosts : m.Hosts (fun c => (TaskKind.call c).Sessional) m')
    (early : ∀ time, m.world.loop.nextTime? = some time → m'.world.loop.now ≤ time) : Lives ds m'

namespace Clock

variable {u : Nat} {γ : Roster} {m m' : Machine} {ds ds' : List Deed}

/-- Every client that comes about is sound. -/
theorem sound_of_lives (h : Machine.Lives ds m) : ∃ γ, Sound γ ds m := by
  induction h with
  | fresh =>
    refine ⟨.blank, inv_blank, fun u => ⟨fun _ e => ?_, fun _ e => ?_, fun _ _ => ⟨Duty.fresh_idle, fun _ e => (by cases e), fun e => ?_⟩, fun _ => rfl,
      fun _ _ e => ?_⟩, fun _ => rfl, fun _ e => ?_, fun _ e => ?_⟩
    · cases e
    · cases e
    · exact absurd e (Nat.not_lt_zero u)
    · cases e
    · cases e
    · cases e
  | step _ step ih =>
    obtain ⟨γ, sound⟩ := ih
    exact (sound.step? step).1
  | session _ server options ih =>
    obtain ⟨γ, sound⟩ := ih
    exact ⟨γ, sound.enrol server options⟩
  | host _ hosts early ih =>
    obtain ⟨γ, sound⟩ := ih
    exact ⟨γ, sound.hosts hosts early⟩

end Clock

/-- The host may ask for something at any time. -/
theorem Machine.Lives.call {ds : List Deed} {m : Machine} (run : Machine.Lives ds m) {c : Call}
    (proper : (TaskKind.call c).Sessional) : Machine.Lives ds (m.start (.call c)).2 := by
  obtain ⟨γ, sound⟩ := Clock.sound_of_lives run
  exact run.host (.call c proper) fun time next => sound.inv.tickets.sane.now_le next

/-- A task in the background is woken with a value, or cancelled. -/
theorem Clock.Sound.woken {γ : Roster} {ds : List Deed} {m : Machine} {x : Suspended} {κ : TaskKind} {r : Except Fault Json}
    (h : Clock.Sound γ ds m) (hx : x ∈ m.suspended) (kind : m.world.loop.kind? x.task = some κ) (back : κ.IsBackground)
    (settled : ∀ k, x.on = some k → m.world.loop.outcome? k = some r) (rested : x.on = none → r = .ok .null) :
    ∀ f, (if m.isInterrupted x.task then .error .cancelled else r) = .error f → f = .cancelled := by
  intro f e
  split at e
  · exact (Except.error.inj e).symm
  obtain ⟨stopped, -⟩ := (h.stands x.task).stopped x hx rfl
  rcases on : x.on with _ | k
  · cases (rested on).symm.trans e
  · have mine := h.inv.tasks.waiting x.task κ k kind back (stopped.waiting.trans on)
    exact ((h.inv.tickets.proper k _ _ r mine (settled k on)).wait (Clock.outward_use κ) f e).1

/-- A life keeps an account that is kept by every job and by the making of sessions and begins with the life, and with it
whatever the deeds lead on to. -/
theorem Machine.Lives.account {Γ : Type} {A : Account Γ} {ds : List Deed} {m : Machine} (γ₀ : Γ) {T : List Deed → Γ → Prop}
    (run : Machine.Lives ds m) (lawful : A.Lawful) (known : ∀ γ ds m, Clock.Sound γ ds m → A.Known m.world)
    (woken : ∀ κ r, (κ.IsBackground → ∀ f, r = .error f → f = .cancelled) → A.Woken κ r)
    (fresh : ∀ env files scripts config scope clientVersion hasListener host broker,
      A.Holds γ₀ (.fresh env files scripts (.fresh config scope clientVersion hasListener) host broker))
    (begins : ∀ u s, A.Begins u γ₀ s) (blank : T [] γ₀)
    (made : ∀ γ s server options, A.Holds γ s → A.Holds γ (Supervisor.createSession server options s).2 ∧
      ∀ u, A.Rely u (γ, s) (γ, (Supervisor.createSession server options s).2))
    (path : ∀ {ds ds' a b}, A.Path ds' a b → T ds a.1 → T (ds ++ ds') b.1)
    (serves : A.Serves = TaskKind.Sessional) : ∃ γ, A.Sound γ m ∧ T ds γ := by
  induction run with
  | fresh =>
    exact ⟨γ₀, ⟨fresh .., fun u => ⟨fun _ e => (by cases e), fun _ _ => begins u _, fun _ e => by cases e⟩,
      fun _ e => by cases e⟩, blank⟩
  | step run step ih =>
    obtain ⟨γ, sound, traced⟩ := ih
    obtain ⟨_, inv⟩ := Clock.sound_of_lives run
    obtain ⟨γ', sound', along, -⟩ := sound.step? lawful
      ⟨known _ _ _ inv, fun u κ kind => serves ▸ inv.inv.tasks.kinds u κ kind, fun x hx κ r kind settled rested =>
        woken κ _ fun back => inv.woken hx kind back settled rested⟩ step
    exact ⟨γ', sound', path along traced⟩
  | session _ server options ih =>
    obtain ⟨γ, sound, traced⟩ := ih
    exact ⟨γ, sound.moved lawful (made γ _ server options sound.holds), traced⟩
  | host _ hosts _ ih =>
    obtain ⟨γ, sound, traced⟩ := ih
    exact ⟨γ, (sound.hosts lawful (by rw [serves]; exact hosts)).1, traced⟩

/-! ## How long operations take -/

/-- How long the first process takes to start that a task starts. -/
def launchTime (u : Nat) : List Deed → ℕ∞
  | [] => 0
  | d :: ds => if d.task = u ∧ d.after.attempts ≠ d.before.attempts then d.before.spawnTime else launchTime u ds

/-- By when an operation is done that takes the lock of lifecycle operations by a deed: so much later as it may take, and
as the process takes to start that it starts from then on. -/
def Operation.term (o : Operation) (u : Nat) (d : Deed) (since : List Deed) : ℕ∞ :=
  d.before.loop.now + o.allowance d.before.supervisor.config + if o.launches then launchTime u (d :: since) else 0

/-- It is not too late in a machine, something else happens, and then it is not too late either. -/
structure Machine.InTime (m : Machine) (time : ℕ∞) : Prop where
  now : (m.world.loop.now : ℕ∞) ≤ time
  goesOn : time ≠ ⊤ → ∃ m', m.step? Client.turn = some m'
  next : ∀ m', m.step? Client.turn = some m' → (m'.world.loop.now : ℕ∞) ≤ time

section Grants

variable {u : Nat} {d : Deed} {ds : List Deed} {g : Grant} {s s' : World}

theorem World.advance_le : (World.advance u s s' g).time ≤ g.time ∧ (g.launched = true → (World.advance u s s' g).launched = true) := by
  unfold World.advance
  split
  · rcases s.loop.kind? u with _ | κ
    · exact ⟨le_refl _, fun e => e⟩
    · exact ⟨min_le_left .., fun e => by simp [TaskKind.award, e]⟩
  · exact ⟨le_refl _, fun e => e⟩

/-- A task is given time for one process at most. -/
theorem Grant.after_cons_le (mine : d.task = u)
    (rest : ∀ g : Grant, (g.after u ds).time ≤ g.time + if g.launched then 0 else launchTime u ds) :
    (g.after u (d :: ds)).time ≤ (World.advance u d.before d.after g).time +
      if (World.advance u d.before d.after g).launched then 0 else launchTime u (d :: ds) := by
  have step : g.after u (d :: ds) = (World.bill u d.before d.after g).after u ds := by
    simp only [Grant.after, List.foldl_cons, if_pos mine]
  rw [step]
  refine le_trans (rest _) ?_
  unfold World.bill
  generalize World.advance u d.before d.after g = g'
  by_cases same : d.after.attempts = d.before.attempts ∨ g'.launched = true
  · rw [if_pos same]
    rcases same with same | launched
    · simp only [launchTime, mine, same, ne_eq, not_true_eq_false, and_false, if_false, le_refl]
    · simp only [launched, if_true, le_refl]
  · rw [if_neg same]
    obtain ⟨started, unlaunched⟩ := not_or.mp same
    simp only [World.launch, if_true, add_zero, if_neg unlaunched, launchTime, mine, ne_eq, started, not_false_eq_true,
      and_self, le_refl]

theorem Grant.after_le (u : Nat) (ds : List Deed) (g : Grant) :
    (g.after u ds).time ≤ g.time + if g.launched then 0 else launchTime u ds := by
  induction ds generalizing g with
  | nil => exact le_self_add
  | cons d ds ih =>
    by_cases mine : d.task = u
    · have less : (World.advance u d.before d.after g).time ≤ g.time ∧
          (g.launched = true → (World.advance u d.before d.after g).launched = true) := World.advance_le
      refine le_trans (Grant.after_cons_le mine ih) (add_le_add less.1 ?_)
      by_cases launched : g.launched = true
      · rw [if_pos launched, if_pos (less.2 launched)]
      · rw [if_neg launched]
        split
        · exact bot_le
        · exact le_refl _
    · simp only [Grant.after, List.foldl_cons, launchTime, mine, false_and, if_false]
      exact ih g

/-- An operation that has taken the lock has no more time than until its term. -/
theorem Operation.after_le {o : Operation} (enters : d.Enters u) (operates : Course.Operates d.before u o) :
    (g.after u (d :: ds)).time ≤ o.term u d ds := by
  have advanced : World.advance u d.before d.after g =
      (TaskKind.call (.supervisor (.operate o))).award d.before.supervisor.config d.before.loop.now g := by
    unfold World.advance
    rw [if_pos ⟨enters.free, enters.taken⟩, show d.before.loop.kind? u = _ from operates]
    rfl
  refine le_trans (Grant.after_cons_le enters.mine (Grant.after_le u ds)) ?_
  rw [advanced]
  refine add_le_add (min_le_right ..) ?_
  show (if (g.launched || !o.launches) = true then 0 else launchTime u (d :: ds)) ≤ _
  rcases o.launches with _ | _
  · simp
  · split
    · exact bot_le
    · exact le_refl _

end Grants

/-- Something happens as long as a job is ready or a timer is set. -/
theorem Machine.exists_step {turn : TaskKind → Act Turn} {m : Machine}
    (more : m.world.loop.ready ≠ [] ∨ m.world.loop.timers ≠ []) : ∃ m', m.step? turn = some m' := by
  have next : ∃ job l, m.world.loop.next? = some (job, l) := by
    unfold Loop.next?
    split
    · exact ⟨_, _, rfl⟩
    · exact ⟨_, _, rfl⟩
    · next quiet =>
      split
      · next none => exact more.elim (fun busy => absurd quiet busy) fun set => absurd none set
      · exact ⟨_, _, rfl⟩
  obtain ⟨_ | job, l, next⟩ := next
  all_goals
    unfold Machine.step?
    rw [next]
    exact ⟨_, rfl⟩

/-- Who waits with an alarm is not too late before that time, and something else happens. -/
theorem Clock.Sound.timely {γ : Roster} {m : Machine} {ds : List Deed} {x : Suspended} {time : ℕ∞} (h : Sound γ ds m)
    (hx : x ∈ m.suspended) (alarm : γ.alarm x.task ≤ time) : m.InTime time where
  now := le_trans (h.stopped hx).time alarm
  goesOn finite := by
    refine Machine.exists_step ?_
    rcases h.soon hx (ne_top_of_le_ne_top finite alarm) with busy | ⟨z, hz, -⟩
    · exact .inl busy
    · exact .inr (List.ne_nil_of_mem hz)
  next m' step := by
    rcases (h.step? step).2 with same | round
    · rw [same]
      exact le_trans (h.stopped hx).time alarm
    · exact le_trans (h.round_time hx round) alarm

/-- A server that takes two seconds to start, answers nothing and cannot be got rid of. -/
def Script.stubborn : Script :=
  { Script.obedient with spawnDelay := some 2000000000, on := [], onInputClosed := [], onTerminate := .ignores, onKill := .ignores }

/-- A client that is asked to start such a server. -/
def Machine.starting : Machine := ((Machine.ofWorld (.sample [.stubborn])).start (.call (.supervisor (.operate .start)))).2

end LspHost
