import LspHost.Proofs.Clock.Listening
import LspHost.Proofs.Running

/-!
# How tasks stand in time

`Spares t` says what the tasks other than `t` may count on across any stretch of a run: nobody tampers with the relays
that they wait for or with the tickets that they end in, and no job is lost. `Segment` adds what the deeds of one task
have to do with its requests and with the time that it has. `Stands` says where a task is between two jobs, and `Sound`
that all of them stand as they should.

Result: whoever waits with an alarm has something coming by then (`Sound.soon`).
-/

namespace LspHost

/-- A ticket is settled by a deed. -/
structure Deed.Settles (d : Deed) (k : Nat) (r : Except Fault Json) : Prop where
  before : d.before.loop.outcome? k = none
  after : d.after.loop.outcome? k = some r

/-- What time a task has after some deeds. -/
noncomputable def Grant.after (u : Nat) (ds : List Deed) (g : Grant) : Grant :=
  ds.foldl (fun g d => if d.task = u then World.bill u d.before d.after g else g) g

/-- The task that a job is about. -/
def Job.Concerns (u : Nat) : Job → Prop
  | .begin t | .resume t | .wake t _ => t = u
  | .settle .. | .perform .. => False

namespace Clock

open Discipline

variable {t u v k : Nat} {o : Option Nat} {κ : TaskKind} {γ γ' : Roster} {s s' : World} {l l' : Loop} {m m' : Machine}
  {a b c : Roster × World} {ds ds' : List Deed} {js js' : List Job}

/-! ## What the others count on -/

/-- What a stretch of a run leaves to all tasks but one. -/
structure Spares (t : Option Nat) (a b : Roster × World) : Prop where
  onward : Onward a b
  rely : ∀ u, t ≠ some u → Rely u a b
  alarms : ∀ u, t ≠ some u → b.1.alarm u = a.1.alarm u
  endings : ∀ k, b.2.loop.Apart k → (∀ u, t = some u → b.2.loop.ending? u ≠ some k) → a.2.loop.Kept k b.2.loop
  begun : ∀ u k, b.2.loop.ending? u = some k → a.2.loop.ending? u = some k ∨ a.2.loop.tickets.length ≤ k
  begins : ∀ u, a.2.loop.tasks.length ≤ u → u < b.2.loop.tasks.length → .begin u ∈ b.2.loop.ready
  wakes : ∀ u k, Watcher.task u ∈ a.2.loop.watchers k →
    Watcher.task u ∈ b.2.loop.watchers k ∨ b.2.loop.isSettled k = true ∧ .wake u k ∈ b.2.loop.ready
  waiting : ∀ u, t ≠ some u → b.2.loop.waitingFor? u = a.2.loop.waitingFor? u

theorem Spares.refl (t : Option Nat) (a : Roster × World) : Spares t a a :=
  ⟨.refl a, fun u _ => .refl u a, fun _ _ => rfl, fun k _ _ => .refl k _, fun _ _ h => .inl h,
    fun _ lo hi => absurd lo (Nat.not_le_of_lt hi), fun _ _ h => .inl h, fun _ _ => rfl⟩

/-- A ticket that is apart later was so before. -/
theorem Spares.apart (h : Spares o a b) (apart : b.2.loop.Apart k) : a.2.loop.Apart k := by
  rcases apart with ⟨u, ending⟩ | new
  · exact (h.begun u k ending).imp_left fun old => ⟨u, old⟩
  · exact .inr (Nat.le_trans h.onward.grows.issued new)

theorem Spares.trans (h : Spares o a b) (h' : Spares o b c) (jobs : ∀ j ∈ b.2.loop.ready, j ∈ c.2.loop.ready) :
    Spares o a c where
  onward := h.onward.trans h'.onward
  rely u ne := (h.rely u ne).trans (h'.rely u ne)
  alarms u ne := (h'.alarms u ne).trans (h.alarms u ne)
  endings k apart other := (h.endings k (h'.apart apart) fun u e ending =>
    other u e (h'.onward.grows.endings u k ending)).trans (h'.endings k apart other) h'.onward.grows
  begun u k ending := by
    rcases h'.begun u k ending with old | new
    · exact h.begun u k old
    · exact .inr (Nat.le_trans h.onward.grows.issued new)
  begins u lo hi := by
    rcases Nat.lt_or_ge u b.2.loop.tasks.length with old | new
    · exact jobs _ (h.begins u lo old)
    · exact h'.begins u new hi
  wakes u k watches := (h.wakes u k watches).elim (h'.wakes u k) fun woken =>
    .inr ⟨h'.onward.grows.settled woken.1, jobs _ woken.2⟩
  waiting u ne := (h'.waiting u ne).trans (h.waiting u ne)

/-- What a task may do leaves the others alone. -/
theorem Acts.toSpares {f : World → World} (h : Acts t f a γ') : Spares (some t) a (γ', f a.2) where
  onward := h.onward
  rely u ne := h.spares u fun e => ne (e ▸ rfl)
  alarms u ne := h.alarms u fun e => ne (e ▸ rfl)
  endings k apart _ := h.endings k apart
  begun := h.drives.begun
  begins := h.drives.begins
  wakes := h.drives.wakes
  waiting u _ := h.drives.waiting u

/-! ## A segment -/

/-- A session was closed by a task at some time. -/
def Shut (ds : List Deed) (t now i : Nat) : Prop := ∃ d ∈ ds, d.task = t ∧ d.before.loop.now = now ∧ d.after.HasClosed i

theorem Shut.mono {now i : Nat} (h : Shut ds t now i) (more : ∀ d ∈ ds, d ∈ ds') : Shut ds' t now i := by
  obtain ⟨d, hd, rest⟩ := h
  exact ⟨d, more d hd, rest⟩

/-- Something is to be done, or it was to close a session and that is done. -/
def Does (ds : List Deed) (t now : Nat) (P : Intent → Prop) (c : Intent) : Prop :=
  P c ∨ ∃ i, c = .close i ∧ Shut ds t now i

theorem Does.mono {now : Nat} {P P' : Intent → Prop} {c : Intent} (h : Does ds t now P c) (more : ∀ d ∈ ds, d ∈ ds')
    (later : P c → P' c) : Does ds' t now P' c :=
  h.imp later fun ⟨i, e, shut⟩ => ⟨i, e, shut.mono more⟩

/-- What a task does up to its next stop. -/
structure Segment (t : Nat) (ds : List Deed) (a b : Roster × World) : Prop extends Spares (some t) a b where
  jobs : ∀ j ∈ a.2.loop.ready, j ∈ b.2.loop.ready
  now : b.2.loop.now = a.2.loop.now
  apart : ∀ k, b.2.loop.Apart k → a.2.loop.Kept k b.2.loop
  stopped : b.2.loop.waitingFor? t = a.2.loop.waitingFor? t
  mine : ∀ d ∈ ds, d.task = t
  closing : ∀ c, c ≠ .none → (a.1.duty t).closing = c → Does ds t a.2.loop.now ((b.1.duty t).closing = ·) c
  quota : (b.1.duty t).quota = (a.1.duty t).quota.after t ds
  made : ∀ q ∈ b.1.asks, q ∉ a.1.asks → ∃ d ∈ ds, q.Made t d.after ∧ a.2.loop.Grows d.after.loop
  settled : ∀ q ∈ b.1.asks, a.2.loop.outcome? q.ticket = none → ∀ r, b.2.loop.outcome? q.ticket = some r →
    ∃ d ∈ ds, d.Settles q.ticket r ∧ d.before.loop.now = a.2.loop.now ∧
      Rightly t q r d.before (Does ds t a.2.loop.now ((b.1.duty t).closing = ·))

theorem Segment.refl (t : Nat) (a : Roster × World) : Segment t [] a a where
  toSpares := .refl _ a
  jobs _ h := h
  now := rfl
  apart k _ := .refl k _
  stopped := rfl
  mine _ h := by cases h
  closing _ _ e := .inl e
  quota := rfl
  made _ known new := absurd known new
  settled _ _ unsettled _ settled := by cases unsettled.symm.trans settled

/-- What was right while a task was not at its end is right when it is. -/
theorem Rightly.mono {q : Inquiry} {r : Except Fault Json} {P P' : Intent → Prop} (h : Rightly t q r s P)
    (later : ∀ c, c ≠ .none → P c → P' c) : Rightly t q r s P' := by
  refine h.imp_right (And.imp_right (Or.imp_right (Or.imp ?_ ?_)))
  · rintro ⟨lost, reader, ends⟩
    exact ⟨lost, reader, later _ (fun e => by cases e) ends⟩
  · rintro ⟨closed, closes⟩
    exact ⟨closed, later _ (fun e => by cases e) closes⟩

theorem Segment.cons {f : World → World} (first : Acts t f a γ') (rest : Segment t ds (γ', f a.2) b) :
    Segment t (⟨t, f, a.2⟩ :: ds) a b where
  toSpares := first.toSpares.trans rest.toSpares rest.jobs
  jobs j hj := rest.jobs j (first.drives.jobs j hj)
  now := rest.now.trans first.drives.now
  apart k apart := (first.endings k (rest.toSpares.apart apart)).trans (rest.apart k apart) rest.onward.grows
  stopped := rest.stopped.trans (first.drives.waiting t)
  mine d hd := (List.mem_cons.mp hd).elim (fun e => e ▸ rfl) (rest.mine d)
  closing c some e := by
    rcases first.closing with idle | same | ⟨i, close, closed⟩
    · exact absurd (e.symm.trans idle) some
    · have does := rest.closing c some (same.trans e)
      rw [first.drives.now] at does
      exact does.mono (fun _ => List.mem_cons_of_mem _) id
    · exact .inr ⟨i, e.symm.trans close, _, List.mem_cons_self, rfl, rfl, closed⟩
  quota := by
    rw [rest.quota, first.bill]
    simp only [Grant.after, List.foldl_cons, if_true, Deed.after]
  made q known new := by
    by_cases early : q ∈ γ'.asks
    · exact ⟨_, List.mem_cons_self, first.made q early new, first.onward.grows⟩
    · obtain ⟨d, hd, poses, grows⟩ := rest.made q known early
      exact ⟨d, List.mem_cons_of_mem _ hd, poses, first.onward.grows.trans grows⟩
  settled q known unsettled r settled := by
    rcases between : (f a.2).loop.outcome? q.ticket with _ | r'
    · obtain ⟨d, hd, settles, now, rightly⟩ := rest.settled q known between r settled
      rw [first.drives.now] at now rightly
      exact ⟨d, List.mem_cons_of_mem _ hd, settles, now,
        rightly.mono fun _ _ does => does.mono (fun _ => List.mem_cons_of_mem _) id⟩
    · obtain rfl : r' = r := Option.some.inj ((rest.onward.grows.outcomes _ _ between).symm.trans settled)
      -- The request was made before its ticket was settled.
      have old : q ∈ a.1.asks := by
        by_contra new
        by_cases early : q ∈ γ'.asks
        · cases (first.made q early new).unsettled.symm.trans between
        · obtain ⟨d, -, poses, grows⟩ := rest.made q known early
          cases poses.unsettled.symm.trans (grows.outcomes _ _ between)
      refine ⟨_, List.mem_cons_self, ⟨unsettled, between⟩, rfl, (first.rightly q old unsettled r' between).mono fun c some e => ?_⟩
      have does := rest.closing c some e
      rw [first.drives.now] at does
      exact does.mono (fun _ => List.mem_cons_of_mem _) id

/-! ## Where the tasks stand -/

/-- A task waits, goes on in time, and ends its turn as it should. -/
structure Stopped (x : Suspended) (γ : Roster) (s : World) (js : List Job) : Prop where
  ready : ∃ κ, s.loop.kind? x.task = some κ ∧
    discipline.Ready x.task x.on (fun r => discipline.wp x.task (x.next r) (Turned x.task κ)) γ s
  waiting : s.loop.waitingFor? x.task = x.on
  time : (s.loop.now : ℕ∞) ≤ γ.alarm x.task
  waits : Waits x.task x.on γ s.loop
  wakes : ∀ k, x.on = some k → Watcher.task x.task ∈ s.loop.watchers k ∨
    s.loop.isSettled k = true ∧ .wake x.task k ∈ js
  rests : x.on = none → .resume x.task ∈ js

/-- A task has ended, with nothing in hand. Who was called to ask something says how the request has ended. -/
structure Ended (u : Nat) (r : Except Fault Reply) (γ : Roster) (s : World) : Prop where
  clear : (γ.duty u).Clear
  done : ∃ k, s.loop.ending? u = some k ∧ s.loop.isSettled k = true
  told : ∃ κ, s.loop.kind? u = some κ ∧ Told u κ r γ

/-- A task stands where its machine says, while some jobs are to be done. -/
structure Stands (γ : Roster) (m : Machine) (js : List Job) (u : Nat) : Prop where
  stopped : ∀ x ∈ m.suspended, x.task = u → Stopped x γ m.world js ∧ m.reply? u = none
  ended : ∀ r, m.reply? u = some r → Ended u r γ m.world
  ready : m.isSuspended u = false → m.hasEnded u = false →
    (γ.duty u).Fresh ∧ (∀ q ∈ γ.asks, q.task ≠ u) ∧ (u < m.world.loop.tasks.length → .begin u ∈ js)
  idle : m.isSuspended u = false → m.world.loop.waitingFor? u = none
  unended : m.hasEnded u = false → ∀ k, m.world.loop.ending? u = some k →
    m.world.loop.isSettled k = false ∧ ¬ m.world.loop.Fed k

/-- What is under way stays under way. -/
theorem Coming.moved {time : ℕ∞} (h : Coming γ l k time) (kept : l.Kept k l') (grows : l.Grows l')
    (doomed : ∀ u, γ.doomed u → γ'.doomed u) : Coming γ' l' k time := by
  rcases h with reached | ⟨x, hx, rings, due⟩ | ⟨u, e, off, ending, watches⟩
  · exact .inl (kept.reached grows reached)
  · exact (kept.timers x hx rings).elim (fun hx => .inr (.inl ⟨x, hx, rings, due⟩)) fun rung => .inl rung.2
  · exact (kept.watchers e watches).elim (fun still => .inr (.inr ⟨u, e, doomed u off, grows.endings u e ending, still⟩))
      fun told => .inl told.2

theorem Waits.moved {on : Option Nat} (h : Waits u on γ s.loop) (rely : Rely u (γ, s) (γ', s'))
    (alarm : γ'.alarm u = γ.alarm u) : Waits u on γ' s'.loop := by
  have duty : γ'.duty u = γ.duty u := rely.duty
  refine ⟨fun k e => ?_, by rw [alarm, duty]; exact h.limit, by rw [duty]; exact h.pipes, by rw [duty]; exact h.documents,
    by rw [duty]; exact h.queued, by rw [duty]; exact h.closing, fun k e => Nat.lt_of_lt_of_le (h.issued k e) rely.grows.issued⟩
  rw [alarm, duty]
  rcases h.prompt k e with endless | ⟨mine, coming⟩ | ⟨v, off, ending⟩ | queued
  · exact .inl endless
  · exact .inr (.inl ⟨rely.owner k _ mine, coming.moved (rely.relays k mine) rely.grows rely.doomed⟩)
  · exact .inr (.inr (.inl ⟨v, rely.doomed v off, rely.grows.endings v k ending⟩))
  · exact .inr (.inr (.inr queued))

theorem Stopped.moved {x : Suspended} (h : Stopped x γ s js) (sp : Spares o (γ, s) (γ', s')) (ne : o ≠ some x.task)
    (time : (s'.loop.now : ℕ∞) ≤ γ.alarm x.task) (jobs : ∀ j ∈ js, j.Concerns x.task → j ∈ js')
    (new : ∀ j ∈ s'.loop.ready, j ∈ js') : Stopped x γ' s' js' where
  ready := by
    obtain ⟨κ, kind, ready⟩ := h.ready
    exact ⟨κ, sp.onward.grows.kinds _ κ kind, fun γ'' s'' r rely => ready γ'' s'' r ((sp.rely _ ne).trans rely)⟩
  waiting := (sp.waiting _ ne).trans h.waiting
  time := by rw [show γ'.alarm x.task = γ.alarm x.task from sp.alarms _ ne]; exact time
  waits := h.waits.moved (sp.rely _ ne) (sp.alarms _ ne)
  wakes k on := by
    rcases h.wakes k on with watches | ⟨settled, woken⟩
    · exact (sp.wakes _ k watches).imp_right (And.imp_right (new _))
    · exact .inr ⟨sp.onward.grows.settled settled, jobs _ woken rfl⟩
  rests on := jobs _ (h.rests on) rfl

theorem Got.onward {i : Nat} {method params : Json} {r : Except Fault Json} (h : Got t i method params r γ)
    (on : Onward (γ, s) (γ', s')) : Got t i method params r γ' := by
  obtain ⟨q, known, rest⟩ := h
  exact ⟨q, on.ended _ known, rest⟩

/-- What a task was told stays true. -/
theorem Told.moved {r : Except Fault Reply} (h : Told u κ r γ) (rely : Rely u (γ, s) (γ', s')) : Told u κ r γ' where
  asked i method params e := by
    obtain ⟨r', same, got⟩ := h.asked i method params e
    exact ⟨r', same, got.imp_left (·.onward rely.toOnward)⟩
  queried c e about := by
    have silent (quiet : ∀ q ∈ γ.asks, q.task ≠ u) (q : Inquiry) (known : q ∈ γ'.asks) : q.task ≠ u := fun mine =>
      quiet q (rely.mine q known mine) mine
    cases h.queried c e about with
    | unasked quiet => exact .unasked (silent quiet)
    | asked query got => exact .asked query (got.onward rely.toOnward)

theorem Ended.moved {r : Except Fault Reply} (h : Ended u r γ s) (sp : Spares o (γ, s) (γ', s')) (ne : o ≠ some u) :
    Ended u r γ' s' where
  clear := by rw [(sp.rely u ne).duty]; exact h.clear
  done := by
    obtain ⟨k, ending, settled⟩ := h.done
    exact ⟨k, sp.onward.grows.endings u k ending, sp.onward.grows.settled settled⟩
  told := by
    obtain ⟨κ, kind, told⟩ := h.told
    exact ⟨κ, sp.onward.grows.kinds u κ kind, told.moved (sp.rely u ne)⟩

/-- Nothing is going to settle a ticket in which a task ends with which nobody tampers. -/
theorem Spares.unended (h : Spares o a b) (tickets : Tickets a.1 a.2) (kept : a.2.loop.Kept k b.2.loop)
    (ending : b.2.loop.ending? u = some k)
    (before : a.2.loop.ending? u = some k → a.2.loop.isSettled k = false ∧ ¬ a.2.loop.Fed k) :
    b.2.loop.isSettled k = false ∧ ¬ b.2.loop.Fed k := by
  have old : a.2.loop.isSettled k = false ∧ ¬ a.2.loop.Fed k := by
    rcases h.begun u k ending with old | new
    · exact before old
    · refine ⟨?_, fun fed => absurd (tickets.fed k fed) (Nat.not_lt_of_le new)⟩
      rcases e : a.2.loop.outcome? k with _ | r
      · simp [Loop.isSettled, e]
      · exact absurd (Loop.outcome?_lt e) (Nat.not_lt_of_le new)
  obtain ⟨unfed, unsettled⟩ := kept.unfed old.2
  refine ⟨?_, unfed⟩
  by_contra settled
  exact Bool.false_ne_true (old.1.symm.trans (unsettled (by simpa using settled)))

/-- A task stands where it stood. -/
theorem Stands.moved (h : Stands γ m js u) (sp : Spares o (γ, m.world) (γ', m'.world)) (ne : o ≠ some u)
    (tickets : Tickets γ m.world) (sane : m'.world.loop.Sane)
    (time : ∀ x ∈ m.suspended, x.task = u → (m'.world.loop.now : ℕ∞) ≤ γ.alarm u)
    (jobs : ∀ j ∈ js, j.Concerns u → j ∈ js') (new : ∀ j ∈ m'.world.loop.ready, j ∈ js')
    (suspended : ∀ x : Suspended, x.task = u → (x ∈ m'.suspended ↔ x ∈ m.suspended)) (reply : m'.reply? u = m.reply? u) :
    Stands γ' m' js' u := by
  have awake : m'.isSuspended u = m.isSuspended u := by
    rw [Bool.eq_iff_iff]
    simp only [Machine.isSuspended, List.any_eq_true, decide_eq_true_eq]
    exact exists_congr fun x => and_congr_left (suspended x)
  have finished : m'.hasEnded u = m.hasEnded u := by simp only [Machine.hasEnded, reply]
  refine ⟨fun x hx mine => ?_, fun r e => (h.ended r (reply ▸ e)).moved sp ne, fun awake' going => ?_, fun awake' => ?_,
    fun going k ending => ?_⟩
  · have hx := (suspended x mine).mp hx
    obtain ⟨stopped, going⟩ := h.stopped x hx mine
    subst mine
    exact ⟨stopped.moved sp ne (time x hx rfl) jobs new, reply.trans going⟩
  · obtain ⟨fresh, silent, begins⟩ := h.ready (awake ▸ awake') (finished ▸ going)
    refine ⟨by rw [(sp.rely u ne).duty]; exact fresh, fun q known mine => silent q ((sp.rely u ne).mine q known mine) mine,
      fun bound => ?_⟩
    rcases Nat.lt_or_ge u m.world.loop.tasks.length with old | far
    · exact jobs _ (begins old) rfl
    · exact new _ (sp.begins u far bound)
  · exact (sp.waiting u ne).trans (h.idle (awake ▸ awake'))
  · refine sp.unended tickets (sp.endings k (.inl ⟨u, ending⟩) fun v e ending' => ?_) ending (h.unended (finished ▸ going) k)
    exact ne (by rw [e, sane.distinct u v k ending ending'])

/-! ## Nobody waits longer than until its alarm -/

/-- What the deeds of a run have to do with its requests and with the time that its tasks have; some tasks are about to
do something, or have ended. -/
structure History (γ : Roster) (ds : List Deed) (l : Loop) (does : Nat → Intent → Prop) : Prop where
  quota : ∀ u, (γ.duty u).quota = Grant.endless.after u ds
  made : ∀ q ∈ γ.asks, ∃ d ∈ ds, d.task = q.task ∧ q.Made q.task d.after
  settled : ∀ q ∈ γ.asks, ∀ r, l.outcome? q.ticket = some r →
    ∃ d ∈ ds, d.Settles q.ticket r ∧ Rightly d.task q r d.before (Does ds d.task d.before.loop.now (does d.task))

/-- A task was about to end, and has ended. -/
def Finished (m : Machine) (u : Nat) (c : Intent) : Prop := c = .finish ∧ m.hasEnded u = true

/-- The invariant of a machine between two jobs, after some deeds. -/
structure Sound (γ : Roster) (ds : List Deed) (m : Machine) : Prop where
  inv : Inv none γ m.world
  stands : ∀ u, Stands γ m m.world.loop.ready u
  history : History γ ds m.world.loop (Finished m)

namespace Sound

variable {x : Suspended} {p : Place}

theorem stopped (h : Sound γ ds m) (hx : x ∈ m.suspended) : Stopped x γ m.world m.world.loop.ready :=
  ((h.stands x.task).stopped x hx rfl).1

/-- Who has something in hand waits. -/
theorem suspended_of_busy (h : Sound γ ds m) (busy : ¬ (γ.duty u).Clear) : ∃ x ∈ m.suspended, x.task = u := by
  by_contra none
  have awake : m.isSuspended u = false := by
    rw [Machine.isSuspended_eq_false]
    exact fun x hx mine => none ⟨x, hx, mine⟩
  rcases e : m.reply? u with _ | r
  · exact busy ((h.stands u).ready awake (Machine.hasEnded_eq_false.mpr e)).1.toClear
  · exact busy ((h.stands u).ended r e).clear

/-- Something is ready when a ticket is settled for which somebody waits. -/
theorem ready_of_settled (h : Sound γ ds m) (hx : x ∈ m.suspended) (on : x.on = some k)
    (settled : m.world.loop.isSettled k = true) : m.world.loop.ready ≠ [] := by
  rcases (h.stopped hx).wakes k on with watches | ⟨-, woken⟩
  · rw [h.inv.tickets.sane.quiet k settled] at watches
    cases watches
  · exact List.ne_nil_of_mem woken

theorem ready_of_rest (h : Sound γ ds m) (hx : x ∈ m.suspended) (on : x.on = none) : m.world.loop.ready ≠ [] :=
  List.ne_nil_of_mem ((h.stopped hx).rests on)

/-- Something is ready while a task is cancelled and has not ended. -/
theorem ready_of_doomed (h : Sound γ ds m) (off : γ.doomed u) (ending : m.world.loop.ending? u = some k)
    (unsettled : m.world.loop.isSettled k = false) : m.world.loop.ready ≠ [] := by
  by_cases waits : ∃ x ∈ m.suspended, x.task = u
  · obtain ⟨x, hx, rfl⟩ := waits
    have waiting := (h.stopped hx).waiting
    rcases on : x.on with _ | j
    · exact h.ready_of_rest hx on
    · rcases h.inv.tasks.calledOff x.task (fun e => by cases e) off with ⟨e, ends, settled⟩ | interrupted | ⟨i, waits, outcome⟩
      · cases ends.symm.trans ending
        cases settled.symm.trans unsettled
      · exact h.ready_of_settled hx on (h.inv.tasks.woken _ j interrupted (waiting.trans on))
      · obtain rfl : i = j := Option.some.inj (waits.symm.trans (waiting.trans on))
        exact h.ready_of_settled hx on (Option.isSome_iff_exists.mpr ⟨_, outcome⟩)
  · have awake : m.isSuspended u = false := by
      rw [Machine.isSuspended_eq_false]
      exact fun x hx mine => waits ⟨x, hx, mine⟩
    rcases e : m.reply? u with _ | r
    · obtain ⟨κ, kind, -⟩ := h.inv.tasks.doomed u off
      refine List.ne_nil_of_mem (((h.stands u).ready awake (Machine.hasEnded_eq_false.mpr e)).2.2 ?_)
      by_contra far
      simp [Loop.kind?, List.getElem?_eq_none (Nat.le_of_not_lt far)] at kind
    · obtain ⟨j, ends, settled⟩ := ((h.stands u).ended r e).done
      cases ends.symm.trans ending
      cases settled.symm.trans unsettled

/-- Who waits for a lock waits with its ticket. -/
theorem suspended_of_queued (h : Sound γ ds m) (queued : (γ.duty u).queued = some (p, k)) :
    ∃ x ∈ m.suspended, x.task = u ∧ x.on = some k := by
  obtain ⟨x, hx, rfl⟩ := h.suspended_of_busy fun clear => by cases clear.queued.symm.trans queued
  exact ⟨x, hx, rfl, (h.stopped hx).waits.queued p k queued⟩

/-- Something is ready while somebody waits for a lock that nobody holds for long, whoever holds it. -/
theorem ready_of_waiting (h : Sound γ ds m) (queued : (γ.duty u).queued = some (p, k))
    (passing : ∀ v, p ∈ (γ.duty v).holds → m.world.loop.ready ≠ []) : m.world.loop.ready ≠ [] := by
  have locked := h.inv.locked p
  have waits := (locked.queue k).mpr ⟨u, queued⟩
  rcases held : (m.world.ledger.lock p).held with _ | _
  · rcases waiters : (m.world.ledger.lock p).waiters with _ | ⟨j, rest⟩
    · rw [waiters] at waits
      cases waits
    · obtain ⟨v, first⟩ := (locked.queue j).mp (by rw [waiters]; exact List.mem_cons_self)
      obtain ⟨x, hx, -, on⟩ := h.suspended_of_queued first
      exact h.ready_of_settled hx on (locked.handed held j (by rw [waiters]; rfl))
  · obtain ⟨v, mine⟩ := locked.holder held
    exact passing v mine

/-- Something is ready while somebody waits for a pipe or for the documents. -/
theorem ready_of_queued (h : Sound γ ds m) (queued : (γ.duty u).queued = some (p, k)) (passing : p ≠ .lifecycle) :
    m.world.loop.ready ≠ [] := by
  have holder {v : Nat} {p : Place} (mine : p ∈ (γ.duty v).holds) : ∃ x ∈ m.suspended, x.task = v :=
    h.suspended_of_busy fun clear => by rw [clear.holds] at mine; cases mine
  have pipes {i v j : Nat} (queued : (γ.duty v).queued = some (.writing i, j)) : m.world.loop.ready ≠ [] :=
    h.ready_of_waiting queued fun w mine => by
      obtain ⟨x, hx, rfl⟩ := holder mine
      exact h.ready_of_rest hx ((h.stopped hx).waits.pipes i mine)
  cases p with
  | lifecycle => exact absurd rfl passing
  | writing i => exact pipes queued
  | documents =>
    refine h.ready_of_waiting queued fun w mine => ?_
    obtain ⟨x, hx, rfl⟩ := holder mine
    rcases (h.stopped hx).waits.documents mine with rests | ⟨i, j, -, pipe⟩
    · exact h.ready_of_rest hx rests
    · exact pipes pipe

/-- Whoever waits with an alarm has something coming by then. -/
theorem soon (h : Sound γ ds m) (hx : x ∈ m.suspended) (finite : γ.alarm x.task ≠ ⊤) :
    m.world.loop.ready ≠ [] ∨ ∃ z ∈ m.world.loop.timers, (z.due : ℕ∞) ≤ γ.alarm x.task := by
  rcases on : x.on with _ | k
  · exact .inl (h.ready_of_rest hx on)
  rcases (h.stopped hx).waits.prompt k on with endless | ⟨-, coming⟩ | ⟨u, off, ending⟩ | ⟨p, passing, queued⟩
  · exact absurd endless finite
  · rcases coming with (settled | ⟨v, near⟩) | ⟨z, hz, -, due⟩ | ⟨u, e, off, ending, watches⟩
    · exact .inl (h.ready_of_settled hx on settled)
    · exact .inl (List.ne_nil_of_mem near)
    · exact .inr ⟨z, hz, due⟩
    · refine .inl (h.ready_of_doomed off ending ?_)
      by_contra settled
      rw [h.inv.tickets.sane.quiet e (by simpa using settled)] at watches
      cases watches
  · by_cases settled : m.world.loop.isSettled k = true
    · exact .inl (h.ready_of_settled hx on settled)
    · exact .inl (h.ready_of_doomed off ending (by simpa using settled))
  · exact .inl (h.ready_of_queued queued passing)

end Sound

end Clock

end LspHost
