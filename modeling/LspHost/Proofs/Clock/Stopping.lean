import LspHost.Proofs.Clock.Waits

/-!
# Stopping tasks

A background task that is cancelled ends in no time, and so does the wait for its end. Who waits for a process to exit
watches a task that does, and cancels it when the time is up.
-/

namespace LspHost.Clock

open Discipline

variable {t u k e : Nat} {κ κ' : TaskKind} {γ γ' : Roster} {s s' : World} {l : Loop} {a b : Roster × World} {α β : Type}

/-- A ticket is the end of a task in the background. -/
def Ends (e u : Nat) (l : Loop) : Prop := l.ending? u = some e ∧ ∃ κ, l.kind? u = some κ ∧ κ.IsBackground

theorem Ends.onward (h : Ends e u a.2.loop) (on : Onward a b) : Ends e u b.2.loop := by
  obtain ⟨ending, κ, kind, background⟩ := h
  exact ⟨on.grows.endings u e ending, κ, on.grows.kinds u κ kind, background⟩

/-- A task watches a ticket with its relay. -/
theorem Fit.watch (h : Fit t κ γ s) (j : Nat) (mine : γ.owner k = some (t, .relay)) :
    Step t κ (fun s => { s with loop := s.loop.watch j (.ticket k) }) γ s γ := by
  refine h.relay (g := fun l => l.watch j (.ticket k)) mine (Loop.does_watch j _) ?_ (fun _ => Loop.outcome?_watch ..)
    (Loop.tasks_watch ..)
  intro i e
  cases e
  rfl

theorem Fit.unwatch (h : Fit t κ γ s) (j : Nat) (mine : γ.owner k = some (t, .relay)) :
    Step t κ (fun s => { s with loop := s.loop.unwatch j (.ticket k) }) γ s γ :=
  h.relay (g := fun l => l.unwatch j (.ticket k)) mine (Loop.does_unwatch j k) (fun _ e => e)
    (fun _ => Loop.outcome?_unwatch ..) rfl

/-- Nothing settles a ticket before some time. -/
structure Lone (l : Loop) (k : Nat) (time : ℕ∞) : Prop where
  unsettled : l.outcome? k = none
  nears : ¬ l.Nears k
  timers : ∀ x ∈ l.timers, x.Rings k → time ≤ x.due
  watchers : ∀ j, Watcher.ticket k ∉ l.watchers j

/-- A task gets a relay, which nothing settles. -/
theorem Fit.issueRelay (h : Fit t κ γ s) :
    Step t κ (fun s => { s with loop := s.loop.issue.2 }) γ s (γ.own s.loop.tickets.length t .relay) ∧
      (γ.own s.loop.tickets.length t .relay).owner s.loop.tickets.length = some (t, .relay) ∧
      Lone s.loop.issue.2 s.loop.tickets.length ⊤ := by
  have unfed : ¬ s.loop.issue.2.Fed s.loop.tickets.length :=
    ((Loop.Kept.issue s.loop _).unfed fun fed => absurd (h.inv.tickets.fed _ fed) (Nat.lt_irrefl _)).1
  refine ⟨h.issue .relay (by decide), γ.own_self .., ⟨?_, fun near => unfed (.inl near),
    fun x hx rings => absurd (.inr (.inl ⟨x, hx, rings⟩)) unfed, fun j hj => unfed (.inr (.inr ⟨j, hj⟩))⟩⟩
  rw [Loop.outcome?_issue]
  rcases e : s.loop.outcome? s.loop.tickets.length with _ | r
  · rfl
  · exact absurd (Loop.outcome?_lt e) (Nat.lt_irrefl _)

/-- Whoever starts a task settles nothing. -/
theorem Lone.start {time : ℕ∞} (h : Lone l k time) (κ : TaskKind) : Lone (l.start κ).2 k time where
  unsettled := (Loop.outcome?_start ..).trans h.unsettled
  nears := by
    rintro ⟨v, hv⟩
    rcases List.mem_append.mp hv with hv | hv
    · exact h.nears ⟨v, hv⟩
    · cases List.mem_singleton.mp hv
  timers := h.timers
  watchers j := by
    rw [show (l.start κ).2.watchers j = l.watchers j from Loop.watchers_issue l j]
    exact h.watchers j

/-- Who watches the end of a task that it then cancels is told in no time. -/
theorem coming_cancelled {touched : Loop} (issued : e < l.tickets.length) (ends : l.ending? u = some e)
    (kept : (l.watch e (.ticket k)).Kept k touched) (grows : (l.watch e (.ticket k)).Grows touched) (time : ℕ∞) :
    Coming (γ.doom u) touched k time := by
  rcases Loop.watch_self (l := l) (.ticket k) issued with watches | ⟨-, near⟩
  · rcases kept.watchers e watches with watches | ⟨-, reached⟩
    · refine .inr (.inr ⟨u, e, .inl rfl, grows.endings u e ?_, watches⟩)
      simpa only [Loop.ending?, Loop.tasks_watch] using ends
    · exact .inl reached
  · exact .inl (kept.ready ⟨.null, near⟩)

/-- A task cancels a task in the background and waits for its end. -/
theorem wp_cancelAndWait (h : Fit t κ γ s) (foreground : ¬ κ.IsBackground) (free : (γ.duty t).Free)
    (ends : Ends e u s.loop) :
    discipline.wp t (Act.cancelAndWait e) (fun r γ' s' => r = .ok () ∧ Still t κ (γ, s) (γ', s')) γ s := by
  obtain ⟨issued, mine, -⟩ := h.issueRelay
  have watched := issued.still.fit.watch e mine
  have still := issued.still.trans watched.still
  have ends' := ends.onward issued.still.stays.toOnward
  obtain ⟨ending, κ', kind, background⟩ := ends'.onward watched.still.stays.toOnward
  obtain ⟨cancelled, kept⟩ := watched.still.fit.cancel ending kind background
  have still' := still.trans cancelled.still
  show discipline.wp t (Act.issue >>= fun waiter => do
    Act.tell (Loop.watch · e (.ticket waiter))
    Program.ensure (do
      Act.tell (Loop.cancelTicket · e)
      let _ ← Program.await waiter) (Act.tell (Loop.unwatch · e (.ticket waiter)))) _ γ s
  refine Wp.yield _ issued.acts (Wp.change _ watched.acts (Wp.ensure
    (P := fun r γ' s' => r = .ok () ∧ Still t κ (γ, s) (γ', s') ∧ γ'.owner s.loop.tickets.length = some (t, .relay))
    (Wp.change _ cancelled.acts (Wp.seq
      (P := fun r γ' s' => (∃ v, r = .ok v) ∧ Still t κ (γ, s) (γ', s') ∧
        γ'.owner s.loop.tickets.length = some (t, .relay))
      (wp_relay still'.fit foreground free mine ?_ fun γ' s' v more =>
        ⟨⟨v, rfl⟩, still'.trans more, more.stays.owner _ _ mine⟩) ?_ ?_)) ?_))
  · exact coming_cancelled (issued.still.fit.inv.tickets.sane.endings u e ends'.1) ends'.1 (kept _ t mine)
      cancelled.still.stays.grows _
  · rintro v γ' s' ⟨-, rest⟩
    exact ⟨rfl, rest⟩
  · rintro f γ' s' ⟨⟨v, e⟩, -⟩
    cases e
  · rintro r γ' s' ⟨rfl, still'', mine'⟩
    have unwatched := still''.fit.unwatch e mine'
    exact Wp.update _ unwatched.acts ⟨rfl, still''.trans unwatched.still⟩

/-- A task cancels a task in the background and looks at how it has ended. -/
theorem wp_stopTask (h : Fit t κ γ s) (foreground : ¬ κ.IsBackground) (free : (γ.duty t).Free)
    (ends : Ends e u s.loop) :
    discipline.wp t (Act.stopTask e) (fun _ γ' s' => Still t κ (γ, s) (γ', s')) γ s := by
  have issued := h.inv.tickets.sane.endings u e ends.1
  obtain ⟨ending, κ', kind, background⟩ := ends
  obtain ⟨cancelled, -⟩ := h.cancel ending kind background
  have ending' := cancelled.still.stays.grows.endings u e ending
  refine Wp.change _ cancelled.acts (Wp.attempt_seq (P := fun _ γ' s' => Still t κ (γ, s) (γ', s'))
    (wp_await cancelled.still.fit (cancelled.still.fit.calm foreground) (fun _ => .of_free free ?_ (fun k e => ?_) fun k e => ?_)
      (fun back => absurd back foreground) (fun r _ => cancelled.still) fun γ' s' r more _ => cancelled.still.trans more) ?_)
  · rw [cancelled.still.fit.alarm]
    exact cancelled.still.fit.limit
  · cases e
    exact .inr (.inr (.inl ⟨u, .inl rfl, ending'⟩))
  · cases e
    exact Nat.lt_of_lt_of_le issued cancelled.still.stays.grows.issued
  · intro r γ' s' still
    split
    · exact still
    · exact still
    · exact still

/-- What is left of a wait whose time is up. -/
theorem wp_outcomeOrTimeout (γ : Roster) (s : World) :
    discipline.wp t (Act.outcomeOrTimeout e) (fun _ γ' s' => γ' = γ ∧ s' = s) γ s := by
  refine Wp.look ?_
  split <;> exact ⟨rfl, rfl⟩

/-- A task gives up waiting for the end of another one. -/
theorem wp_giveUp (h : Fit t κ γ s) (foreground : ¬ κ.IsBackground) (free : (γ.duty t).Free) (ends : Ends e u s.loop)
    (mine : γ.owner k = some (t, .relay)) :
    discipline.wp t (Act.giveUp e k) (fun _ γ' s' => Still t κ (γ, s) (γ', s')) γ s := by
  refine Wp.look ?_
  split
  · exact Wp.ofExcept (.refl h)
  · have unwatched := h.unwatch e mine
    refine Wp.change _ unwatched.acts (Wp.seq (wp_cancelAndWait unwatched.still.fit foreground free
      (ends.onward unwatched.still.stays.toOnward)) ?_ ?_)
    · rintro - γ' s' ⟨-, still⟩
      refine Wp.mono (wp_outcomeOrTimeout γ' s') ?_
      rintro r γ'' s'' ⟨rfl, rfl⟩
      exact unwatched.still.trans still
    · rintro f γ' s' ⟨⟨⟩, -⟩

/-! ## Waiting for a time -/

/-- A timer settles a ticket by some time, or there is neither. -/
def Timed (l : Loop) (timer : Option Nat) (k : Nat) (time : ℕ∞) : Prop :=
  (timer = none ∧ time = ⊤) ∨
    ∃ id, timer = some id ∧ OnlyRings l id k ∧ ∃ x ∈ l.timers, x.Rings k ∧ (x.due : ℕ∞) ≤ time

theorem Timed.of_same {l' : Loop} {timer : Option Nat} {time : ℕ∞} (h : Timed l timer k time) (timers : l'.timers = l.timers)
    (count : l'.timerCount = l.timerCount) : Timed l' timer k time := by
  simpa only [Timed, OnlyRings, timers, count] using h

/-- A task sets a timer for its relay. -/
theorem wp_startTimer (h : Fit t κ γ s) (mine : γ.owner k = some (t, .relay)) (lone : Lone s.loop k ⊤) (time : Seconds) :
    discipline.wp t (Act.startTimer time k) (fun r γ' s' => ∃ timer, r = .ok timer ∧ Still t κ (γ, s) (γ', s') ∧
      Lone s'.loop k (s.loop.now + time.limit) ∧ Timed s'.loop timer k (s.loop.now + time.limit)) γ s := by
  unfold Act.startTimer
  split
  · next n length =>
    have set := h.later n mine
    have limit : (s.loop.now : ℕ∞) + time.limit = (s.loop.now + n : Nat) := by
      simp only [Seconds.limit, length, Option.elim_some, Nat.cast_add]
    rw [limit]
    refine Wp.yield _ set.acts ⟨_, rfl, set.still, ⟨lone.unsettled, lone.nears, fun x hx rings => ?_, lone.watchers⟩,
      .inr ⟨_, rfl, onlyRings_later h.inv.tickets.sane n .null, ?_⟩⟩
    · rcases Loop.mem_insertTimer_iff.mp hx with rfl | hx
      · exact le_refl _
      · exact absurd (lone.timers x hx rings) (by simp)
    · obtain ⟨x, hx, -, due, job⟩ := s.loop.exists_later n (.settle k .null)
      exact ⟨x, hx, ⟨.null, job⟩, by rw [due]⟩
  · next length =>
    have limit : (s.loop.now : ℕ∞) + time.limit = ⊤ := by simp [Seconds.limit, length]
    rw [limit]
    exact ⟨none, rfl, .refl h, lone, .inl ⟨rfl, rfl⟩⟩

/-- What has settled a relay that watches a ticket: that ticket, or its time has come. -/
theorem Lone.watched {time : ℕ∞} {l' : Loop} (h : Lone l k time) (grows : l.Grows l')
    (how : (l.watch e (.ticket k)).Nears k ∨ (l.watch e (.ticket k)).Comes k l') :
    l'.isSettled e = true ∨ time ≤ l'.now := by
  rcases how with ⟨v, near⟩ | ⟨x, hx, rings, due⟩ | ⟨j, hj, settled⟩
  · rcases Loop.ready_watch l e (.ticket k) with same | ⟨settled, -⟩
    · exact absurd ⟨v, same ▸ near⟩ h.nears
    · exact .inl (grows.settled settled)
  · rw [Loop.timers_watch] at hx
    exact .inr (le_trans (h.timers x hx rings) (by exact_mod_cast due))
  · rcases Loop.of_mem_watchers_watch hj with old | ⟨rfl, -⟩
    · exact absurd old (h.watchers j)
    · exact .inl settled

/-- The last part of a wait: until the timer rings, and then whatever there is left to do. -/
theorem wp_await_timed {R : Except Fault Json → Roster → World → Prop} {T : Option Nat} {d : ℕ∞}
    (h : Fit t κ γ s) (foreground : ¬ κ.IsBackground) (free : (γ.duty t).Free) (mine : γ.owner k = some (t, .relay))
    (lone : Lone s.loop k d) (timed : Timed s.loop T k d) (later : (s.loop.now : ℕ∞) ≤ d)
    (limit : d ≤ (γ.duty t).limit)
    (give : ∀ γ' s', Fit t κ γ' s' → Stays t (γ, s) (γ', s') → (s'.loop.now : ℕ∞) ≤ d →
      s'.loop.isSettled e = true ∨ d ≤ s'.loop.now → γ'.owner k = some (t, .relay) →
        discipline.wp t (Act.giveUp e k) R γ' s')
    (fits : ∀ r γ' s', R r γ' s' → Fit t κ γ' s' ∧ Onward (γ, s) (γ', s'))
    (stable : ∀ r γ' s' b, R r γ' s' → Still t κ (γ', s') b → R r b.1 b.2)
    {body : Except Fault Json → Act Json} (rung : ∀ v, body (.ok v) = Act.giveUp e k) {last : Act Unit}
    (none : T = none → last = pure ()) (some : ∀ id, T = some id → last = Act.tell (Loop.dropTimer · id)) :
    discipline.wp t (do
      Act.tell (Loop.watch · e (.ticket k))
      Program.ensure (Program.attempt (Program.await k) >>= body) last) R γ s := by
  have watched := h.watch e mine
  have timed' := timed.of_same (Loop.timers_watch s.loop e (.ticket k)) (Loop.timerCount_watch ..)
  refine Wp.change (γ.ring t d) watched.acts.ring (Wp.ensure (P := R) (Wp.attempt_seq
    (P := fun r γ' s' => (∃ v, r = .ok v) ∧ Fit t κ γ' s' ∧ Stays t (γ, s) (γ', s') ∧ (s'.loop.now : ℕ∞) ≤ d ∧
      (s'.loop.isSettled e = true ∨ d ≤ s'.loop.now))
    (wp_relay_until watched.still.fit foreground free mine ?_ ?_ limit ?_ fun γ' s' v fit stays time how =>
      have stays := watched.still.stays.trans stays
      ⟨⟨v, rfl⟩, fit, stays, time, lone.watched stays.grows how⟩) ?_) ?_)
  · refine timed'.imp And.right ?_
    rintro ⟨id, -, -, x, hx, rings, due⟩
    exact .inr (.inl ⟨x, hx, rings, due⟩)
  · rw [watched.still.now]
    exact later
  · exact (Loop.outcome?_watch ..).trans lone.unsettled
  · rintro r γ' s' ⟨⟨v, rfl⟩, fit, stays, time, how⟩
    rw [rung]
    exact give γ' s' fit stays time how (stays.owner k _ mine)
  · intro r γ' s' post
    obtain ⟨fit, onward⟩ := fits r γ' s' post
    rcases timed with ⟨e, -⟩ | ⟨id, e, only, -⟩
    · rw [none e]
      exact post
    · rw [some id e]
      have dropped := fit.dropTimer (onward.owner k _ mine) (only.onward (a := (γ, s)) onward)
      exact Wp.update _ dropped.acts (stable r γ' s' _ post dropped.still)

/-- A task starts another one and gets the ticket in which that one ends. -/
theorem wp_start {Q : Except Fault β → Roster → World → Prop} {g : Nat → Act β} (h : Fit t κ γ s)
    (background : κ'.IsBackground) (next : ∀ γ' s', Still t κ (γ, s) (γ', s') → Ends s.loop.tickets.length s.loop.tasks.length s'.loop →
      s'.loop = (s.loop.start κ').2 → discipline.wp t (g s.loop.tickets.length) Q γ' s') :
    discipline.wp t (Act.start κ' >>= g) Q γ s := by
  have sessional : κ'.Sessional := by cases κ' <;> trivial
  have started := h.start sessional
  have ending := s.loop.ending?_start κ'
  refine Wp.yield _ started.acts ?_
  show discipline.wp t (g (((s.loop.start κ').2.ending? s.loop.tasks.length).getD 0)) Q _ _
  rw [ending]
  refine next _ _ started.still ⟨ending, κ', ?_, background⟩ rfl
  simp [Loop.kind?, Loop.tasks_start]

/-- A task waits for a process to exit, at most for some time. -/
theorem wp_waitExit (h : Fit t κ γ s) (foreground : ¬ κ.IsBackground) (free : (γ.duty t).Free) {time : Seconds} {j : Nat}
    (limit : (s.loop.now : ℕ∞) + time.limit ≤ (γ.duty t).limit) :
    discipline.wp t (Act.waitFor (Act.start (.exitWatch j)) time)
      (fun _ γ' s' => Within t κ time.limit (γ, s) (γ', s')) γ s := by
  unfold Act.waitFor
  split
  · obtain ⟨issued, mine, lone⟩ := h.issueRelay
    refine Wp.yield _ issued.acts (Wp.seq (wp_startTimer issued.still.fit mine lone time) ?_ ?_)
    · rintro timer' γ₁ s₁ ⟨timer, e, still, lone', timed⟩
      cases e
      have mine' := still.stays.owner _ _ mine
      have still := issued.still.trans still
      refine wp_start still.fit trivial fun γ₂ s₂ more ends loop => ?_
      have still' := still.trans more
      have duty : γ₂.duty t = γ.duty t := still'.stays.duty
      refine Wp.mono (wp_await_timed (d := s.loop.now + time.limit) (R := fun _ γ' s' => Within t κ time.limit (γ₂, s₂) (γ', s'))
        (T := timer') still'.fit foreground (by rw [duty]; exact free) (more.stays.owner _ _ mine')
        (by rw [loop]; exact lone'.start _)
        (timed.of_same (by rw [loop]; rfl) (by rw [loop]; rfl)) ?_ (by rw [duty]; exact limit)
        (fun γ' s' fit stays late _ mine => ?_) (fun _ γ' s' post => ⟨post.fit, post.stays.toOnward⟩)
        (fun r γ' s' b post more => post.still more) (fun _ => rfl) (fun e => by rw [e]) fun id e => by rw [e])
        fun _ _ _ post => still'.trans_within post
      · rw [still'.now]
        exact le_self_add
      · refine Wp.mono (wp_giveUp fit foreground ?_ (ends.onward (a := (γ₂, s₂)) stays.toOnward) mine) fun _ _ _ more => ?_
        · rw [show γ'.duty t = γ.duty t from stays.duty.trans duty]
          exact free
        · refine ⟨more.fit, stays.trans more.stays, ?_⟩
          rw [more.now, show s₂.loop.now = s.loop.now from still'.now]
          exact late
    · rintro f γ' s' ⟨timer, e, -⟩
      cases e
  · refine wp_start h trivial fun γ' s' still ends _ => Wp.look ?_
    split
    · exact Wp.ofExcept still.within
    · refine Wp.seq (wp_cancelAndWait still.fit foreground (by rw [still.stays.duty]; exact free) ends) ?_ ?_
      · rintro - γ'' s'' ⟨-, more⟩
        refine Wp.mono (wp_outcomeOrTimeout γ'' s'') ?_
        rintro r γ₃ s₃ ⟨rfl, rfl⟩
        exact (still.trans more).within
      · rintro f γ'' s'' ⟨⟨⟩, -⟩

end LspHost.Clock
