import LspHost.Proofs.Clock.Inquiring

/-!
# Responses in time

Who has made a request writes it and waits for its ticket until the time is up; then the request is given up
(`wp_waitResponse`, `wp_exchange`).
-/

namespace LspHost.Clock

open Discipline

variable {t u i k : Nat} {o : Option Nat} {κ : TaskKind} {γ γ' : Roster} {s s' : World} {L : Ledger} {l : Loop} {d : Duty}
  {q : Inquiry} {x : Session} {a b c : Roster × World} {α β : Type}

/-! ## To wait for a response -/

/-- What a task keeps that may give up one of its requests. -/
structure Keeps (t k : Nat) (a b : Roster × World) : Prop extends Onward a b where
  duty : b.1.duty t = a.1.duty t
  requests : ∀ j, j ≠ k → a.1.owner j = some (t, .request) → b.2.loop.outcome? j = some (.error .cancelled) →
    a.2.loop.outcome? j = some (.error .cancelled)
  opener : ∀ i, (a.1.duty t).opening = some i → b.1.used i → a.1.used i

theorem Stays.keeps (h : Stays t a b) : Keeps t k a b :=
  { h with requests := fun j _ => h.requests j }

theorem Keeps.trans (h : Keeps t k a b) (h' : Keeps t k b c) : Keeps t k a c where
  toOnward := h.toOnward.trans h'.toOnward
  duty := h'.duty.trans h.duty
  requests j ne mine e := h.requests j ne mine (h'.requests j ne (h.owner j _ mine) e)
  opener i e used := h.opener i e (h'.opener i (by rw [h.duty]; exact e) used)

/-- A task has given up its request, or it has ended before. -/
structure Answered (t : Nat) (κ : TaskKind) (q : Inquiry) (a : Roster × World) (r : Except Fault Json) (b : Roster × World) :
    Prop where
  fit : Fit t κ b.1 b.2
  keeps : Keeps t q.ticket a b
  outcome : ∃ r', b.2.loop.outcome? q.ticket = some r' ∧ r = verdict r'

theorem Answered.after {r : Except Fault Json} (h : Answered t κ q b r c) (before : Keeps t q.ticket a b) :
    Answered t κ q a r c := ⟨h.fit, before.trans h.keeps, h.outcome⟩

theorem Answered.still {r : Except Fault Json} (h : Answered t κ q a r b) (more : Still t κ b c) : Answered t κ q a r c := by
  obtain ⟨r', outcome, e⟩ := h.outcome
  exact ⟨more.fit, h.keeps.trans more.stays.keeps, r', more.stays.grows.outcomes _ _ outcome, e⟩

theorem verdict_of_ne {r : Except Fault Json} (h : r ≠ .error .cancelled) : verdict r = r := by
  unfold verdict
  split
  · exact absurd rfl h
  · rfl

/-- A request that was not given up before has not been since. -/
theorem Stays.unrenounced (h : Stays t a b) (mine : a.1.owner k = some (t, .request))
    (fresh : a.2.loop.outcome? k ≠ some (.error .cancelled)) : b.2.loop.outcome? k ≠ some (.error .cancelled) :=
  fun e => fresh (h.requests k mine e)

theorem Still.late {time : ℕ∞} (h : Still t κ a b) (late : time ≤ a.2.loop.now) : time ≤ b.2.loop.now := by
  rw [h.now]
  exact late

/-- Whose the ticket of a request is. -/
theorem Fit.mine (h : Fit t κ γ s) (asking : (γ.duty t).asking = some q) : γ.owner q.ticket = some (t, .request) := by
  obtain ⟨known, task, -⟩ := h.inv.asked.asking t q asking
  rw [h.inv.asked.owned q known, task]

/-- A task that watches its request gives it up and is told so. -/
theorem wp_renounce (h : Fit t κ γ s) (foreground : ¬ κ.IsBackground) (free : (γ.duty t).Free)
    (asking : (γ.duty t).asking = some q) (due : q.due ≤ s.loop.now) (unsettled : s.loop.outcome? q.ticket = none)
    (mine : γ.owner k = some (t, .relay)) (watches : Watcher.ticket k ∈ s.loop.watchers q.ticket) :
    discipline.wp t (Program.ensure (do
      Act.tell (Loop.cancelTicket · q.ticket)
      let _ ← Program.await k) (Act.tell (Loop.unwatch · q.ticket (.ticket k)))) (fun r γ' s' => r = .ok () ∧
        Fit t κ γ' s' ∧ Keeps t q.ticket (γ, s) (γ', s') ∧ s'.loop.outcome? q.ticket = some (.error .cancelled)) γ s := by
  obtain ⟨acts, fit, same⟩ := h.renounce asking due
  rw [← same] at fit
  have outcome : (s.loop.cancelTicket q.ticket).outcome? q.ticket = some (.error .cancelled) := by
    obtain ⟨r, outcome, new⟩ := Loop.isSome_outcome?_settle (l := s.loop) (.error .cancelled)
      (h.inv.tickets.issued _ _ (h.mine asking))
    rw [same, outcome, new unsettled]
  have coming : Coming γ (s.loop.cancelTicket q.ticket) k (s.loop.cancelTicket q.ticket).now := by
    rw [same] at outcome ⊢
    rcases Loop.mem_watchers_settle (r := .error .cancelled) watches with still | ⟨-, near⟩
    · rw [(h.inv.tickets.sane.settle q.ticket (.error .cancelled)).quiet _ (Option.isSome_iff_exists.mpr ⟨_, outcome⟩)] at still
      cases still
    · exact .inl (.inr ⟨_, near⟩)
  have keeps : Keeps t q.ticket (γ, s) (γ, { s with loop := s.loop.cancelTicket q.ticket }) := by
    refine ⟨acts.onward, rfl, fun j ne _ e => ?_, fun _ _ e => e⟩
    rw [show ({ s with loop := s.loop.cancelTicket q.ticket } : World).loop = _ from same] at e
    rcases Loop.outcome?_settle_cases e with old | ⟨e, -⟩
    · exact old
    · exact absurd e ne
  refine Wp.ensure
    (P := fun r γ' s' => r = .ok () ∧ Fit t κ γ' s' ∧ Keeps t q.ticket (γ, s) (γ', s') ∧
      s'.loop.outcome? q.ticket = some (.error .cancelled) ∧ γ'.owner k = some (t, .relay))
    (Wp.change _ acts (Wp.seq
      (P := fun r γ' s' => (∃ v, r = .ok v) ∧ Fit t κ γ' s' ∧ Keeps t q.ticket (γ, s) (γ', s') ∧
        s'.loop.outcome? q.ticket = some (.error .cancelled) ∧ γ'.owner k = some (t, .relay))
      (wp_relay fit foreground free mine coming fun γ' s' v more => ⟨⟨v, rfl⟩, more.fit, keeps.trans more.stays.keeps,
        more.stays.grows.outcomes _ _ outcome, more.stays.owner _ _ mine⟩) ?_ ?_)) ?_
  · rintro v γ' s' ⟨-, rest⟩
    exact ⟨rfl, rest⟩
  · rintro f γ' s' ⟨⟨v, e⟩, -⟩
    cases e
  · rintro r γ' s' ⟨rfl, fit', keeps', outcome', mine'⟩
    have unwatched := fit'.unwatch q.ticket mine'
    exact Wp.update _ unwatched.acts ⟨rfl, unwatched.still.fit, keeps'.trans unwatched.still.stays.keeps,
      unwatched.still.stays.grows.outcomes _ _ outcome'⟩

/-- A task gives up its request and waits for that to be done. -/
theorem wp_cancelRequest (h : Fit t κ γ s) (foreground : ¬ κ.IsBackground) (free : (γ.duty t).Free)
    (asking : (γ.duty t).asking = some q) (due : q.due ≤ s.loop.now) (unsettled : s.loop.outcome? q.ticket = none) :
    discipline.wp t (Act.cancelAndWait q.ticket) (fun r γ' s' => r = .ok () ∧ Fit t κ γ' s' ∧
      Keeps t q.ticket (γ, s) (γ', s') ∧ s'.loop.outcome? q.ticket = some (.error .cancelled)) γ s := by
  obtain ⟨issued, mine, -⟩ := h.issueRelay
  have watched := issued.still.fit.watch q.ticket mine
  have still := issued.still.trans watched.still
  have unsettled' : s.loop.issue.2.outcome? q.ticket = none := (Loop.outcome?_issue ..).trans unsettled
  have bound : q.ticket < s.loop.issue.2.tickets.length :=
    issued.still.fit.inv.tickets.issued _ _ (issued.still.stays.owner _ _ (h.mine asking))
  refine Wp.yield _ issued.acts (Wp.change _ watched.acts (Wp.mono (wp_renounce watched.still.fit foreground free asking ?_
    ((Loop.outcome?_watch ..).trans unsettled') mine ?_) ?_))
  · exact still.late due
  · refine (Loop.watch_self _ bound).resolve_right fun settled => ?_
    simp only [Loop.isSettled, unsettled', Option.isSome_none, Bool.false_eq_true, false_and] at settled
  · rintro r γ' s' ⟨e, fit, keeps, outcome⟩
    exact ⟨e, fit, still.stays.keeps.trans keeps, outcome⟩

/-- A task whose time is up looks at what has become of its request, or gives it up. -/
theorem wp_giveUpRequest (h : Fit t κ γ s) (foreground : ¬ κ.IsBackground) (free : (γ.duty t).Free)
    (asking : (γ.duty t).asking = some q) (fresh : s.loop.outcome? q.ticket ≠ some (.error .cancelled))
    (late : s.loop.isSettled q.ticket = true ∨ q.due ≤ s.loop.now) (mine : γ.owner k = some (t, .relay)) :
    discipline.wp t (Act.giveUp q.ticket k) (fun r γ' s' => Answered t κ q (γ, s) r (γ', s')) γ s := by
  refine Wp.look ?_
  split
  · next r outcome =>
    refine Wp.ofExcept ⟨h, (Stays.refl t _).keeps, r, outcome, (verdict_of_ne ?_).symm⟩
    rintro rfl
    exact fresh outcome
  · next unsettled =>
    have due : q.due ≤ s.loop.now := late.resolve_left fun settled => by
      simp only [Loop.isSettled, unsettled, Option.isSome_none, Bool.false_eq_true] at settled
    have unwatched := h.unwatch q.ticket mine
    refine Wp.change _ unwatched.acts (Wp.seq (wp_cancelRequest unwatched.still.fit foreground free asking due
      ((Loop.outcome?_unwatch ..).trans unsettled)) ?_ ?_)
    · rintro - γ' s' ⟨-, fit, keeps, outcome⟩
      refine Wp.look ?_
      rw [outcome]
      exact ⟨fit, unwatched.still.stays.keeps.trans keeps, _, outcome, rfl⟩
    · rintro f γ' s' ⟨⟨⟩, -⟩

/-- Nothing is a length of time that is not positive. -/
theorem limit_of_not_positive {time : Seconds} (h : time.isPositive = false) : time.limit = 0 := by
  rcases time with n | x | b
  · have n0 : n.toNat = 0 := Int.toNat_eq_zero.mpr (by simpa [Seconds.isPositive] using h)
    simp [Seconds.limit, Seconds.nanos?, n0]
  · simp only [Seconds.isPositive] at h
    rcases e : x.reading with _ | negative | ⟨negative, m, exponent⟩
    · simp [e] at h
    · obtain rfl : negative = true := by simpa [e] using h
      have sign : x.isNegative = true := by
        simp only [Binary64.reading] at e
        split at e
        · split at e
          · exact Binary64.Reading.infinite.inj e
          · cases e
        · split at e <;> cases e
      simp [Seconds.limit, Seconds.nanos?, Binary64.ratio?, e, sign]
    · have ratio : x.ratio? = some (negative, Binary64.scaled m 1 (-exponent)) := by simp only [Binary64.ratio?, e]
      have length : (Seconds.real x).nanos? = some 0 := by
        simp only [Seconds.nanos?, ratio]
        rcases negative with _ | _
        · obtain rfl : m = 0 := by simpa [e] using h
          have none : (Binary64.scaled 0 1 (-exponent)).1 = 0 := by
            unfold Binary64.scaled
            split <;> simp
          simp [none, roundHalfEven]
        · rfl
      simp [Seconds.limit, length]
  · obtain rfl : b = false := h
    rfl

theorem Duty.limit_asking (asking : d.asking = some q) : d.limit = min d.quota.time q.due := by
  simp only [Duty.limit, asking, Option.map_some, Option.getD_some]

/-- A task that has made its request just now waits for the response, at most until its time is up. -/
theorem wp_waitResponse (h : Fit t κ γ s) (foreground : ¬ κ.IsBackground) (free : (γ.duty t).Free)
    (asking : (γ.duty t).asking = some q) (fresh : s.loop.outcome? q.ticket ≠ some (.error .cancelled))
    (now : q.issued = s.loop.now) (room : q.due ≤ (γ.duty t).quota.time) :
    discipline.wp t (Act.waitFor (pure q.ticket) q.time) (fun r γ' s' => Answered t κ q (γ, s) r (γ', s')) γ s := by
  have due : q.due = s.loop.now + q.time.limit := by rw [Inquiry.due, now]
  unfold Act.waitFor
  split
  · obtain ⟨issued, mine, lone⟩ := h.issueRelay
    refine Wp.yield _ issued.acts (Wp.seq (wp_startTimer issued.still.fit mine lone q.time) ?_ ?_)
    · rintro timer' γ₁ s₁ ⟨timer, e, still, lone', timed⟩
      cases e
      have mine' := still.stays.owner _ _ mine
      have still := issued.still.trans still
      have duty : γ₁.duty t = γ.duty t := still.stays.duty
      refine Wp.bind (Wp.done (Wp.mono (wp_await_timed (e := q.ticket) (d := q.due)
        (R := fun r γ' s' => Answered t κ q (γ₁, s₁) r (γ', s')) (T := timer') still.fit foreground
        (by rw [duty]; exact free) mine' (by rw [due]; exact lone') (by rw [due]; exact timed) ?_ ?_
        (fun γ' s' fit stays _ late mine => ?_) (fun _ γ' s' post => ⟨post.fit, post.keeps.toOnward⟩)
        (fun r γ' s' b post more => post.still more) (fun _ => rfl) (fun e => by rw [e]) fun id e => by rw [e])
        fun _ _ _ post => post.after still.stays.keeps))
      · rw [still.now, due]
        exact le_self_add
      · rw [duty, Duty.limit_asking asking]
        exact le_min room (le_refl _)
      · have duty' : γ'.duty t = γ.duty t := stays.duty.trans duty
        refine Wp.mono (wp_giveUpRequest fit foreground (by rw [duty']; exact free) (by rw [duty']; exact asking) ?_ late mine)
          fun _ _ _ post => post.after stays.keeps
        exact (still.stays.trans stays).unrenounced (h.mine asking) fresh
    · rintro f γ' s' ⟨timer, e, -⟩
      cases e
  · next positive =>
    refine Wp.bind (Wp.done ?_)
    rw [Wp.after_ok]
    refine Wp.look ?_
    split
    · next r outcome =>
      refine Wp.ofExcept ⟨h, (Stays.refl t _).keeps, r, outcome, (verdict_of_ne ?_).symm⟩
      rintro rfl
      exact fresh outcome
    · next unsettled =>
      refine Wp.seq (wp_cancelRequest h foreground free asking ?_ unsettled) ?_ ?_
      · rw [due, limit_of_not_positive ((Bool.not_eq_true _).mp positive), add_zero]
      · rintro - γ' s' ⟨-, fit, keeps, outcome⟩
        refine Wp.look ?_
        rw [outcome]
        exact ⟨fit, keeps, _, outcome, rfl⟩
      · rintro f γ' s' ⟨⟨⟩, -⟩

/-! ## To write a request and wait -/

theorem World.length_ledger_sessions (s : World) : s.ledger.sessions.length = s.sessions.length := by
  simp only [World.ledger, List.length_map]

/-- What is said may fail for other reasons, too. -/
theorem Said.mono {B : Bool → Prop} {F G : Fault → Prop} {r : Except Fault Unit} (h : Said B F t κ a r b)
    (imp : ∀ f, F f → G f) : Said B G t κ a r b := ⟨h.still, h.doomed, fun f e => (h.fails f e).imp_left (imp f)⟩

/-- A task writes the request that it has made. -/
theorem wp_sendRequest (h : Fit t κ γ s) (foreground : ¬ κ.IsBackground) (free : (γ.duty t).MaySend)
    (asking : (γ.duty t).asking = some q) (unsent : (γ.duty t).unsent = true) :
    discipline.wp t (Session.sendRequest q.session q.number q.method q.params)
      (fun r γ' s' => Said (fun _ => True) q.Fails t κ (γ, s) r (γ', s')) γ s := by
  have calm := h.calm foreground
  refine wp_getOr (fun x found => ?_) fun none => ?_
  · have paired : x.transport = q.session := h.inv.tables.paired.2 _ x.bare (World.ledger_session found)
    rw [paired]
    split
    · next r e =>
      refine Wp.mono (wp_send h calm (use_of_foreground foreground) free
        (mayWrite_request asking unsent ?_ (Server.isRequest_request r))) fun _ _ _ said => said.mono fun _ => .inr
      simp only [Inquiry.message?, e, Except.toOption, Option.map_some]
    · next m misfit =>
      refine .of_still trivial (.refl h) (fun e => absurd e calm) fun f e => ?_
      cases e
      exact .inl (.inl ⟨by simp only [Inquiry.message?, misfit, Except.toOption, Option.map_none], m, rfl⟩)
  · have bound := h.inv.asked.sessions q (h.inv.asked.asking t q asking).1
    rw [World.length_ledger_sessions] at bound
    exact absurd (List.getElem?_eq_none_iff.mp none) (Nat.not_le_of_lt bound)

/-- A task has written its request or failed to, and has waited for the response. -/
structure Exchanged (t : Nat) (κ : TaskKind) (q : Inquiry) (a : Roster × World) (r : Except Fault Json) (b : Roster × World) :
    Prop where
  fit : Fit t κ b.1 b.2
  keeps : ∃ unsent, Keeps t q.ticket (a.1.charge t ((a.1.duty t).mark unsent), a.2) b
  result : (∃ r', b.2.loop.outcome? q.ticket = some r' ∧ r = verdict r') ∨ ∃ f, r = .error f ∧ q.Fails f

/-- A task that has made its request just now writes it and waits for the response. -/
theorem wp_exchange (h : Fit t κ γ s) (foreground : ¬ κ.IsBackground) (free : (γ.duty t).Free)
    (asking : (γ.duty t).asking = some q) (unsent : (γ.duty t).unsent = true)
    (fresh : s.loop.outcome? q.ticket ≠ some (.error .cancelled)) (now : q.issued = s.loop.now)
    (room : q.due ≤ (γ.duty t).quota.time) :
    discipline.wp t (Session.sendRequest q.session q.number q.method q.params >>= fun _ =>
      Act.waitFor (pure q.ticket) q.time) (fun r γ' s' => Exchanged t κ q (γ, s) r (γ', s')) γ s := by
  refine Wp.seq (wp_sendRequest h foreground free.maySend asking unsent) ?_ ?_
  · intro _ γ₁ s₁ said
    obtain ⟨u, -, still⟩ := said.still
    have duty : γ₁.duty t = (γ.duty t).mark u := still.stays.duty.trans (Roster.charge_self ..)
    refine Wp.mono (wp_waitResponse still.fit foreground (by rw [duty]; exact ⟨free.pipes, free.documents, free.queued, free.closing⟩)
      (by rw [duty]; exact asking) ?_ (now.trans still.now.symm) (by rw [duty]; exact room)) fun r γ₂ s₂ answered => ?_
    · exact still.stays.unrenounced (h.mine asking) fresh
    · exact ⟨answered.fit, ⟨u, still.stays.keeps.trans answered.keeps⟩, .inl answered.outcome⟩
  · intro f γ₁ s₁ said
    obtain ⟨u, -, still⟩ := said.still
    exact ⟨still.fit, ⟨u, still.stays.keeps⟩, .inr ⟨f, rfl, (said.fails f rfl).resolve_right (still.fit.calm foreground)⟩⟩

end LspHost.Clock
