import LspHost.Proofs.Clock.Starting

/-!
# Sessions that are opened and closed

To open a session takes as long as its process takes to start and its handshake may take, and three seconds more if the
handshake fails (`wp_openSession`). To close one takes as long as its shutdown may take and its process is given to exit,
and two seconds more if it must be forced (`wp_closeSession`); to close one whose process has exited takes no time.
-/

namespace LspHost.Clock

open Discipline

variable {t u i j k : Nat} {o : Option Nat} {κ : TaskKind} {γ γ' : Roster} {s s' : World} {L : Ledger} {l : Loop} {d : Duty}
  {x : Session} {a b c : Roster × World} {n m : ℕ∞} {time grace : Seconds} {α β : Type}

/-- A session that there is stays, and so does how it was made. -/
theorem World.Lasts.session {s s' : World} (h : s.Lasts s') (found : s.sessions[i]? = some x) :
    ∃ y, s'.sessions[i]? = some y ∧ y.options = x.options := by
  have options := h.options i x.options (by rw [found]; rfl)
  obtain ⟨y, found', same⟩ := Option.map_eq_some_iff.mp options
  exact ⟨y, found', same⟩

theorem Fit.transport (h : Fit t κ γ s) (found : s.sessions[i]? = some x) : x.transport = i :=
  h.inv.tables.paired.2 i x.bare (World.ledger_session found)

/-! ## To end a session -/

/-- A task stops the reader of a session. -/
theorem wp_stopReader (h : Fit t κ γ s) (foreground : ¬ κ.IsBackground) (free : (γ.duty t).Free) :
    discipline.wp t (Session.stopReader i) (fun _ γ' s' => Still t κ (γ, s) (γ', s')) γ s := by
  have rest {γ₁ : Roster} {s₁ : World} (still : Still t κ (γ, s) (γ₁, s₁)) :
      discipline.wp t (Session.modify i fun x => { x with reader := none }) (fun _ γ' s' => Still t κ (γ, s) (γ', s')) γ₁ s₁ := by
    have step := still.fit.setReader i none fun _ e => by cases e
    exact Wp.update _ step.acts (still.trans step.still)
  refine wp_getOr (fun x found => ?_) fun _ => .refl h
  split
  · next e reader =>
    obtain ⟨u, ending, kind⟩ := h.inv.tasks.readers i x.bare e (World.ledger_session found) reader
    refine Wp.look ?_
    split
    · exact Wp.seq (wp_stopTask h foreground free ⟨ending, _, kind, trivial⟩) (fun _ _ _ still => rest still)
        fun _ _ _ still => still
    · exact rest (.refl h)
  · exact rest (.refl h)

/-- A session without requests is closed. -/
theorem Fit.close (h : Fit t κ γ s) (cleared : ∀ y, s.sessions[i]? = some y → y.pending = []) :
    Step t κ (World.setSession i fun x => { x with state := .closed }) γ s γ := by
  refine h.setState i .closed (fun e => by cases e) fun _ y n k found mem => ?_
  obtain ⟨x, found', rfl⟩ : ∃ x, s.sessions[i]? = some x ∧ x.bare = y := by
    simpa only [World.ledger, List.getElem?_map, Option.map_eq_some_iff] using found
  rw [show x.bare.pending = x.pending from rfl, cleared x found'] at mem
  cases mem

/-- A task ends the requests of a session, which it closes then. -/
theorem wp_sever {fault : Fault} (h : Fit t κ γ s) (free : (γ.duty t).Free) (severs : Severs i fault κ (.close i)) :
    discipline.wp t (Session.failPending i fault) (fun r γ' s' =>
      (∀ v, r = .ok v → Acts t (World.setSession i fun x => { x with state := .closed }) (γ', s') γ ∧
        Still t κ (γ, s) (γ, s'.setSession i fun x => { x with state := .closed })) ∧
      ∀ f, r = .error f → Still t κ (γ, s) (γ', s')) γ s := by
  rcases found : s.sessions[i]? with _ | x
  · refine wp_getOr (fun x found' => ?_) fun _ => ⟨fun _ e => (by cases e), fun _ _ => .refl h⟩
    cases found.symm.trans found'
  · refine Wp.mono (wp_failPending h (.close i) found free.closing severs) ?_
    rintro r γ₁ s₁ ⟨rfl, rfl, still, cleared⟩
    refine ⟨fun _ _ => ?_, fun _ e => by cases e⟩
    have step := still.fit.close (i := i) fun y found' => by
      cases cleared.symm.trans found'
      rfl
    have closed : (s₁.setSession i fun x => { x with state := .closed }).HasClosed i :=
      ⟨{ x with pending := [], state := .closed }, by simp [World.setSession, cleared], rfl⟩
    have back : (γ.charge t ((γ.duty t).wind (.close i))).charge t (γ.duty t) = γ := by
      rw [Roster.charge_charge, Roster.charge_duty]
    have acts : Acts t (World.setSession i fun x => { x with state := .closed }) (γ.charge t ((γ.duty t).wind (.close i)), s₁)
        ((γ.charge t ((γ.duty t).wind (.close i))).charge t (γ.duty t)) := by
      refine acts_setSession (fun _ => rfl) (.charge (.inr (.inr ⟨i, ?_, closed⟩))) ?_
      · rw [Roster.charge_self]
        rfl
      · rw [Roster.charge_self, Roster.charge_self]
        rfl
    have fit : Fit t κ ((γ.charge t ((γ.duty t).wind (.close i))).charge t (γ.duty t))
        (s₁.setSession i fun x => { x with state := .closed }) := by
      refine ⟨step.still.fit.inv.charge ?_ ?_ ?_ ?_, step.still.fit.kind, step.still.fit.alarm, ?_⟩
      · rw [Roster.charge_self]
        exact ⟨rfl, rfl⟩
      · rw [Roster.charge_self]
        rfl
      · rw [Roster.charge_self]
        rfl
      · rw [Roster.charge_self]
        rfl
      · have limit := step.still.fit.limit
        rw [Roster.charge_self] at limit ⊢
        exact limit
    have shift := Still.shift acts.onward fit rfl rfl fun _ e => e
    rw [Roster.charge_self] at shift
    have stays := still.stays.next shift.stays rfl
    rw [back] at acts fit stays
    rw [Roster.charge_duty] at stays
    exact ⟨acts, fit, stays, step.still.now.trans still.now⟩

/-- A task gives up a session whose handshake has failed. -/
theorem wp_abort (h : Fit t κ γ s) (foreground : ¬ κ.IsBackground) (free : (γ.duty t).Free)
    (room : (s.loop.now : ℕ∞) + (second + (second + second)) ≤ (γ.duty t).limit) :
    discipline.wp t (Session.abort i) (fun _ γ' s' => Within t κ (second + (second + second)) (γ, s) (γ', s')) γ s := by
  refine wp_getOr (fun x found => ?_) fun _ => (Still.refl h).within
  refine Wp.seq (wp_kill h foreground free room) (fun _ γ₁ s₁ killed => ?_) fun _ _ _ w => w
  refine Wp.seq (wp_stopReader (i := i) killed.fit foreground (killed.stays.free free)) (fun _ γ₂ s₂ still => ?_)
    fun _ _ _ still => killed.still still
  refine Wp.seq (wp_sever still.fit (still.stays.free (killed.stays.free free)) (.inr ⟨.inr rfl, rfl⟩)) ?_ ?_
  · rintro v γ₃ s₃ ⟨severed, -⟩
    obtain ⟨acts, closed⟩ := severed v rfl
    exact Wp.update _ acts (killed.still (still.trans closed))
  · rintro f γ₃ s₃ ⟨-, failed⟩
    exact killed.still (still.trans (failed f rfl))

/-! ## The handshake -/

/-- A session is changed in what nobody waits for. -/
theorem passive_setSession {f : Session → Session} (bare : ∀ x, (f x).bare = x.bare) (i : Nat) (s : World) :
    Passive s (s.setSession i f) := by
  refine .still ?_ rfl rfl
  have sessions : (s.sessions.modify i f).map Session.bare = s.sessions.map Session.bare := by
    apply List.ext_getElem?
    intro j
    simp only [List.getElem?_map, List.getElem?_modify]
    rcases s.sessions[j]? with _ | x
    · rfl
    · by_cases e : i = j <;> simp [e, bare x]
  simp only [World.ledger, World.setSession, sessions]
  rfl

/-- A task shakes hands with a server. -/
theorem wp_shakeHands (h : Fit t κ γ s) (foreground : ¬ κ.IsBackground) (poised : (γ.duty t).Poised)
    (patient : ∀ o c, κ.patience o c (.str "initialize") = some o.handshakeTimeout)
    (length : ∀ x, s.sessions[i]? = some x → x.options.handshakeTimeout = time)
    (room : (s.loop.now : ℕ∞) + time.limit ≤ (γ.duty t).quota.time) :
    discipline.wp t (Session.shakeHands i) (fun _ γ' s' => Within t κ time.limit (γ, s) (γ', s')) γ s := by
  refine wp_getOr (fun x found => Wp.look ?_) fun _ => (Still.refl h).within
  have limit := length x found
  refine Wp.seq (P := fun _ γ' s' => γ' = γ ∧ s' = s) (Wp.ofExcept ⟨rfl, rfl⟩) ?_ ?_
  · rintro params γ₁ s₁ ⟨rfl, rfl⟩
    refine Wp.seq (wp_ask h foreground poised.toFree found poised.asking (patient _ _) (fun _ => rfl)
      (mayAsk_of_patience (fun o => patient o s₁.supervisor.config)
        ⟨{ x.options with handshakeTimeout := .truth true, requestTimeout := .truth false }, by simp⟩)
      (by rw [limit]; exact room)) ?_ ?_
    · rintro answer γ₂ s₂ ⟨asked, -⟩
      rw [limit] at asked
      split
      · exact asked
      · next r _ =>
        refine wp_passive asked.fit (passive_setSession (f := fun x => { x with handshake := some r }) (fun _ => rfl) i s₂)
          fun noted => ?_
        refine Wp.seq (wp_notify noted.fit foreground (noted.stays.free (asked.stays.free poised.toFree)).maySend) ?_ ?_
        · intro _ γ₃ s₃ told
          exact asked.still (noted.trans told)
        · intro f γ₃ s₃ told
          exact asked.still (noted.trans told)
    · rintro f γ₂ s₂ ⟨asked, -⟩
      rw [limit] at asked
      exact asked
  · rintro f γ₁ s₁ ⟨rfl, rfl⟩
    exact (Still.refl h).within

/-- A task shakes hands with a server, and gives up its session if that fails. -/
theorem wp_introduce (h : Fit t κ γ s) (foreground : ¬ κ.IsBackground) (poised : (γ.duty t).Poised)
    (patient : ∀ o c, κ.patience o c (.str "initialize") = some o.handshakeTimeout)
    (length : ∀ x, s.sessions[i]? = some x → x.options.handshakeTimeout = time)
    (room : (s.loop.now : ℕ∞) + (time.limit + (second + (second + second))) ≤ (γ.duty t).quota.time) :
    discipline.wp t (Session.introduce i)
      (fun _ γ' s' => Within t κ (time.limit + (second + (second + second))) (γ, s) (γ', s')) γ s := by
  refine wp_getOr (fun x found => ?_) fun _ => (Still.refl h).within
  refine Wp.attempt_seq (wp_shakeHands h foreground poised patient length (le_trans (by gcongr; exact le_self_add) room))
    fun r γ₁ s₁ shaken => ?_
  have poised₁ := shaken.stays.poised poised
  -- Whatever has failed, the session is aborted and the failure told.
  have give (f : Fault) : discipline.wp t (Session.abort i >>= fun _ => (Act.fail f : Act InitializeResult))
      (fun _ γ' s' => Within t κ (time.limit + (second + (second + second))) (γ, s) (γ', s')) γ₁ s₁ := by
    have left := shaken.left (m := second + (second + second)) (by rw [poised.limit]; exact room)
    exact Wp.seq (wp_abort shaken.fit foreground poised₁.toFree left) (fun _ _ _ w => shaken.trans w)
      fun _ _ _ w => shaken.trans w
  split
  · have step := shaken.fit.setState i .running (fun e => by cases e) fun e => by cases e
    exact Wp.change _ step.acts ((shaken.still step.still).mono le_self_add)
  · exact give _
  · split
    · exact give _
    · exact shaken.mono le_self_add

/-! ## To close a session -/

/-- No one time is that of all requests. -/
theorem exists_other_time (time : Seconds) (o : SessionOptions) : ∃ o : SessionOptions, time ≠ o.requestTimeout := by
  by_cases e : time = .truth true
  · exact ⟨{ o with requestTimeout := .truth false }, by rw [e]; simp⟩
  · exact ⟨{ o with requestTimeout := .truth true }, e⟩

/-- A task asks a server to shut down. -/
theorem wp_askShutdown (h : Fit t κ γ s) (foreground : ¬ κ.IsBackground) (poised : (γ.duty t).Poised)
    (patient : ∀ o, κ.patience o s.supervisor.config (.str "shutdown") = some grace) (found : s.sessions[i]? = some x) (going : x.state ≠ .closed)
    (room : (s.loop.now : ℕ∞) + grace.limit ≤ (γ.duty t).quota.time) :
    discipline.wp t (Session.askShutdown i grace) (fun _ γ' s' => Within t κ grace.limit (γ, s) (γ', s')) γ s := by
  refine Wp.attempt_seq (wp_ask h foreground poised.toFree found poised.asking (patient _) (fun e => absurd e going)
    (mayAsk_of_patience patient (exists_other_time grace x.options)) room)
    fun r γ₁ s₁ asked => ?_
  split
  · exact asked.1
  · exact asked.1
  · split <;> exact asked.1

/-- A task asks a server that has exited to shut down. -/
theorem wp_askShutdown_dead (h : Fit t κ γ s) (poised : (γ.duty t).Poised)
    (patient : ∀ o, κ.patience o s.supervisor.config (.str "shutdown") = some grace) (found : s.sessions[i]? = some x) (going : x.state ≠ .closed)
    (dead : s.isConnected i = false) :
    discipline.wp t (Session.askShutdown i grace) (fun _ γ' s' => Still t κ (γ, s) (γ', s')) γ s := by
  refine Wp.attempt_seq (wp_ask_dead h found poised.asking (patient _) (fun e => absurd e going)
    (mayAsk_of_patience patient (exists_other_time grace x.options))
    (by rw [h.transport found]; exact dead)) fun r γ₁ s₁ asked => ?_
  split
  · exact asked.1
  · exact asked.1
  · split <;> exact asked.1

/-- A task tells a server to exit. -/
theorem wp_sayExit (h : Fit t κ γ s) (foreground : ¬ κ.IsBackground) (free : (γ.duty t).Free) :
    discipline.wp t (Session.sayExit i) (fun _ γ' s' => Still t κ (γ, s) (γ', s')) γ s := by
  refine Wp.attempt_seq (wp_notify h foreground free.maySend) fun r γ₁ s₁ told => ?_
  split
  · exact told
  · split <;> exact told

/-- The last part of closing a session, once its process is released. -/
theorem wp_finish (h : Fit t κ γ s) (foreground : ¬ κ.IsBackground) (free : (γ.duty t).Free) {problems : List String} :
    discipline.wp t (Session.stopReader i >>= fun _ =>
      Session.failPending i (.closed (.sessionClosed (Session.nameOf i))) >>= fun _ =>
        Session.setState i .closed >>= fun _ => if problems.isEmpty then pure () else Act.fail (.shutdownFailed problems))
      (fun _ γ' s' => Still t κ (γ, s) (γ', s')) γ s := by
  refine Wp.seq (wp_stopReader (i := i) h foreground free) (fun _ γ₁ s₁ stopped => ?_) fun _ _ _ still => still
  refine Wp.seq (wp_sever stopped.fit (stopped.stays.free free) (.inr ⟨.inl rfl, rfl⟩)) ?_ ?_
  · rintro v γ₂ s₂ ⟨severed, -⟩
    obtain ⟨acts, closed⟩ := severed v rfl
    refine Wp.change _ acts ?_
    split <;> exact stopped.trans closed
  · rintro f γ₂ s₂ ⟨-, failed⟩
    exact stopped.trans (failed f rfl)

/-- A session that has no requests left to end is closed. -/
theorem wp_setClosed (h : Fit t κ γ s) (found : s.sessions[i]? = some x) (ended : x.state = .closed ∨ ¬ γ.used i) :
    discipline.wp t (Session.setState i .closed) (fun _ γ' s' => Still t κ (γ, s) (γ', s')) γ s := by
  have step := h.setState i .closed (fun e => by cases e) fun _ y n k found' mem => ?_
  · exact Wp.update _ step.acts step.still
  · cases (World.ledger_session found).symm.trans found'
    refine .inl (ended.resolve_right fun unused => ?_)
    rw [h.inv.idle i _ (World.ledger_session found) unused] at mem
    cases mem

/-- A task closes a session. -/
theorem wp_closeSession (h : Fit t κ γ s) (foreground : ¬ κ.IsBackground) (poised : (γ.duty t).Poised)
    (patient : ∀ o, κ.patience o s.supervisor.config (.str "shutdown") = some grace)
    (room : (s.loop.now : ℕ∞) + (grace.limit + (grace.limit + (second + second))) ≤ (γ.duty t).quota.time) :
    discipline.wp t (Session.closeSession i grace)
      (fun _ γ' s' => Within t κ (grace.limit + (grace.limit + (second + second))) (γ, s) (γ', s')) γ s := by
  refine wp_getOr (fun x found => ?_) fun _ => (Still.refl h).within
  split
  · next ended =>
    refine Wp.mono (wp_setClosed h found (ended.imp_right fun new => ?_)) fun _ _ _ still => still.within
    exact (h.inv.tables.fresh i x.bare (World.ledger_session found) new).1
  · have step := h.setState i .shuttingDown (fun e => by cases e) fun e => by cases e
    have poised₁ := step.still.stays.poised poised
    have found₁ : (s.setSession i fun x => { x with state := .shuttingDown }).sessions[i]? =
        some { x with state := .shuttingDown } := by simp [World.setSession, found]
    have room₁ := step.still.left (by rw [poised.limit]; exact room)
    rw [poised₁.limit] at room₁
    refine Wp.change _ step.acts (Wp.mono (wp_within_seq (wp_askShutdown step.still.fit foreground poised₁ patient found₁
      (fun e => by cases e) (le_trans (by gcongr; exact le_self_add) room₁)) fun problems γ₁ s₁ asked => ?_)
      fun _ _ _ w => step.still.trans_within w)
    refine wp_still_seq (wp_sayExit (i := i) asked.fit foreground (asked.stays.free poised₁.toFree)) fun _ γ₂ s₂ told => ?_
    have free := told.stays.free (asked.stays.free poised₁.toFree)
    have left := told.left (asked.left (by rw [poised₁.limit]; exact room₁))
    refine Wp.seq (wp_disconnect told.fit foreground free left) (fun exited γ₃ s₃ released => ?_) fun _ _ _ w => w
    exact Wp.mono (wp_finish released.fit foreground (released.stays.free free)) fun _ _ _ still => released.still still

/-- A session whose process has exited. -/
structure Exited (i : Nat) (a : Roster × World) : Prop where
  used : a.1.used i
  dead : a.2.isConnected i = false

/-- A process that has exited does not come back. -/
theorem Exited.onward (h : Exited i a) (on : Onward a b) : Exited i b := by
  refine ⟨on.used i h.used, ?_⟩
  rcases e : b.2.isConnected i with _ | _
  · rfl
  · cases h.dead.symm.trans (on.dead i h.used e)

/-- A task closes a session whose process has exited. -/
theorem wp_closeSession_dead (h : Fit t κ γ s) (foreground : ¬ κ.IsBackground) (poised : (γ.duty t).Poised)
    (patient : ∀ o, κ.patience o s.supervisor.config (.str "shutdown") = some grace) (exited : Exited i (γ, s)) :
    discipline.wp t (Session.closeSession i grace) (fun _ γ' s' => Still t κ (γ, s) (γ', s')) γ s := by
  refine wp_getOr (fun x found => ?_) fun _ => .refl h
  have transport := h.transport found
  split
  · next ended =>
    refine wp_setClosed h found (ended.imp_right fun new => ?_)
    exact (h.inv.tables.fresh i x.bare (World.ledger_session found) new).1
  · have step := h.setState i .shuttingDown (fun e => by cases e) fun e => by cases e
    have poised₁ := step.still.stays.poised poised
    have found₁ : (s.setSession i fun x => { x with state := .shuttingDown }).sessions[i]? =
        some { x with state := .shuttingDown } := by simp [World.setSession, found]
    have exited₁ := exited.onward step.still.stays.toOnward
    refine Wp.change _ step.acts (Wp.seq (wp_askShutdown_dead step.still.fit poised₁ patient found₁ (fun e => by cases e)
      exited₁.dead) (fun problems γ₁ s₁ asked => ?_) fun _ _ _ still => step.still.trans still)
    refine Wp.seq (wp_sayExit (i := i) asked.fit foreground (asked.stays.free poised₁.toFree)) (fun _ γ₂ s₂ told => ?_)
      fun _ _ _ still => step.still.trans (asked.trans still)
    have free := told.stays.free (asked.stays.free poised₁.toFree)
    have exited₂ := (exited₁.onward asked.stays.toOnward).onward told.stays.toOnward
    rw [transport]
    refine Wp.seq (wp_disconnect_dead told.fit foreground free exited₂.dead) (fun _ γ₃ s₃ released => ?_)
      fun _ _ _ still => step.still.trans (asked.trans (told.trans still))
    exact Wp.mono (wp_finish released.fit foreground (released.stays.free free)) fun _ _ _ still =>
      step.still.trans (asked.trans (told.trans (released.trans still)))

/-! ## To open a session -/

/-- A session whose process could not be started is closed. -/
theorem wp_failOpen {fault : Fault} (launched : Launched t κ i a (γ, s)) (poised : (a.1.duty t).Poised) :
    discipline.wp t (Session.setState i .closed >>= fun _ => (Act.fail fault : Act α))
      (fun r γ' s' => Spends t κ 0 a (γ', s') ∧ ∃ f, r = .error f) γ s := by
  have h := launched.fit
  have acts : Acts t (World.setSession i fun x => { x with state := .closed }) (γ, s) (γ.charge t (γ.duty t).land) :=
    acts_setSession (fun _ => rfl) (.charge (.of_eq rfl)) (by rw [Roster.charge_self]; rfl)
  have step := h.setState i .closed (fun e => by cases e) fun _ y n k found mem => ?_
  · refine Wp.change _ acts ⟨launched.land poised acts (Roster.charge_self ..) ⟨?_, h.kind, h.alarm, ?_⟩ rfl, _, rfl⟩
    · exact step.still.fit.inv.recharge
        (step.still.fit.inv.tables.recharge rfl (fun _ _ _ _ e => by cases e) fun _ e => by cases e) rfl rfl rfl rfl
    · rw [Roster.charge_self]
      exact h.limit
  · rw [h.inv.idle i y found launched.unused] at mem
    cases mem

/-- A task opens a session. -/
theorem wp_openSession (h : Fit t κ γ s) (foreground : ¬ κ.IsBackground) (poised : (γ.duty t).Poised)
    (unlaunched : (γ.duty t).quota.launched = false) (patient : ∀ o c, κ.patience o c (.str "initialize") = some o.handshakeTimeout)
    (length : ∀ x, s.sessions[i]? = some x → x.options.handshakeTimeout = time)
    (room : (s.loop.now : ℕ∞) + (time.limit + (second + (second + second))) ≤ (γ.duty t).quota.time) :
    discipline.wp t (Session.openSession i) (fun r γ' s' =>
      Spends t κ (time.limit + (second + (second + second))) (γ, s) (γ', s') ∧ ∀ v, r = .ok v → γ'.used i) γ s := by
  refine wp_getOr (fun x found => ?_) fun _ => ⟨(Still.refl h).spends.mono zero_le, fun _ e => by cases e⟩
  have transport := h.transport found
  split
  · exact ⟨(Still.refl h).spends.mono zero_le, fun _ e => by cases e⟩
  · next new =>
    obtain ⟨unused, nobody⟩ := h.inv.tables.fresh i x.bare (World.ledger_session found) (not_not.mp new)
    have step := h.setState i .initializing (fun e => by cases e) fun e => by cases e
    have poised₁ := step.still.stays.poised poised
    have untried : Untried i γ (s.setSession i fun x => { x with state := .initializing }) := by
      refine ⟨unused, ?_, nobody, fun y found' => ?_⟩
      · rw [World.length_ledger_sessions]
        simpa [World.setSession] using (List.getElem?_eq_some_iff.mp found).1
      · rw [World.ledger_session (x := { x with state := .initializing }) (by simp [World.setSession, found])] at found'
        cases found'
        exact fun e => by cases e
    have first := step.still.spends
    refine Wp.change _ step.acts ?_
    rw [transport]
    refine Wp.attempt_seq (wp_connect step.still.fit foreground poised₁ unlaunched untried) ?_
    rintro r γ₁ s₁ (⟨rfl, connected, used⟩ | ⟨f, rfl, same | ⟨isTransport, launched⟩⟩)
    · have poised₂ := connected.poised poised₁
      have room₁ := connected.room (time.limit + (second + (second + second))) (by rw [zero_add]; exact room)
      refine wp_start connected.fit trivial fun γ₂ s₂ started ends loop => ?_
      have reads := started.fit.setReader i (some s₁.loop.tickets.length) fun e mine => ?_
      · have still := started.trans reads.still
        have room₂ := still.left (by rw [poised₂.limit]; exact room₁)
        rw [(still.stays.poised poised₂).limit] at room₂
        refine Wp.change _ reads.acts (Wp.mono (wp_introduce reads.still.fit foreground (still.stays.poised poised₂) patient
          (fun y found' => ?_) room₂) fun r γ₃ s₃ within => ?_)
        · have lasts := first.stays.lasts.trans (connected.stays.lasts.trans still.stays.lasts)
          obtain ⟨z, found'', options⟩ := World.Lasts.session lasts found
          cases found''.symm.trans found'
          rw [options]
          exact length x found
        · have all := first.trans (connected.trans (still.trans_within within).spends)
          exact ⟨by rwa [zero_add, zero_add] at all, fun _ _ => within.stays.used i (still.stays.used i used)⟩
      · cases mine
        refine ⟨_, ends.1, ?_⟩
        rw [loop]
        simp [Loop.kind?, Loop.tasks_start]
    · obtain ⟨rfl, rfl⟩ := Prod.mk.inj same
      have done {r : Except Fault InitializeResult} {γ' : Roster} {s' : World} {f : Fault} (e : r = .error f)
          (still : Still t κ (γ₁, s.setSession i fun x => { x with state := .initializing }) (γ', s')) :
          Spends t κ (time.limit + (second + (second + second))) (γ₁, s) (γ', s') ∧ ∀ v, r = .ok v → γ'.used i :=
        ⟨(step.still.trans still).spends.mono zero_le, fun v e' => by cases e.symm.trans e'⟩
      have found₁ : (s.setSession i fun x => { x with state := .initializing }).sessions[i]? =
          some { x with state := .initializing } := by simp [World.setSession, found]
      show discipline.wp t (if f.isTransport = true then Session.setState i .closed >>= fun _ => Act.fail f else Act.fail f) _ _ _
      split
      · exact Wp.seq (wp_setClosed step.still.fit found₁ (.inr unused)) (fun _ _ _ still => done rfl still) fun f' _ _ still =>
          done rfl still
      · exact done rfl (.refl step.still.fit)
    · show discipline.wp t (if f.isTransport = true then Session.setState i .closed >>= fun _ => Act.fail f else Act.fail f) _ _ _
      rw [if_pos isTransport]
      refine Wp.mono (wp_failOpen launched poised₁) ?_
      rintro r γ₂ s₂ ⟨failed, f', rfl⟩
      exact ⟨(first.trans failed).mono (by simp), fun v e => by cases e⟩

end LspHost.Clock
