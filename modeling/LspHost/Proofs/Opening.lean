import LspHost.Proofs.Closing

/-!
# Opening a session

Opening a session ends with a session that is running, or with a process that has exited as far as it
can be killed (`wp_openSession`). It fails with a fault of the server, with a line of the error output
that was too long to be read, or because the configuration names no command or no path.
-/

namespace LspHost

open Discipline

variable {σ : Setting} {t i : Nat} {γ γ' : Ghost} {s s' : World}

/-! ## The handshake -/

/-- The workspace has no path. -/
def FailsUnresolved (σ : Setting) (f : Fault) : Prop :=
  Session.workspaceOf σ.cwd σ.config.workspaceDir = .error f

theorem FailsUnresolved.not_resolvable {f : Fault} (h : FailsUnresolved σ f) : ¬ σ.Resolvable := by
  rintro ⟨w, resolved⟩
  rw [FailsUnresolved, resolved] at h
  cases h

theorem handshakeParams_fails {o : SessionOptions} {f : Fault}
    (dir : o.workspaceDir = σ.config.workspaceDir)
    (h : Session.handshakeParams σ.cwd o = .error f) : FailsUnresolved σ f := by
  unfold Session.handshakeParams at h
  rw [dir] at h
  unfold FailsUnresolved
  cases e : Session.workspaceOf σ.cwd σ.config.workspaceDir with
  | error f' => rw [e] at h; cases h; rfl
  | ok w => rw [e] at h; cases h

/-- A handshake was made, or it failed on the way. -/
structure Greets (σ : Setting) (t i : Nat) (a b : Ghost × World) (r : Except Fault InitializeResult) :
    Prop where
  poised : Poised σ t b.1 b.2
  minds : Minds t a b
  done : ∀ v, r = .ok v → PlannedTo i .open b.1 b.2
  fails : ∀ f, r = .error f → f = .timeout ∨ Session.isHandshakeFault f = true ∨ FailsUnresolved σ f

theorem isHandshakeFault_of_server {f : Fault} (h : Supervisor.isServerFault f = true) :
    Session.isHandshakeFault f = true := by
  cases f <;> first | rfl | exact h | (rename_i k _; cases k <;> first | rfl | exact h)

/-- Telling the server that the handshake is over. -/
theorem wp_sayGreeted (h : Tending σ t i γ s) (state : s.overview.state? i = some .initializing)
    (planned : PlannedTo i .greeted γ s) :
    (discipline σ).wp t (Session.notify i "initialized" (.obj []))
      (fun r γ' s' => Says σ t i .greeted (γ, s) (γ', s') ∧
        ∀ f, r = .error f → f.isTransport = true) γ s := by
  obtain ⟨κ, kind, fore⟩ := h.fore
  have may : MaySay t i .greeted γ s :=
    .lead h.mine h.idle state (b := .open) rfl (.inr (.inr rfl)) (fun e => by cases e) planned
  have said := Said.of?_notification ⟨"initialized", some (.named [])⟩
  have note := Note.of?_notification (n := ⟨"initialized", some (.named [])⟩) (by decide)
  refine Wp.mono (wp_notify (p := some []) h.poised kind fore h.there
    (may.send said fun n e => by cases note.symm.trans e)) ?_
  rintro r γ₁ s₁ ⟨sends, ends⟩
  have sent : Says σ t i .greeted (γ, s) (γ₁, s₁) := .of_sends sends said
  refine ⟨sent, fun f e => ?_⟩
  subst e
  have live := (sent.poised fun e => by cases e).live ⟨κ, sent.loop.kinds t κ kind, fore⟩
  rcases ends.say live (fun _ e => e) f rfl with transport | ⟨-, free⟩
  · exact transport
  · exact absurd h.mine free

/-- Taking down what the server says of itself. -/
theorem wp_setHandshake (h : Tending σ t i γ s) (r : InitializeResult) :
    (discipline σ).wp t (Session.modify i fun x => { x with handshake := some r })
      (fun r γ' s' => r = .ok () ∧ Poised σ t γ' s' ∧ Rely t (γ, s) (γ', s')) γ s := by
  have quiet := quiet_setSession h.poised.inv i (f := fun x => { x with handshake := some r })
    (fun _ => rfl) fun _ _ _ he => .inl he
  exact wp_update γ quiet.spares ⟨rfl, quiet.poised h.poised.ease, quiet.rely t⟩

theorem PlannedTo.mute {st : Talk} {a b : Ghost × World} (h : PlannedTo i st a.1 a.2)
    (mute : Mute t a b) (held : a.1.holder .lifecycle = some t) : PlannedTo i st b.1 b.2 := by
  intro j q' hj hq' listens
  have hj₀ : a.2.overview.serverOf? i = some j := by rw [← mute.serverOf? held]; exact hj
  have bound : j < a.2.overview.processes.length := by
    rw [← (mute.life held).processes]; exact (List.getElem?_eq_some_iff.mp hq').1
  have hq := List.getElem?_eq_getElem bound
  obtain ⟨q, hq', -, -, -, listened⟩ := mute.processes j _ hq
  obtain rfl : q = q' := Option.some.inj (hq'.symm.trans ‹_›)
  rw [mute.planned held i j _ q hj₀ hq hq' listens]
  exact h j _ hj₀ hq (listened listens)

/-- The end of the handshake. -/
theorem wp_endHandshake (h : Tending σ t i γ s) (state : s.overview.state? i = some .initializing)
    (planned : PlannedTo i .greeted γ s) (answer : Json) :
    (discipline σ).wp t
      (match Session.readHandshake answer with
      | .error f => Act.fail (.answer f)
      | .ok r => do
        Session.modify i fun x => { x with handshake := some r }
        Session.notify i "initialized" (.obj [])
        pure r)
      (fun r γ' s' => Greets σ t i (γ, s) (γ', s') r) γ s := by
  split
  · next f _ =>
    exact Wp.fail ⟨h.poised, .refl t _, fun _ e => (by cases e), fun _ e => by cases e; exact .inr (.inl rfl)⟩
  · next r _ =>
    refine Wp.seq (wp_setHandshake h r) ?_ (by rintro _ _ _ ⟨e, -⟩; cases e)
    rintro _ γ₁ s₁ ⟨-, poised₁, rely⟩
    have mine₁ := (rely.holder _).mp h.mine
    have tending₁ := h.manages (rely.toMinds.manages h.mine) poised₁
    have state₁ := (rely.toMinds.state? h.mine i).trans state
    have planned₁ := planned.mute rely.toMute h.mine
    refine Wp.seq (wp_sayGreeted tending₁ state₁ planned₁) ?_ ?_
    · rintro _ γ₂ s₂ ⟨sent, -⟩
      exact Wp.done ⟨sent.poised fun e => (by cases e), rely.toMinds.trans sent.toMinds,
        fun _ _ => planned₁.advances sent.toMinds mine₁ (sent.advances mine₁) rfl, fun _ e => by cases e⟩
    · rintro f γ₂ s₂ ⟨sent, ends⟩
      refine ⟨sent.poised fun e => (by cases e), rely.toMinds.trans sent.toMinds, fun _ e => (by cases e),
        fun f' e => .inr (.inl (isHandshakeFault_of_server ?_))⟩
      cases e
      simp [Supervisor.isServerFault, ends f rfl]

/-- The handshake. -/
theorem wp_shakeHands (h : Tending σ t i γ s) (state : s.overview.state? i = some .initializing)
    (planned : PlannedTo i .silent γ s) :
    (discipline σ).wp t (Session.shakeHands i)
      (fun r γ' s' => Greets σ t i (γ, s) (γ', s') r) γ s := by
  obtain ⟨x, found⟩ := World.exists_session h.there
  obtain ⟨κ, kind, fore⟩ := h.fore
  have seat : s.overview.seats[i]? = some x.seat := by simp [World.overview, found]
  have dir : x.options.workspaceDir = σ.config.workspaceDir := (h.poised.inv.life.seats i _ seat).2
  have cwd : s.files.cwd = σ.cwd := h.poised.inv.life.cwd
  refine wp_getSession found (Wp.look ?_)
  refine Wp.bind (Wp.ofExcept ?_)
  rw [cwd]
  rcases told : Session.handshakeParams σ.cwd x.options with f | params
  · exact ⟨h.poised, .refl t _, fun _ e => (by cases e),
      fun _ e => by cases e; exact .inr (.inr (handshakeParams_fails dir told))⟩
  · have may : MaySay t i (.ofRequest "initialize") γ s :=
      .lead h.mine h.idle state (b := .greeted) rfl (.inr (.inl rfl)) (fun e => by cases e) planned
    refine Wp.seq (wp_askServer (p := some (params.toMembers .omitted)) h.poised kind fore h.there may
      (by decide) x.options.handshakeTimeout) ?_ ?_
    · rintro answer γ₁ s₁ ⟨asks, -⟩
      refine Wp.mono (wp_endHandshake (h.manages (asks.manages h.mine) asks.poised)
        ((asks.state? h.mine i).trans state)
        (planned.advances asks.toMinds h.mine (asks.advances h.mine) rfl) answer) ?_
      intro r γ₂ s₂ greets
      exact { greets with minds := asks.toMinds.trans greets.minds }
    · rintro f γ₁ s₁ ⟨asks, ends⟩
      refine ⟨asks.poised, asks.toMinds, fun _ e => (by cases e), fun f' e => ?_⟩
      cases e
      exact (ends f rfl).led h.mine |>.imp_right fun e => .inl (isHandshakeFault_of_server e)

/-! ## Giving up -/

/-- Ending a session whose handshake has failed. -/
theorem wp_abort {j : Nat} (h : Tending σ t i γ s) (server : s.overview.serverOf? i = some j) :
    (discipline σ).wp t (Session.abort i)
      (fun r γ' s' => Ended σ t i (γ, s) (γ', s') ∧ ∀ f, r = .error f → FailsOverlong f s') γ s := by
  obtain ⟨x, found⟩ := World.exists_session h.there
  refine wp_getSession found ?_
  rw [h.poised.inv.transport found]
  refine Wp.seq (wp_kill h.poised h.mine h.fore server) ?_ ?_
  · intro _ γ₁ s₁ letGo
    show (discipline σ).wp t (do
      Session.stopReader i
      Session.failPending i (.closed (.sessionAborted (Session.nameOf i)))
      Session.setState i .closed
      pure ()) _ γ₁ s₁
    exact wp_conclude (a := (γ, s)) h (letGo.ended server) rfl fun γ₂ s₂ ended =>
      Wp.done ⟨ended, fun _ e => by cases e⟩
  · intro f γ₁ s₁ letGo
    refine ⟨letGo.ended server, fun f' e => ?_⟩
    obtain ⟨found, same, long⟩ := letGo.ends f' (by cases e; rfl)
    exact ⟨found, j, same, long⟩

/-- Why a session could not be opened. -/
def FailsOpening (σ : Setting) (f : Fault) (s : World) : Prop :=
  Supervisor.isServerFault f = true ∨ FailsOverlong f s ∨ FailsUnresolved σ f ∨
    (f = commandFault σ.config.server.command ∧ ∀ c, σ.config.server.command ≠ .str c)

/-- A session was opened, or it could not be opened and its process has exited. -/
structure Opens {α : Type} (σ : Setting) (t i : Nat) (a b : Ghost × World) (r : Except Fault α) : Prop where
  poised : Poised σ t b.1 b.2
  manages : Manages t a b
  running : ∀ v, r = .ok v → b.2.overview.state? i = some .running ∧ ∃ j, b.2.overview.serverOf? i = some j
  dead : ∀ f, r = .error f → σ.Tame → σ.Resolvable →
    ∀ j, b.2.overview.serverOf? i = some j → b.2.overview.Dead j
  fails : ∀ f, r = .error f → FailsOpening σ f b.2

/-- A session that was given up could not be opened. -/
theorem Ended.opens {α : Type} {f : Fault} {a b c : Ghost × World} (manages : Manages t a b)
    (ended : Ended σ t i b c) (fails : FailsOpening σ f c.2) :
    Opens σ t i a c (.error f : Except Fault α) where
  poised := ended.poised
  manages := manages.trans ended.tends.toManages
  running v e := by cases e
  dead _ _ tame _ j hj := ended.dead tame j (ended.tends.gives j hj)
  fails f' e := by cases e; exact fails

/-- Giving a session up, and saying why. -/
theorem wp_abortWith {α : Type} {j : Nat} {f : Fault} {a : Ghost × World} (manages : Manages t a (γ, s))
    (h : Tending σ t i γ s) (server : s.overview.serverOf? i = some j)
    (fault : Supervisor.isServerFault f = true) :
    (discipline σ).wp t (do
        Session.abort i
        Act.fail f)
      (fun (r : Except Fault α) γ' s' => Opens σ t i a (γ', s') r) γ s := by
  refine Wp.seq (wp_abort h server) ?_ ?_
  · rintro _ γ₁ s₁ ⟨ended, -⟩
    exact Wp.fail (ended.opens manages (.inl fault))
  · rintro f' γ₁ s₁ ⟨ended, fails⟩
    exact ended.opens manages (.inr (.inl (fails f' rfl)))

/-! ## Opening -/

/-- A session is running from the end of its handshake on. -/
theorem wp_setRunning (h : Tending σ t i γ s) (state : s.overview.state? i = some .initializing)
    (planned : PlannedTo i .open γ s) :
    (discipline σ).wp t (Session.setState i .running)
      (fun r γ' s' => r = .ok () ∧ Poised σ t γ' s' ∧ Tends t i (γ, s) (γ', s') ∧
        s'.overview.state? i = some .running ∧ s'.overview.serverOf? i = s.overview.serverOf? i) γ s := by
  obtain ⟨y, hy, state⟩ := Option.map_eq_some_iff.mp state
  refine wp_reseat (g := fun x => { x with state := .running })
    { mine := h.mine, transport := fun _ => rfl, workspaceDir := fun _ => rfl
      reader := fun _ _ _ e => .inl e, started := fun _ _ e => (by cases e)
      past := fun _ _ _ => .inl rfl
      leaving := fun x hx leaving => by
        obtain rfl := Option.some.inj (hy.symm.trans hx)
        rw [state] at leaving
        rcases leaving with e | e <;> cases e
      early := fun x hx _ => by
        obtain rfl := Option.some.inj (hy.symm.trans hx)
        exact .inl (.inl state)
      permits := fun x st hx listens _ found => by
        obtain ⟨j, p, hj, hp, listens⟩ := listens
        exact Option.some.inj ((found j p hj hp).symm.trans (planned j p hj hp listens)) }
    h.poised (fun _ => rfl) (fun _ => rfl) fun reseated => ⟨rfl, reseated.poised, reseated.tends, ?_, ?_⟩
  · rw [reseated.overview, Overview.state?, Reseat.seat_view, hy]
    simp
  · rw [reseated.overview]; rfl

/-- Shaking hands, and giving up if that fails. -/
theorem wp_introduce {j : Nat} {a : Ghost × World} (manages : Manages t a (γ, s)) (h : Tending σ t i γ s)
    (state : s.overview.state? i = some .initializing) (server : s.overview.serverOf? i = some j)
    (planned : PlannedTo i .silent γ s) :
    (discipline σ).wp t (Session.introduce i)
      (fun r γ' s' => Opens σ t i a (γ', s') r) γ s := by
  obtain ⟨x, found⟩ := World.exists_session h.there
  refine wp_getSession found (Wp.attempt_seq (wp_shakeHands h state planned) ?_)
  intro r γ₁ s₁ greets
  have manages₁ := manages.trans (greets.minds.manages h.mine)
  have tending₁ := h.manages (greets.minds.manages h.mine) greets.poised
  have state₁ := (greets.minds.state? h.mine i).trans state
  have server₁ : s₁.overview.serverOf? i = some j := by
    simpa only [Overview.serverOf?, (greets.minds.life h.mine).holds] using server
  split
  · next v =>
    refine Wp.seq (wp_setRunning tending₁ state₁ (greets.done v rfl)) ?_ (by rintro _ _ _ ⟨e, -⟩; cases e)
    rintro _ γ₂ s₂ ⟨-, poised₂, tends, running, same⟩
    exact Wp.done
      { poised := poised₂, manages := manages₁.trans tends.toManages
        running := fun _ _ => ⟨running, j, same.trans server₁⟩
        dead := fun _ e => (by cases e), fails := fun _ e => by cases e }
  · exact wp_abortWith manages₁ tending₁ server₁ rfl
  · next f late =>
    split
    · exact wp_abortWith manages₁ tending₁ server₁ rfl
    · next plain =>
      have unresolved : FailsUnresolved σ f := by
        rcases greets.fails f rfl with rfl | fault | unresolved
        · exact absurd rfl late
        · exact absurd fault plain
        · exact unresolved
      exact Wp.fail
        { poised := greets.poised, manages := manages₁
          running := fun _ e => (by cases e)
          dead := fun _ _ _ resolvable => absurd resolvable unresolved.not_resolvable
          fails := fun _ e => by cases e; exact .inr (.inr (.inl unresolved)) }

/-- A session that was just made may be opened. -/
structure MayOpen (σ : Setting) (t i : Nat) (γ : Ghost) (s : World) : Prop extends Tending σ t i γ s where
  state : s.overview.state? i = some .notStarted
  last : i + 1 = s.overview.holds.length
  apart : s.overview.session ≠ some i
  unheard : s.voice γ i = []

/-- The messages of a server are read from now on, and nothing else has changed. -/
structure Attends (σ : Setting) (t i : Nat) (a b : Ghost × World) : Prop where
  poised : Poised σ t b.1 b.2
  manages : Manages t a b
  planned : ∀ st, PlannedTo i st a.1 a.2 → PlannedTo i st b.1 b.2
  servers : ∀ n, b.2.overview.serverOf? n = a.2.overview.serverOf? n
  states : ∀ n, b.2.overview.state? n = a.2.overview.state? n

/-- A change of what is known about a session that shows nothing of its state. -/
theorem Reseated.attends {f : Session → Session} {g : Seat → Seat}
    (h : Reseated σ t i g γ s (s.setSession i f)) (state : ∀ x, (g x).state = x.state) :
    Attends σ t i (γ, s) (γ, s.setSession i f) where
  poised := h.poised
  manages := h.tends.toManages
  planned st planned j p hj hp listens := by
    rw [h.voice]
    rw [h.overview] at hj hp ⊢
    exact planned j p hj hp listens
  servers n := by rw [h.overview]; rfl
  states n := by
    rw [h.overview, Overview.state?, Reseat.seat_view, Overview.state?]
    rcases s.overview.seats[n]? with _ | x
    · rfl
    · by_cases e : i = n <;> simp [e, state]

/-- Starting to read the messages of a server. -/
theorem wp_startReader {β : Type} {last : Act β} {Q : Except Fault β → Ghost → World → Prop}
    (h : Tending σ t i γ s)
    (next : ∀ γ' s', Attends σ t i (γ, s) (γ', s') → (discipline σ).wp t last Q γ' s') :
    (discipline σ).wp t (do
        let reader ← Act.start (.reader i)
        Session.modify i fun x => { x with reader := some reader }
        last) Q γ s := by
  refine wp_start h.poised.inv none trivial (fun _ e => by cases e) (fun _ e => by rcases e with e | e <;> cases e)
    fun quiet => ?_
  have mute := (quiet.rely t).toMute
  refine Wp.bind (wp_reseat (g := fun x => { x with reader := some s.loop.tickets.length })
    { mine := (mute.holder _).mp h.mine, transport := fun _ => rfl, workspaceDir := fun _ => rfl
      reader := fun _ _ _ e => by
        obtain rfl := Option.some.inj e
        exact .inr ⟨_, Ghost.assign_role_self ..⟩
      started := fun _ _ e => e, past := fun _ _ e => e, leaving := fun _ _ e => e
      early := fun _ _ e => .inl e, permits := fun _ _ _ _ e _ => e }
    (quiet.poised h.poised.ease) (fun _ => rfl) (fun _ => rfl) fun reseated => ?_)
  have attends := reseated.attends fun _ => rfl
  refine next _ _
    { poised := attends.poised, manages := (mute.toMinds.manages h.mine).trans attends.manages
      planned := fun st planned => attends.planned st (planned.mute mute h.mine)
      servers := fun n => (attends.servers n).trans (mute.serverOf? h.mine n)
      states := fun n => (attends.states n).trans (mute.toMinds.state? h.mine n) }

/-- A session that is being opened. -/
theorem wp_setInitializing (h : MayOpen σ t i γ s) :
    (discipline σ).wp t (Session.setState i .initializing)
      (fun r γ' s' => r = .ok () ∧ Poised σ t γ' s' ∧ Tends t i (γ, s) (γ', s') ∧
        MayConnect t i γ' s') γ s := by
  have vacant : s.overview.serverOf? i = none := h.poised.inv.life.unstarted i h.state
  obtain ⟨y, hy, state⟩ := Option.map_eq_some_iff.mp h.state
  refine wp_reseat (g := fun x => { x with state := .initializing })
    { mine := h.mine, transport := fun _ => rfl, workspaceDir := fun _ => rfl
      reader := fun _ _ _ e => .inl e, started := fun _ _ e => (by cases e)
      past := fun x hx past => by
        obtain rfl := Option.some.inj (hy.symm.trans hx)
        rw [state] at past
        rcases past with e | e | e <;> cases e
      leaving := fun x hx leaving => by
        obtain rfl := Option.some.inj (hy.symm.trans hx)
        rw [state] at leaving
        rcases leaving with e | e <;> cases e
      early := fun _ _ _ => .inr vacant
      permits := fun _ _ _ listens _ _ => by
        obtain ⟨j, p, hj, -⟩ := listens
        rw [vacant] at hj
        cases hj }
    h.poised (fun _ => rfl) (fun _ => rfl) fun reseated => ⟨rfl, reseated.poised, reseated.tends, ?_⟩
  refine { mine := h.mine, last := ?_, state := ?_, apart := ?_, vacant := ?_, unheard := ?_ }
  · rw [reseated.overview]; exact h.last
  · rw [reseated.overview, Overview.state?, Reseat.seat_view, hy]
    simp
  · rw [reseated.overview]; exact h.apart
  · rw [reseated.overview]; exact vacant
  · rw [reseated.voice]; exact h.unheard

/-- Opening a session. -/
theorem wp_openSession (h : MayOpen σ t i γ s) :
    (discipline σ).wp t (Session.openSession i)
      (fun r γ' s' => Opens σ t i (γ, s) (γ', s') r) γ s := by
  obtain ⟨x, found⟩ := World.exists_session h.there
  have state : x.state = .notStarted := by
    have := h.state
    simp only [Overview.state?, World.overview, List.getElem?_map, found] at this
    exact Option.some.inj this
  refine wp_getSession found ?_
  rw [if_neg (fun e => e state), h.poised.inv.transport found]
  refine Wp.seq (wp_setInitializing h) ?_ (by rintro _ _ _ ⟨e, -⟩; cases e)
  rintro _ γ₁ s₁ ⟨-, poised₁, tends₁, may⟩
  have tending₁ := h.manages tends₁.toManages poised₁
  refine Wp.attempt_seq (wp_connect poised₁ tending₁.fore may) ?_
  rintro _ γ₂ s₂ (⟨rfl, connected⟩ | ⟨f, rfl, unspawned, poised₂, stays⟩)
  · have manages₂ := tends₁.toManages.trans connected.manages
    have tending₂ := h.manages manages₂ connected.poised
    obtain ⟨j, server⟩ := connected.server
    have state₂ : s₂.overview.state? i = some .initializing := by
      rw [Overview.state?, connected.seats]; exact may.state
    refine wp_startReader tending₂ fun γ₃ s₃ attends => ?_
    exact wp_introduce (manages₂.trans attends.manages)
      (tending₂.manages attends.manages attends.poised) ((attends.states i).trans state₂)
      ((attends.servers i).trans server) (attends.planned _ connected.silent)
  · have manages₂ := tends₁.toManages.trans stays.toManages
    have tending₂ := h.manages manages₂ poised₂
    have vacant : s₂.overview.serverOf? i = none := (stays.serverOf? i).trans may.vacant
    have fails {s' : World} : FailsOpening σ f s' := by
      rcases unspawned with ⟨f', rfl⟩ | command
      · exact .inl rfl
      · exact .inr (.inr (.inr command))
    have opens {γ' : Ghost} {s' : World} (poised : Poised σ t γ' s') (tends : Tends t i (γ₂, s₂) (γ', s')) :
        Opens σ t i (γ, s) (γ', s') (.error f : Except Fault InitializeResult) :=
      { poised := poised, manages := manages₂.trans tends.toManages, running := fun _ e => (by cases e)
        dead := fun _ _ _ _ j hj => by cases vacant.symm.trans (tends.gives j hj)
        fails := fun _ e => by cases e; exact fails }
    show (discipline σ).wp t (do
      if f.isTransport then Session.setState i .closed
      Act.fail f) _ γ₂ s₂
    split
    · have deaf : ¬ s₂.overview.Listening i := by
        rintro ⟨j, p, hj, -⟩
        rw [vacant] at hj
        cases hj
      refine Wp.seq (wp_setClosed tending₂ deaf) ?_ (by rintro _ _ _ ⟨e, -⟩; cases e)
      rintro _ γ₃ s₃ ⟨-, poised₃, tends₃⟩
      exact Wp.fail (opens poised₃ tends₃)
    · exact Wp.fail (opens poised₂ ((Minds.refl t _).tends tending₂.mine))

end LspHost
