import LspHost.Proofs.Fading

/-!
# Changes beside the event loop

Many changes leave alone the event loop, the locks and the streams of the processes. Then only what
the overview shows is to be proved (`Aside.inv`, `Aside.rely`). A change that the overview does not show is
quiet (`Aside.quiet`), and so is the note that a process refused a message (`quiet_refusal`).
-/

namespace LspHost

variable {σ : Setting} {t : Option Nat} {γ : Ghost} {s : World}

/-- A change that leaves alone tasks, tickets, locks and servers. -/
structure Aside (a b : Ghost × World) : Prop where
  loop : b.2.loop = a.2.loop
  servers : b.2.servers = a.2.servers
  getters : b.2.getters = a.2.getters
  locks : ∀ p : Place, p.lock b.2 = p.lock a.2
  role : b.1.role = a.1.role
  doomed : b.1.doomed = a.1.doomed
  phase : b.1.phase = a.1.phase
  holder : b.1.holder = a.1.holder

namespace Aside

variable {a b : Ghost × World}

theorem processes (h : Aside a b) : b.2.overview.processes = a.2.overview.processes := by
  simp only [World.overview, h.servers]

theorem queued (h : Aside a b) : b.2.queued b.1.role = a.2.queued a.1.role := by
  funext i
  have same : (Place.writing i).lock b.2 = (Place.writing i).lock a.2 := h.locks _
  simp only [World.queued, same, h.role]

theorem voice (h : Aside a b) (tongue : b.1.tongue = a.1.tongue) :
    b.2.voice b.1 = a.2.voice a.1 := by
  funext i
  simp only [World.voice, h.queued, tongue]

theorem fits (h : Aside a b) {ρ : Role} {r : Except Fault Json} (old : Fits a.1 a.2 ρ r) :
    Fits b.1 b.2 ρ r :=
  old.mono (fun u e => by rw [h.doomed]; exact e) (fun u e => by rw [h.phase]; exact e)
    (fun j ⟨p, hp, gone⟩ => ⟨p, by rw [h.processes]; exact hp, gone⟩)
    (fun j ⟨p, hp, ended⟩ => ⟨p, by rw [h.servers]; exact hp, ended⟩)
    fun u _ _ _ e => by rw [← h.doomed]; exact e

theorem tickets (h : Aside a b) (old : Tickets a.1 a.2)
    (pending : ∀ (i : Nat) (x : Session) (e : Nat × Nat), b.2.sessions[i]? = some x → e ∈ x.pending →
      ∃ u, a.1.role e.2 = .request u) : Tickets b.1 b.2 where
  unissued k := by rw [h.role, h.loop]; exact old.unissued k
  fits k r hr := by
    rw [h.role]; exact h.fits (old.fits k r (by rw [← h.loop]; exact hr))
  timers x hx :=
    (old.timers x (by rw [← h.loop]; exact hx)).mono fun _ _ => by rw [h.role]
  ready job hj := (old.ready job (by rw [← h.loop]; exact hj)).mono fun _ _ => by rw [h.role]
  watchers k T hT r hr := by rw [h.role]; exact old.watchers k T (by rw [← h.loop]; exact hT) r hr
  endings u T hT := by rw [h.role]; exact old.endings u T (by rw [← h.loop]; exact hT)
  ended k u κ keeper hk := by rw [h.loop]; exact old.ended k u κ keeper (by rw [← h.role]; exact hk)
  streams j p c k d hp hw := by
    rw [h.role]; exact old.streams j p c k d (by rw [← h.servers]; exact hp) hw
  exits j p k hp hk := by rw [h.role]; exact old.exits j p k (by rw [← h.servers]; exact hp) hk
  pending i x e hx he := by rw [h.role]; exact pending i x e hx he
  getters := h.getters.trans old.getters

/-- What the overview shows is all that is left to be proved. -/
theorem inv (h : Aside a b) (inv : Inv σ t a.1 a.2)
    (pending : ∀ (i : Nat) (x : Session) (e : Nat × Nat), b.2.sessions[i]? = some x → e ∈ x.pending →
      ∃ u, a.1.role e.2 = .request u)
    (life : Life σ b.1 b.2.overview) (order : Order (b.2.voice b.1) b.2.overview)
    (mirror : Mirror b.1.toHands b.2.overview) (closed : Sealed b.1.toHands b.2.overview) :
    Inv σ t b.1 b.2 where
  tickets := h.tickets inv.tickets pending
  tasks := inv.tasks.of_same (by rw [h.loop]) (fun _ => by rw [h.loop]) h.servers
    (fun _ _ e => by rw [h.role]; exact e) h.doomed h.phase
  locks p :=
    { nodup := by rw [h.locks]; exact (inv.locks p).nodup
      waiters := by rw [h.locks, h.role, h.loop]; exact (inv.locks p).waiters
      held := by rw [h.locks, h.holder]; exact (inv.locks p).held
      granted := by rw [h.locks, h.loop]; exact (inv.locks p).granted }
  holders := inv.holders.grow h.holder (by rw [h.loop]; exact .refl _)
  life := life
  order := order
  mirror := mirror
  closed := closed

theorem keeps (h : Aside a b) (transports : a.2.transports.length ≤ b.2.transports.length)
    (sessions : a.2.sessions.length ≤ b.2.sessions.length)
    (past : ∀ i, a.2.overview.Past i → b.2.overview.Past i ∧
      (b.2.overview.Listening i → a.2.overview.Listening i) ∧
      ∀ j, b.2.overview.serverOf? i = some j → a.2.overview.serverOf? i = some j)
    (mail : ∀ x ∈ a.2.overview.mail, x ∈ b.2.overview.mail) : Keeps a b where
  roles _ _ := by rw [h.role]
  loop := by rw [h.loop]; exact .refl _
  doomed u e := by rw [h.doomed]; exact e
  ended u e := by rw [h.phase]; exact e
  processes j p hp := ⟨p, by rw [h.processes]; exact hp, rfl, rfl, fun e => e, fun e => e⟩
  transports := transports
  sessions := sessions
  past := past
  overlong j e := by simpa only [World.Overlong, h.servers] using e
  mail := mail

theorem rely (h : Aside a b) {t : Nat} (keeps : Keeps a b)
    (life : a.1.holder .lifecycle = some t → LifeKept a.2.overview b.2.overview)
    (documents : a.1.holder .documents = some t → DocumentsKept a.2.overview b.2.overview)
    (planned : a.1.holder .lifecycle = some t → ∀ (i j : Nat) (p : Process),
      a.2.overview.serverOf? i = some j → a.2.overview.processes[j]? = some p → p.listening = true →
      plannedAt (b.2.voice b.1) b.2.overview i p = plannedAt (a.2.voice a.1) a.2.overview i p)
    (unheard : a.1.holder .lifecycle = some t → ∀ i, a.2.overview.serverOf? i = none →
      a.2.voice a.1 i = [] → b.2.voice b.1 i = [])
    (untold : a.1.holder .documents = some t → b.1.untold = a.1.untold) : Rely t a b where
  toKeeps := keeps
  holder p := by rw [h.holder]
  life := life
  documents := documents
  queue p k m _ := by rw [h.locks]
  requests k _ e := by rw [← h.loop]; exact e
  kept _ _ _ _ := by rw [h.doomed]
  phase := by rw [h.phase]
  errors j _ := by
    simp only [World.errorWaiter?, World.errorsMeet, h.servers]
    exact ⟨fun e => e, fun _ _ e => .inl e, fun _ e => e⟩
  planned held i j p p' hi hp hp' listens := by
    rw [h.processes, hp] at hp'
    cases hp'
    exact planned held i j p hi hp listens
  unheard := unheard
  untold := untold

/-- Nobody minds what the one who holds the lifecycle lock does to sessions and processes, if the holder
of the lock of the documents does not. -/
theorem spares (h : Aside a b) {t : Nat} (mine : a.1.holder .lifecycle = some t) (keeps : Keeps a b)
    (documents : ∀ u, u ≠ t → a.1.holder .documents = some u →
      DocumentsKept a.2.overview b.2.overview ∧ b.1.untold = a.1.untold) :
    (discipline σ).Spares t a b := by
  intro u hu
  have other (held : a.1.holder .lifecycle = some u) : False := by
    rw [mine] at held
    exact hu (Option.some.inj held).symm
  exact h.rely keeps (fun held => (other held).elim) (fun held => (documents u hu held).1)
    (fun held => (other held).elim) (fun held => (other held).elim) fun held => (documents u hu held).2

/-- A change that the overview does not show. -/
theorem quiet (h : Aside a b) (inv : Inv σ t a.1 a.2)
    (pending : ∀ (i : Nat) (x : Session) (e : Nat × Nat), b.2.sessions[i]? = some x → e ∈ x.pending →
      ∃ u, a.1.role e.2 = .request u)
    (overview : b.2.overview = a.2.overview) (hands : b.1.toHands = a.1.toHands)
    (transports : a.2.transports.length ≤ b.2.transports.length)
    (sessions : a.2.sessions.length ≤ b.2.sessions.length) : Quiet σ t a b where
  inv := by
    refine h.inv inv pending ?_ ?_ ?_ ?_
    · rw [overview]; exact inv.life.ghost (fun _ _ => by rw [h.role]) hands
    · rw [overview, h.voice (by rw [hands])]; exact inv.order
    · rw [overview, hands]; exact inv.mirror
    · rw [overview, hands]; exact inv.closed
  rely u := by
    refine h.rely (h.keeps transports sessions (fun i e => ?_) fun x e => ?_) (fun _ => ?_)
      (fun _ => ?_) (fun _ i j p _ _ _ => ?_) (fun _ i _ silent => ?_) fun _ => by rw [hands]
    · rw [overview]; exact ⟨e, fun e => e, fun _ e => e⟩
    · rw [overview]; exact e
    · rw [overview]; exact .refl _
    · rw [overview]; exact .refl _
    · rw [overview, h.voice (by rw [hands])]
    · rw [h.voice (by rw [hands])]; exact silent

end Aside

/-! ## What the overview does not show -/

theorem aside_setSession (γ : Ghost) (s : World) (i : Nat) (f : Session → Session) :
    Aside (γ, s) (γ, s.setSession i f) :=
  ⟨rfl, rfl, rfl, fun p => by cases p <;> rfl, rfl, rfl, rfl, rfl⟩

theorem World.overview_setSession (s : World) (i : Nat) {f : Session → Session} {g : Seat → Seat}
    (seat : ∀ x, (f x).seat = g x.seat) :
    (s.setSession i f).overview = { s.overview with seats := s.overview.seats.modify i g } := by
  have seats : (s.sessions.modify i f).map Session.seat =
      (s.sessions.map Session.seat).modify i g := by
    refine List.ext_getElem? fun n => ?_
    simp only [List.getElem?_map, List.getElem?_modify]
    rcases s.sessions[n]? with _ | x
    · rfl
    · by_cases e : i = n <;> simp [e, seat]
  simp only [World.overview, World.setSession, seats]
  rfl

theorem World.overview_setSession_same (s : World) (i : Nat) {f : Session → Session}
    (seat : ∀ x, (f x).seat = x.seat) : (s.setSession i f).overview = s.overview := by
  rw [World.overview_setSession s i (g := fun x => x) seat]
  have same : s.overview.seats.modify i (fun x => x) = s.overview.seats := by
    refine List.ext_getElem? fun n => ?_
    rw [List.getElem?_modify]
    rcases s.overview.seats[n]? with _ | x
    · rfl
    · by_cases e : i = n <;> simp [e]
  rw [same]

section Unseen

variable (inv : Inv σ t γ s)
include inv

/-- A record of anything but messages. -/
theorem quiet_record (r : Record) (noMail : (s.record r).mail = s.mail) :
    Quiet σ t (γ, s) (γ, s.record r) := by
  have aside : Aside (γ, s) (γ, s.record r) := ⟨rfl, rfl, rfl, fun p => by cases p <;> rfl, rfl, rfl, rfl, rfl⟩
  refine aside.quiet inv inv.tickets.pending ?_ rfl (Nat.le_refl _) (Nat.le_refl _)
  simp only [World.overview, noMail]
  rfl

/-- An event is published; nobody waits for events. -/
theorem quiet_publish (e : Event) : Quiet σ t (γ, s) (γ, s.publish e) := by
  have alone (s : World) (alone : s.getters = []) (queues : List Nat) :
      queues.foldl (fun s queue => s.wakeGetter queue) s = s := by
    induction queues with
    | nil => rfl
    | cons q rest ih =>
      have same : s.wakeGetter q = s := by simp only [World.wakeGetter, alone, List.find?_nil]
      rw [List.foldl_cons, same, ih]
  have step : s.publish e = { s.record (.published e) with broker := s.broker.publish e } :=
    alone { s.record (.published e) with broker := s.broker.publish e } inv.tickets.getters _
  rw [step]
  have noted := quiet_record inv (.published e) (by simp [World.mail, World.record])
  have aside : Aside (γ, s.record (.published e))
      (γ, { s.record (.published e) with broker := s.broker.publish e }) :=
    ⟨rfl, rfl, rfl, fun p => by cases p <;> rfl, rfl, rfl, rfl, rfl⟩
  exact noted.trans
    (aside.quiet noted.inv noted.inv.tickets.pending rfl rfl (Nat.le_refl _) (Nat.le_refl _))

/-- A change of a session that neither its state nor its reader shows. -/
theorem pending_setSession (i : Nat) {f : Session → Session}
    (pending : ∀ x, s.sessions[i]? = some x → ∀ e ∈ (f x).pending,
      e ∈ x.pending ∨ ∃ u, γ.role e.2 = .request u) :
    ∀ (n : Nat) (x : Session) (e : Nat × Nat), (s.setSession i f).sessions[n]? = some x →
      e ∈ x.pending → ∃ u, γ.role e.2 = .request u := by
  intro n x e hx he
  by_cases same : i = n
  · subst same
    simp only [World.setSession, List.getElem?_modify_eq, Option.map_eq_map] at hx
    obtain ⟨x₀, hx₀, rfl⟩ := Option.map_eq_some_iff.mp hx
    exact (pending x₀ hx₀ e he).elim (inv.tickets.pending i x₀ e hx₀) fun h => h
  · simp only [World.setSession, List.getElem?_modify_ne _ _ same] at hx
    exact inv.tickets.pending n x e hx he

theorem quiet_setSession (i : Nat) {f : Session → Session} (seat : ∀ x, (f x).seat = x.seat)
    (pending : ∀ x, s.sessions[i]? = some x → ∀ e ∈ (f x).pending,
      e ∈ x.pending ∨ ∃ u, γ.role e.2 = .request u) :
    Quiet σ t (γ, s) (γ, s.setSession i f) :=
  (aside_setSession γ s i f).quiet inv (pending_setSession inv i pending)
    (World.overview_setSession_same s i seat) rfl (Nat.le_refl _) (by simp [World.setSession])

end Unseen

/-! ## Refused messages -/

theorem World.mail_record (s : World) (r : Record) :
    (s.record r).mail = s.mail ++ (match r with
      | .sent pid m => [(pid, some m)]
      | .refused pid => [(pid, none)]
      | _ => []) := by
  cases r <;> simp [World.mail, World.record]

/-- The note that a process which does not listen refused a message. -/
theorem quiet_refused {j : Nat} {p : Server} (inv : Inv σ t γ s) (found : s.servers[j]? = some p)
    (deaf : p.isListening = false) : Quiet σ t (γ, s) (γ, s.record (.refused p.pid)) := by
  have aside : Aside (γ, s) (γ, s.record (.refused p.pid)) :=
    ⟨rfl, rfl, rfl, fun p => by cases p <;> rfl, rfl, rfl, rfl, rfl⟩
  have mail : (s.record (.refused p.pid)).overview.mail = s.overview.mail ++ [(p.pid, none)] :=
    World.mail_record ..
  have view : (s.record (.refused p.pid)).overview =
      { s.overview with mail := s.overview.mail ++ [(p.pid, none)] } := by
    rw [← mail]; rfl
  have isProcess : p.shown ∈ s.overview.processes :=
    List.mem_map_of_mem (List.mem_of_getElem? found)
  have place : s.overview.processes[j]? = some p.shown := by simp [World.overview, found]
  have notes (pid : Nat) : notesIn (s.overview.mail ++ [(p.pid, none)]) pid =
      notesIn s.overview.mail pid := by simp [notesIn]
  have said (pid : Nat) : saidIn (s.overview.mail ++ [(p.pid, none)]) pid =
      saidIn s.overview.mail pid := by simp [saidIn]
  have planned (i : Nat) (q : Process) :
      plannedAt ((s.record (.refused p.pid)).voice γ)
        { s.overview with mail := s.overview.mail ++ [(p.pid, none)] } i q =
        plannedAt (s.voice γ) s.overview i q := by
    simp only [plannedAt, World.voice, said]
    rfl
  refine ⟨aside.inv inv inv.tickets.pending ?_ ?_ ?_ ?_, fun u => ?_⟩
  · rw [view]
    exact { inv.life with
      posted := fun x hx => by
        rcases List.mem_append.mp hx with hx | hx
        · exact inv.life.posted x hx
        · obtain rfl := List.mem_singleton.mp hx
          exact ⟨p.shown, isProcess, rfl⟩
      atRest := fun free => ⟨(inv.life.atRest free).idle, (inv.life.atRest free).busy⟩ }
  · rw [view]
    exact
      { written := fun q hq => by rw [said]; exact inv.order.written q hq
        planned := fun i n q hi hq listens => by
          rw [planned]; exact inv.order.planned i n q hi hq listens }
  · rw [view]
    exact
      { inv.mirror with
        followed := fun q hq => by rw [notes]; exact inv.mirror.followed q hq
        mirrored := fun i n q hi hn hq unharmed => by
          rw [notes]
          exact inv.mirror.mirrored i n q hi hn hq fun h => unharmed (List.mem_append_left _ h)
        early := fun i n q state other hn hq => by
          rw [notes]; exact inv.mirror.early i n q state other hn hq
        refused := fun q hq harmed => by
          rcases List.mem_append.mp harmed with h | h
          · exact inv.mirror.refused q hq h
          · have same : q.pid = p.pid := congrArg Prod.fst (List.mem_singleton.mp h)
            obtain ⟨n, hn⟩ := List.mem_iff_getElem?.mp hq
            obtain rfl := inv.life.pids n j q p.shown hn place same
            obtain rfl : q = p.shown := Option.some.inj (hn.symm.trans place)
            exact deaf }
  · rw [view]
    intro i n q other hi hq listens ended
    exact inv.closed i n q other hi hq listens (by rw [← said]; exact ended)
  · refine aside.rely (aside.keeps (Nat.le_refl _) (Nat.le_refl _) (fun i e => ?_) fun x e => ?_)
      (fun _ => ?_) (fun _ => ?_) (fun _ i n q _ _ _ => ?_) (fun _ _ _ silent => silent) fun _ => rfl
    · rw [view]; exact ⟨e, fun e => e, fun _ e => e⟩
    · rw [mail]; exact List.mem_append_left _ e
    · rw [view]; exact ⟨rfl, rfl, rfl, rfl, rfl⟩
    · rw [view]; exact ⟨fun _ e _ => .inl e, fun e => e, .inl rfl⟩
    · rw [view]; exact planned i q

/-- The note that a message was refused, if the server does not listen. -/
theorem quiet_refusal {j : Nat} (inv : Inv σ t γ s)
    (deaf : ∀ p, s.servers[j]? = some p → p.isListening = false) :
    Quiet σ t (γ, s) (γ, s.recordRefusal j) := by
  unfold World.recordRefusal
  split
  · next p found => exact quiet_refused inv found (deaf p found)
  · exact .refl inv

end LspHost
