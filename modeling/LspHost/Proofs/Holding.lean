import LspHost.Proofs.Waiting

/-!
# Holding a lock

A program that runs under the lifecycle lock or the lock of the documents (`wp_locked`) begins with what
is true while nobody holds that lock, and has to make it true again before the lock is given back.
-/

namespace LspHost

open Discipline

variable {σ : Setting} {t : Nat} {γ γ' : Ghost} {s : World} {p : Place} {m : Members}

/-- Whoever gives back the lock of the documents has told of them, or need not. -/
def AllTold (untold : List Note) (v : Overview) : Prop :=
  ∀ (i j : Nat) (p : Process), v.session = some i → v.serverOf? i = some j →
    v.processes[j]? = some p → (p.pid, none) ∉ v.mail → untold = []

/-- Where the conversations have gone: the one of a writing lock further by some messages, the others
not at all. -/
def Advances (p : Place) (xs : List Said) (a b : Ghost × World) : Prop :=
  ∀ (n j : Nat) (q q' : Process), a.2.overview.serverOf? n = some j →
    a.2.overview.processes[j]? = some q → b.2.overview.processes[j]? = some q' →
    q'.listening = true →
    plannedAt (b.2.voice b.1) b.2.overview n q' =
      (plannedAt (a.2.voice a.1) a.2.overview n q).bind
        (Talk.planned? (if p = .writing n then xs else []))

theorem Advances.mute {xs : List Said} {a b c : Ghost × World} (h : Advances p xs a b)
    (keeps : Keeps a b) (life : LifeKept a.2.overview b.2.overview) (mute : Mute t b c)
    (held : b.1.holder .lifecycle = some t) : Advances p xs a c := by
  intro n j q q'' hn hq hq'' listens
  obtain ⟨q', hq', -⟩ := keeps.processes j q hq
  obtain ⟨q₂, hq₂, -, -, -, listens'⟩ := mute.processes j q' hq'
  obtain rfl : q₂ = q'' := Option.some.inj (hq₂.symm.trans hq'')
  have hn' : b.2.overview.serverOf? n = some j := by
    simpa only [Overview.serverOf?, life.holds] using hn
  rw [mute.planned held n j q' q₂ hn' hq' hq'' listens, h n j q q' hn hq hq' (listens' listens)]

theorem Advances.after {xs : List Said} {a b c : Ghost × World} (mute : Mute t a b)
    (held : a.1.holder .lifecycle = some t) (h : Advances p xs b c) (keeps : Keeps b c) :
    Advances p xs a c := by
  intro n j q q'' hn hq hq'' listens
  obtain ⟨q', hq', -⟩ := mute.processes j q hq
  obtain ⟨q₂, hq₂, -, -, -, listens'⟩ := keeps.processes j q' hq'
  obtain rfl : q₂ = q'' := Option.some.inj (hq₂.symm.trans hq'')
  have hn' : b.2.overview.serverOf? n = some j := by
    simpa only [Overview.serverOf?, (mute.life held).holds] using hn
  rw [h n j q' q₂ hn' hq' hq'' listens, mute.planned held n j q q' hn hq hq' (listens' listens)]

/-- No request of a task has been cancelled meanwhile. -/
def Unrevoked (t : Nat) (a b : Ghost × World) : Prop :=
  ∀ k, a.1.role k = .request t → b.2.loop.outcome? k = some (.error .cancelled) →
    a.2.loop.outcome? k = some (.error .cancelled)

theorem Unrevoked.trans {a b c : Ghost × World} (h : Unrevoked t a b) (keeps : Keeps a b)
    (h' : Unrevoked t b c) : Unrevoked t a c := by
  intro k role cancelled
  have same := keeps.roles k (by rw [role]; exact fun e => by cases e)
  exact h k role (h' k (by rw [same]; exact role) cancelled)

/-- A task is on its way to a lock: its message is planned, and nothing else is of its doing. -/
structure Nears (p : Place) (t : Nat) (m : Members) (a b : Ghost × World) : Prop
    extends Minds t a b where
  advances : a.1.holder .lifecycle = some t → Advances p (Said.ofMembers m) a b
  untold : a.1.holder .documents = some t → b.1.untold = a.1.untold
  requests : Unrevoked t a b

theorem Nears.rely {a b c : Ghost × World} (h : Nears p t m a b) (rely : Rely t b c) :
    Nears p t m a c where
  toMinds := h.toMinds.trans rely.toMinds
  advances held := (h.advances held).mute h.toKeeps (h.life held) rely.toMute ((h.holder _).mp held)
  untold held := by rw [rely.untold ((h.holder _).mp held), h.untold held]
  requests := h.requests.trans h.toKeeps rely.requests

theorem Nears.after {a b c : Ghost × World} (rely : Rely t a b) (h : Nears p t m b c) :
    Nears p t m a c where
  toMinds := rely.toMinds.trans h.toMinds
  advances held := .after rely.toMute held (h.advances ((rely.holder _).mp held)) h.toKeeps
  untold held := by rw [h.untold ((rely.holder _).mp held), rely.untold held]
  requests := Unrevoked.trans rely.requests rely.toKeeps h.requests

/-- What a task finds when it has come to hold a lock, under which it is going to write a message if
it is a writing lock. -/
structure Enters (σ : Setting) (p : Place) (t : Nat) (m : Members) (a b : Ghost × World) : Prop where
  inv : Inv σ (some t) b.1 b.2
  tongue : b.1.tongue = fun n => if p = .writing n then Said.ofMembers m else []
  newborn : b.1.newborn = none
  parting : b.1.parting = none
  live : b.1.doomed t = false
  keeps : Keeps a b
  mine : b.1.holder p = some t
  others : ∀ q, q ≠ p → (a.1.holder q = some t ↔ b.1.holder q = some t)
  life : a.1.holder .lifecycle = some t → LifeKept a.2.overview b.2.overview
  documents : a.1.holder .documents = some t → DocumentsKept a.2.overview b.2.overview
  advances : a.1.holder .lifecycle = some t → Advances p (Said.ofMembers m) a b
  untold : a.1.holder .documents = some t → b.1.untold = a.1.untold
  requests : Unrevoked t a b
  rest : p = .lifecycle → b.2.overview.AtRest σ
  told : p = .documents → b.1.untold = []
  before : ∀ (i j : Nat) (q : Process), p = .writing i → b.2.overview.serverOf? i = some j →
    b.2.overview.processes[j]? = some q → q.listening = true →
    Talk.after? (saidIn b.2.overview.mail q.pid) .silent ≠ some .done

/-- What a task finds when it has given a lock back. -/
structure Leaves (σ : Setting) (p : Place) (t : Nat) (a b : Ghost × World) : Prop where
  poised : Poised σ t b.1 b.2
  keeps : Keeps a b
  freed : b.1.holder p = none
  others : ∀ q, q ≠ p → b.1.holder q = a.1.holder q
  overview : b.2.overview = a.2.overview

/-! ## Coming in -/

/-- A ticket for the queue of a lock. -/
theorem quiet_issueLock (poised : Poised σ t γ s) (p : Place) (m : Members) :
    Quiet σ (some t) (γ, s)
      (γ.assign s.loop.tickets.length (.lock p t m), { s with loop := s.loop.issue.2 }) :=
  quiet_issue poised.inv (fun e => by cases e) fun _ _ _ e => by cases e

theorem Place.Exists.keeps {s' : World} (there : p.Exists s)
    (transports : s.transports.length ≤ s'.transports.length) : p.Exists s' := by
  cases p with
  | writing i => exact Nat.lt_of_lt_of_le there transports
  | _ => trivial

theorem not_mem_waiters_new (inv : Inv σ (some t) γ s) (p : Place) :
    s.loop.tickets.length ∉ (p.lock s).waiters := by
  intro h
  obtain ⟨u, m, κ, role, -⟩ := (inv.locks p).waiters _ h
  rw [(inv.tickets.unissued _).mpr (Nat.le_refl _)] at role
  cases role

/-- A task that was woken in a queue finds the lock free, and leaves the queue. -/
theorem granted_of_mem (inv : Inv σ (some t) γ s) {k : Nat} (first : k ∈ (p.lock s).waiters) {v : Json}
    (woken : s.loop.outcome? k = some (.ok v)) :
    (p.lock s).held = false ∧ (p.lock s).waiters = k :: (p.lock s).waiters.erase k := by
  obtain ⟨free, head⟩ := (inv.locks p).granted k first v woken
  refine ⟨free, ?_⟩
  rcases e : (p.lock s).waiters with _ | ⟨j, rest⟩
  · rw [e] at head; cases head
  · rw [e] at head
    cases head
    rw [List.erase_cons_head]

theorem holder_of_free (inv : Inv σ (some t) γ s) (free : (p.lock s).held = false) :
    γ.holder p = none := by
  have := (inv.locks p).held
  rw [free] at this
  exact Option.isNone_iff_eq_none.mp (by simpa using this.symm)

theorem wp_setLock {β : Type} {f : Lock → Lock} {g : Unit → Act β}
    {Q : Except Fault β → Ghost → World → Prop} (γ' : Ghost)
    (spares : (discipline σ).Spares t (γ, s) (γ', p.put (f (p.lock s)) s))
    (next : (discipline σ).wp t (g ()) Q γ' (p.put (f (p.lock s)) s)) :
    (discipline σ).wp t (Act.setLock p.toLockPlace f >>= g) Q γ s := wp_change γ' spares next

/-- Taking a free lock. -/
theorem wp_take {κ : TaskKind} (inv : Inv σ (some t) γ s) (there : p.Exists s)
    (free : (p.lock s).held = false)
    (ungranted : ∀ k ∈ (p.lock s).waiters, ∀ v, s.loop.outcome? k ≠ some (.ok v))
    (kind : s.loop.kind? t = some κ) (suits : p.Suits κ)
    {Q : Except Fault Unit → Ghost → World → Prop}
    (next : Inv σ (some t) (γ.handOver p (some t)) (p.put { p.lock s with held := true } s) →
      Q (.ok ()) (γ.handOver p (some t)) (p.put { p.lock s with held := true } s)) :
    (discipline σ).wp t (Act.setLock p.toLockPlace fun l => { l with held := true }) Q γ s :=
  wp_update _ (spares_take inv there free) <|
    next (inv_take inv there free ungranted kind suits)

/-- What a task finds that has come to a free lock and takes it. -/
theorem enters_take {a : Ghost × World} (inv : Inv σ (some t) γ s)
    (tongue : γ.tongue = fun n => if p = .writing n then Said.ofMembers m else [])
    (newborn : γ.newborn = none) (parting : γ.parting = none) (live : γ.doomed t = false)
    (nears : Nears p t m a (γ, s)) (there : p.Exists s) (free : (p.lock s).held = false)
    (inv' : Inv σ (some t) (γ.handOver p (some t)) (p.put { p.lock s with held := true } s)) :
    Enters σ p t m a (γ.handOver p (some t), p.put { p.lock s with held := true } s) := by
  have relock : Relock p { p.lock s with held := true } γ (γ.handOver p (some t)) s := relock_take there
  have view : (p.put { p.lock s with held := true } s).overview = s.overview := Place.overview_put _
  have nobody := holder_of_free inv free
  exact
    { inv := inv', tongue, newborn, parting, live
      keeps := nears.toKeeps.trans relock.keeps
      mine := Ghost.handOver_self ..
      others := fun q ne => by
        rw [Ghost.handOver_ne γ _ ne]; exact nears.holder q
      life := fun held => by rw [view]; exact nears.life held
      documents := fun held => by rw [view]; exact nears.documents held
      advances := fun held n j q q' hn hq hq' listens => by
        rw [voice_put relock rfl rfl]
        rw [view] at hq' ⊢
        exact nears.advances held n j q q' hn hq hq' listens
      untold := nears.untold
      requests := fun k role cancelled => nears.requests k role (by rwa [Place.loop_put] at cancelled)
      rest := fun e => by subst e; rw [view]; exact inv.life.atRest nobody
      told := fun e => by subst e; exact inv.mirror.done nobody
      before := fun i j q e hi hq listens ended => by
        subst e
        rw [view] at hi hq ended
        obtain ⟨u, writes, -⟩ :=
          inv.closed i j q (by rw [parting]; exact fun e => by cases e) hi hq listens ended
        rw [nobody] at writes
        cases writes }

/-! ## Queueing up -/

/-- The tongue of a task that has come to a lock. -/
def Ghost.come (γ : Ghost) (p : Place) (m : Members) : Ghost :=
  { γ with tongue := fun n => if p = .writing n then Said.ofMembers m else γ.tongue n }

theorem voice_come {k : Nat} (silent : γ.tongue = fun _ => [])
    (there : p.Exists s) (role : γ.role k = .lock p t m)
    (waiters : (p.lock s).waiters = k :: (p.lock s).waiters.erase k) :
    (p.put { p.lock s with waiters := (p.lock s).waiters.erase k } s).voice (γ.come p m) =
      s.voice γ := by
  funext n
  by_cases e : p = .writing n
  · subst e
    have queue : s.queued γ.role n = Said.ofMembers m ++
        ((Place.writing n).lock s |>.waiters.erase k).filterMap fun k => (γ.role k).said? := by
      unfold World.queued
      rw [waiters, List.filterMap_cons, role]
      rcases said : Said.of? m with _ | x <;> simp [Role.said?, Said.ofMembers, said]
    simp only [World.voice, silent, queue, List.nil_append]
    simp [Ghost.come, World.queued, Place.lock_put _ there]
  · have relock : Relock p { p.lock s with waiters := (p.lock s).waiters.erase k } γ (γ.come p m) s :=
      ⟨there, rfl, rfl, rfl, fun _ _ => rfl⟩
    simp only [World.voice, relock.queued_ne e]
    simp [Ghost.come, e]

/-- Who leaves without a message says nothing. -/
theorem voice_leave {k : Nat} (there : p.Exists s) (role : γ.role k = .lock p t m)
    (unheard : Said.of? m = none) :
    (p.put { p.lock s with waiters := (p.lock s).waiters.erase k } s).voice γ = s.voice γ := by
  funext n
  by_cases e : p = .writing n
  · subst e
    have silent (ks : List Nat) : (ks.erase k).filterMap (fun k => (γ.role k).said?) =
        ks.filterMap fun k => (γ.role k).said? := by
      induction ks with
      | nil => rfl
      | cons j rest ih =>
        by_cases same : j = k
        · subst same
          simp [role, Role.said?, unheard]
        · rw [List.erase_cons_tail (by simpa using same), List.filterMap_cons, List.filterMap_cons, ih]
    simp only [World.voice, World.queued, Place.lock_put _ there, silent]
  · have relock : Relock p { p.lock s with waiters := (p.lock s).waiters.erase k } γ γ s :=
      ⟨there, rfl, rfl, rfl, fun _ _ => rfl⟩
    simp only [World.voice, relock.queued_ne e]

/-- Waking the first that waits for a lock that is free. -/
theorem wp_wakeFirst (inv : Inv σ (some t) γ s) (free : (p.lock s).held = false)
    {Q : Except Fault Unit → Ghost → World → Prop}
    (next : ∀ s', Quiet σ (some t) (γ, s) (γ, s') → s'.overview = s.overview → Q (.ok ()) γ s') :
    (discipline σ).wp t (Act.wakeFirst p.toLockPlace) Q γ s := by
  rcases waits : (p.lock s).waiters with _ | ⟨k, rest⟩
  · have waits : (p.toLockPlace.get s).waiters = [] := waits
    exact wp_updateTo γ (by simp only [waits]) (fun u _ => .refl u _) (next s (.refl inv) rfl)
  · have quiet := quiet_wake inv free waits
    have waits : (p.toLockPlace.get s).waiters = k :: rest := waits
    exact wp_updateTo γ (by simp only [waits]) quiet.spares (next _ quiet rfl)

/-- A task has queued up for a lock, and from then on has relied on the others. -/
structure Queues (σ : Setting) (p : Place) (t : Nat) (m : Members) (k : Nat) (a b : Ghost × World) :
    Prop extends Nears p t m a b where
  poised : Poised σ t b.1 b.2
  role : b.1.role k = .lock p t m
  mem : k ∈ (p.lock b.2).waiters
  there : p.Exists b.2

theorem Queues.rely {a b c : Ghost × World} {k : Nat} (h : Queues σ p t m k a b)
    (rely : Rely t b c) (poised : Poised σ t c.1 c.2) : Queues σ p t m k a c where
  toNears := h.toNears.rely rely
  poised := poised
  role := by rw [rely.roles k (by rw [h.role]; exact fun e => by cases e), h.role]
  mem := (rely.queue p k m h.role).mpr h.mem
  there := h.there.keeps rely.transports

theorem Queues.after {a b c : Ghost × World} {k : Nat} (rely : Rely t a b)
    (h : Queues σ p t m k b c) : Queues σ p t m k a c where
  toNears := .after rely h.toNears
  poised := h.poised
  role := h.role
  mem := h.mem
  there := h.there

/-- Who was woken in the queue leaves it and takes the lock. -/
theorem Queues.wp_woken {a : Ghost × World} {κ : TaskKind} {m : Members} {k : Nat} {v : Json}
    (h : Queues σ p t m k a (γ, s)) (live : γ.doomed t = false) (kind : s.loop.kind? t = some κ)
    (suits : p.Suits κ) (woken : s.loop.outcome? k = some (.ok v)) :
    (discipline σ).wp t (do
        Act.setLock p.toLockPlace fun l => { l with waiters := l.waiters.erase k }
        Act.setLock p.toLockPlace fun l => { l with held := true })
      (fun r γ' s' => r = .ok () ∧ Enters σ p t m a (γ', s')) γ s := by
  obtain ⟨free, waiters⟩ := granted_of_mem h.poised.inv h.mem woken
  have there : p.Exists s := h.there
  have ungranted := (h.poised.inv.locks p).ungranted h.mem woken
  have voice := voice_come h.poised.ease.tongue there h.role waiters
  obtain ⟨inv, spares⟩ : Inv σ (some t) (γ.come p m)
      (p.put { p.lock s with waiters := (p.lock s).waiters.erase k } s) ∧
      (discipline σ).Spares t (γ, s) (γ.come p m,
        p.put { p.lock s with waiters := (p.lock s).waiters.erase k } s) :=
    inv_leave h.poised.inv there h.role voice
  have relock : Relock p { p.lock s with waiters := (p.lock s).waiters.erase k } γ (γ.come p m) s :=
    ⟨there, rfl, rfl, rfl, fun _ _ => rfl⟩
  have view : (p.put { p.lock s with waiters := (p.lock s).waiters.erase k } s).overview = s.overview :=
    Place.overview_put _
  have loop : (p.put { p.lock s with waiters := (p.lock s).waiters.erase k } s).loop = s.loop :=
    Place.loop_put _
  have lock := Place.lock_put { p.lock s with waiters := (p.lock s).waiters.erase k } there
  have nears : Nears p t m a
      (γ.come p m, p.put { p.lock s with waiters := (p.lock s).waiters.erase k } s) :=
    { toMinds := h.toMinds.trans (relock.minds .rfl)
      advances := fun held n j q q' hn hq hq' listens => by
        dsimp only at hq' ⊢
        rw [view] at hq' ⊢
        rw [voice]
        exact h.advances held n j q q' hn hq hq' listens
      untold := h.untold
      requests := fun k role cancelled => h.requests k role (by rwa [loop] at cancelled) }
  refine wp_setLock (γ.come p m) spares ?_
  have there' : p.Exists (p.put { p.lock s with waiters := (p.lock s).waiters.erase k } s) :=
    there.keeps (by simp)
  generalize p.put { p.lock s with waiters := (p.lock s).waiters.erase k } s = s' at *
  refine wp_take inv there' (by rw [lock]; exact free) (by rw [lock, loop]; exact ungranted)
    (by rw [loop]; exact kind) suits fun inv' => ⟨rfl, enters_take inv ?_ h.poised.ease.newborn
      h.poised.ease.parting live nears there' (by rw [lock]; exact free) inv'⟩
  funext n
  show (if p = .writing n then Said.ofMembers m else γ.tongue n) = _
  rw [h.poised.ease.tongue]

/-- Who was cancelled in the queue leaves it, and wakes the next one if the lock is free. -/
theorem Queues.wp_cancelled {a : Ghost × World} {m : Members} {k : Nat}
    (h : Queues σ p t m k a (γ, s)) (doomed : γ.doomed t = true) (unheard : Said.of? m = none) :
    (discipline σ).wp t (do
        Act.setLock p.toLockPlace fun l => { l with waiters := l.waiters.erase k }
        let lock ← Program.peek p.toLockPlace.get
        if !lock.held then Act.wakeFirst p.toLockPlace
        (Act.fail .cancelled : Act Unit))
      (fun r γ' s' => r = .error .cancelled ∧ γ'.doomed t = true ∧ Poised σ t γ' s' ∧
        Minds t a (γ', s') ∧ Unrevoked t a (γ', s')) γ s := by
  have there : p.Exists s := h.there
  have voice := voice_leave there h.role unheard
  have relock : Relock p { p.lock s with waiters := (p.lock s).waiters.erase k } γ γ s :=
    ⟨there, rfl, rfl, rfl, fun _ _ => rfl⟩
  obtain ⟨inv, spares⟩ : Inv σ (some t) γ
      (p.put { p.lock s with waiters := (p.lock s).waiters.erase k } s) ∧
      (discipline σ).Spares t (γ, s)
        (γ, p.put { p.lock s with waiters := (p.lock s).waiters.erase k } s) :=
    inv_leave h.poised.inv there h.role voice
  have minds := h.toMinds.trans (relock.minds .rfl)
  have requests : Unrevoked t a
      (γ, p.put { p.lock s with waiters := (p.lock s).waiters.erase k } s) :=
    fun j role cancelled => h.requests j role (by rwa [Place.loop_put] at cancelled)
  refine wp_setLock γ spares (Wp.look ?_)
  have poised : Poised σ t γ (p.put { p.lock s with waiters := (p.lock s).waiters.erase k } s) :=
    ⟨inv, h.poised.ease⟩
  split
  · next free =>
    refine Wp.bind (wp_wakeFirst poised.inv ((Bool.not_eq_true' _).mp free) fun s' quiet _ => ?_)
    exact ⟨rfl, doomed, quiet.poised poised.ease, minds.trans (quiet.rely t).toMinds,
      requests.trans minds.toKeeps (quiet.rely t).requests⟩
  · exact ⟨rfl, doomed, poised, minds, requests⟩

/-- A task queues up. -/
theorem queues_enqueue {κ : TaskKind} {m : Members} {k : Nat} (poised : Poised σ t γ s)
    (there : p.Exists s) (role : γ.role k = .lock p t m) (fresh : k ∉ (p.lock s).waiters)
    (unsettled : ∀ v, s.loop.outcome? k ≠ some (.ok v)) (kind : s.loop.kind? t = some κ) (suits : p.Suits κ)
    (speaks : ∀ i, p = .writing i → Speaks t γ s i m)
    (connected : ∀ i, p = .writing i → s.overview.serverOf? i ≠ none) :
    Queues σ p t m k (γ, s) (γ, p.put { p.lock s with waiters := (p.lock s).waiters ++ [k] } s) where
  poised := ⟨(inv_enqueue poised.inv there role fresh unsettled kind suits speaks connected).1, poised.ease⟩
  toMinds := Relock.minds ⟨there, rfl, rfl, rfl, fun _ _ => rfl⟩ .rfl
  advances _ := by
    intro n j q q' hn hq hq' listens
    dsimp only at hn hq hq' ⊢
    rw [Place.overview_put] at hq' ⊢
    rw [hq] at hq'
    cases hq'
    exact plannedAt_append (voice_enqueue there role n) q
  untold _ := rfl
  requests k _ cancelled := by simpa only [Place.loop_put] using cancelled
  role := role
  mem := by dsimp only; rw [Place.lock_put _ there]; simp
  there := there.keeps (by simp)

/-- What is about to be said does not depend on the tickets that nobody has yet. -/
theorem voice_issue (poised : Poised σ t γ s) (ρ : Role) (l : Loop) :
    ({ s with loop := l } : World).voice (γ.assign s.loop.tickets.length ρ) = s.voice γ := by
  funext n
  have queue := queued_congr (i := n) (fun q => lock_withLoop q s l) poised.inv.locks
    (assign_kept poised.inv ρ)
  simp only [World.voice, queue]
  rfl

theorem Speaks.issue {i : Nat} (poised : Poised σ t γ s) (ρ : Role)
    (speaks : Speaks t γ s i m) :
    Speaks t (γ.assign s.loop.tickets.length ρ) { s with loop := s.loop.issue.2 } i m := by
  unfold Speaks
  rw [voice_issue poised]
  exact speaks

/-- Waiting in the queue of a lock: the task is woken and takes the lock, or it is cancelled and leaves. -/
theorem wp_queueFor {κ : TaskKind} (poised : Poised σ t γ s) (live : γ.doomed t = false)
    (there : p.Exists s) (kind : s.loop.kind? t = some κ) (suits : p.Suits κ)
    (speaks : ∀ i, p = .writing i → Speaks t γ s i m)
    (connected : ∀ i, p = .writing i → s.overview.serverOf? i ≠ none)
    (unheard : κ.IsBackground → Said.of? m = none) :
    (discipline σ).wp t (Act.queueFor p.toLockPlace)
      (fun r γ' s' => (r = .ok () ∧ Enters σ p t m (γ, s) (γ', s')) ∨
        (r = .error .cancelled ∧ γ'.doomed t = true ∧ Poised σ t γ' s' ∧ Minds t (γ, s) (γ', s') ∧
          Unrevoked t (γ, s) (γ', s')))
      γ s := by
  have issued := quiet_issueLock poised p m
  have role : (γ.assign s.loop.tickets.length (.lock p t m)).role s.loop.tickets.length =
      .lock p t m := by simp
  refine wp_ask _ issued.spares ?_
  have lock₁ : p.lock { s with loop := s.loop.issue.2 } = p.lock s := lock_withLoop p s _
  have there₁ : p.Exists { s with loop := s.loop.issue.2 } := there.keeps (Nat.le_refl _)
  have fresh : s.loop.tickets.length ∉ (p.lock { s with loop := s.loop.issue.2 }).waiters := by
    rw [lock₁]; exact not_mem_waiters_new poised.inv p
  have unsettled (v : Json) : s.loop.issue.2.outcome? s.loop.tickets.length ≠ some (.ok v) := by
    intro e
    rw [Loop.outcome?_issue] at e
    exact absurd (Loop.outcome?_lt e) (Nat.lt_irrefl _)
  have speaks₁ (i : Nat) (e : p = .writing i) := (speaks i e).issue poised (.lock p t m)
  have queues := queues_enqueue (issued.poised poised.ease) there₁ role fresh unsettled kind suits speaks₁ connected
  have queues := queues.after (issued.rely t)
  refine wp_change _ (inv_enqueue issued.inv there₁ role fresh unsettled kind suits speaks₁ connected).2 ?_
  refine Wp.attempt_seq (wp_awaitAny queues.poised live (fun _ _ _ => congrArg Role.owner? queues.role)
    fun r γ' s' poised' rely end' => ?_) fun r γ' s' h => h
  have queues' := queues.rely rely poised'
  have kind' : s'.loop.kind? t = some κ := queues'.loop.kinds t κ kind
  rcases end' with ⟨doomed, rfl⟩ | ⟨live', outcome⟩
  · obtain ⟨κ', kind'', back⟩ := poised'.inv.tasks.background t doomed
    rw [kind'] at kind''
    cases kind''
    exact Wp.mono (queues'.wp_cancelled doomed (unheard back)) fun _ _ _ h => .inr h
  · cases r with
    | ok v => exact Wp.mono (queues'.wp_woken live' kind' suits outcome) fun _ _ _ h => .inl h
    | error f =>
      have fits := poised'.inv.tickets.fits _ _ outcome
      have role' : γ'.role s.loop.issue.1 = .lock p t m := queues'.role
      rw [role'] at fits
      rw [(fits f rfl).2] at live'
      cases live'

/-- Coming to hold a lock, at once if it is open. -/
theorem wp_acquire {κ : TaskKind} (poised : Poised σ t γ s) (live : γ.doomed t = false)
    (there : p.Exists s) (kind : s.loop.kind? t = some κ) (suits : p.Suits κ)
    (speaks : ∀ i, p = .writing i → Speaks t γ s i m)
    (connected : ∀ i, p = .writing i → s.overview.serverOf? i ≠ none)
    (unheard : κ.IsBackground → Said.of? m = none) :
    (discipline σ).wp t (Act.acquire p.toLockPlace)
      (fun r γ' s' => (r = .ok () ∧ Enters σ p t m (γ, s) (γ', s')) ∨
        (r = .error .cancelled ∧ γ'.doomed t = true ∧ Poised σ t γ' s' ∧ Minds t (γ, s) (γ', s') ∧
          Unrevoked t (γ, s) (γ', s')))
      γ s := by
  refine Wp.look ?_
  split
  · next isOpen =>
    have isOpen : (p.lock s).isOpen = true := isOpen
    simp only [Lock.isOpen, Bool.and_eq_true, Bool.not_eq_true', List.isEmpty_iff] at isOpen
    obtain ⟨free, empty⟩ := isOpen
    have ungranted : ∀ k ∈ (p.lock s).waiters, ∀ v, s.loop.outcome? k ≠ some (.ok v) := by
      rw [empty]; exact fun k hk => by cases hk
    -- The message is on the tongue before the lock is taken.
    have come : ∃ γ₁ : Ghost, γ₁ = γ.come p m ∧ Inv σ (some t) γ₁ s ∧
        (discipline σ).Spares t (γ, s) (γ₁, s) := by
      by_cases e : ∃ i, p = .writing i
      · obtain ⟨i, rfl⟩ := e
        obtain ⟨inv, spares⟩ := inv_utter poised.inv (by rw [poised.ease.tongue]) empty (speaks i rfl)
          (connected i rfl)
        refine ⟨_, ?_, inv, spares⟩
        simp only [Ghost.utter, Ghost.come, Place.writing.injEq]
        congr 2
        funext n
        simp only [eq_comm]
      · refine ⟨γ, ?_, poised.inv, fun u _ => .refl u _⟩
        have same (n : Nat) : (if p = .writing n then Said.ofMembers m else γ.tongue n) = γ.tongue n :=
          if_neg fun h => e ⟨n, h⟩
        simp only [Ghost.come, same]
    obtain ⟨_, rfl, inv, spares⟩ := come
    have relock : Relock p { p.lock s with held := true } (γ.come p m)
      ((γ.come p m).handOver p (some t)) s := relock_take there
    refine wp_update _ (fun u hu => (spares u hu).trans (spares_take inv there free u hu))
      (.inl ⟨rfl, enters_take inv ?_ poised.ease.newborn poised.ease.parting live
        { toMinds := { Minds.refl t (γ, s) with roles := fun _ _ => rfl }
          advances := ?_, untold := fun _ => rfl, requests := fun _ _ cancelled => cancelled }
        there free (inv_take inv there free ungranted kind suits)⟩)
    · funext n
      show (if p = .writing n then Said.ofMembers m else γ.tongue n) = _
      rw [poised.ease.tongue]
    · intro _ n j q q' hn hq hq' _
      rw [hq] at hq'
      cases hq'
      refine plannedAt_append ?_ q
      by_cases e : p = .writing n
      · subst e
        have none : s.queued γ.role n = [] := by
          unfold World.queued; rw [empty]; rfl
        simp [World.voice, Ghost.come, poised.ease.tongue, none]
      · simp [World.voice, Ghost.come, e]
  · exact wp_queueFor poised live there kind suits speaks connected unheard

/-! ## Giving back -/

/-- Giving a lock back, and with it what was kept for it. -/
theorem wp_release (γ' : Ghost) (there : p.Exists s)
    (spares : (discipline σ).Spares t (γ, s) (γ', p.put { p.lock s with held := false } s))
    (inv : Inv σ (some t) γ' (p.put { p.lock s with held := false } s))
    {Q : Except Fault Unit → Ghost → World → Prop}
    (next : ∀ s', Quiet σ (some t) (γ', p.put { p.lock s with held := false } s) (γ', s') →
      s'.overview = s.overview → Q (.ok ()) γ' s') :
    (discipline σ).wp t (Act.release p.toLockPlace) Q γ s := by
  refine wp_setLock γ' spares (wp_wakeFirst inv (by rw [Place.lock_put _ there]) fun s' quiet view => ?_)
  exact next s' quiet (by rw [view, Place.overview_put])

theorem Enters.poised {a b : Ghost × World} (h : Enters σ p t m a b)
    (plain : ∀ i, p ≠ .writing i) : Poised σ t b.1 b.2 :=
  ⟨h.inv, ⟨by rw [h.tongue]; funext n; exact if_neg (plain n), h.newborn, h.parting⟩⟩

/-- What must be true again when a task gives back the lifecycle lock or the lock of the documents. -/
structure MayLeave (σ : Setting) (p : Place) (t : Nat) (γ : Ghost) (s : World) : Prop where
  poised : Poised σ t γ s
  mine : γ.holder p = some t
  rest : p = .lifecycle → s.overview.AtRest σ
  done : p = .lifecycle → ∀ i, γ.holder (.writing i) ≠ some t
  told : p = .documents → AllTold γ.untold s.overview

/-- The ghost after a lock was given back. -/
def Ghost.leave (γ : Ghost) (p : Place) : Ghost :=
  { γ.handOver p none with untold := if p = .documents then [] else γ.untold }

theorem MayLeave.mirror (h : MayLeave σ p t γ s) : Mirror (γ.leave p).toHands s.overview := by
  have old := h.poised.inv.mirror
  by_cases e : p = .documents
  · subst e
    exact { old with
      mirrored := fun i j q hi hj hq unharmed => by
        have none := h.told rfl i j q hi hj hq unharmed
        have same := old.mirrored i j q hi hj hq unharmed
        rw [none] at same
        exact same
      done := fun _ => rfl }
  · have same : (γ.leave p).untold = γ.untold := if_neg e
    exact { old with
      mirrored := fun i j q hi hj hq unharmed => by
        rw [same]; exact old.mirrored i j q hi hj hq unharmed
      done := fun free => by
        rw [same]
        have : (γ.leave p).holder .documents = γ.holder .documents := Ghost.handOver_ne γ _ (Ne.symm e)
        exact old.done (this.symm.trans free) }

/-- A program under the lifecycle lock or the lock of the documents. -/
theorem wp_locked {α : Type} {κ : TaskKind} {body : Act α} {P Q : Except Fault α → Ghost → World → Prop}
    (plain : ∀ i, p ≠ .writing i) (poised : Poised σ t γ s) (kind : s.loop.kind? t = some κ)
    (fore : ¬ κ.IsBackground) (suits : p.Suits κ)
    (enter : ∀ γ₁ s₁, Enters σ p t [] (γ, s) (γ₁, s₁) →
      (discipline σ).wp t body (fun r γ₂ s₂ => MayLeave σ p t γ₂ s₂ ∧ P r γ₂ s₂) γ₁ s₁)
    (leave : ∀ r γ₂ s₂ γ₃ s₃, P r γ₂ s₂ → Leaves σ p t (γ₂, s₂) (γ₃, s₃) → Q r γ₃ s₃) :
    (discipline σ).wp t (Act.locked p.toLockPlace body) Q γ s := by
  have there (s : World) : p.Exists s := by
    cases p with
    | writing i => exact absurd rfl (plain i)
    | _ => trivial
  have live := poised.live ⟨κ, kind, fore⟩
  refine Wp.seq (wp_acquire (m := []) poised live (there s) kind suits (fun i e => absurd e (plain i))
    (fun i e => absurd e (plain i)) fun back => absurd back fore) ?_ ?_
  · rintro _ γ₁ s₁ (⟨-, enters⟩ | ⟨e, -⟩)
    · refine Wp.ensure (enter γ₁ s₁ enters) ?_
      rintro r γ₂ s₂ ⟨may, post⟩
      have mirror := may.mirror
      have voice (n : Nat) : (p.put { p.lock s₂ with held := false } s₂).voice (γ₂.leave p) n =
          s₂.voice γ₂ n := by
        have relock : Relock p { p.lock s₂ with held := false } γ₂ (γ₂.leave p) s₂ :=
          ⟨there s₂, rfl, rfl, rfl, fun _ e => Ghost.handOver_ne γ₂ _ e⟩
        rw [voice_put relock rfl rfl]
      have life : Life σ (γ₂.leave p) s₂.overview := by
        have := may.poised.inv.life.handOver (p := p) (u := none) fun e _ => may.rest e
        exact { this with }
      have closed : Sealed (γ₂.leave p).toHands s₂.overview := by
        intro i j q other hi hq listens ended
        obtain ⟨u, writes, operates⟩ := may.poised.inv.closed i j q other hi hq listens ended
        have stays (place : Place) (ne : place ≠ p) :
            (γ₂.leave p).holder place = γ₂.holder place := Ghost.handOver_ne γ₂ _ ne
        refine ⟨u, by rw [stays _ fun e => plain i e.symm]; exact writes, ?_⟩
        rw [stays _ ?_]
        · exact operates
        · rintro rfl
          have mine := may.mine
          rw [operates] at mine
          cases mine
          exact may.done rfl i writes
      have inv : Inv σ (some t) (γ₂.leave p) (p.put { p.lock s₂ with held := false } s₂) :=
        inv_release may.poised.inv (there s₂) may.mine rfl rfl rfl rfl life
          (by rw [funext voice]; exact may.poised.inv.order) mirror closed
      refine wp_release (γ₂.leave p) (there s₂) (spares_release (there s₂) may.mine rfl rfl rfl rfl
        (fun i _ q _ _ _ => plannedAt_congr (voice i) q) (fun i silent => (voice i).trans silent)
        ?_) inv fun s₃ quiet view => ?_
      · by_cases e : p = .documents
        · exact .inl e
        · exact .inr (if_neg e)
      · have relock : Relock p { p.lock s₂ with held := false } γ₂ (γ₂.leave p) s₂ :=
          ⟨there s₂, rfl, rfl, rfl, fun _ e => Ghost.handOver_ne γ₂ _ e⟩
        refine leave r γ₂ s₂ _ s₃ post
          { poised := quiet.poised ⟨may.poised.ease.tongue, may.poised.ease.newborn,
              may.poised.ease.parting⟩
            keeps := relock.keeps.trans (quiet.rely t).toKeeps
            freed := Ghost.handOver_self ..
            others := fun q e => Ghost.handOver_ne γ₂ _ e
            overview := view }
    · cases e
  · rintro e γ₁ s₁ (⟨failed, -⟩ | ⟨-, doomed, poised₁, minds, -⟩)
    · cases failed
    · rw [poised₁.live ⟨κ, minds.loop.kinds t κ kind, fore⟩] at doomed
      cases doomed

end LspHost
