import LspHost.Proofs.Aside

/-!
# Locks

A lock is taken, given back, queued for and left (`Relock`). Whoever is woken finds the lock free, and is
the first that waits. While a task waits for a writing lock its message counts as planned already, so
the conversation does not change when the message is written at last.
-/

namespace LspHost

variable {σ : Setting} {γ γ' : Ghost} {s : World}

/-! ## Places -/

namespace Place

variable {p q : Place} (L : Lock)

/-- The world with another lock at a place. -/
def put (p : Place) (L : Lock) (s : World) : World := p.toLockPlace.set L s

theorem lock_put (there : p.Exists s) : p.lock (p.put L s) = L := by
  cases p with
  | lifecycle => rfl
  | documents => rfl
  | writing i =>
    have bound : i < s.transports.length := there
    simp [lock, put, toLockPlace, Transport.writePlace, World.setTransport, bound]

theorem lock_put_ne (h : q ≠ p) : q.lock (p.put L s) = q.lock s := by
  cases p with
  | lifecycle => cases q <;> first | rfl | exact absurd rfl h
  | documents => cases q <;> first | rfl | exact absurd rfl h
  | writing i =>
    cases q with
    | lifecycle => rfl
    | documents => rfl
    | writing j =>
      have ne : i ≠ j := fun e => h (by rw [e])
      simp [lock, put, toLockPlace, Transport.writePlace, World.setTransport,
        List.getElem?_modify_ne _ _ ne]

theorem overview_put : (p.put L s).overview = s.overview := by
  cases p with
  | lifecycle => rfl
  | documents => rfl
  | writing i =>
    have holds : (s.transports.modify i fun x => { x with writing := L }).map Transport.hold =
        s.transports.map Transport.hold := by
      apply List.ext_getElem?
      intro n
      by_cases same : i = n
      · subst same
        cases e : s.transports[i]? <;> simp [e, Transport.hold]
      · simp [List.getElem?_modify_ne _ _ same]
    simp only [World.overview, put, toLockPlace, Transport.writePlace, World.setTransport, holds]
    rfl

@[simp] theorem loop_put : (p.put L s).loop = s.loop := by cases p <;> rfl

@[simp] theorem servers_put : (p.put L s).servers = s.servers := by cases p <;> rfl

@[simp] theorem getters_put : (p.put L s).getters = s.getters := by cases p <;> rfl

@[simp] theorem sessions_put : (p.put L s).sessions = s.sessions := by cases p <;> rfl

@[simp] theorem length_transports_put : (p.put L s).transports.length = s.transports.length := by
  cases p <;> simp [put, toLockPlace, Transport.writePlace, World.setTransport,
    Supervisor.lifecyclePlace, Supervisor.documentPlace, World.setSupervisor]

theorem put_withLoop (l : Loop) : p.put L { s with loop := l } = { p.put L s with loop := l } := by
  cases p <;> rfl

end Place

/-! ## Changes of one lock -/

/-- A change of the lock at one place, and of who holds it. -/
structure Relock (p : Place) (L : Lock) (γ γ' : Ghost) (s : World) : Prop where
  there : p.Exists s
  role : γ'.role = γ.role
  doomed : γ'.doomed = γ.doomed
  phase : γ'.phase = γ.phase
  others : ∀ q, q ≠ p → γ'.holder q = γ.holder q

namespace Relock

variable {p : Place} {L : Lock} {t : Option Nat}

theorem queued_ne (h : Relock p L γ γ' s) {i : Nat} (ne : p ≠ .writing i) :
    (p.put L s).queued γ'.role i = s.queued γ.role i := by
  simp only [World.queued, Place.lock_put_ne L (Ne.symm ne), h.role]

theorem fits (h : Relock p L γ γ' s) {ρ : Role} {r : Except Fault Json} (old : Fits γ s ρ r) :
    Fits γ' (p.put L s) ρ r :=
  old.mono (fun u e => by rw [h.doomed]; exact e) (fun u e => by rw [h.phase]; exact e)
    (fun j ⟨q, hq, gone⟩ => ⟨q, by rw [Place.overview_put]; exact hq, gone⟩)
    (fun j ⟨q, hq, ended⟩ => ⟨q, by rw [Place.servers_put]; exact hq, ended⟩)
    fun u _ _ _ e => by rw [← h.doomed]; exact e

theorem tickets (h : Relock p L γ γ' s) (old : Tickets γ s) : Tickets γ' (p.put L s) where
  unissued k := by rw [h.role, Place.loop_put]; exact old.unissued k
  fits k r hr := by
    rw [h.role]; exact h.fits (old.fits k r (by rwa [Place.loop_put] at hr))
  timers x hx := by
    rw [Place.loop_put] at hx
    exact (old.timers x hx).mono fun _ _ => by rw [h.role]
  ready job hj := by
    rw [Place.loop_put] at hj
    exact (old.ready job hj).mono fun _ _ => by rw [h.role]
  watchers k T hT r hr := by
    rw [Place.loop_put] at hT
    rw [h.role]; exact old.watchers k T hT r hr
  endings u T hT := by
    rw [Place.loop_put] at hT
    rw [h.role]; exact old.endings u T hT
  ended k u κ keeper hk := by
    rw [Place.loop_put]; exact old.ended k u κ keeper (by rw [← h.role]; exact hk)
  streams j q c k d hq hw := by
    rw [Place.servers_put] at hq
    rw [h.role]; exact old.streams j q c k d hq hw
  exits j q k hq hk := by
    rw [Place.servers_put] at hq
    rw [h.role]; exact old.exits j q k hq hk
  pending i x e hx he := by
    rw [Place.sessions_put] at hx
    rw [h.role]; exact old.pending i x e hx he
  getters := by rw [Place.getters_put]; exact old.getters

theorem inv (h : Relock p L γ γ' s) (inv : Inv σ t γ s) (sound : LockSound γ' (p.put L s) p)
    (holders : Holders γ' s) (life : Life σ γ' s.overview)
    (order : Order ((p.put L s).voice γ') s.overview) (mirror : Mirror γ'.toHands s.overview)
    (closed : Sealed γ'.toHands s.overview) : Inv σ t γ' (p.put L s) where
  tickets := h.tickets inv.tickets
  tasks := inv.tasks.of_same (by rw [Place.loop_put]) (fun _ => by rw [Place.loop_put])
    (by rw [Place.servers_put]) (fun _ _ e => by rw [h.role]; exact e) h.doomed h.phase
  locks q := by
    by_cases e : q = p
    · subst e; exact sound
    · have same := inv.locks q
      exact
        { nodup := by rw [Place.lock_put_ne L e]; exact same.nodup
          waiters := by
            rw [Place.lock_put_ne L e, h.role, Place.loop_put]; exact same.waiters
          held := by rw [Place.lock_put_ne L e, h.others q e]; exact same.held
          granted := by rw [Place.lock_put_ne L e, Place.loop_put]; exact same.granted }
  holders := holders.grow (b := (γ', p.put L s)) (a := (γ', s)) rfl (by
    simp only [Place.loop_put]; exact .refl _)
  life := by rw [Place.overview_put]; exact life
  order := by rw [Place.overview_put]; exact order
  mirror := by rw [Place.overview_put]; exact mirror
  closed := by rw [Place.overview_put]; exact closed

theorem keeps (h : Relock p L γ γ' s) : Keeps (γ, s) (γ', p.put L s) where
  roles _ _ := by rw [h.role]
  loop := by simp only [Place.loop_put]; exact .refl _
  doomed u e := by rw [h.doomed]; exact e
  ended u e := by rw [h.phase]; exact e
  processes j q hq := ⟨q, by rw [Place.overview_put]; exact hq, rfl, rfl, fun e => e, fun e => e⟩
  transports := by simp
  sessions := by simp
  past i e := by rw [Place.overview_put]; exact ⟨e, fun e => e, fun _ e => e⟩
  overlong j e := by simpa only [World.Overlong, Place.servers_put] using e
  mail x e := by rw [Place.overview_put]; exact e

theorem rely (h : Relock p L γ γ' s) {u : Nat} (holder : γ.holder p = some u ↔ γ'.holder p = some u)
    (queue : ∀ k m, γ.role k = .lock p u m → (k ∈ L.waiters ↔ k ∈ (p.lock s).waiters))
    (planned : γ.holder .lifecycle = some u → ∀ (i j : Nat) (q : Process),
      s.overview.serverOf? i = some j → s.overview.processes[j]? = some q → q.listening = true →
      plannedAt ((p.put L s).voice γ') s.overview i q = plannedAt (s.voice γ) s.overview i q)
    (unheard : ∀ i, s.overview.serverOf? i = none → s.voice γ i = [] → (p.put L s).voice γ' i = [])
    (untold : γ.holder .documents = some u → γ'.untold = γ.untold) :
    Rely u (γ, s) (γ', p.put L s) where
  toKeeps := h.keeps
  holder q := by
    by_cases e : q = p
    · subst e; exact holder
    · simp only [h.others q e]
  life _ := by rw [Place.overview_put]; exact .refl _
  documents _ := by rw [Place.overview_put]; exact .refl _
  queue q k m hk := by
    by_cases e : q = p
    · subst e
      rw [Place.lock_put L h.there]; exact queue k m hk
    · rw [Place.lock_put_ne L e]
  requests k _ e := by simpa only [Place.loop_put] using e
  kept _ _ _ _ := by rw [h.doomed]
  phase := by rw [h.phase]
  errors j _ := by
    simp only [World.errorWaiter?, World.errorsMeet, Place.servers_put]
    exact ⟨fun e => e, fun _ _ e => .inl e, fun _ e => e⟩
  planned held i j q q' hi hq hq' listens := by
    rw [Place.overview_put] at hq' ⊢
    rw [hq] at hq'; cases hq'
    exact planned held i j q hi hq listens
  unheard _ := unheard
  untold := untold

theorem minds (h : Relock p L γ γ' s) {u : Nat} (holder : γ.holder p = some u ↔ γ'.holder p = some u) :
    Minds u (γ, s) (γ', p.put L s) where
  toKeeps := h.keeps
  holder q := by
    by_cases e : q = p
    · subst e; exact holder
    · simp only [h.others q e]
  life _ := by rw [Place.overview_put]; exact .refl _
  documents _ := by rw [Place.overview_put]; exact .refl _

end Relock

/-! ## Messages that are about to be written -/

theorem plannedAt_append {queue queue' : Nat → List Said} {v : Overview} {i : Nat} {xs : List Said}
    (more : queue' i = queue i ++ xs) (p : Process) :
    plannedAt queue' v i p = (plannedAt queue v i p).bind (Talk.planned? xs) := by
  simp only [plannedAt, more]
  rw [← List.append_assoc, Talk.planned?_append]

theorem plannedAt_congr {queue queue' : Nat → List Said} {v : Overview} {i : Nat}
    (same : queue' i = queue i) (p : Process) : plannedAt queue' v i p = plannedAt queue v i p := by
  simp only [plannedAt, same]

/-- What a message is about, as a list. -/
def Said.ofMembers (m : Members) : List Said := (Said.of? m).toList

/-- A task may write a message to a process that listens: it fits what is planned, and only a
lifecycle operation takes the conversation further. -/
def Speaks (t : Nat) (γ : Ghost) (s : World) (i : Nat) (m : Members) : Prop :=
  ∀ x, Said.of? m = some x → ∀ (j : Nat) (p : Process), s.overview.serverOf? i = some j →
    s.overview.processes[j]? = some p → p.listening = true →
    ∃ st st' state, plannedAt (s.voice γ) s.overview i p = some st ∧ st.plan? x = some st' ∧
      s.overview.state? i = some state ∧ state.Permits st' ∧
      (st' = .done → γ.holder .lifecycle = some t → x = .exit) ∧
      (γ.holder .lifecycle = some t ∨ st' = st)

section Speaking

variable {t : Nat} {i : Nat} {m : Members} {queue : Nat → List Said}
  (speaks : Speaks t γ s i m) (here : queue i = s.voice γ i ++ Said.ofMembers m)
  (there : ∀ j, j ≠ i → queue j = s.voice γ j)
include speaks here there

theorem order_speak (order : Order (s.voice γ) s.overview) : Order queue s.overview where
  written := order.written
  planned n j p hn hp listens := by
    by_cases e : n = i
    · subst e
      obtain ⟨st, state, planned, found, permits⟩ := order.planned n j p hn hp listens
      rw [plannedAt_append here, planned]
      rcases said : Said.of? m with _ | x
      · exact ⟨st, state, by simp [Said.ofMembers, said], found, permits⟩
      · obtain ⟨st₀, st', state', planned', step, found', permits', -, -⟩ := speaks x said j p hn hp listens
        rw [planned] at planned'
        cases planned'
        exact ⟨st', state', by simpa [Said.ofMembers, said] using step, found', permits'⟩
    · rw [plannedAt_congr (there n e)]; exact order.planned n j p hn hp listens

/-- Another one who holds the lifecycle lock does not notice. -/
theorem planned_speak (order : Order (s.voice γ) s.overview) {u : Nat} (other : u ≠ t)
    (held : γ.holder .lifecycle = some u) {n j : Nat} {p : Process}
    (hn : s.overview.serverOf? n = some j) (hp : s.overview.processes[j]? = some p)
    (listens : p.listening = true) :
    plannedAt queue s.overview n p = plannedAt (s.voice γ) s.overview n p := by
  by_cases e : n = i
  · subst e
    rw [plannedAt_append here]
    rcases said : Said.of? m with _ | x
    · obtain ⟨st, state, planned, -⟩ := order.planned n j p hn hp listens
      simp [Said.ofMembers, said, planned]
    · obtain ⟨st, st', state, planned, step, -, -, -, mine⟩ := speaks x said j p hn hp listens
      have same : st' = st := by
        rcases mine with mine | same
        · rw [held] at mine; exact absurd (Option.some.inj mine) other
        · exact same
      simpa [Said.ofMembers, said, planned, same] using step
  · exact plannedAt_congr (there n e) p

end Speaking

/-! ## Taking, queueing, leaving and giving back -/

section Moves

variable {t : Nat} {p : Place} {κ : TaskKind}

/-- Who comes first in a queue is the only one that may have been woken. -/
theorem LockSound.ungranted {k : Nat} (h : LockSound γ s p) (first : k ∈ (p.lock s).waiters) {v : Json}
    (woken : s.loop.outcome? k = some (.ok v)) :
    ∀ j ∈ (p.lock s).waiters.erase k, ∀ w, s.loop.outcome? j ≠ some (.ok w) := by
  intro j hj w hw
  have head := (h.granted k first v woken).2
  have other := (h.granted j (List.mem_of_mem_erase hj) w hw).2
  obtain rfl : k = j := Option.some.inj (head.symm.trans other)
  exact (List.Nodup.not_mem_erase h.nodup) hj

theorem holders_take (h : Holders γ s) (kind : s.loop.kind? t = some κ) (suits : p.Suits κ) :
    Holders (γ.handOver p (some t)) s where
  known q u hu := by
    by_cases e : q = p
    · subst e
      rw [Ghost.handOver_self] at hu
      cases hu; exact ⟨κ, kind⟩
    · rw [Ghost.handOver_ne γ _ e] at hu; exact h.known q u hu
  lifecycle u hu := by
    by_cases e : Place.lifecycle = p
    · subst e
      rw [Ghost.handOver_self] at hu
      cases hu
      obtain ⟨o, rfl⟩ := suits
      exact ⟨o, kind⟩
    · rw [Ghost.handOver_ne γ _ e] at hu; exact h.lifecycle u hu
  documents u hu := by
    by_cases e : Place.documents = p
    · subst e
      rw [Ghost.handOver_self] at hu
      cases hu
      obtain ⟨c, rfl, tells⟩ := suits
      exact ⟨c, kind, tells⟩
    · rw [Ghost.handOver_ne γ _ e] at hu; exact h.documents u hu

theorem holders_release (h : Holders γ s) : Holders (γ.handOver p none) s where
  known q u hu := by
    by_cases e : q = p
    · subst e; rw [Ghost.handOver_self] at hu; cases hu
    · rw [Ghost.handOver_ne γ _ e] at hu; exact h.known q u hu
  lifecycle u hu := by
    by_cases e : Place.lifecycle = p
    · subst e; rw [Ghost.handOver_self] at hu; cases hu
    · rw [Ghost.handOver_ne γ _ e] at hu; exact h.lifecycle u hu
  documents u hu := by
    by_cases e : Place.documents = p
    · subst e; rw [Ghost.handOver_self] at hu; cases hu
    · rw [Ghost.handOver_ne γ _ e] at hu; exact h.documents u hu

/-- The life of sessions does not depend on who holds the other locks. -/
theorem Life.handOver {v : Overview} (h : Life σ γ v) {u : Option Nat}
    (rest : p = .lifecycle → u = none → v.AtRest σ) : Life σ (γ.handOver p u) v :=
  { h with
    atRest := fun free => by
      by_cases e : Place.lifecycle = p
      · subst e
        rw [Ghost.handOver_self] at free
        exact rest rfl free
      · rw [Ghost.handOver_ne γ u e] at free; exact h.atRest free }

/-- A change of a lock leaves the voices alone if those who wait do. -/
theorem voice_put {L : Lock} (h : Relock p L γ γ' s) (tongue : γ'.tongue = γ.tongue)
    (waiters : L.waiters = (p.lock s).waiters) : (p.put L s).voice γ' = s.voice γ := by
  funext i
  simp only [World.voice, tongue]
  by_cases e : p = .writing i
  · subst e
    simp only [World.queued, Place.lock_put L h.there, waiters, h.role]
  · rw [h.queued_ne e]

theorem relock_take (there : p.Exists s) : Relock p { p.lock s with held := true } γ (γ.handOver p (some t)) s :=
  ⟨there, rfl, rfl, rfl, fun _ e => Ghost.handOver_ne γ _ e⟩

theorem spares_release (there : p.Exists s) (mine : γ.holder p = some t) (role : γ'.role = γ.role)
    (doomed : γ'.doomed = γ.doomed) (phase : γ'.phase = γ.phase)
    (holder : γ'.holder = (γ.handOver p none).holder)
    (planned : ∀ (i j : Nat) (q : Process), s.overview.serverOf? i = some j →
      s.overview.processes[j]? = some q → q.listening = true →
      plannedAt ((p.put { p.lock s with held := false } s).voice γ') s.overview i q =
        plannedAt (s.voice γ) s.overview i q)
    (unheard : ∀ i, s.voice γ i = [] → (p.put { p.lock s with held := false } s).voice γ' i = [])
    (untold : p = .documents ∨ γ'.untold = γ.untold) :
    (discipline σ).Spares t (γ, s) (γ', p.put { p.lock s with held := false } s) := by
  intro u hu
  have relock : Relock p { p.lock s with held := false } γ γ' s :=
    ⟨there, role, doomed, phase, fun q e => by rw [holder, Ghost.handOver_ne γ _ e]⟩
  refine relock.rely ?_ (fun _ _ _ => .rfl) (fun _ => planned) (fun i _ => unheard i) fun e => ?_
  · rw [mine, holder, Ghost.handOver_self]
    exact ⟨fun e => absurd (Option.some.inj e).symm hu, fun e => (by cases e)⟩
  · rcases untold with rfl | same
    · rw [mine] at e; exact absurd (Option.some.inj e).symm hu
    · exact same

variable (inv : Inv σ (some t) γ s) (there : p.Exists s)
include inv there

/-- A free lock is taken. -/
theorem inv_take (free : (p.lock s).held = false)
    (ungranted : ∀ k ∈ (p.lock s).waiters, ∀ v, s.loop.outcome? k ≠ some (.ok v))
    (kind : s.loop.kind? t = some κ) (suits : p.Suits κ) :
    Inv σ (some t) (γ.handOver p (some t)) (p.put { p.lock s with held := true } s) := by
  have relock : Relock p { p.lock s with held := true } γ (γ.handOver p (some t)) s := relock_take there
  refine relock.inv inv ?_ (holders_take inv.holders kind suits) (inv.life.handOver fun _ e => by cases e)
    ?_ ?_ ?_
  · have old := inv.locks p
    exact
      { nodup := by rw [Place.lock_put _ there]; exact old.nodup
        waiters := by rw [Place.lock_put _ there, Place.loop_put]; exact old.waiters
        held := by rw [Place.lock_put _ there, Ghost.handOver_self]; rfl
        granted := fun k hk v hv => by
          rw [Place.lock_put _ there] at hk
          rw [Place.loop_put] at hv
          exact absurd hv (ungranted k hk v) }
  · rw [voice_put relock rfl rfl]; exact inv.order
  · refine { inv.mirror with done := fun e => ?_ }
    by_cases same : Place.documents = p
    · subst same; rw [Ghost.handOver_self] at e; cases e
    · rw [Ghost.handOver_ne γ _ same] at e; exact inv.mirror.done e
  · intro i j q other hi hq listens ended
    obtain ⟨u, writes, operates⟩ := inv.closed i j q other hi hq listens ended
    have taken (place : Place) (h : γ.holder place = some u) : place ≠ p := by
      rintro rfl
      have := (inv.locks place).held
      rw [free, h] at this
      cases this
    exact ⟨u, by rw [Ghost.handOver_ne γ _ (taken _ writes)]; exact writes,
      by rw [Ghost.handOver_ne γ _ (taken _ operates)]; exact operates⟩

theorem spares_take (free : (p.lock s).held = false) :
    (discipline σ).Spares t (γ, s)
      (γ.handOver p (some t), p.put { p.lock s with held := true } s) := by
  intro u hu
  have nobody : γ.holder p = none := by
    have := (inv.locks p).held
    rw [free] at this
    exact Option.isNone_iff_eq_none.mp (by simpa using this.symm)
  have relock : Relock p { p.lock s with held := true } γ (γ.handOver p (some t)) s := relock_take there
  refine relock.rely ?_ (fun _ _ _ => .rfl) (fun _ i j q _ _ _ => ?_) (fun i _ silent => ?_) fun _ => rfl
  · rw [nobody, Ghost.handOver_self]
    exact ⟨fun e => (by cases e), fun e => absurd (Option.some.inj e).symm hu⟩
  · rw [voice_put relock rfl rfl]
  · rw [voice_put relock rfl rfl]; exact silent

/-- A task leaves the queue of a lock, first if it was woken. Its message is on its tongue then. -/
theorem inv_leave {k : Nat} {m : Members} (role : γ.role k = .lock p t m) {τ : Nat → List Said}
    (voice : (p.put { p.lock s with waiters := (p.lock s).waiters.erase k } s).voice
      { γ with tongue := τ } = s.voice γ) :
    Inv σ (some t) { γ with tongue := τ }
      (p.put { p.lock s with waiters := (p.lock s).waiters.erase k } s) ∧
    (discipline σ).Spares t (γ, s) ({ γ with tongue := τ },
      p.put { p.lock s with waiters := (p.lock s).waiters.erase k } s) := by
  have relock : Relock p { p.lock s with waiters := (p.lock s).waiters.erase k } γ
      { γ with tongue := τ } s := ⟨there, rfl, rfl, rfl, fun _ _ => rfl⟩
  have old := inv.locks p
  constructor
  · refine relock.inv inv ?_ ⟨inv.holders.known, inv.holders.lifecycle, inv.holders.documents⟩
      { inv.life with } ?_ { inv.mirror with } inv.closed
    · exact
        { nodup := by rw [Place.lock_put _ there]; exact old.nodup.erase k
          waiters := by
            rw [Place.lock_put _ there, Place.loop_put]
            exact fun j hj => old.waiters j (List.mem_of_mem_erase hj)
          held := by rw [Place.lock_put _ there]; exact old.held
          granted := fun j hj v hv => by
            rw [Place.lock_put _ there] at hj ⊢
            rw [Place.loop_put] at hv
            obtain ⟨free, head⟩ := old.granted j (List.mem_of_mem_erase hj) v hv
            refine ⟨free, ?_⟩
            have ne : j ≠ k := fun e => (List.Nodup.not_mem_erase old.nodup) (e ▸ hj)
            rcases e : (p.lock s).waiters with _ | ⟨first, rest⟩
            · rw [e] at head; cases head
            · rw [e] at head
              cases head
              show ((j :: rest).erase k).head? = some j
              rw [List.erase_cons_tail (by simpa using ne)]
              rfl }
    · rw [voice]; exact inv.order
  · intro u hu
    refine relock.rely .rfl (fun j m' hj => ?_) (fun _ i n q _ _ _ => by rw [voice])
      (fun i _ silent => by rw [voice]; exact silent) fun _ => rfl
    have ne : j ≠ k := by
      rintro rfl
      rw [role] at hj
      exact hu (Role.lock.inj hj).2.1.symm
    exact List.mem_erase_of_ne ne

/-- A lock is given back. -/
theorem inv_release (mine : γ.holder p = some t) (role : γ'.role = γ.role)
    (doomed : γ'.doomed = γ.doomed) (phase : γ'.phase = γ.phase)
    (holder : γ'.holder = (γ.handOver p none).holder)
    (life : Life σ γ' s.overview)
    (order : Order ((p.put { p.lock s with held := false } s).voice γ') s.overview)
    (mirror : Mirror γ'.toHands s.overview) (closed : Sealed γ'.toHands s.overview) :
    Inv σ (some t) γ' (p.put { p.lock s with held := false } s) := by
  have relock : Relock p { p.lock s with held := false } γ γ' s :=
    ⟨there, role, doomed, phase, fun q e => by rw [holder, Ghost.handOver_ne γ _ e]⟩
  have old := inv.locks p
  have taken : (p.lock s).held = true := by rw [old.held, mine]; rfl
  have freed := holders_release (p := p) inv.holders
  refine relock.inv inv ?_ ?_ life order mirror closed
  · exact
      { nodup := by rw [Place.lock_put _ there]; exact old.nodup
        waiters := by rw [Place.lock_put _ there, Place.loop_put, role]; exact old.waiters
        held := by rw [Place.lock_put _ there, holder, Ghost.handOver_self]; rfl
        granted := fun k hk v hv => by
          rw [Place.lock_put _ there] at hk
          rw [Place.loop_put] at hv
          have := (old.granted k hk v hv).1
          rw [taken] at this; cases this }
  · exact ⟨by rw [holder]; exact freed.known, by rw [holder]; exact freed.lifecycle,
      by rw [holder]; exact freed.documents⟩

omit inv in
/-- What a task says that takes its place at the end of the queue of a lock. -/
theorem voice_enqueue {k : Nat} {m : Members} (role : γ.role k = .lock p t m) (n : Nat) :
    (p.put { p.lock s with waiters := (p.lock s).waiters ++ [k] } s).voice γ n =
      s.voice γ n ++ (if p = .writing n then Said.ofMembers m else []) := by
  by_cases e : p = .writing n
  · subst e
    simp only [World.voice, World.queued, Place.lock_put _ there, List.filterMap_append,
      List.append_assoc]
    rcases said : Said.of? m with _ | x <;> simp [Said.ofMembers, said, role, Role.said?]
  · have relock : Relock p { p.lock s with waiters := (p.lock s).waiters ++ [k] } γ γ s :=
      ⟨there, rfl, rfl, rfl, fun _ _ => rfl⟩
    simp only [World.voice, relock.queued_ne e, if_neg e, List.append_nil]

/-- A task takes its place at the end of the queue of a lock. -/
theorem inv_enqueue {k : Nat} {m : Members} (role : γ.role k = .lock p t m)
    (fresh : k ∉ (p.lock s).waiters) (unsettled : ∀ v, s.loop.outcome? k ≠ some (.ok v))
    (kind : s.loop.kind? t = some κ) (suits : p.Suits κ) (speaks : ∀ i, p = .writing i → Speaks t γ s i m)
    (connected : ∀ i, p = .writing i → s.overview.serverOf? i ≠ none) :
    Inv σ (some t) γ (p.put { p.lock s with waiters := (p.lock s).waiters ++ [k] } s) ∧
    (discipline σ).Spares t (γ, s)
      (γ, p.put { p.lock s with waiters := (p.lock s).waiters ++ [k] } s) := by
  have relock : Relock p { p.lock s with waiters := (p.lock s).waiters ++ [k] } γ γ s :=
    ⟨there, rfl, rfl, rfl, fun _ _ => rfl⟩
  have old := inv.locks p
  have here (i : Nat) (e : p = .writing i) :
      (p.put { p.lock s with waiters := (p.lock s).waiters ++ [k] } s).voice γ i =
        s.voice γ i ++ Said.ofMembers m := by
    rw [voice_enqueue there role, if_pos e]
  have elsewhere (i : Nat) (e : p ≠ .writing i) :
      (p.put { p.lock s with waiters := (p.lock s).waiters ++ [k] } s).voice γ i = s.voice γ i := by
    rw [voice_enqueue there role, if_neg e, List.append_nil]
  constructor
  · refine relock.inv inv ?_ inv.holders inv.life ?_ inv.mirror inv.closed
    · exact
        { nodup := by
            rw [Place.lock_put _ there]
            refine List.nodup_append.mpr ⟨old.nodup, by simp, fun a ha b hb e => ?_⟩
            rw [List.mem_singleton.mp hb] at e
            exact fresh (e ▸ ha)
          waiters := by
            rw [Place.lock_put _ there, Place.loop_put]
            intro j hj
            rcases List.mem_append.mp hj with hj | hj
            · exact old.waiters j hj
            · rw [List.mem_singleton.mp hj]; exact ⟨t, m, κ, role, kind, suits⟩
          held := by rw [Place.lock_put _ there]; exact old.held
          granted := fun j hj v hv => by
            rw [Place.lock_put _ there] at hj ⊢
            rw [Place.loop_put] at hv
            rcases List.mem_append.mp hj with hj | hj
            · obtain ⟨free, head⟩ := old.granted j hj v hv
              refine ⟨free, ?_⟩
              show ((p.lock s).waiters ++ [k]).head? = some j
              rw [List.head?_append, head]; rfl
            · rw [List.mem_singleton.mp hj] at hv
              exact absurd hv (unsettled v) }
    · by_cases e : ∃ i, p = .writing i
      · obtain ⟨i, rfl⟩ := e
        exact order_speak (speaks i rfl) (here i rfl)
          (fun j ne => elsewhere j fun e => ne (Place.writing.inj e).symm) inv.order
      · have same : (p.put { p.lock s with waiters := (p.lock s).waiters ++ [k] } s).voice γ =
            s.voice γ := funext fun i => elsewhere i fun h => e ⟨i, h⟩
        rw [same]; exact inv.order
  · intro u hu
    refine relock.rely .rfl (fun j m' hj => ?_) (fun held i n q hi hq listens => ?_)
      (fun i none silent => ?_) fun _ => rfl
    · have ne : j ≠ k := by
        rintro rfl
        rw [role] at hj
        exact hu (Role.lock.inj hj).2.1.symm
      show j ∈ (p.lock s).waiters ++ [k] ↔ j ∈ (p.lock s).waiters
      simp [ne]
    · by_cases e : ∃ i, p = .writing i
      · obtain ⟨i', rfl⟩ := e
        exact planned_speak (speaks i' rfl) (here i' rfl)
          (fun j ne => elsewhere j fun e => ne (Place.writing.inj e).symm) inv.order hu held hi hq
          listens
      · exact plannedAt_congr (elsewhere i fun h => e ⟨i, h⟩) q
    · exact (elsewhere i fun e => connected i e none).trans silent

end Moves

/-- A task that finds a writing lock open is about to write. -/
theorem inv_utter {t i : Nat} {m : Members} (inv : Inv σ (some t) γ s) (silent : γ.tongue i = [])
    (empty : ((Place.writing i).lock s).waiters = []) (speaks : Speaks t γ s i m)
    (connected : s.overview.serverOf? i ≠ none) :
    Inv σ (some t) (γ.utter i (Said.ofMembers m)) s ∧
    (discipline σ).Spares t (γ, s) (γ.utter i (Said.ofMembers m), s) := by
  have aside : Aside (γ, s) (γ.utter i (Said.ofMembers m), s) :=
    ⟨rfl, rfl, rfl, fun _ => rfl, rfl, rfl, rfl, rfl⟩
  have here : s.voice (γ.utter i (Said.ofMembers m)) i = s.voice γ i ++ Said.ofMembers m := by
    simp only [World.voice, World.queued, empty, silent, Ghost.utter_self, List.filterMap_nil,
      List.append_nil, List.nil_append]
  have there (j : Nat) (e : j ≠ i) : s.voice (γ.utter i (Said.ofMembers m)) j = s.voice γ j := by
    simp only [World.voice, Ghost.utter_ne γ _ e]
    rfl
  refine ⟨aside.inv inv inv.tickets.pending { inv.life with } (order_speak speaks here there inv.order)
    { inv.mirror with } inv.closed, fun u hu => ?_⟩
  have keeps : Keeps (γ, s) (γ.utter i (Said.ofMembers m), s) :=
    aside.keeps (Nat.le_refl _) (Nat.le_refl _) (fun _ e => ⟨e, fun e => e, fun _ e => e⟩) fun _ e => e
  exact aside.rely keeps (fun _ => .refl _) (fun _ => .refl _)
    (fun held i j p hi hp listens =>
      planned_speak speaks here there inv.order hu held hi hp listens)
    (fun _ j none silent => (there j fun e => connected (e ▸ none)).trans silent) fun _ => rfl

/-- The first that waits for a free lock is woken. -/
theorem quiet_wake {t : Option Nat} {p : Place} {k : Nat} {rest : List Nat} (inv : Inv σ t γ s)
    (free : (p.lock s).held = false) (waits : (p.lock s).waiters = k :: rest) :
    Quiet σ t (γ, s) (γ, { s with loop := s.loop.settle k (.ok .null) }) := by
  have isWaiter : k ∈ (p.lock s).waiters := by rw [waits]; exact List.mem_cons_self
  obtain ⟨u, m, κ, role, -⟩ := (inv.locks p).waiters k isWaiter
  have calm : Calm (γ, s) (γ, { s with loop := s.loop.settle k (.ok .null) }) :=
    .withLoop (Loop.grows_settle ..) (fun _ _ => rfl) rfl (fun _ h => h) fun _ h => h
  refine quiet_settleWith inv ?_ (fun u' e => ?_) (fun q => ?_) fun j d hw => ?_
  · rw [role]; exact fun _ e => by cases e
  · rw [role] at e; cases e
  · have old := inv.locks q
    refine
      { nodup := by rw [lock_withLoop]; exact old.nodup
        waiters := by
          rw [lock_withLoop]
          intro j hj
          obtain ⟨v, m', κ', role', kind, suits⟩ := old.waiters j hj
          exact ⟨v, m', κ', role', calm.loop.kinds v κ' kind, suits⟩
        held := by rw [lock_withLoop]; exact old.held
        granted := fun j hj v hv => ?_ }
    rw [lock_withLoop] at hj ⊢
    rcases Loop.outcome?_settle_cases hv with before | ⟨rfl, -⟩
    · exact old.granted j hj v before
    · obtain ⟨v', m', κ', role', -⟩ := old.waiters j hj
      rw [role] at role'
      cases role'
      exact ⟨free, by rw [waits]; rfl⟩
  · obtain ⟨q, hq, hw'⟩ := Option.bind_eq_some_iff.mp hw
    obtain ⟨u', role'⟩ := inv.tickets.streams j q .errors k d hq hw'
    rw [role] at role'; cases role'

end LspHost
