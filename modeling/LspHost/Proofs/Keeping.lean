import Mathlib.Data.List.Basic
import LspHost.Proofs.Invariant

/-!
# Changes that keep the invariant

`Keeps`, `Minds`, `Mute` and `Rely` compose. `Calm` changes touch nothing but the event loop; they keep the invariant
(`Calm.inv`) as soon as tickets and tasks are in order, and every task puts up with them (`Calm.rely`).
-/

namespace LspHost

variable {σ : Setting} {t : Option Nat} {γ γ' : Ghost} {s s' : World} {u : Nat}

/-! ## Composition -/

theorem LifeKept.refl (v : Overview) : LifeKept v v := ⟨rfl, rfl, rfl, rfl, rfl⟩

theorem LifeKept.trans {a b c : Overview} (h : LifeKept a b) (h' : LifeKept b c) : LifeKept a c :=
  ⟨h'.session.trans h.session, h'.seats.trans h.seats, h'.holds.trans h.holds,
    h'.processes.trans h.processes, h'.attempts.trans h.attempts⟩

theorem DocumentsKept.refl (v : Overview) : DocumentsKept v v :=
  ⟨fun _ h _ => .inl h, fun h => h, .inl rfl⟩

theorem Keeps.refl (a : Ghost × World) : Keeps a a where
  roles _ _ := rfl
  loop := .refl _
  doomed _ h := h
  ended _ e := e
  processes _ p h := ⟨p, h, rfl, rfl, fun h => h, fun h => h⟩
  transports := Nat.le_refl _
  sessions := Nat.le_refl _
  past _ h := ⟨h, fun h => h, fun _ h => h⟩
  overlong _ h := h
  mail _ h := h

theorem Minds.refl (t : Nat) (a : Ghost × World) : Minds t a a where
  toKeeps := .refl a
  holder _ := .rfl
  life _ := .refl _
  documents _ := .refl _

theorem Keeps.trans {a b c : Ghost × World} (h : Keeps a b) (h' : Keeps b c) : Keeps a c where
  roles k hk := by
    have same := h.roles k hk
    rw [h'.roles k (by rw [same]; exact hk), same]
  loop := h.loop.trans h'.loop
  doomed u hu := h'.doomed u (h.doomed u hu)
  ended u e := h'.ended u (h.ended u e)
  processes j p hp := by
    obtain ⟨p', hp', pid, script, alive, listening⟩ := h.processes j p hp
    obtain ⟨p'', hp'', pid', script', alive', listening'⟩ := h'.processes j p' hp'
    exact ⟨p'', hp'', pid'.trans pid, script'.trans script, fun e => alive (alive' e),
      fun e => listening (listening' e)⟩
  transports := Nat.le_trans h.transports h'.transports
  sessions := Nat.le_trans h.sessions h'.sessions
  past i hi := by
    obtain ⟨past, listens, holds⟩ := h.past i hi
    obtain ⟨past', listens', holds'⟩ := h'.past i past
    exact ⟨past', fun e => listens (listens' e), fun j e => holds j (holds' j e)⟩
  overlong j hj := h'.overlong j (h.overlong j hj)
  mail x hx := h'.mail x (h.mail x hx)

theorem DocumentsKept.trans {a b c : Ghost × World}
    (first : DocumentsKept a.2.overview b.2.overview) (h : Keeps a b)
    (second : DocumentsKept b.2.overview c.2.overview) (h' : Keeps b c) :
    DocumentsKept a.2.overview c.2.overview := by
  refine ⟨fun i hi past => ?_, fun e => second.gone (first.gone e), ?_⟩
  · have pastMid := h.past i past
    rcases first.session i hi past with e | ⟨e, deaf⟩
    · exact second.session i e pastMid.1
    · exact .inr ⟨second.gone e, fun listens => deaf ((h'.past i pastMid.1).2.1 listens)⟩
  · rcases first.documents with e | e
    · rcases second.documents with e' | e'
      · exact .inl (e'.trans e)
      · exact .inr e'
    · exact .inr (second.gone e)

theorem Minds.trans {t : Nat} {a b c : Ghost × World} (h : Minds t a b) (h' : Minds t b c) :
    Minds t a c where
  toKeeps := h.toKeeps.trans h'.toKeeps
  holder p := (h.holder p).trans (h'.holder p)
  life held := (h.life held).trans (h'.life ((h.holder _).mp held))
  documents held :=
    (h.documents held).trans h.toKeeps (h'.documents ((h.holder _).mp held)) h'.toKeeps

theorem Mute.refl (t : Nat) (a : Ghost × World) : Mute t a a where
  toMinds := .refl t a
  planned _ i j p p' _ hp hp' _ := by
    have : p = p' := Option.some.inj (hp.symm.trans hp')
    rw [this]
  unheard _ _ _ silent := silent
  untold _ := rfl

theorem Mute.trans {t : Nat} {a b c : Ghost × World} (h : Mute t a b) (h' : Mute t b c) :
    Mute t a c where
  toMinds := h.toMinds.trans h'.toMinds
  planned held i j p p'' hi hp hp'' listens := by
    have held' := (h.holder _).mp held
    obtain ⟨p', hp', -, -, -, listens'⟩ := h.processes j p hp
    have hi' : b.2.overview.serverOf? i = some j := by
      simpa only [Overview.serverOf?, (h.life held).holds] using hi
    obtain ⟨q, hq, -, -, -, ql⟩ := h'.processes j p' hp'
    obtain rfl : q = p'' := Option.some.inj (hq.symm.trans hp'')
    rw [h'.planned held' i j p' q hi' hp' hp'' listens,
      h.planned held i j p p' hi hp hp' (ql listens)]
  unheard held i none silent := by
    refine h'.unheard ((h.holder _).mp held) i ?_ (h.unheard held i none silent)
    simpa only [Overview.serverOf?, (h.life held).holds] using none
  untold held := by rw [h'.untold ((h.holder _).mp held), h.untold held]

theorem Rely.refl (t : Nat) (a : Ghost × World) : Rely t a a where
  toMute := .refl t a
  queue _ _ _ _ := .rfl
  requests _ _ h := h
  kept _ _ _ _ := rfl
  phase := rfl
  errors _ _ := ⟨fun h => h, fun _ _ h => .inl h, fun _ h => h⟩

theorem Sole.of_grows {a b : World} {j : Nat} (h : Sole b u j) (grows : a.loop.Grows b.loop) :
    Sole a u j := fun v hv => h v (grows.kinds v _ hv)

theorem Rely.trans {t : Nat} {a b c : Ghost × World} (h : Rely t a b) (h' : Rely t b c) :
    Rely t a c where
  toMute := h.toMute.trans h'.toMute
  queue p k m hk := by
    have same := h.roles k (by rw [hk]; exact fun e => by cases e)
    exact (h'.queue p k m (by rw [same]; exact hk)).trans (h.queue p k m hk)
  requests k hk hc := by
    have same := h.roles k (by rw [hk]; exact fun e => by cases e)
    exact h.requests k hk (h'.requests k (by rw [same]; exact hk) hc)
  kept k u κ hk := by
    have same := h.roles k (by rw [hk]; exact fun e => by cases e)
    rw [h'.kept k u κ (by rw [same]; exact hk), h.kept k u κ hk]
  phase := h'.phase.trans h.phase
  errors j sole := by
    obtain ⟨free, waits, meets⟩ := h.errors j (sole.of_grows h'.loop)
    obtain ⟨free', waits', meets'⟩ := h'.errors j sole
    refine ⟨fun e => free' (free e), fun k d e => ?_, fun d e => meets' d (meets d e)⟩
    rcases waits k d e with e' | ⟨e', m⟩
    · exact waits' k d e'
    · exact .inr ⟨free' e', meets' d m⟩

/-! ## What the parts of the invariant depend on -/

theorem Fits.mono {ρ : Role} {r : Except Fault Json} (h : Fits γ s ρ r)
    (doomed : ∀ u, γ.doomed u = true → γ'.doomed u = true)
    (ended : ∀ u, γ.phase u = .ended → γ'.phase u = .ended)
    (dead : ∀ j, s.overview.Dead j → s'.overview.Dead j) (long : ∀ j, s.Overlong j → s'.Overlong j)
    (ends : ∀ u κ keeper, ρ = .ending u κ keeper → γ'.doomed u = true → γ.doomed u = true) :
    Fits γ' s' ρ r := by
  have fault {u : Nat} (h : ∀ f, r = .error f → f = Fault.cancelled ∧ γ.doomed u = true) (f : Fault)
      (e : r = .error f) : f = .cancelled ∧ γ'.doomed u = true :=
    ⟨(h f e).1, doomed u (h f e).2⟩
  match ρ, h with
  | .relay, h => exact h
  | .request _, h => exact h
  | .stream _ _ _, h => exact fault h
  | .exit _ _, h => exact ⟨fun v e => dead _ (h.1 v e), fault h.2⟩
  | .lock _ _ _, h => exact fault h
  | .ending u κ keeper, ⟨gone, cancelled, fits⟩ =>
    refine ⟨ended u gone, fun e => cancelled (ends u κ keeper rfl e), ?_⟩
    match κ, fits with
    | .exitWatch _, fits => exact ⟨fun v e => dead _ (fits.1 v e), fault fits.2⟩
    | .drain _, fits =>
      exact fun f e => (fits f e).imp (fun h => ⟨h.1, doomed u h.2⟩)
        fun ⟨found, h⟩ => ⟨found, h.1, long _ h.2⟩
    | .reader _, _ => trivial
    | .trace, _ => trivial
    | .showEvents _, _ => trivial
    | .terminal _, _ => trivial
    | .call _, _ => trivial

theorem JobFits.mono {job : Job} (h : JobFits γ job)
    (roles : ∀ k, γ.role k ≠ .unissued → γ'.role k = γ.role k) : JobFits γ' job := by
  cases job with
  | settle k v =>
    have h : γ.role k = .relay := h
    show γ'.role k = .relay
    rw [roles k (by rw [h]; exact fun e => by cases e), h]
  | _ => trivial

theorem lock_withLoop (p : Place) (s : World) (l : Loop) :
    p.lock { s with loop := l } = p.lock s := by cases p <;> rfl

theorem mem_waiters_issued {p : Place} {k : Nat} (h : LockSound γ s p)
    (hk : k ∈ (p.lock s).waiters) : γ.role k ≠ .unissued := by
  obtain ⟨u, m, κ, role, -⟩ := h.waiters k hk
  rw [role]; exact fun e => by cases e

theorem queued_congr {i : Nat} (locks : ∀ p : Place, p.lock s' = p.lock s)
    (sound : ∀ p, LockSound γ s p)
    (roles : ∀ k, γ.role k ≠ .unissued → γ'.role k = γ.role k) :
    s'.queued γ'.role i = s.queued γ.role i := by
  simp only [World.queued, locks]
  apply List.filterMap_congr
  intro k hk
  rw [roles k (mem_waiters_issued (sound _) hk)]

/-! ## Calm changes -/

/-- A change of the event loop, and of what is kept about new tickets, and of nothing else. -/
structure Calm (a b : Ghost × World) : Prop where
  overview : b.2.overview = a.2.overview
  locks : ∀ p : Place, p.lock b.2 = p.lock a.2
  servers : b.2.servers = a.2.servers
  sessions : b.2.sessions.length = a.2.sessions.length
  transports : b.2.transports.length = a.2.transports.length
  roles : ∀ k, a.1.role k ≠ .unissued → b.1.role k = a.1.role k
  hands : b.1.toHands = a.1.toHands
  doomed : ∀ u, a.1.doomed u = true → b.1.doomed u = true
  ended : ∀ u, a.1.phase u = .ended → b.1.phase u = .ended
  loop : a.2.loop.Grows b.2.loop

theorem Calm.minds {a b : Ghost × World} (h : Calm a b) (t : Nat) : Minds t a b where
  roles := h.roles
  loop := h.loop
  doomed := h.doomed
  ended := h.ended
  holder p := by rw [h.hands]
  processes j p hp := ⟨p, by rw [h.overview]; exact hp, rfl, rfl, fun e => e, fun e => e⟩
  transports := Nat.le_of_eq h.transports.symm
  sessions := Nat.le_of_eq h.sessions.symm
  past i hi := by rw [h.overview]; exact ⟨hi, fun e => e, fun _ e => e⟩
  overlong j hj := by simpa only [World.Overlong, h.servers] using hj
  life _ := by rw [h.overview]; exact .refl _
  documents _ := by rw [h.overview]; exact .refl _
  mail x hx := by rw [h.overview]; exact hx

theorem Calm.mute {a b : Ghost × World} (h : Calm a b) (locks : ∀ p, LockSound a.1 a.2 p) (t : Nat) :
    Mute t a b where
  toMinds := h.minds t
  planned _ i j p p' _ hp hp' _ := by
    rw [h.overview] at hp'
    obtain rfl : p = p' := Option.some.inj (hp.symm.trans hp')
    simp only [plannedAt, h.overview, World.voice, h.hands, queued_congr h.locks locks h.roles]
  unheard _ i _ silent := by
    rw [← silent]
    simp only [World.voice, h.hands, queued_congr h.locks locks h.roles]
  untold _ := by rw [h.hands]

theorem Calm.rely {a b : Ghost × World} (h : Calm a b) (locks : ∀ p, LockSound a.1 a.2 p) {t : Nat}
    (requests : ∀ k, a.1.role k = .request t →
      b.2.loop.outcome? k = some (.error .cancelled) →
      a.2.loop.outcome? k = some (.error .cancelled))
    (kept : ∀ k u κ, a.1.role k = .ending u κ (some t) → b.1.doomed u = a.1.doomed u)
    (phase : b.1.phase t = a.1.phase t) : Rely t a b where
  toMute := h.mute locks t
  queue p k m _ := by rw [h.locks]
  requests := requests
  kept := kept
  phase := phase
  errors j _ := by
    simp only [World.errorWaiter?, World.errorsMeet, h.servers]
    exact ⟨fun e => e, fun _ _ e => .inl e, fun _ e => e⟩

theorem LockSound.calm {a b : Ghost × World} {p : Place} (h : LockSound a.1 a.2 p) (c : Calm a b)
    (granted : ∀ k ∈ (p.lock a.2).waiters, ∀ v, b.2.loop.outcome? k = some (.ok v) →
      a.2.loop.outcome? k = some (.ok v)) : LockSound b.1 b.2 p where
  nodup := by rw [c.locks]; exact h.nodup
  waiters k hk := by
    rw [c.locks] at hk
    obtain ⟨u, m, κ, role, kind, suits⟩ := h.waiters k hk
    exact ⟨u, m, κ, by rw [c.roles k (mem_waiters_issued h hk), role], c.loop.kinds u κ kind, suits⟩
  held := by rw [c.locks, c.hands]; exact h.held
  granted k hk v hv := by
    rw [c.locks] at hk ⊢
    exact h.granted k hk v (granted k hk v hv)

theorem Holders.grow {a b : Ghost × World} (h : Holders a.1 a.2) (holder : b.1.holder = a.1.holder)
    (loop : a.2.loop.Grows b.2.loop) : Holders b.1 b.2 where
  known p u hu := by
    obtain ⟨κ, kind⟩ := h.known p u (by rw [← holder]; exact hu)
    exact ⟨κ, loop.kinds u κ kind⟩
  lifecycle u hu := by
    obtain ⟨o, kind⟩ := h.lifecycle u (by rw [← holder]; exact hu)
    exact ⟨o, loop.kinds u _ kind⟩
  documents u hu := by
    obtain ⟨c, kind, tells⟩ := h.documents u (by rw [← holder]; exact hu)
    exact ⟨c, loop.kinds u _ kind, tells⟩

theorem Life.ghost {v : Overview} (h : Life σ γ v)
    (roles : ∀ k, γ.role k ≠ .unissued → γ'.role k = γ.role k)
    (hands : γ'.toHands = γ.toHands) : Life σ γ' v :=
  { h with
    drains := fun i x d hx hd => by
      obtain ⟨u, j, server, role⟩ := h.drains i x d hx hd
      exact ⟨u, j, server, by rw [roles d (by rw [role]; exact fun e => by cases e), role]⟩
    readers := fun i x r hx hr => by
      obtain ⟨u, role⟩ := h.readers i x r hx hr
      exact ⟨u, by rw [roles r (by rw [role]; exact fun e => by cases e), role]⟩
    newest := by rw [hands]; exact h.newest
    atRest := by rw [hands]; exact h.atRest }

/-- A calm change keeps the invariant if tickets, tasks and locks are in order. -/
theorem Calm.inv {a b : Ghost × World} {o : Option Nat} (c : Calm a b) (inv : Inv σ t a.1 a.2)
    (tickets : Tickets b.1 b.2) (tasks : Tasks o b.1 b.2) (locks : ∀ p, LockSound b.1 b.2 p) :
    Inv σ o b.1 b.2 where
  tickets := tickets
  tasks := tasks
  locks := locks
  holders := inv.holders.grow (by rw [c.hands]) c.loop
  life := by rw [c.overview]; exact inv.life.ghost c.roles c.hands
  order := by
    have voice : b.2.voice b.1 = a.2.voice a.1 := by
      funext i
      simp only [World.voice, c.hands, queued_congr c.locks inv.locks c.roles]
    rw [voice, c.overview]; exact inv.order
  mirror := by rw [c.overview, c.hands]; exact inv.mirror
  closed := by rw [c.overview, c.hands]; exact inv.closed

/-- The change of the event loop alone. -/
theorem Calm.withLoop {l : Loop} (grows : s.loop.Grows l)
    (roles : ∀ k, γ.role k ≠ .unissued → γ'.role k = γ.role k) (hands : γ'.toHands = γ.toHands)
    (doomed : ∀ u, γ.doomed u = true → γ'.doomed u = true)
    (ended : ∀ u, γ.phase u = .ended → γ'.phase u = .ended) :
    Calm (γ, s) (γ', { s with loop := l }) where
  overview := rfl
  locks p := lock_withLoop p s l
  servers := rfl
  sessions := rfl
  transports := rfl
  roles := roles
  hands := hands
  doomed := doomed
  ended := ended
  loop := grows

end LspHost
