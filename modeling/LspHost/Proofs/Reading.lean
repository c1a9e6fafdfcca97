import LspHost.Proofs.Waiting

/-!
# Reading from a process

One task empties the error output of a process, so nobody else ever waits for it: reading it fails only
when a line is too long or when the task is cancelled (`wp_read`). Of what the reader of the messages
finds nothing is asked but that it ends when it is cancelled.
-/

namespace LspHost

open Discipline

variable {σ : Setting} {t j : Nat} {c : Channel} {d : Demand} {γ γ' : Ghost} {s s' : World} {a : Ghost × World}

/-! ## A stream and its reader -/

theorem World.setServer_live {p : Server} (f : Server → Server) (found : s.servers[j]? = some p) :
    s.setServer j f = s.live j (s.loop, f p) := by
  have same : s.servers.modify j f = s.servers.set j (f p) := by
    rw [List.modify_eq_set_getElem?, found]; rfl
  simp only [World.setServer, World.live, same]

/-- What is taken from a stream with a line that is too long leaves it there. -/
theorem Stream.overlong_of_take? {x y : Stream} {found : Bool} {before : Nat}
    (h : x.take? (.until [10]) = some (.tooLong found before, y)) : y.Overlong := by
  obtain ⟨⟨taken, rest⟩, decided, e⟩ := Option.map_eq_some_iff.mp h
  obtain ⟨rfl, rfl⟩ := Prod.mk.inj e
  have same : rest = x.buffer := by
    simp only [decide?] at decided
    repeat' split at decided
    all_goals cases decided
    all_goals rfl
  exact ⟨found, before, rest, by subst same; exact decided⟩

/-- Taking does not bring or end a line that is too long. -/
theorem Stream.overlong_take? {x y : Stream} {taken : Taken}
    (h : x.take? (.until [10]) = some (taken, y)) (long : x.Overlong) : y.Overlong := by
  obtain ⟨found, before, rest, decided⟩ := long
  have h' : x.take? (.until [10]) = some (.tooLong found before, { x with buffer := rest }) := by
    simp [take?, decided]
  rw [h] at h'
  obtain ⟨rfl, rfl⟩ := Prod.mk.inj (Option.some.inj h')
  exact overlong_of_take? h

/-- What must be so for a task to read: it is the one that empties an error output, a line at a time,
and nobody waits for that. -/
def MayRead (t j : Nat) (c : Channel) (d : Demand) (s : World) : Prop :=
  c = .errors → s.loop.kind? t = some (.drain j) ∧ d = .until [10] ∧ s.errorWaiter? j = none

theorem Inv.sole {o : Option Nat} (inv : Inv σ o γ s) (drains : s.loop.kind? t = some (.drain j)) :
    Sole s t j := fun v hv => inv.tasks.drainers v t j hv drains

/-- A change of a stream by the one that reads it. -/
theorem spares_reader {p p' : Server} (step : ServerStep γ s j p p') (inv : Inv σ (some t) γ s)
    (mine : p'.errors = p.errors ∨ s.loop.kind? t = some (.drain j)) :
    (discipline σ).Spares t (γ, s) (γ, s.live j (s.loop, p')) := by
  intro u hu
  refine step.rely inv fun sole => ?_
  rcases mine with same | drains
  · rw [same]; exact ⟨fun e => e, fun _ _ e => .inl e, fun _ e => e⟩
  · exact absurd (sole t drains).symm hu

theorem Channel.errors_set_output (f : Stream → Stream) (p : Server) :
    (Channel.output.set f p).errors = p.errors := rfl

/-- The reader of a stream changes it. -/
theorem ServerStep.reader {p : Server} {f : Stream → Stream} (inv : Inv σ (some t) γ s)
    (found : s.servers[j]? = some p)
    (mine : c = .errors → s.loop.kind? t = some (.drain j))
    (overlong : c = .errors → p.errors.Overlong → (f p.errors).Overlong)
    (waiter : ∀ k d, (f (c.get p)).waiter = some (k, d) → (c.get p).waiter = some (k, d) ∨
      (γ.role k = .stream j c t ∧ s.loop.outcome? k = none)) :
    ServerStep γ s j p (c.set f p) := by
  have waits : s.errorWaiter? j = p.errors.waiter := by simp [World.errorWaiter?, found]
  refine
    { found, fades := by rw [c.shown_set]; exact .refl p
      overlong := fun long => ?_
      streams := fun c' k d' hw => ?_
      exits := fun k hk => inv.tickets.exits j p k found (by rwa [c.exitWaiters_set] at hk)
      undrained := fun none => ?_
      awaited := fun k d' hw => ?_ }
  · cases c with
    | output => exact long
    | errors => exact overlong rfl long
  · by_cases e : c' = c
    · subst e
      rw [c'.get_set_self] at hw
      rcases waiter k d' hw with old | ⟨role, -⟩
      · exact inv.tickets.streams j p c' k d' found old
      · exact ⟨t, role⟩
    · rw [Channel.get_set_ne f p e] at hw
      exact inv.tickets.streams j p c' k d' found hw
  · cases c with
    | output => rw [Channel.errors_set_output, ← waits]; exact inv.tasks.undrained j none
    | errors => exact absurd (mine rfl) (none t)
  · cases c with
    | output => exact inv.tasks.awaited j k d' (by rw [waits]; exact hw)
    | errors =>
      rcases waiter k d' hw with old | ⟨-, fresh⟩
      · exact inv.tasks.awaited j k d' (by rw [waits]; exact old)
      · rw [fresh]; exact fun v e => by cases e

/-- A task that holds no lock. -/
def Idle (t : Nat) (γ : Ghost) : Prop := ∀ p, γ.holder p ≠ some t

theorem Idle.minds {a b : Ghost × World} (h : Idle t a.1) (minds : Minds t a b) : Idle t b.1 :=
  fun p held => h p ((minds.holder p).mpr held)

/-- What a task spares stays as it is whatever anybody does. -/
theorem keeps_of_spares {b : Ghost × World} (spares : (discipline σ).Spares t a b) : Keeps a b :=
  (spares (t + 1) (Nat.succ_ne_self t)).toKeeps

/-- A task that began at some point and holds nothing ends, and as a cancelled one if it was
cancelled. -/
structure Acts {α : Type} (σ : Setting) (t : Nat) (a : Ghost × World) (r : Except Fault α) (γ : Ghost)
    (s : World) : Prop where
  poised : Poised σ t γ s
  idle : Idle t γ
  keeps : Keeps a (γ, s)
  cancelled : γ.doomed t = true → r = .error .cancelled

/-- A task that was not cancelled may end in any way. -/
theorem Acts.of_live {α : Type} {r : Except Fault α} (poised : Poised σ t γ s) (idle : Idle t γ)
    (keeps : Keeps a (γ, s)) (live : γ.doomed t = false) : Acts σ t a r γ s :=
  ⟨poised, idle, keeps, fun doomed => by rw [live] at doomed; cases doomed⟩

/-- A task that has got a value was not cancelled. -/
theorem Acts.live {α : Type} {v : α} (h : Acts σ t a (.ok v) γ s) : γ.doomed t = false := by
  by_contra doomed
  cases h.cancelled (by simpa using doomed)

/-- A task that has got a value may end in any way. -/
theorem Acts.done {α β : Type} {v : α} {r : Except Fault β} (h : Acts σ t a (.ok v) γ s) :
    Acts σ t a r γ s := .of_live h.poised h.idle h.keeps h.live

/-- A task may end with the fault that it met. -/
theorem Acts.failed {α β : Type} {f : Fault} (h : Acts σ t a (.error f : Except Fault α) γ s) :
    Acts σ t a (.error f : Except Fault β) γ s :=
  ⟨h.poised, h.idle, h.keeps, fun doomed => by cases h.cancelled doomed; rfl⟩

/-- What reading comes to. -/
structure Reads (σ : Setting) (t j : Nat) (a : Ghost × World) (c : Channel) (r : Except Fault Taken) (γ : Ghost)
    (s : World) : Prop extends Acts σ t a r γ s where
  free : c = .errors → s.errorWaiter? j = none
  ends : c = .errors → (r = .error .cancelled ∧ γ.doomed t = true) ∨
    ∃ taken, r = .ok taken ∧ ∀ found before, taken = .tooLong found before → s.Overlong j

/-- Taking what has arrived. -/
theorem wp_takeNow (poised : Poised σ t γ s) (may : MayRead t j c d s) :
    (discipline σ).wp t (Transport.takeNow j c d)
      (fun r γ' s' => γ' = γ ∧ Poised σ t γ s' ∧ Keeps (γ, s) (γ, s') ∧
        (c = .errors → s'.errorWaiter? j = none) ∧
        ((∃ taken, r = .ok (some taken) ∧
          (c = .errors → ∀ found before, taken = .tooLong found before → s'.Overlong j)) ∨
        (r = .ok none ∧ s' = s ∧ ∃ p, s.servers[j]? = some p ∧ (c.get p).take? d = none))) γ s := by
  rcases found : s.servers[j]? with _ | p
  · refine wp_yieldEnds γ ?_ ?_
    all_goals simp only [found, Option.map_none]
    · exact fun u _ => .refl u _
    · refine ⟨rfl, poised, .refl _, fun e => (may e).2.2, .inl ⟨_, rfl, fun _ _ _ e => by cases e⟩⟩
  · rcases took : (c.get p).take? d with _ | ⟨taken, rest⟩
    · refine wp_yieldEnds γ ?_ ?_
      all_goals simp only [found, Option.map_some, took]
      · exact fun u _ => .refl u _
      · exact ⟨rfl, poised, .refl _, fun e => (may e).2.2, .inr ⟨rfl, rfl, p, rfl, took⟩⟩
    · have same : rest.waiter = (c.get p).waiter := by
        obtain ⟨⟨_, _⟩, -, e⟩ := Option.map_eq_some_iff.mp took
        rw [← (Prod.mk.inj e).2]
      have step : ServerStep γ s j p (c.set (fun _ => rest) p) :=
        .reader poised.inv found (fun e => (may e).1) (fun e long => by
          subst e
          obtain ⟨-, rfl, -⟩ := may rfl
          exact Stream.overlong_take? took long) fun k d' hw => .inl (by rw [← same]; exact hw)
      have mine : (c.set (fun _ => rest) p).errors = p.errors ∨ s.loop.kind? t = some (.drain j) := by
        cases c with
        | output => exact .inl rfl
        | errors => exact .inr (may rfl).1
      have spares := spares_reader step poised.inv mine
      refine wp_yieldEnds γ ?_ ?_
      all_goals simp only [found, Option.map_some, took, World.setServer_live _ found]
      · exact spares
      · refine ⟨rfl, ⟨step.inv poised.inv, poised.ease⟩, keeps_of_spares spares, fun e => ?_,
          .inl ⟨taken, rfl, fun e found' before long => ?_⟩⟩
        · subst e
          rw [step.errorWaiter?, if_pos rfl]
          have waits : s.errorWaiter? j = p.errors.waiter := by simp [World.errorWaiter?, found]
          rw [← (may rfl).2.2, waits]
          exact same
        · subst e long
          obtain ⟨-, rfl, -⟩ := may rfl
          exact ⟨_, World.live_get _ found, Stream.overlong_of_take? took⟩

/-- Saying who waits for a stream, or that nobody does. -/
theorem wp_setWaiter {w : Option (Nat × Demand)} {Q : Except Fault Unit → Ghost → World → Prop}
    (poised : Poised σ t γ s)
    (mine : c = .errors → s.loop.kind? t = some (.drain j))
    (waiter : ∀ k d, w = some (k, d) → γ.role k = .stream j c t ∧ s.loop.outcome? k = none)
    (next : ∀ s', Poised σ t γ s' → Keeps (γ, s) (γ, s') →
      (∀ p, s.servers[j]? = some p → s'.servers[j]? = some (c.set (fun x => { x with waiter := w }) p)) →
      (s.servers[j]? = none → s' = s) → Q (.ok ()) γ s') :
    (discipline σ).wp t (Transport.setWaiter j c w) Q γ s := by
  rcases found : s.servers[j]? with _ | p
  · have same : s.setServer j (c.set fun x => { x with waiter := w }) = s := by
      simp only [World.setServer]
      rw [List.modify_eq_set_getElem?, found]; rfl
    refine wp_update γ ?_ ?_
    all_goals rw [same]
    · exact fun u _ => .refl u _
    · exact next s poised (.refl _) (fun p hp => by rw [found] at hp; cases hp) fun _ => rfl
  · have step : ServerStep γ s j p (c.set (fun x => { x with waiter := w }) p) :=
      .reader poised.inv found mine (fun _ long => (Stream.grows_of_eq rfl rfl).overlong long)
        fun k d hw => .inr (waiter k d hw)
    have spares := spares_reader step poised.inv (by
      cases c with
      | output => exact .inl rfl
      | errors => exact .inr (mine rfl))
    refine wp_update γ ?_ ?_
    all_goals rw [World.setServer_live _ found]
    · exact spares
    · refine next _ ⟨step.inv poised.inv, poised.ease⟩ (keeps_of_spares spares) (fun q hq => ?_) fun none => ?_
      · obtain rfl := Option.some.inj (found.symm.trans hq)
        exact World.live_get _ found
      · rw [found] at none; cases none

theorem errorWaiter?_set {p : Server} {w : Option (Nat × Demand)}
    (found : s.servers[j]? = some (Channel.errors.set (fun x => { x with waiter := w }) p)) :
    s.errorWaiter? j = w := by simp [World.errorWaiter?, found, Channel.set]

/-- A reader goes on: it was cancelled, or it finds what it asked for. -/
structure Woken (σ : Setting) (t j : Nat) (a : Ghost × World) (c : Channel) (d : Demand) (r : Except Fault Unit) (γ : Ghost)
    (s : World) : Prop where
  poised : Poised σ t γ s
  idle : Idle t γ
  keeps : Keeps a (γ, s)
  kind : c = .errors → s.loop.kind? t = some (.drain j)
  ends : (γ.doomed t = true ∧ r = .error .cancelled) ∨
    (γ.doomed t = false ∧ r = .ok () ∧ (c = .errors → s.errorsMeet j d))

/-- Waiting for a stream. Who empties an error output is the only one that waits for it, so it is woken
for nothing but what it asked for. -/
theorem wp_awaitStream {k : Nat} (poised : Poised σ t γ s) (idle : Idle t γ) (live : γ.doomed t = false)
    (keeps : Keeps a (γ, s)) (role : γ.role k = .stream j c t)
    (kind : c = .errors → s.loop.kind? t = some (.drain j)) (waits : c = .errors → s.errorWaiter? j = some (k, d)) :
    (discipline σ).wp t (do let _ ← Program.await k : Act Unit) (Woken σ t j a c d) γ s := by
  refine Wp.seq (wp_awaitAny poised live (fun _ _ _ => congrArg Role.owner? role)
    (Q := fun r => Woken σ t j a c d (r.map fun _ => ())) fun r γ' s' poised' rely end' => ?_)
    (fun _ _ _ woken => woken) fun _ _ _ woken => woken
  have kind' (e : c = .errors) := rely.loop.kinds t _ (kind e)
  refine ⟨poised', idle.minds rely.toMinds, keeps.trans rely.toKeeps, kind', ?_⟩
  rcases end' with ⟨doomed, rfl⟩ | ⟨live', outcome⟩
  · exact .inl ⟨doomed, rfl⟩
  · have fits := poised'.inv.tickets.fits k r outcome
    rw [rely.roles k (by rw [role]; exact fun e => by cases e), role] at fits
    cases r with
    | error f =>
      rw [(fits f rfl).2] at live'
      cases live'
    | ok v =>
      refine .inr ⟨live', rfl, fun e => ?_⟩
      rcases (rely.errors j (poised'.inv.sole (kind' e))).2.1 k d (waits e) with still | ⟨-, meets⟩
      · exact absurd outcome (poised'.inv.tasks.awaited j k d still v)
      · exact meets

/-- After waiting for a stream nobody waits for it. -/
theorem wp_awaitStreamOnce {k : Nat} (poised : Poised σ t γ s) (idle : Idle t γ)
    (live : γ.doomed t = false)
    (keeps : Keeps a (γ, s)) (role : γ.role k = .stream j c t)
    (kind : c = .errors → s.loop.kind? t = some (.drain j)) (waits : c = .errors → s.errorWaiter? j = some (k, d)) :
    (discipline σ).wp t
      (Program.ensure (do let _ ← Program.await k) (Transport.setWaiter j c none))
      (fun r γ' s' => Woken σ t j a c d r γ' s' ∧ (c = .errors → s'.errorWaiter? j = none)) γ s := by
  refine Wp.ensure (wp_awaitStream poised idle live keeps role kind waits) fun r γ₁ s₁ woken => ?_
  refine wp_setWaiter woken.poised woken.kind (fun _ _ e => by cases e) fun s₂ poised₂ keeps₂ place none => ?_
  refine ⟨⟨poised₂, woken.idle, woken.keeps.trans keeps₂,
    fun e => keeps₂.loop.kinds t _ (woken.kind e), ?_⟩, fun e => ?_⟩
  · refine woken.ends.imp_right fun ⟨live₁, rfl, meets⟩ => ⟨live₁, rfl, fun e => ?_⟩
    subst e
    obtain ⟨p, found, meets⟩ := meets rfl
    exact ⟨_, place p found, (Stream.grows_of_eq rfl rfl).meets d meets⟩
  · subst e
    rcases found : s₁.servers[j]? with _ | p
    · rw [none found]; simp [World.errorWaiter?, found]
    · exact errorWaiter?_set (place p found)

/-- Reading in at most so many turns. The one who empties the error output needs one turn if something
can be taken, and two if not. -/
theorem wp_readWithin (fuel : Nat) (poised : Poised σ t γ s) (idle : Idle t γ)
    (live : γ.doomed t = false) (keeps : Keeps a (γ, s)) (may : MayRead t j c d s)
    (enough : c = .errors → (1 ≤ fuel ∧ s.errorsMeet j d) ∨ 2 ≤ fuel) :
    (discipline σ).wp t (Transport.readWithin j c d fuel) (Reads σ t j a c) γ s := by
  induction fuel generalizing γ s with
  | zero =>
    refine ⟨.of_live poised idle keeps live, fun e => (may e).2.2, fun e => ?_⟩
    · rcases enough e with ⟨h, -⟩ | h <;> omega
  | succ fuel ih =>
    refine Wp.seq (wp_takeNow poised may) ?_ ?_
    · rintro _ γ₁ s₁ ⟨rfl, poised₁, keeps₁, free, ⟨taken, e, long⟩ | ⟨e, rfl, p, found, undecided⟩⟩
      · cases e
        exact ⟨.of_live poised₁ idle (keeps.trans keeps₁) live, free,
          fun e => .inr ⟨taken, rfl, long e⟩⟩
      · cases e
        refine Wp.look ?_
        simp only [found]
        split
        · next awaited =>
          -- Somebody else waits, so this is not the error output.
          have errors (e : c = .errors) : False := by
            subst e
            have waits := (may rfl).2.2
            simp only [World.errorWaiter?, found, Option.bind_some] at waits
            simp [Channel.get, waits] at awaited
          exact Wp.fail ⟨.of_live poised₁ idle keeps live, fun e => (errors e).elim,
            fun e => (errors e).elim⟩
        · have issued : Quiet σ (some t) (γ₁, s₁)
              (γ₁.assign s₁.loop.tickets.length (.stream j c t), { s₁ with loop := s₁.loop.issue.2 }) :=
            quiet_issue poised₁.inv (fun e => by cases e) fun _ _ _ e => by cases e
          refine wp_ask _ issued.spares ?_
          have kind (e : c = .errors) : s₁.loop.issue.2.kind? t = some (.drain j) :=
            (Loop.grows_issue _).kinds t _ (may e).1
          have fresh : s₁.loop.issue.2.outcome? s₁.loop.tickets.length = none := by
            rw [Loop.outcome?_issue]
            rcases settled : s₁.loop.outcome? s₁.loop.tickets.length with _ | r
            · rfl
            · exact absurd (Loop.outcome?_lt settled) (Nat.lt_irrefl _)
          refine Wp.bind (wp_setWaiter (issued.poised poised₁.ease) kind ?_
            fun s₂ poised₂ keeps₂ place₂ _ => ?_)
          · rintro k d' e
            cases e
            exact ⟨Ghost.assign_role_self .., fresh⟩
          have waits (e : c = .errors) :
              s₂.errorWaiter? j = some (s₁.loop.tickets.length, d) := by
            subst e
            exact errorWaiter?_set (place₂ p found)
          have kind₂ (e : c = .errors) := keeps₂.loop.kinds t _ (kind e)
          have before := keeps.trans ((issued.rely t).toKeeps.trans keeps₂)
          have role : (γ₁.assign s₁.loop.tickets.length (.stream j c t)).role s₁.loop.tickets.length =
              .stream j c t := Ghost.assign_role_self ..
          rw [Wp.after_ok]
          refine Wp.seq (wp_awaitStreamOnce poised₂ idle live before role kind₂ waits) ?_ ?_
          · rintro _ γ₃ s₃ ⟨⟨poised₃, idle₃, keeps₃, kind₃, ⟨-, e⟩ | ⟨live₃, -, meets⟩⟩, free₃⟩
            · cases e
            refine ih poised₃ idle₃ live₃ keeps₃ (fun e => ⟨kind₃ e, (may e).2.1, free₃ e⟩) fun e => ?_
            rcases enough e with ⟨-, q, found', meets'⟩ | two
            · -- What can be taken is not waited for.
              obtain rfl := Option.some.inj (found.symm.trans found')
              subst e
              simp only [Stream.meets, Stream.take?, Option.map_eq_none_iff] at meets' undecided
              rw [show p.errors.decide? d = none from undecided] at meets'
              cases meets'
            · exact .inl ⟨by omega, meets e⟩
          · rintro f γ₃ s₃ ⟨⟨poised₃, idle₃, keeps₃, kind₃, ⟨doomed, e⟩ | ⟨-, e, -⟩⟩, free₃⟩
            · obtain rfl := Except.error.inj e
              exact ⟨⟨poised₃, idle₃, keeps₃, fun _ => rfl⟩, free₃, fun _ => .inl ⟨rfl, doomed⟩⟩
            · cases e
    · rintro f _ s₁ ⟨-, -, -, -, ⟨_, e, -⟩ | ⟨e, -⟩⟩ <;> cases e

/-- Reading from a stream. -/
theorem wp_read {κ : TaskKind} (poised : Poised σ t γ s) (idle : Idle t γ) (live : γ.doomed t = false)
    (kind : s.loop.kind? t = some κ) (keeps : Keeps a (γ, s)) (may : MayRead t j c d s) :
    (discipline σ).wp t (Transport.read j c d) (Reads σ t j a c) γ s := by
  refine Wp.look (wp_readWithin _ poised idle live keeps may fun _ => .inr ?_)
  have : t < s.loop.tasks.length := by
    obtain ⟨T, found, -⟩ := Option.map_eq_some_iff.mp kind
    exact (List.getElem?_eq_some_iff.mp found).1
  omega

/-! ## Tasks that serve a process -/

/-- One turn of the task that empties an error output ends well, or with a line that is too long, or
because it was cancelled. -/
theorem wp_drainTurn (poised : Poised σ t γ s) (idle : Idle t γ) (live : γ.doomed t = false)
    (kind : s.loop.kind? t = some (.drain j)) (free : s.errorWaiter? j = none) :
    (discipline σ).wp t (Transport.drainTurn j)
      (fun r γ' s' => Acts σ t (γ, s) r γ' s' ∧ s'.errorWaiter? j = none ∧
        ((∃ f, r = .error f ∧ ((f = .cancelled ∧ γ'.doomed t = true) ∨
          ∃ found, f = overlongFault found ∧ s'.Overlong j)) ∨
        r = .ok (.onward (.drain j)) ∨ r = .ok (.finished .nothing))) γ s := by
  refine Wp.seq (wp_read poised idle live kind (.refl _) fun _ => ⟨kind, rfl, free⟩) ?_ ?_
  · rintro taken γ₁ s₁ reads
    obtain ⟨e, -⟩ | ⟨_, e, long⟩ := reads.ends rfl
    · cases e
    cases e
    have acts {r : Except Fault Turn} : Acts σ t (γ, s) r γ₁ s₁ := reads.done
    have rest := reads.free rfl
    split
    · exact ⟨acts, rest, .inr (.inl rfl)⟩
    · next left =>
      by_cases e : left.isEmpty
      · simp only [e, if_true]
        exact ⟨acts, rest, .inr (.inr rfl)⟩
      · simp only [e, Bool.false_eq_true, if_false]
        exact ⟨acts, rest, .inr (.inl rfl)⟩
    · next found before =>
      exact ⟨acts, rest,
        .inl ⟨_, rfl, .inr ⟨found, rfl, long found before rfl⟩⟩⟩
  · rintro f γ₁ s₁ reads
    obtain ⟨e, doomed⟩ | ⟨_, e, -⟩ := reads.ends rfl
    · obtain rfl := Except.error.inj e
      exact ⟨reads.failed, reads.free rfl, .inl ⟨_, rfl, .inl ⟨rfl, doomed⟩⟩⟩
    · cases e

/-- Waiting for a process to exit: it has exited then, unless the task was cancelled. -/
theorem wp_exitWatchTurn (poised : Poised σ t γ s) (idle : Idle t γ) (live : γ.doomed t = false)
    (kind : s.loop.kind? t = some (.exitWatch j)) :
    (discipline σ).wp t (Transport.exitWatchTurn j)
      (fun r γ' s' => Acts σ t (γ, s) r γ' s' ∧
        ((r = .error .cancelled ∧ γ'.doomed t = true) ∨
          (r = .ok (.finished .nothing) ∧ s'.overview.Dead j))) γ s := by
  have bound := poised.inv.tasks.served t j (.inr kind)
  refine Wp.look ?_
  split
  · have found : s.servers[j]? = some s.servers[j] := List.getElem?_eq_getElem bound
    generalize s.servers[j] = p at found
    have issued : Quiet σ (some t) (γ, s)
        (γ.assign s.loop.tickets.length (.exit j t), { s with loop := s.loop.issue.2 }) :=
      quiet_issue poised.inv (fun e => by cases e) fun _ _ _ e => by cases e
    have role : (γ.assign s.loop.tickets.length (.exit j t)).role s.loop.tickets.length = .exit j t :=
      Ghost.assign_role_self ..
    refine wp_ask _ issued.spares ?_
    have found₁ : ({ s with loop := s.loop.issue.2 } : World).servers[j]? = some p := found
    have waits : Quiet σ (some t) (γ.assign s.loop.tickets.length (.exit j t),
        { s with loop := s.loop.issue.2 }) (γ.assign s.loop.tickets.length (.exit j t),
        ({ s with loop := s.loop.issue.2 } : World).setServer j fun p =>
          { p with exitWaiters := p.exitWaiters ++ [s.loop.tickets.length] }) := by
      rw [World.setServer_live _ found₁]
      refine quiet_live issued.inv found₁ (.refl p) (.refl _) (fun c => by cases c <;> rfl)
        fun k hk => ?_
      rcases List.mem_append.mp hk with hk | hk
      · exact .inl hk
      · rw [List.mem_singleton.mp hk]; exact .inr ⟨t, role⟩
    refine wp_change _ waits.spares ?_
    refine Wp.seq (wp_awaitAny (waits.poised poised.ease) live
      (fun _ _ _ => congrArg Role.owner? role) (Q := fun r γ' s' => Acts σ t (γ, s) r γ' s' ∧
        ((r = .error .cancelled ∧ γ'.doomed t = true) ∨ ((∃ v, r = .ok v) ∧ s'.overview.Dead j)))
      fun r γ' s' poised' rely end' => ?_) ?_ ?_
    · have start := (issued.rely t).toMinds.trans (waits.rely t).toMinds
      have minds := start.trans rely.toMinds
      have idle' := idle.minds minds
      rcases end' with ⟨doomed, rfl⟩ | ⟨live', outcome⟩
      · exact ⟨⟨poised', idle', minds.toKeeps, fun _ => rfl⟩, .inl ⟨rfl, doomed⟩⟩
      · have same : γ'.role s.loop.tickets.length = .exit j t :=
          (rely.roles _ fun e => by cases role.symm.trans e).trans role
        have fits : Fits γ' s' (γ'.role s.loop.tickets.length) r :=
          poised'.inv.tickets.fits _ r outcome
        rw [same] at fits
        cases r with
        | error f =>
          rw [(fits.2 f rfl).2] at live'
          cases live'
        | ok v => exact ⟨.of_live poised' idle' minds.toKeeps live', .inr ⟨⟨v, rfl⟩, fits.1 v rfl⟩⟩
    · rintro v γ' s' ⟨acts, ⟨e, -⟩ | ⟨-, dead⟩⟩
      · cases e
      · exact ⟨acts.done, .inr ⟨rfl, dead⟩⟩
    · rintro f γ' s' ⟨acts, ⟨e, doomed⟩ | ⟨⟨_, e⟩, -⟩⟩
      · obtain rfl := Except.error.inj e
        exact ⟨acts.failed, .inl ⟨rfl, doomed⟩⟩
      · cases e
  · next dead =>
    exact ⟨.of_live poised idle (.refl _) live,
      .inr ⟨rfl, World.dead_of_isAlive bound (by simpa using dead)⟩⟩

end LspHost
