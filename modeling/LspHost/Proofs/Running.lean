import LspHost.Proofs.Standing
import LspHost.Proofs.Backstage
import LspHost.Proofs.Turning

/-!
# A supervised client runs

Between two jobs of the event loop the invariant holds, nobody is in the middle of a segment, and every
task stands somewhere (`Machine.Stands`): it waits and may go on (`Suspended.Rests`), it has ended and
was replied to, or it is between two turns. One job keeps all this (`Sound.step?`), and so does
whatever the host may ask (`Sound.happens`).
-/

namespace LspHost

open Discipline

variable {σ : Setting} {o : Option Nat} {t u : Nat} {κ : TaskKind} {γ γ' : Ghost} {m m' : Machine}
  {s : World}

/-- What a waiting task may count on was kept. -/
theorem Discipline.Ready.rely {D : Discipline Ghost} {on : Option Nat}
    {P : Except Fault Json → Ghost → World → Prop} {s' : World}
    (h : D.Ready t on P γ s) (rely : D.Rely t (γ, s) (γ', s'))
    (trans : ∀ a b c, D.Rely t a b → D.Rely t b c → D.Rely t a c) : D.Ready t on P γ' s' :=
  fun γ'' s'' r more resumes => h γ'' s'' r (trans _ _ _ rely more) resumes

theorem Operation.Answers.keeps {o : Operation} {r : Except Fault Reply} {a b : Ghost × World}
    (h : o.Answers σ r a.2) (keeps : Keeps a b) : o.Answers σ r b.2 := by
  obtain ⟨x, rfl, ends⟩ := h
  exact ⟨x, rfl, ends.keeps keeps⟩

theorem SupervisorCall.Ends.keeps {c : SupervisorCall} {r : Except Fault Reply} {a b : Ghost × World}
    (h : c.Ends σ r a.2) (keeps : Keeps a b) : c.Ends σ r b.2 :=
  ⟨fun o e => (h.answers o e).keeps keeps, h.fails⟩

/-! ## Where the tasks stand -/

namespace Machine

theorem isSuspended_eq_false : m.isSuspended u = false ↔ ∀ x ∈ m.suspended, x.task ≠ u := by
  simp [isSuspended]

theorem hasEnded_eq_false : m.hasEnded u = false ↔ m.reply? u = none := by
  simp [hasEnded]

/-- A task has failed, whatever else it could have been told. -/
theorem reply?_of_map {f : Fault} (h : (m.reply? u).map (Except.map fun _ => ()) = some (.error f)) :
    m.reply? u = some (.error f) := by
  rcases reply : m.reply? u with _ | _ | r
  · rw [reply] at h
    cases h
  · rw [reply] at h
    cases h
    rfl
  · rw [reply] at h
    cases h

theorem reply?_cons (m : Machine) (w : World) (t u : Nat) (r : Except Fault Reply) :
    Machine.reply? { m with world := w, replies := (t, r) :: m.replies } u =
      if u = t then some r else m.reply? u := by
  show List.lookup u ((t, r) :: m.replies) = _
  rw [List.lookup_cons]
  by_cases e : u = t
  · subst e; simp
  · have other : (u == t) = false := beq_false_of_ne e
    rw [other, if_neg e]; rfl

end Machine

/-- A task that waits may go on, and ends its turn as it should. -/
def Suspended.Rests (σ : Setting) (x : Suspended) (γ : Ghost) (s : World) : Prop :=
  ∃ κ, s.loop.kind? x.task = some κ ∧
    (discipline σ).Ready x.task x.on
      (fun r => (discipline σ).wp x.task (x.next r) (TurnEnds σ x.task κ)) (γ.enter x.task .ready) s

/-- A task has got its reply. -/
def Replied (σ : Setting) (u : Nat) (r : Except Fault Reply) (s : World) : Prop :=
  ∃ κ, s.loop.kind? u = some κ ∧ ∀ c, κ = .call (.supervisor c) → c.Ends σ r s

/-- A task stands where its machine says. -/
structure Machine.Stands (σ : Setting) (γ : Ghost) (m : Machine) (u : Nat) : Prop where
  stopped : ∀ x ∈ m.suspended, x.task = u → γ.phase u = .stopped x.on ∧ x.Rests σ γ m.world
  ended : ∀ r, m.reply? u = some r → γ.phase u = .ended ∧ Replied σ u r m.world
  ready : m.isSuspended u = false → m.hasEnded u = false → γ.phase u = .ready ∧
    ∀ j, m.world.loop.kind? u = some (.drain j) → m.world.errorWaiter? j = none
  idle : m.isSuspended u = false → Idle u γ

/-- Who empties the error output of a process and is about to take a turn finds nobody waiting. -/
theorem Rely.free {o' : Option Nat} {s' : World} {j : Nat} (rely : Rely u (γ, s) (γ', s'))
    (inv : Inv σ o γ s) (inv' : Inv σ o' γ' s') (kind' : s'.loop.kind? u = some (.drain j))
    (free : s.loop.kind? u = some (.drain j) → s.errorWaiter? j = none) :
    s'.errorWaiter? j = none := by
  refine (rely.errors j (inv'.sole kind')).1 ?_
  by_cases kind : s.loop.kind? u = some (.drain j)
  · exact free kind
  · refine inv.tasks.undrained j fun v hv => kind ?_
    obtain rfl := inv'.tasks.drainers u v j kind' (rely.loop.kinds v _ hv)
    exact hv

/-- Others may do what a task counts on. -/
theorem Machine.Stands.moved {o' : Option Nat} (h : m.Stands σ γ u)
    (rely : Rely u (γ, m.world) (γ', m'.world)) (inv : Inv σ o γ m.world) (inv' : Inv σ o' γ' m'.world)
    (waiting : ∀ x : Suspended, x.task = u → (x ∈ m'.suspended ↔ x ∈ m.suspended))
    (reply : m'.reply? u = m.reply? u) : m'.Stands σ γ' u := by
  have awake (e : m'.isSuspended u = false) : m.isSuspended u = false :=
    isSuspended_eq_false.mpr fun x hx mine =>
      isSuspended_eq_false.mp e x ((waiting x mine).mpr hx) mine
  refine ⟨fun x hx mine => ?_, fun r e => ?_, fun e going => ?_, fun e => ?_⟩
  · obtain ⟨phase, κ, kind, ready⟩ := h.stopped x ((waiting x mine).mp hx) mine
    subst mine
    exact ⟨rely.phase.trans phase, κ, rely.loop.kinds _ κ kind,
      ready.rely (rely.enter .ready) fun _ _ _ => .trans⟩
  · obtain ⟨phase, κ, kind, ends⟩ := h.ended r (reply.symm.trans e)
    exact ⟨rely.phase.trans phase, κ, rely.loop.kinds _ κ kind,
      fun c e => (ends c e).keeps rely.toKeeps⟩
  · have going : m.hasEnded u = false := by
      rw [hasEnded_eq_false] at going ⊢; exact reply.symm.trans going
    obtain ⟨phase, free⟩ := h.ready (awake e) going
    exact ⟨rely.phase.trans phase, fun j kind' => rely.free inv inv' kind' (free j)⟩
  · exact (h.idle (awake e)).minds rely.toMinds

/-- The invariant of a machine between two jobs. -/
structure Sound (σ : Setting) (γ : Ghost) (m : Machine) : Prop where
  inv : Inv σ none γ m.world
  ease : γ.AtEase
  stands : ∀ u, m.Stands σ γ u

/-- Nobody minds a quiet change. -/
theorem Sound.quiet (h : Sound σ γ m) (quiet : Quiet σ none (γ, m.world) (γ', s)) (ease : γ'.AtEase) :
    Sound σ γ' { m with world := s } where
  inv := quiet.inv
  ease := ease
  stands u := (h.stands u).moved (quiet.rely u) h.inv quiet.inv (fun _ _ => .rfl) rfl

/-! ## A turn -/

/-- A task is in the middle of a segment. -/
structure Midturn (σ : Setting) (t : Nat) (γ : Ghost) (m : Machine) : Prop where
  poised : Poised σ t γ m.world
  awake : m.isSuspended t = false
  going : m.hasEnded t = false
  others : ∀ u, u ≠ t → m.Stands σ γ u

namespace Midturn

/-- The others stay where they are. -/
theorem spared (h : Midturn σ t γ m) (spares : (discipline σ).Spares t (γ, m.world) (γ', s))
    (poised : Poised σ t γ' s) : Midturn σ t γ' { m with world := s } where
  poised := poised
  awake := h.awake
  going := h.going
  others u ne := (h.others u ne).moved (spares u ne) h.poised.inv poised.inv (fun _ _ => .rfl) rfl

theorem ready (h : Midturn σ t γ m) : γ.phase t = .ready := h.poised.inv.tasks.running t rfl

theorem going' (h : Midturn σ t γ m) : γ.phase t ≠ .ended := by
  rw [h.ready]; exact fun e => by cases e

/-- A task in the middle of a segment waits for nothing. -/
theorem waitingFor? (h : Midturn σ t γ m) {T : TaskState} (found : m.world.loop.tasks[t]? = some T) :
    T.waitingFor = none := by
  have stopped := h.poised.inv.tasks.stopped t
  rw [h.ready] at stopped
  simpa only [Loop.waitingFor?, found, Option.bind_some, Phase.on?] using stopped

/-- The task stops. -/
theorem stops {on : Option Nat} {next : Except Fault Json → Act Turn} {f : TaskState → TaskState}
    (h : Midturn σ t γ m) (kind : m.world.loop.kind? t = some κ)
    (stops : (discipline σ).Stops t on γ m.world)
    (ready : (discipline σ).Ready t on (fun r => (discipline σ).wp t (next r) (TurnEnds σ t κ)) γ m.world)
    (quiet : Quiet σ (some t) (γ, m.world) (γ, s)) (same : Loop.Restates f)
    (waits : ∀ T, s.loop.tasks[t]? = some T → (f T).waitingFor = on) :
    Sound σ (γ.enter t (.stopped on))
      { m with
        world := { s with loop := s.loop.restate t f }
        suspended := ⟨t, on, next⟩ :: m.suspended } := by
  have kind' := (quiet.rely t).loop.kinds t κ kind
  have shifts : Shifts t (some t) none (.stopped on) f γ s :=
    { mine := .inr rfl, going := h.going', turns := .inr ⟨rfl, .inr stops.2.1⟩, there := ⟨κ, kind'⟩
      waits := waits
      owns := fun κ' k hκ back e => by
        obtain rfl := Option.some.inj (hκ.symm.trans kind')
        exact stops.2.2 κ' k kind back e }
  have inv := shifts.inv same quiet.inv
  refine ⟨inv, h.poised.ease, fun u => ?_⟩
  by_cases e : u = t
  · subst e
    have here : Machine.isSuspended { m with
        world := { s with loop := s.loop.restate u f }
        suspended := ⟨u, on, next⟩ :: m.suspended } u = true := by simp [Machine.isSuspended]
    refine ⟨fun x hx mine => ?_, fun r reply => ?_, fun awake => ?_, fun awake => ?_⟩
    · rcases List.mem_cons.mp hx with rfl | hx
      · refine ⟨Ghost.enter_self .., κ, ?_, ?_⟩
        · rw [Loop.kind?_restate same]; exact kind'
        · show (discipline σ).Ready u on _ ((γ.enter u (.stopped on)).enter u .ready) _
          rw [Ghost.enter_enter, Ghost.enter_same h.ready]
          exact ready.rely ((quiet.rely u).trans (rely_restate same quiet.inv u)) fun _ _ _ => .trans
      · exact absurd mine (Machine.isSuspended_eq_false.mp h.awake x hx)
    · exact absurd (h.going ▸ (Option.isSome_iff_exists.mpr ⟨r, reply⟩ : m.hasEnded u = true))
        Bool.false_ne_true
    · cases here.symm.trans awake
    · cases here.symm.trans awake
  · refine (h.others u e).moved ?_ h.poised.inv inv (fun x mine => ?_) rfl
    · exact ((quiet.rely u).trans (rely_restate same quiet.inv t)).trans (rely_enter e h.going')
    · refine ⟨fun hx => ?_, List.mem_cons_of_mem _⟩
      rcases List.mem_cons.mp hx with rfl | hx
      · exact absurd mine.symm e
      · exact hx

/-- The task ends, and the ticket is settled that it ends in. -/
theorem ends (h : Midturn σ t γ m) (kind : m.world.loop.kind? t = some κ) (idle : Idle t γ)
    (r : Except Fault Reply) (cancelled : γ.doomed t = true → r = .error .cancelled)
    (fits : EndFits γ m.world t κ (r.map fun _ => .null))
    (told : ∀ c, κ = .call (.supervisor c) → c.Ends σ r m.world) :
    Sound σ (γ.enter t .ended) (m.endTask t r) := by
  obtain ⟨T, found, rfl⟩ := Option.map_eq_some_iff.mp kind
  obtain ⟨keeper, role⟩ := h.poised.inv.tickets.endings t T found
  have shifts : Shifts t (some t) none .ended id γ m.world :=
    { mine := .inr rfl, going := h.going', turns := .inr ⟨rfl, .inl rfl⟩, there := ⟨_, kind⟩
      waits := fun T' found' => h.waitingFor? found'
      owns := fun _ _ _ _ e => by cases e }
  have shifted := shifts.inv .id h.poised.inv
  rw [Loop.restate_id] at shifted
  have settles : Fits (γ.enter t .ended) m.world ((γ.enter t .ended).role T.ending)
      (r.map fun _ => .null) := by
    show Fits (γ.enter t .ended) m.world (γ.role T.ending) _
    rw [role]
    refine ⟨Ghost.enter_self .., fun doomed => ?_, ?_⟩
    · rw [cancelled doomed]; rfl
    · cases kind : T.kind <;> rw [kind] at fits <;> exact fits
  have quiet : Quiet σ none (γ.enter t .ended, m.world) (γ.enter t .ended,
      { m.world with loop := m.world.loop.settle T.ending (r.map fun _ => .null) }) := by
    refine quiet_settle shifted settles (fun u e => ?_) (fun p u x e => ?_) fun j d e => ?_
    · cases role.symm.trans e
    · cases role.symm.trans e
    · obtain ⟨p, server, waiter⟩ := Option.bind_eq_some_iff.mp e
      obtain ⟨u, stream⟩ := h.poised.inv.tickets.streams j p .errors _ d server waiter
      cases role.symm.trans stream
  have step : m.endTask t r =
      { m with
        world := { m.world with loop := m.world.loop.settle T.ending (r.map fun _ => .null) }
        replies := (t, r) :: m.replies } := by
    simp only [Machine.endTask, Machine.onLoop, Loop.ending?, found, Option.map_some, Option.getD_some]
  rw [step]
  refine ⟨quiet.inv, h.poised.ease, fun u => ?_⟩
  by_cases e : u = t
  · subst e
    have reply := m.reply?_cons
      { m.world with loop := m.world.loop.settle T.ending (r.map fun _ => .null) } u u r
    rw [if_pos rfl] at reply
    refine ⟨fun x hx mine => ?_, fun r' e => ?_, fun _ going => ?_, fun _ => idle⟩
    · exact absurd mine (Machine.isSuspended_eq_false.mp h.awake x hx)
    · obtain rfl : r = r' := Option.some.inj (reply.symm.trans e)
      have grown := (quiet.rely u).toKeeps
      exact ⟨Ghost.enter_self .., _, grown.loop.kinds u _ kind, fun c e => (told c e).keeps grown⟩
    · rw [Machine.hasEnded_eq_false] at going
      cases reply.symm.trans going
  · refine (h.others u e).moved ((rely_enter e h.going').trans (quiet.rely u)) h.poised.inv quiet.inv
      (fun _ _ => .rfl) ?_
    rw [m.reply?_cons, if_neg e]

/-- Another turn follows at once. -/
theorem goesOn (h : Midturn σ t γ m) (kind : m.world.loop.kind? t = some κ) (idle : Idle t γ)
    (live : γ.doomed t = false) (free : ∀ j, κ = .drain j → m.world.errorWaiter? j = none) :
    Sound σ γ (m.onLoop fun l => (l.setKind t κ).sooner (.begin t)) := by
  have shifts : Shifts t (some t) none .ready id γ m.world :=
    { mine := .inr rfl, going := h.going', turns := .inr ⟨rfl, .inr live⟩, there := ⟨_, kind⟩
      waits := fun T' found' => h.waitingFor? found'
      owns := fun _ _ _ _ e => by cases e }
  have inv := shifts.inv .id h.poised.inv
  rw [Loop.restate_id, Ghost.enter_same h.ready] at inv
  have sound : Sound σ γ m := by
    refine ⟨inv, h.poised.ease, fun u => ?_⟩
    by_cases e : u = t
    · subst e
      refine ⟨fun x hx mine => ?_, fun r reply => ?_, fun _ _ => ⟨h.ready, fun j drains => ?_⟩, fun _ => idle⟩
      · exact absurd mine (Machine.isSuspended_eq_false.mp h.awake x hx)
      · exact absurd (h.going ▸ (Option.isSome_iff_exists.mpr ⟨r, reply⟩ : m.hasEnded u = true))
          Bool.false_ne_true
      · exact free j (Option.some.inj (kind.symm.trans drains))
    · exact (h.others u e).moved (.refl u _) h.poised.inv inv (fun _ _ => .rfl) rfl
  have fits : JobFits γ (.begin t) := trivial
  have quiet := quiet_sooner (σ := σ) sound.inv fits
  show Sound σ γ
    { m with world := { m.world with loop := (m.world.loop.setKind t κ).sooner (.begin t) } }
  rw [Loop.setKind_same kind]
  exact sound.quiet quiet h.poised.ease

/-- A turn runs until it stops or ends. -/
theorem advances {p : Act Turn} (h : Midturn σ t γ m) (kind : m.world.loop.kind? t = some κ)
    (run : (discipline σ).wp t p (TurnEnds σ t κ) γ m.world) : ∃ γ', Sound σ γ' (m.advance t p) := by
  obtain ⟨γ₁, spares, stop⟩ := Wp.advance (K := fun _ a b => (discipline σ).Spares t a b)
    (fun a u _ => .refl u a) (fun _ _ _ _ _ acts kept u ne => (acts u ne).trans (kept u ne)) run
  simp only [Machine.advance]
  generalize p.advance (fun s t => s.loop.outcome? t) m.world = reached at spares stop
  obtain ⟨s, stop'⟩ := reached
  have kind' : s.loop.kind? t = some κ := (keeps_of_spares spares).loop.kinds t κ kind
  cases stop' with
  | done turn =>
    have ends : TurnEnds σ t κ (.ok turn) γ₁ s := stop
    have mid := h.spared spares ends.poised
    have live : γ₁.doomed t = false := by
      rcases e : γ₁.doomed t with _ | _
      · rfl
      · cases ends.cancelled e
    cases turn with
    | onward κ' =>
      obtain ⟨rfl, free⟩ := ends.onward κ' rfl
      exact ⟨_, mid.goesOn kind' ends.idle live free⟩
    | finished r =>
      refine ⟨_, mid.ends kind' ends.idle (.ok r) (fun doomed => ?_) ends.fits fun o e =>
        ends.finished o r e rfl⟩
      cases live.symm.trans doomed
  | failed f =>
    have ends : TurnEnds σ t κ (.error f) γ₁ s := stop
    have mid := h.spared spares ends.poised
    exact ⟨_, mid.ends kind' ends.idle (.error f)
      (fun doomed => congrArg _ (Except.error.inj (ends.cancelled doomed))) ends.fits fun o e =>
        ends.failed o f e rfl⟩
  | waiting k next =>
    obtain ⟨stops, ready⟩ := stop
    exact ⟨_, (h.spared spares stops.1).stops kind' stops ready
      (quiet_watch stops.1.inv k (.task t) fun _ e => by cases e) (.waiting (some k)) fun _ _ => rfl⟩
  | pausing next =>
    obtain ⟨stops, ready⟩ := stop
    have mid := h.spared spares stops.1
    have fits : JobFits γ₁ (.resume t) := trivial
    have sound := mid.stops kind' stops ready (quiet_soon stops.1.inv fits) .id
      fun T found => mid.waitingFor? found
    rw [Loop.restate_id] at sound
    exact ⟨_, sound⟩

end Midturn

/-! ## Jobs -/

/-- A cancelled task ends as it should. -/
theorem endFits_cancelled (doomed : γ.doomed t = true) :
    EndFits γ s t κ (.error .cancelled) := by
  have told : ∀ f, (.error .cancelled : Except Fault Json) = .error f →
      f = .cancelled ∧ γ.doomed t = true := fun f e => ⟨(Except.error.inj e).symm, doomed⟩
  cases κ with
  | exitWatch j => exact ⟨fun _ e => (by cases e), told⟩
  | drain j => exact fun f e => .inl (told f e)
  | _ => trivial

namespace Sound

/-- A task that was stopped goes on. -/
theorem resumes {x : Suspended} (h : Sound σ γ m) (waits : x ∈ m.suspended) :
    Midturn σ x.task (γ.enter x.task .ready)
      ({ m with suspended := m.suspended.filter fun y => y.task ≠ x.task }.onLoop
        (Loop.setRunning · x.task)) := by
  obtain ⟨stopped, κ, kind, -⟩ := (h.stands x.task).stopped x waits rfl
  have going : γ.phase x.task ≠ .ended := by rw [stopped]; exact fun e => by cases e
  have shifts : Shifts x.task none (some x.task) .ready
      (fun T => { T with waitingFor := none, interrupted := false }) γ m.world :=
    { mine := .inl rfl, going := going, turns := .inl ⟨rfl, rfl⟩, there := ⟨κ, kind⟩
      waits := fun _ _ => rfl
      owns := fun _ _ _ _ e => by cases e }
  have inv := shifts.inv .running h.inv
  refine ⟨⟨inv, h.ease⟩, ?_, ?_, fun u ne => ?_⟩
  · exact Machine.isSuspended_eq_false.mpr fun y hy => by
      simpa using (List.mem_filter.mp hy).2
  · rw [Machine.hasEnded_eq_false]
    rcases e : m.reply? x.task with _ | r
    · exact e
    · exact absurd ((h.stands x.task).ended r e).1 going
  · refine (h.stands u).moved ((rely_restate .running h.inv x.task).trans (rely_enter ne going)) h.inv inv
      (fun y mine => ?_) rfl
    refine ⟨fun hy => (List.mem_filter.mp hy).1, fun hy => List.mem_filter.mpr ⟨hy, ?_⟩⟩
    simpa using fun e => ne (mine.symm.trans e)

/-- What a task finds that was stopped: it was cancelled, or its ticket was settled. -/
theorem outcome {x : Suspended} {r : Except Fault Json} (h : Sound σ γ m) (waits : x ∈ m.suspended)
    (settled : ∀ k, x.on = some k → m.world.loop.outcome? k = some r) (rested : x.on = none → r = .ok .null) :
    (γ.doomed x.task = true ∧ (if m.isInterrupted x.task then .error .cancelled else r) = .error .cancelled) ∨
    (γ.doomed x.task = false ∧
      (∀ k, x.on = some k → m.world.loop.outcome? k =
        some (if m.isInterrupted x.task then .error .cancelled else r)) ∧
      (x.on = none → (if m.isInterrupted x.task then .error .cancelled else r) = .ok .null)) := by
  obtain ⟨stopped, -⟩ := (h.stands x.task).stopped x waits rfl
  rw [m.isInterrupted_eq]
  split
  · next interrupted => exact .inl ⟨h.inv.tasks.interrupted _ interrupted, rfl⟩
  · next calm =>
    rcases doomed : γ.doomed x.task with _ | _
    · exact .inr ⟨rfl, settled, rested⟩
    · rcases h.inv.tasks.doomed x.task (fun e => by cases e) doomed with ended | interrupted | ⟨k, on, outcome⟩
      · cases stopped.symm.trans ended
      · exact absurd interrupted calm
      · rw [h.inv.tasks.stopped, stopped] at on
        exact .inl ⟨rfl, Option.some.inj ((settled k on).symm.trans outcome)⟩

/-- A task that was stopped goes on to its next stop or its end. -/
theorem goOn {on : Option Nat} {r : Except Fault Json} (h : Sound σ γ m)
    (settled : ∀ k, on = some k → m.world.loop.outcome? k = some r) (rested : on = none → r = .ok .null) :
    ∃ γ', Sound σ γ' (m.goOn t on r) := by
  simp only [Machine.goOn]
  split
  · exact ⟨γ, h⟩
  · next x found =>
    have waits := List.mem_of_find?_eq_some found
    obtain ⟨rfl, rfl⟩ : x.task = t ∧ x.on = on := by simpa using List.find?_some found
    obtain ⟨stopped, κ, kind, ready⟩ := (h.stands x.task).stopped x waits rfl
    have mid := h.resumes waits
    refine mid.advances ((Loop.grows_setRunning m.world.loop x.task).kinds _ κ kind) ?_
    exact ready _ _ _ ((rely_restate .running h.inv x.task).enter .ready)
      ⟨mid.poised, h.outcome waits settled rested⟩

/-- A task that is between two turns takes the next one. -/
theorem begins (h : Sound σ γ m) (kind : m.world.loop.kind? t = some κ) (awake : m.isSuspended t = false)
    (going : m.hasEnded t = false) : Midturn σ t γ m := by
  obtain ⟨ready, -⟩ := (h.stands t).ready awake going
  have shifts : Shifts t none (some t) .ready id γ m.world :=
    { mine := .inl rfl, going := by rw [ready]; exact fun e => by cases e
      turns := .inl ⟨rfl, rfl⟩, there := ⟨κ, kind⟩
      waits := fun T found => by
        have stopped := h.inv.tasks.stopped t
        rw [ready] at stopped
        show T.waitingFor = Phase.on? .ready
        simpa only [Loop.waitingFor?, found, Option.bind_some] using stopped
      owns := fun _ _ _ _ e => by cases e }
  have inv := shifts.inv .id h.inv
  rw [Loop.restate_id, Ghost.enter_same ready] at inv
  exact ⟨⟨inv, h.ease⟩, awake, going, fun u ne =>
    (h.stands u).moved (.refl u _) h.inv inv (fun _ _ => .rfl) rfl⟩

/-- A task that is between two turns was not cancelled unless it is to be interrupted. -/
theorem live (h : Sound σ γ m) (ready : γ.phase t = .ready)
    (calm : m.world.loop.isInterrupted t = false) : γ.doomed t = false := by
  rcases doomed : γ.doomed t with _ | _
  · rfl
  · rcases h.inv.tasks.doomed t (fun e => by cases e) doomed with ended | interrupted | ⟨k, on, -⟩
    · cases ready.symm.trans ended
    · cases calm.symm.trans interrupted
    · rw [h.inv.tasks.stopped, ready] at on
      cases on

/-- A task takes its turn, or ends if it is interrupted before. -/
theorem beginTask (h : Sound σ γ m) : ∃ γ', Sound σ γ' (m.beginTask Client.turn t) := by
  simp only [Machine.beginTask]
  split
  · exact ⟨γ, h⟩
  · next T found =>
    have kind : m.world.loop.kind? t = some T.kind := by simp only [Loop.kind?, found, Option.map_some]
    split
    · exact ⟨γ, h⟩
    · next free =>
      simp only [Bool.or_eq_true, not_or, Bool.not_eq_true] at free
      obtain ⟨awake, going⟩ := free
      have mid := h.begins kind awake going
      have idle := (h.stands t).idle awake
      obtain ⟨ready, drained⟩ := (h.stands t).ready awake going
      have marked : m.world.loop.isInterrupted t = T.interrupted := by
        simp only [Loop.isInterrupted, found, Option.map_some, Option.getD_some]
      split
      · next interrupted =>
        have doomed := h.inv.tasks.interrupted t (marked.trans interrupted)
        refine ⟨_, mid.ends kind idle (.error .cancelled) (fun _ => rfl) (endFits_cancelled doomed) fun o e => ?_⟩
        obtain ⟨κ, kind', back⟩ := h.inv.tasks.background t doomed
        obtain rfl := Option.some.inj (kind.symm.trans kind')
        rw [e] at back
        exact back.elim
      · next calm =>
        have calm : T.interrupted = false := by simpa using calm
        exact mid.advances kind (wp_turn
          { poised := mid.poised, idle := idle, live := h.live ready (marked.trans calm), kind := kind
            free := fun j e => drained j (kind.trans (congrArg some e)) })

/-- One job. -/
theorem perform {job : Job} (h : Sound σ γ m) (fits : JobFits γ job) :
    ∃ γ', Sound σ γ' (m.perform Client.turn job) := by
  cases job with
  | begin t => exact h.beginTask
  | resume t => exact h.goOn (fun _ e => by cases e) fun _ => rfl
  | wake t k =>
    simp only [Machine.perform]
    split
    · next r settled => exact h.goOn (fun _ e => Option.some.inj e ▸ settled) fun e => by cases e
    · exact ⟨γ, h⟩
  | settle k v =>
    have role : γ.role k = .relay := fits
    refine ⟨γ, h.quiet (quiet_settle h.inv ?_ (fun u e => ?_) (fun p u x e => ?_) fun j d e => ?_) h.ease⟩
    · rw [role]; exact ⟨v, rfl⟩
    · cases role.symm.trans e
    · cases role.symm.trans e
    · obtain ⟨p, server, waiter⟩ := Option.bind_eq_some_iff.mp e
      obtain ⟨u, stream⟩ := h.inv.tickets.streams j p .errors k d server waiter
      cases role.symm.trans stream
  | perform j trigger actions =>
    exact ⟨γ, h.quiet (quiet_withServer h.inv (quiet_perform j trigger actions)) h.ease⟩

/-- Nobody minds that the next job is taken. -/
theorem quiet_next? {l : Loop} {job : Option Job} (h : Sound σ γ m)
    (next : m.world.loop.next? = some (job, l)) :
    Quiet σ none (γ, m.world) (γ, { m.world with loop := l }) := by
  obtain ⟨tickets, tasks, timers, ready, -⟩ := Loop.next?_cases next
  refine quiet_withLoop h.inv tasks (congrArg List.length tickets) (fun k => ?_)
    (fun x hx => .inl (timers x hx)) (fun job hj => ?_) (fun k T hT r hr => .inr ⟨T, ?_, hr⟩)
  · simp only [Loop.outcome?, tickets]
  · exact (ready job hj).imp_right .inl
  · rw [← tickets]; exact hT

/-- One step keeps everything. -/
theorem step? (h : Sound σ γ m) (step : m.step? Client.turn = some m') : ∃ γ', Sound σ γ' m' := by
  simp only [Machine.step?] at step
  split at step
  · cases step
  · next l next =>
    cases step
    exact ⟨γ, h.quiet (h.quiet_next? next) h.ease⟩
  · next job l next =>
    cases step
    obtain ⟨-, -, -, -, taken⟩ := Loop.next?_cases next
    exact (h.quiet (h.quiet_next? next) h.ease).perform (h.inv.tickets.ready job (taken job rfl))

end Sound

/-! ## Whatever happens -/

/-- What may happen next to a client whose host asks nothing but its supervisor. -/
inductive Machine.Happens : Machine → Machine → Prop
  | step {m m' : Machine} (step : m.step? Client.turn = some m') : Happens m m'
  | host {m m' : Machine} (hosts : m.Hosts (fun c => (TaskKind.call c).Supervised) m') : Happens m m'

namespace Sound

/-- Something is asked for. -/
theorem call (h : Sound σ γ m) (c : Call) (proper : (TaskKind.call c).Supervised) :
    ∃ γ', Sound σ γ' (m.start (.call c)).2 :=
  ⟨_, h.quiet (quiet_start h.inv none proper (fun _ e => by cases e) fun _ e => by
    rcases e with e | e <;> cases e) h.ease⟩

/-- A new ticket that a timer or another ticket is to settle. -/
theorem relay (h : Sound σ γ m) :
    Sound σ (γ.assign m.world.loop.tickets.length .relay)
      { m with world := { m.world with loop := m.world.loop.issue.2 } } :=
  h.quiet (quiet_issue h.inv (fun e => by cases e) fun _ _ _ e => by cases e) h.ease

theorem after (h : Sound σ γ m) (ticket : Nat) : ∃ γ', Sound σ γ' (m.after ticket).2 := by
  refine ⟨_, h.relay.quiet (quiet_watch h.relay.inv ticket (.ticket _) fun r e => ?_) h.ease⟩
  cases e
  exact Ghost.assign_role_self ..

theorem timer (h : Sound σ γ m) (nanos : Nat) : ∃ γ', Sound σ γ' (m.timer nanos).2 :=
  ⟨_, h.relay.quiet (quiet_later h.relay.inv nanos (.settle _ .null) (Ghost.assign_role_self ..)) h.ease⟩

theorem idleUntil (h : Sound σ γ m) (time : Nat) : Sound σ γ (m.idleUntil time) :=
  h.quiet (quiet_withLoop h.inv rfl rfl (fun _ => rfl) (fun _ e => .inl e) (fun _ e => .inl e)
    fun _ T hT _ hr => .inr ⟨T, hT, hr⟩) h.ease

/-- Whatever happens next keeps everything. -/
theorem happens (h : Sound σ γ m) (next : m.Happens m') : ∃ γ', Sound σ γ' m' := by
  cases next with
  | step step => exact h.step? step
  | host hosts =>
    cases hosts with
    | call c proper => exact h.call c proper
    | after ticket => exact h.after ticket
    | timer nanos => exact h.timer nanos
    | idle time => exact ⟨γ, h.idleUntil time⟩

end Sound

end LspHost
