import LspHost.Proofs.Aloof

/-!
# What does not depend on who waits

Only taking and giving back the lock of lifecycle operations has to do with that lock. A change is heedless
if it comes to the same whatever the lock is (`World.Heedless`), and so is a program if what it looks at and what it
changes are (`Program.Heedless`). Whatever a session, its transport or its process does is heedless
(`heedless`), and so are all turns but those of lifecycle operations (`Heedless.turn`), and what those do while
they hold the lock (`Heedless.lifecycle`).

A heedless program does the same in two worlds that differ in the lock, and stops in the same place
(`Program.Heedless.advance`).
-/

namespace LspHost

open Act

@[simp] theorem World.gate_withGate (s : World) (l : Lock) : (s.withGate l).gate = l := rfl

@[simp] theorem World.loop_withGate (s : World) (l : Lock) : (s.withGate l).loop = s.loop := rfl

@[simp] theorem World.withGate_withGate (s : World) (l l' : Lock) : (s.withGate l).withGate l' = s.withGate l' := rfl

@[simp] theorem World.withGate_gate (s : World) : s.withGate s.gate = s := rfl

/-- A change that comes to the same whatever the lock of lifecycle operations is. -/
structure World.Heedless (f : World → World) : Prop where
  gate : ∀ s l, f (s.withGate l) = (f s).withGate l
  grows : ∀ s : World, s.loop.Grows (f s).loop

namespace World.Heedless

variable {f g : World → World}

/-- Such a change leaves the lock alone. -/
theorem same (h : World.Heedless f) (s : World) : (f s).gate = s.gate := by
  have := h.gate s s.gate
  rw [World.withGate_gate] at this
  rw [this, World.gate_withGate]

theorem still : World.Heedless fun s => s := ⟨fun _ _ => rfl, fun _ => .refl _⟩

theorem after (h : World.Heedless f) (h' : World.Heedless g) : World.Heedless fun s => g (f s) :=
  ⟨fun s l => by rw [h.gate, h'.gate], fun s => (h.grows s).trans (h'.grows _)⟩

/-- A process acts. -/
theorem withServer (id : Nat) {f : Living → Living} (orderly : ∀ x, Living.Orderly x (f x)) :
    World.Heedless fun s => s.withServer id f where
  gate s l := by
    simp only [World.withServer, show (s.withGate l).servers = s.servers from rfl, World.loop_withGate]
    split <;> rfl
  grows s := by
    simp only [World.withServer]
    split
    · next p _ => exact (orderly (s.loop, p)).grows
    · exact .refl _

theorem publish (e : Event) : World.Heedless (World.publish e) where
  gate s l := by
    have waking (queues : List Nat) (s : World) :
        queues.foldl (fun s queue => s.wakeGetter queue) (s.withGate l) =
          (queues.foldl (fun s queue => s.wakeGetter queue) s).withGate l := by
      induction queues generalizing s with
      | nil => rfl
      | cons queue rest ih =>
        have first : (s.withGate l).wakeGetter queue = (s.wakeGetter queue).withGate l := by
          simp only [World.wakeGetter, show (s.withGate l).getters = s.getters from rfl]
          split <;> rfl
        rw [List.foldl_cons, List.foldl_cons, first, ih]
    exact waking (s.broker.receivers e.type) { s.record (.published e) with broker := s.broker.publish e }
  grows s := by
    obtain ⟨_, _, grows, step⟩ := World.publish_eq e s
    rw [step]
    exact grows

end World.Heedless

/-- A program that comes to the same whatever the lock of lifecycle operations is. -/
def Program.Heedless {α : Type} : Act α → Prop
  | .done _ => True
  | .fail _ => True
  | .look next => World.Gateless next ∧ ∀ s, Heedless (next s)
  | .change f next => World.Heedless f ∧ Heedless next
  | .wait _ next => ∀ r, Heedless (next r)
  | .pause next => ∀ r, Heedless (next r)

namespace Program.Heedless

variable {α β : Type} {p : Act α} {f : α → Act β} {s : World}

theorem bind (first : p.Heedless) (next : ∀ a, (f a).Heedless) : (p.bind f).Heedless := by
  induction p with
  | done a => exact next a
  | fail _ => trivial
  | look _ ih => exact ⟨fun s l => congrArg (Program.bind · f) (first.1 s l), fun s => ih s (first.2 s)⟩
  | change _ _ ih => exact ⟨first.1, ih first.2⟩
  | wait _ _ ih => exact fun r => ih r (first r)
  | pause _ ih => exact fun r => ih r (first r)

theorem attempt (h : p.Heedless) : (Program.attempt p).Heedless := by
  induction p with
  | done _ => trivial
  | fail _ => trivial
  | look _ ih => exact ⟨fun s l => congrArg Program.attempt (h.1 s l), fun s => ih s (h.2 s)⟩
  | change _ _ ih => exact ⟨h.1, ih h.2⟩
  | wait _ _ ih => exact fun r => ih r (h r)
  | pause _ ih => exact fun r => ih r (h r)

/-- A heedless program that stops is heedless when it goes on. -/
def Stops : Program.Stop World Fault α → Prop
  | .waiting _ next => ∀ r, (next r).Heedless
  | .pausing next => ∀ r, (next r).Heedless
  | _ => True

/-- What a heedless program does up to its next stop. -/
theorem advance (h : p.Heedless) (s : World) :
    (∀ l, p.advance (fun s t => s.loop.outcome? t) (s.withGate l) =
      ((p.advance (fun s t => s.loop.outcome? t) s).1.withGate l, (p.advance (fun s t => s.loop.outcome? t) s).2)) ∧
    (p.advance (fun s t => s.loop.outcome? t) s).1.gate = s.gate ∧
    s.loop.Grows (p.advance (fun s t => s.loop.outcome? t) s).1.loop ∧
    Stops (p.advance (fun s t => s.loop.outcome? t) s).2 := by
  induction p generalizing s with
  | done _ => exact ⟨fun _ => rfl, rfl, .refl _, trivial⟩
  | fail _ => exact ⟨fun _ => rfl, rfl, .refl _, trivial⟩
  | look next ih =>
    obtain ⟨same, rest⟩ := ih s (h.2 s) s
    exact ⟨fun l => by simp only [Program.advance, h.1 s l, same], rest⟩
  | change f next ih =>
    obtain ⟨same, gate, grows, stops⟩ := ih h.2 (f s)
    exact ⟨fun l => by simp only [Program.advance, h.1.gate s l, same], gate.trans (h.1.same s),
      (h.1.grows s).trans grows, stops⟩
  | wait k next ih =>
    simp only [Program.advance, World.loop_withGate]
    split
    · next r settled => exact ih r (h r) s
    · exact ⟨fun _ => rfl, rfl, .refl _, h⟩
  | pause next _ => exact ⟨fun _ => rfl, rfl, .refl _, h⟩

end Program.Heedless

/-- Nothing that goes on unrecorded depends on the lock of lifecycle operations. -/
theorem heedlessly : SilentRepertoire (fun a b => ∃ l, b = a.withGate l) (fun _ p => p.Heedless) World.Heedless where
  alike same := same
  done _ := trivial
  fail _ := trivial
  bind := .bind
  attempt := .attempt
  view _ _ same next := ⟨fun s l => same s _ ⟨l, rfl⟩, fun _ => next _⟩
  rest r := by cases r <;> trivial
  await _ r := by cases r <;> trivial
  update changes := ⟨changes, trivial⟩
  yield told changes := ⟨fun s l => congrArg (Program.change _ <| Program.done ·) (told s l), fun _ => ⟨changes, trivial⟩⟩
  still := .still
  after := .after
  choose pick f same changes :=
    ⟨fun s l => by rw [same s _ ⟨l, rfl⟩, (changes _).gate], fun s => (changes _).grows s⟩
  onLoop grows := ⟨fun _ _ => rfl, fun s => grows s.loop⟩
  setServer _ _ _ := ⟨fun _ _ => rfl, fun _ => .refl _⟩
  withServer := World.Heedless.withServer
  setTransport _ _ := ⟨fun _ _ => rfl, fun _ => .refl _⟩
  setSession _ _ _ := ⟨fun _ _ => rfl, fun _ => .refl _⟩

/-- Nothing that a session does, or its process, depends on the lock of lifecycle operations. -/
theorem heedless : Repertoire (fun a b => ∃ l, b = a.withGate l) (fun _ p => p.Heedless) World.Heedless where
  toSilentRepertoire := heedlessly
  born _ _ := ⟨fun _ _ => rfl, fun _ => .refl _⟩
  attempts _ := ⟨fun _ _ => rfl, fun _ => .refl _⟩
  record _ _ := ⟨fun _ _ => rfl, fun _ => .refl _⟩
  greet _ := ⟨fun _ _ => rfl, fun _ => .refl _⟩
  getOn _ _ _ _ _ := ⟨fun _ _ => rfl, fun _ => .refl _⟩

namespace Heedless

theorem record (r : Record) : World.Heedless (World.record r) := ⟨fun _ _ => rfl, fun _ => .refl _⟩

/-- The supervisor hears of diagnostics. -/
theorem hearDiagnostics (session : Nat) (uri : String) (count : Nat) :
    World.Heedless (Supervisor.hearDiagnostics session uri count) := by
  have told : World.Heedless fun s => if s.supervisor.hasListener then s.record (.listened uri count) else s := by
    refine heedless.select (fun s => s.supervisor.hasListener)
      (f := fun listens s => if listens then s.record (.listened uri count) else s) (fun _ _ => rfl) fun listens => ?_
    cases listens with
    | true => exact record _
    | false => exact .still
  refine heedless.select (fun s => s.supervisor.session) (f := fun held s =>
    if held = some session then
      let s := s.publish ⟨.diagnostics, .midnight, some (Session.nameOf session), .diagnostics uri count⟩
      if s.supervisor.hasListener then s.record (.listened uri count) else s
    else s) (fun _ _ => rfl) fun held => ?_
  by_cases mine : held = some session
  · simp only [mine, if_true]
    exact (World.Heedless.publish _).after told
  · simp only [mine, if_false]
    exact .still

/-- An audience is told. -/
theorem tells {id : Nat} {journal supervisor : World → World} (first : World.Heedless journal)
    (second : World.Heedless supervisor) : (Program.update fun s =>
      match Session.audience? s id with
      | some .journal => journal s
      | some .supervisor => supervisor s
      | none => s : Act Unit).Heedless := by
  refine heedless.update (heedless.select (fun s => Session.audience? s id) (f := fun audience s =>
    match audience with
    | some .journal => journal s
    | some .supervisor => supervisor s
    | none => s) (fun _ _ => rfl) fun audience => ?_)
  rcases audience with _ | _ | _
  · exact .still
  · exact first
  · exact second

theorem readerTurn {id : Nat} : (Session.readerTurn id).Heedless := by
  refine heedless.readerTurn (fun _ _ => ⟨fun _ _ => rfl, fun _ => .refl _⟩) (fun _ => record _) (fun params => ?_)
    fun level text => tells (record _) (.publish _)
  unfold Session.handleDiagnostics
  split
  · exact heedless.done ()
  · exact heedless.bind (heedless.update ⟨fun _ _ => rfl, fun _ => .refl _⟩) fun _ => tells (record _) (hearDiagnostics ..)

theorem edits : Sweep.Edits fun _ p => p.Heedless where
  withDocuments := heedless.locked (heedless.unseen fun _ _ => rfl) fun _ => ⟨fun _ _ => rfl, fun _ => .refl _⟩
  edit f same := heedless.update ⟨fun s l => by simp only [World.withGate, World.setSupervisor, same], fun _ => .refl _⟩

/-- What is done while the lock of lifecycle operations is held. -/
theorem lifecycle : LifecycleSweep fun _ p => p.Heedless := by
  refine heedless.lifecycle edits.withDocuments (heedless.yield (fun s l => ?_) ⟨fun s l => ?_, fun s => ?_⟩) (fun type session message _ =>
    heedless.update (heedless.select (fun s => (session.bind s.sessionPid?).map Int.ofNat)
      (f := fun pid s => s.publish ⟨type, .midnight, session.map Session.nameOf, .lifecycle pid message⟩)
      (fun _ _ => rfl) fun _ => .publish _)) fun _ => heedless.update ⟨fun _ _ => rfl, fun _ => .refl _⟩
  · simp only [show (s.withGate l).supervisor.reused = s.supervisor.reused from rfl]
    split <;> rfl
  · simp only [show (s.withGate l).supervisor.reused = s.supervisor.reused from rfl]
    split <;> rfl
  · split <;> exact .refl _

theorem forget {id : Nat} {uri : Json} : (Session.modify id (Session.forgetDocument uri)).Heedless :=
  heedless.update ⟨fun _ _ => rfl, fun _ => .refl _⟩

/-- All turns but those of lifecycle operations. -/
theorem turn {κ : TaskKind} (supervised : κ.Supervised) (other : ∀ o, κ ≠ .call (.supervisor (.operate o))) :
    (Client.turn κ).Heedless :=
  heedless.turn supervised.sessional edits (fun _ _ => readerTurn) (fun o e => absurd e (other o))
    (fun _ _ => heedless.connects.closeDocument edits fun _ => forget) fun _ _ _ => heedless.connects.didClose forget

end Heedless

end LspHost
