import LspHost.Machine

/-!
# Histories

A deed is one change of the shared world by a task: which task, which change, and what the world was
before. `Program.deeds` are the deeds of one segment of a program, up to its next wait, `Machine.deeds`
those of one job. A history is the list of all deeds of a run.

`Machine.Hosts` is what the host may do to a machine between two jobs.
-/

namespace LspHost

/-- A change of the world by a task. -/
structure Deed where
  task : Nat
  change : World → World
  before : World

/-- The world after a deed. -/
def Deed.after (d : Deed) : World := d.change d.before

/-- What a task does by a program until the program stops. -/
def Program.deeds {α : Type} (task : Nat) : Act α → World → List Deed
  | .done _, _ => []
  | .fail _, _ => []
  | .look k, s => deeds task (k s) s
  | .change f k, s => ⟨task, f, s⟩ :: deeds task k (f s)
  | .wait ticket k, s =>
    match s.loop.outcome? ticket with
    | some r => deeds task (k r) s
    | none => []
  | .pause _, _ => []

namespace Program

variable {α β : Type} {t : Nat} {s s' : World} {p : Act α} (f : α → Act β)

/-- A program that stops before its end stops there whatever follows it. -/
theorem advance_bind_waiting {k : Nat} {next : Except Fault Json → Act α}
    (h : p.advance (fun s t => s.loop.outcome? t) s = (s', .waiting k next)) :
    (p.bind f).advance (fun s t => s.loop.outcome? t) s = (s', .waiting k fun r => (next r).bind f) ∧
      (p.bind f).deeds t s = p.deeds t s := by
  induction p generalizing s with
  | done | fail | pause => cases h
  | look k ih => exact ih s h
  | change g k ih => exact ⟨(ih h).1, congrArg _ (ih h).2⟩
  | wait ticket k ih =>
    simp only [bind, advance, deeds] at h ⊢
    split at h
    · next r outcome => simpa only [outcome] using ih r h
    · next outcome => cases h; simp only [outcome, and_self]

/-- What a program does first it does first whatever follows it. -/
theorem deeds_bind_cons {d : Deed} {ds : List Deed} (h : p.deeds t s = d :: ds) :
    ∃ rest, (p.bind f).deeds t s = d :: rest := by
  induction p generalizing s with
  | done | fail | pause => cases h
  | look k ih => exact ih s h
  | change g k ih => cases h; exact ⟨_, rfl⟩
  | wait ticket k ih =>
    simp only [bind, deeds] at h ⊢
    split at h
    · next r outcome => simpa only [outcome] using ih r h
    · cases h

end Program

namespace Machine

/-- The rest of a turn with which a waiting task goes on, and the machine in which it does. -/
def rest? (task : Nat) (on : Option Nat) (outcome : Except Fault Json) (m : Machine) :
    Option (Act Turn × Machine) :=
  (m.suspended.find? fun x => x.task = task ∧ x.on = on).map fun x =>
    (x.next (if m.isInterrupted task then .error .cancelled else outcome),
      { m with suspended := m.suspended.filter fun y => y.task ≠ task }.onLoop (Loop.setRunning · task))

/-- What a task does in a job. -/
def deedsIn (turn : TaskKind → Act Turn) (m : Machine) : Job → List Deed
  | .begin task =>
    match m.world.loop.tasks[task]? with
    | none => []
    | some t =>
      if m.isSuspended task || m.hasEnded task || t.interrupted then []
      else (turn t.kind).deeds task m.world
  | .resume task =>
    match m.rest? task none (.ok .null) with
    | some (p, m) => p.deeds task m.world
    | none => []
  | .wake task ticket =>
    match (m.world.loop.outcome? ticket).bind (m.rest? task (some ticket) ·) with
    | some (p, m) => p.deeds task m.world
    | none => []
  | _ => []

/-- What a task does in the next step. -/
def deeds (turn : TaskKind → Act Turn) (m : Machine) : List Deed :=
  match m.world.loop.next? with
  | some (some job, l) => (m.onLoop fun _ => l).deedsIn turn job
  | _ => []

/-- What the host may do between two jobs, if it asks only for some things: it asks for something, or it
waits. -/
inductive Hosts (P : Call → Prop) : Machine → Machine → Prop
  | call {m : Machine} (c : Call) (proper : P c) : Hosts P m (m.start (.call c)).2
  | after {m : Machine} (ticket : Nat) : Hosts P m (m.after ticket).2
  | timer {m : Machine} (nanos : Nat) : Hosts P m (m.timer nanos).2
  | idle {m : Machine} (time : Nat) : Hosts P m (m.idleUntil time)

end Machine

end LspHost
