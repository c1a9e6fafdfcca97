import LspHost.Proofs.Conversation
import LspHost.Proofs.Process.Stream
import LspHost.Proofs.Task.Loop

/-!
# Ghosts: what a proof keeps beside the world

A lock only says whether it is held, a ticket only whether it is settled. The proofs also keep what a
ticket is for (`Ghost.role`), which tasks were cancelled (`Ghost.doomed`), who holds a lock, and what
was begun and is not finished yet (`Hands`).

`World.overview` is the part of the world that lifecycle operations and documents are about. Most of
what tasks do to the world leaves it alone.
-/

namespace LspHost

/-- The locks of a client. -/
inductive Place where
  | lifecycle
  | documents
  | writing (transport : Nat)
  deriving DecidableEq, Repr

namespace Place

def toLockPlace : Place → Act.LockPlace
  | .lifecycle => Supervisor.lifecyclePlace
  | .documents => Supervisor.documentPlace
  | .writing id => Transport.writePlace id

/-- The lock at a place. -/
def lock (p : Place) (s : World) : Lock := p.toLockPlace.get s

/-- Whether there is a lock at a place. -/
def Exists (p : Place) (s : World) : Prop :=
  match p with
  | .writing id => id < s.transports.length
  | _ => True

theorem lifecycle_ne_writing {i : Nat} : Place.lifecycle ≠ .writing i := by
  intro e; cases e

theorem documents_ne_writing {i : Nat} : Place.documents ≠ .writing i := by
  intro e; cases e

end Place

/-- What a ticket is for. -/
inductive Role where
  | unissued
  /-- A timer or another ticket settles it. -/
  | relay
  /-- A task waits for a response. -/
  | request (task : Nat)
  /-- A task waits for a stream. -/
  | stream (server : Nat) (c : Channel) (task : Nat)
  /-- A task waits for a process to exit. -/
  | exit (server task : Nat)
  /-- A task waits for a lock; behind it stands what it is going to write. -/
  | lock (p : Place) (task : Nat) (message : Members)
  /-- A task ends in it; only the keeper may cancel that task, if it has one. -/
  | ending (task : Nat) (kind : TaskKind) (keeper : Option Nat)

/-- The task that waits for a ticket on its own behalf. -/
def Role.owner? : Role → Option Nat
  | .stream _ _ task => some task
  | .exit _ task => some task
  | .lock _ task _ => some task
  | _ => none

/-- What is going to be written by the one who waits with a ticket. -/
def Role.said? : Role → Option Said
  | .lock _ _ m => Said.of? m
  | _ => none

/-- What is in the hands of tasks: the locks, and what was begun and is not finished yet. -/
structure Hands where
  holder : Place → Option Nat
  /-- The changes of documents that the holder of their lock has still to write. -/
  untold : List Note
  /-- What the one who has come to a writing lock is about to write. -/
  tongue : Nat → List Said
  /-- A process that was started and is not held by its transport yet. -/
  newborn : Option Nat
  /-- A transport that has written the exit and is about to close the input of its process. -/
  parting : Option Nat

/-- Nothing is left half done, as it is whenever a task waits. -/
structure Hands.AtEase (h : Hands) : Prop where
  tongue : h.tongue = fun _ => []
  newborn : h.newborn = none
  parting : h.parting = none

/-- Where a task stands: in a turn or between two turns, in the middle of one and waiting, or at its
end. -/
inductive Phase where
  | ready
  | stopped (on : Option Nat)
  | ended

/-- The ticket that a task waits for. -/
def Phase.on? : Phase → Option Nat
  | .stopped on => on
  | _ => none

/-- What a proof keeps beside the world. -/
structure Ghost extends Hands where
  role : Nat → Role
  doomed : Nat → Bool
  phase : Nat → Phase

namespace Ghost

/-- A ticket gets its role. -/
def assign (γ : Ghost) (k : Nat) (r : Role) : Ghost :=
  { γ with role := fun j => if j = k then r else γ.role j }

/-- A lock changes hands. -/
def handOver (γ : Ghost) (p : Place) (t : Option Nat) : Ghost :=
  { γ with holder := fun q => if q = p then t else γ.holder q }

/-- A task is cancelled. -/
def doom (γ : Ghost) (u : Nat) : Ghost :=
  { γ with doomed := fun v => if v = u then true else γ.doomed v }

/-- A task stops, goes on or ends. -/
def enter (γ : Ghost) (u : Nat) (φ : Phase) : Ghost :=
  { γ with phase := fun v => if v = u then φ else γ.phase v }

/-- Something is about to be written, or was written. -/
def utter (γ : Ghost) (i : Nat) (xs : List Said) : Ghost :=
  { γ with tongue := fun j => if j = i then xs else γ.tongue j }

@[simp] theorem assign_role_self (γ : Ghost) (k : Nat) (r : Role) : (γ.assign k r).role k = r := by
  simp [assign]

theorem assign_role_ne (γ : Ghost) {j k : Nat} (r : Role) (h : j ≠ k) :
    (γ.assign k r).role j = γ.role j := by simp [assign, h]

@[simp] theorem assign_toHands (γ : Ghost) (k : Nat) (r : Role) :
    (γ.assign k r).toHands = γ.toHands := rfl

@[simp] theorem assign_doomed (γ : Ghost) (k : Nat) (r : Role) :
    (γ.assign k r).doomed = γ.doomed := rfl

@[simp] theorem handOver_self (γ : Ghost) (p : Place) (t : Option Nat) :
    (γ.handOver p t).holder p = t := by simp [handOver]

@[simp] theorem enter_self (γ : Ghost) (u : Nat) (φ : Phase) : (γ.enter u φ).phase u = φ := by
  simp [enter]

theorem enter_ne (γ : Ghost) {u v : Nat} (φ : Phase) (h : v ≠ u) :
    (γ.enter u φ).phase v = γ.phase v := by simp [enter, h]

theorem handOver_ne (γ : Ghost) {p q : Place} (t : Option Nat) (h : q ≠ p) :
    (γ.handOver p t).holder q = γ.holder q := by simp [handOver, h]

@[simp] theorem utter_self (γ : Ghost) (i : Nat) (xs : List Said) : (γ.utter i xs).tongue i = xs := by
  simp [utter]

theorem utter_ne (γ : Ghost) {i j : Nat} (xs : List Said) (h : j ≠ i) :
    (γ.utter i xs).tongue j = γ.tongue j := by simp [utter, h]

end Ghost

/-- Calls that may tell a session of documents. -/
def SupervisorCall.Tells : SupervisorCall → Prop
  | .operate _ | .openDocument .. | .changeDocument .. | .closeDocument _ => True
  | _ => False

/-- What a task must be to hold a lock. -/
def Place.Suits : Place → TaskKind → Prop
  | .lifecycle, κ => ∃ o, κ = .call (.supervisor (.operate o))
  | .documents, κ => ∃ c, κ = .call (.supervisor c) ∧ c.Tells
  | .writing _, _ => True

/-- What a host asks of a supervisor: an operation, a document with a text, or a query. -/
def SupervisorCall.Proper : SupervisorCall → Prop
  | .openDocument _ _ text => ∃ str, text = .str str
  | .changeDocument _ text => ∃ str, text = .str str
  | .request .. => False
  | _ => True

/-- The tasks of a client whose host asks nothing but its supervisor. -/
def TaskKind.Supervised : TaskKind → Prop
  | .reader _ | .drain _ | .exitWatch _ => True
  | .call (.supervisor c) => c.Proper
  | .call (.sleep _) | .call (.act ..) => True
  | _ => False

/-- Tasks that serve sessions, whether a supervisor or the host itself uses them. -/
def TaskKind.Sessional : TaskKind → Prop
  | .reader _ | .drain _ | .exitWatch _ => True
  | .call (.session ..) | .call (.supervisor _) | .call (.sleep _) | .call (.act ..) => True
  | _ => False

theorem TaskKind.Supervised.sessional {κ : TaskKind} (h : κ.Supervised) : κ.Sessional := by
  cases κ with
  | reader | drain | exitWatch => trivial
  | trace | showEvents | terminal => exact h
  | call c => cases c <;> trivial

/-! ## The overview -/

/-- A session, as an overview shows it. -/
structure Seat where
  transport : Nat
  state : SessionState
  reader : Option Nat
  workspaceDir : Datum

/-- What a transport holds, and the command that starts its process. -/
structure Hold where
  command : Datum
  server : Option Nat
  drain : Option Nat

/-- A process, as an overview shows it. -/
structure Process where
  pid : Nat
  script : Script
  alive : Bool
  listening : Bool

/-- The part of the world that lifecycle operations and documents are about. -/
structure Overview where
  session : Option Nat
  documents : List TrackedDocument
  reused : Option Nat
  config : Config
  scripts : List Script
  cwd : String
  attempts : Nat
  seats : List Seat
  holds : List Hold
  processes : List Process
  mail : List (Nat × Option Members)

def Session.seat (x : Session) : Seat :=
  ⟨x.transport, x.state, x.reader, x.options.workspaceDir⟩

def Transport.hold (x : Transport) : Hold := ⟨x.command, x.server, x.drain⟩

def Server.shown (p : Server) : Process := ⟨p.pid, p.script, p.isAlive, p.isListening⟩

namespace World

def overview (s : World) : Overview where
  session := s.supervisor.session
  documents := s.supervisor.documents
  reused := s.supervisor.reused
  config := s.supervisor.config
  scripts := s.scripts
  cwd := s.files.cwd
  attempts := s.attempts
  seats := s.sessions.map Session.seat
  holds := s.transports.map Transport.hold
  processes := s.servers.map Server.shown
  mail := s.mail

/-- The messages that wait to be written to a process, as a conversation. -/
def queued (s : World) (role : Nat → Role) (transport : Nat) : List Said :=
  ((Place.writing transport).lock s).waiters.filterMap fun k => (role k).said?

/-- What is about to be written to a process, as a conversation. -/
def voice (s : World) (γ : Ghost) (transport : Nat) : List Said :=
  γ.tongue transport ++ s.queued γ.role transport

/-- Who waits for the error output of a process, and what for. -/
def errorWaiter? (s : World) (server : Nat) : Option (Nat × Demand) :=
  (s.servers[server]?).bind fun p => p.errors.waiter

/-- Whether the error output of a process meets a demand. -/
def errorsMeet (s : World) (server : Nat) (d : Demand) : Prop :=
  ∃ p, s.servers[server]? = some p ∧ p.errors.meets d = true

/-- The error output of a process holds a line that is too long to be read. -/
def Overlong (s : World) (server : Nat) : Prop :=
  ∃ p, s.servers[server]? = some p ∧ p.errors.Overlong

end World

namespace Overview

variable (v : Overview)

/-- The state of a session. -/
def state? (session : Nat) : Option SessionState := (v.seats[session]?).map Seat.state

/-- The process that a transport holds. -/
def serverOf? (transport : Nat) : Option Nat := (v.holds[transport]?).bind Hold.server

/-- The process that a transport holds takes messages. -/
def Listening (transport : Nat) : Prop :=
  ∃ j p, v.serverOf? transport = some j ∧ v.processes[j]? = some p ∧ p.listening = true

/-- A session has been through its handshake. -/
def Past (session : Nat) : Prop :=
  ∃ st, v.state? session = some st ∧ (st = .running ∨ st = .shuttingDown ∨ st = .closed)

/-- A process has exited. -/
def Dead (server : Nat) : Prop := ∃ p, v.processes[server]? = some p ∧ p.alive = false

end Overview

/-- A process that is not alive has exited. -/
theorem World.dead_of_isAlive {s : World} {j : Nat} (bound : j < s.servers.length)
    (h : s.isAlive j = false) : s.overview.Dead j := by
  have found : s.servers[j]? = some s.servers[j] := List.getElem?_eq_getElem bound
  refine ⟨s.servers[j].shown, by simp [World.overview, found], ?_⟩
  show s.servers[j].isAlive = false
  simpa only [World.isAlive, found] using h

theorem World.overview_serverOf? (s : World) (i : Nat) : s.overview.serverOf? i = s.serverOf? i := by
  simp only [Overview.serverOf?, overview, serverOf?, List.getElem?_map]
  cases s.transports[i]? <;> rfl

end LspHost
