import LspHost.Machine
import LspHost.Session.Reader
import LspHost.Terminal.Run

/-!
The client as a machine: what each kind of task does in its turn.
-/

namespace LspHost.Client

open Act

/-- Carries out a call to the host. -/
def runHost : HostCall → Act Reply
  | .activate => do pure (.lifecycle (← Host.activate))
  | .deactivate => do pure (.lifecycle (← Host.deactivate))
  | .execute command => do pure (.truth (← Host.execute command))
  | .line text => do pure (.truth (← Terminal.execute text))

/-- Carries out a call. -/
def runCall : Call → Act Reply
  | .transport id c => Transport.run id c
  | .session id c => Session.run id c
  | .supervisor c => Supervisor.run c
  | .host c => runHost c
  | .sleep time => do
    sleep time.nanos?
    pure .nothing
  | .act server actions => do
    .update fun s => s.withServer server (Server.perform server Server.noTrigger actions)
    pure .nothing

/-- What a task does in its turn. -/
def turn : TaskKind → Act Turn
  | .reader session => Session.readerTurn session
  | .drain server => Transport.drainTurn server
  | .exitWatch server => Transport.exitWatchTurn server
  | .trace => Terminal.traceTurn
  | .showEvents queue => Terminal.showTurn queue
  | .terminal traced => do pure (.finished (← Terminal.run traced))
  | .call c => do pure (.finished (← runCall c))

/-- The most steps that one call may take. -/
def patience : Nat := 10000000

/-- Runs until a ticket is settled, or to a point in time. -/
def runUntil (ticket deadline : Nat) (m : Machine) : Machine :=
  m.runUntil turn ticket deadline patience

/-- Runs until a ticket is settled and all that was ready before has run, or to a point in time. -/
def settle (ticket deadline : Nat) (m : Machine) : Machine :=
  let (next, m) := m.after ticket
  runUntil next deadline m

/-- Lets some nanoseconds pass, in which everything runs that is ready. -/
def rest (nanos : Nat) (m : Machine) : Machine :=
  let (ticket, m) := m.timer nanos
  settle ticket (m.world.loop.now + nanos) m

end LspHost.Client
