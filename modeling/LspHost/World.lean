import LspHost.Broker
import LspHost.Host.Basic
import LspHost.Process.Server
import LspHost.Session.Basic
import LspHost.Supervisor.Basic
import LspHost.Task.Program
import LspHost.Transport.Basic

/-!
Everything that the client's tasks share: the event loop, the servers, the transports and sessions,
the supervisor, the host and the broker; and the journal of what the outside has seen.
-/

namespace LspHost

/-- Something that the outside has seen. -/
inductive Record where
  | spawned (command : List String) (cwd : Datum)
  | sent (pid : Nat) (message : Members)
  /-- A process did not take what was written to it. -/
  | refused (pid : Nat)
  | signalled (pid : Nat) (s : Signal)
  | published (e : Event)
  /-- A session was told something by its server. -/
  | heard (session : Nat) (m : Message)
  /-- A session whose audience is the journal tells of diagnostics. -/
  | diagnosed (session : Nat) (uri : String) (count : Nat)
  /-- A session whose audience is the journal tells of a log message. -/
  | logged (session : Nat) (level : Int) (text : String)
  /-- The supervisor's listener hears of diagnostics. -/
  | listened (uri : String) (count : Nat)
  /-- A notice is given, and then printed unless its markup is faulty. -/
  | noted (n : Display.Notice)
  | printed (text : List Char)

/-- The state that all tasks share. `getters` are the tasks that wait for an event in a queue, by
queue and ticket; `lines` are what will be typed; the journal has the latest record in front. -/
structure World where
  env : Environment
  files : Files
  loop : Loop
  scripts : List Script
  attempts : Nat
  servers : List Server
  transports : List Transport
  sessions : List Session
  supervisor : Supervisor
  host : Host
  broker : Broker
  getters : List (Nat × Nat)
  lines : List String
  journal : List Record

/-- What a task does: a program over the shared state. -/
abbrev Act (α : Type) := Program World Fault α

namespace World

/-- The state before anything has happened. -/
def fresh (env : Environment) (files : Files) (scripts : List Script) (supervisor : Supervisor)
    (host : Host) (broker : Broker) : World :=
  { env, files, loop := .empty, scripts, attempts := 0, servers := [], transports := []
    sessions := [], supervisor, host, broker, getters := [], lines := [], journal := [] }

/-- The number of the client's own process. -/
def clientPid : Int := 4242

/-- The number of the process of an attempt to start one, counted from zero. -/
def pidOf (attempt : Nat) : Nat := 1001 + attempt

/-- The script of an attempt; the last script serves all attempts beyond. -/
def scriptOf (scripts : List Script) (attempt : Nat) : Script :=
  match scripts[attempt]? with
  | some s => s
  | none => (scripts.getLast?).getD .obedient

def record (r : Record) (s : World) : World := { s with journal := r :: s.journal }

/-- Records that the process of a server did not take what was written to it. -/
def recordRefusal (server : Nat) (s : World) : World :=
  match s.servers[server]? with
  | some p => s.record (.refused p.pid)
  | none => s

/-- A server acts, together with the event loop. -/
def withServer (id : Nat) (f : Living → Living) (s : World) : World :=
  match s.servers[id]? with
  | some p =>
    let (loop, p) := f (s.loop, p)
    { s with loop := loop, servers := s.servers.set id p }
  | none => s

def setServer (id : Nat) (f : Server → Server) (s : World) : World :=
  { s with servers := s.servers.modify id f }

def setTransport (id : Nat) (f : Transport → Transport) (s : World) : World :=
  { s with transports := s.transports.modify id f }

def setSession (id : Nat) (f : Session → Session) (s : World) : World :=
  { s with sessions := s.sessions.modify id f }

def setSupervisor (f : Supervisor → Supervisor) (s : World) : World :=
  { s with supervisor := f s.supervisor }

def setHost (f : Host → Host) (s : World) : World := { s with host := f s.host }

/-- The process that a transport holds. -/
def serverOf? (s : World) (transport : Nat) : Option Nat :=
  (s.transports[transport]?).bind Transport.server

/-- Whether a server's process is alive. -/
def isAlive (s : World) (server : Nat) : Bool :=
  match s.servers[server]? with
  | some p => p.isAlive
  | none => false

/-- Whether a transport holds a process that is alive. -/
def isConnected (s : World) (transport : Nat) : Bool :=
  match s.serverOf? transport with
  | some server => s.isAlive server
  | none => false

/-- The number of the process that a transport holds. -/
def pid? (s : World) (transport : Nat) : Option Nat :=
  (s.serverOf? transport).bind fun server => (s.servers[server]?).map Server.pid

/-- The number of a session's process. -/
def sessionPid? (s : World) (session : Nat) : Option Nat :=
  (s.sessions[session]?).bind fun x => s.pid? x.transport

/-- Whether the process of a session is alive. -/
def isSessionAlive (s : World) (session : Nat) : Bool :=
  match s.sessions[session]? with
  | some x => s.isConnected x.transport
  | none => false

/-- What a server calls itself in its handshake, or else its command. -/
def serverName (s : World) (session : Nat) : String :=
  match s.sessions[session]? with
  | none => ""
  | some x =>
    match x.handshake.bind InitializeResult.serverInfo with
    | some info => info.name
    | none =>
      match s.transports[x.transport]? with
      | some t => String.ofList t.command.display
      | none => ""

/-- Wakes the first task that waits for an event in a queue. -/
def wakeGetter (queue : Nat) (s : World) : World :=
  match s.getters.find? fun g => g.1 = queue with
  | some g => { s with loop := s.loop.settle g.2 (.ok .null), getters := s.getters.erase g }
  | none => s

/-- Publishes an event. -/
def publish (e : Event) (s : World) : World :=
  (s.broker.receivers e.type).foldl (fun s queue => s.wakeGetter queue)
    { s.record (.published e) with broker := s.broker.publish e }

/-- Publishes an event of a session's life. -/
def publishLifecycle (type : EventType) (session : Option Nat) (message : String) (s : World) :
    World :=
  let pid := (session.bind s.sessionPid?).map Int.ofNat
  s.publish ⟨type, .midnight, session.map Session.nameOf, .lifecycle pid message⟩

/-- The content of a stream of a server. -/
def outputOf? (s : World) (server : Nat) : Option Stream := (s.servers[server]?).map Server.output

def errorsOf? (s : World) (server : Nat) : Option Stream := (s.servers[server]?).map Server.errors

end World

end LspHost
