import LspHost.Supervisor.Documents

/-!
Lifecycle operations: start, stop, restart and shutdown, one at a time and in the order in which they
were asked for. A failure is a result, not a fault.
-/

namespace LspHost.Supervisor

open Act

def lifecyclePlace : LockPlace where
  get s := s.supervisor.lifecycleLock
  set l s := s.setSupervisor fun v => { v with lifecycleLock := l }

/-- Publishes an event of a session's life. -/
def publish (type : EventType) (session : Option Nat) (message : String) : Act Unit :=
  .update fun s => s.publishLifecycle type session message

/-- How the sessions of a supervisor are made. -/
def sessionOptions (v : Supervisor) : SessionOptions where
  scope := v.scope
  handshakeTimeout := v.config.timeouts.handshake
  requestTimeout := v.config.timeouts.request
  workspaceDir := v.config.workspaceDir
  clientVersion := v.clientVersion
  audience := .supervisor

/-- A new session. -/
def createSession (server : ServerConfig) (options : SessionOptions) (s : World) : Nat × World :=
  (s.sessions.length,
    { s with
      transports := s.transports ++ [Transport.ofConfig s.env server]
      sessions := s.sessions ++ [Session.fresh options s.transports.length] })

/-- The session that a start is to open. -/
def nextSession : Act Nat :=
  .yield fun s =>
    match s.supervisor.reused with
    | some session => (session, s)
    | none => createSession s.supervisor.config.server (sessionOptions s.supervisor) s

/-- The number of a session's process, as results tell it. -/
def pidOf (session : Nat) : Act (Option Int) :=
  .peek fun s => (s.sessionPid? session).map Int.ofNat

/-- Stops the present session. It is given up whether its shutdown succeeds or not. -/
def stopSession (session : Nat) : Act LifecycleResult := do
  publish .sessionStopping (some session) ""
  let pid ← pidOf session
  let grace := (← now).config.timeouts.shutdownGrace
  let name := Session.nameOf session
  let r ← Program.attempt (Session.closeSession session grace)
  modify fun v => { v with session := none }
  let result ← match r with
    | .ok () => pure (LifecycleResult.success .stop "stopped" name pid)
    | .error f =>
      if isServerFault f || f.isOs then
        pure (LifecycleResult.failed .stop .shutdownTimeout f.message name pid)
      else fail f
  publish .sessionStopped (some session) result.message
  pure result

/-- Stops the present session, if there is one. -/
def doStop : Act LifecycleResult := do
  match (← now).session with
  | none => pure (LifecycleResult.noop .stop "not running" none none)
  | some session => stopSession session

/-- A start that has failed. -/
def startFailed (session : Nat) (kind : ErrorKind) (f : Fault) : Act LifecycleResult := do
  publish .sessionStartFailed (some session) f.message
  pure (LifecycleResult.failed .start kind f.message (Session.nameOf session) none)

/-- Opens a new session and takes it up. -/
def launch : Act LifecycleResult := do
  let session ← nextSession
  publish .sessionStarting (some session) ""
  match ← Program.attempt (Session.openSession session) with
  | .ok _ =>
    takeUp session
    let name ← .peek fun s => s.serverName session
    publish .sessionStarted (some session) name
    pure (LifecycleResult.success .start name (Session.nameOf session) (← pidOf session))
  | .error (.transport (.spawn f)) => startFailed session .spawnFailed (.transport (.spawn f))
  | .error f => if isServerFault f then startFailed session .handshakeFailed f else fail f

/-- Starts a session unless one is running; one whose process has exited is stopped first. -/
def doStart : Act LifecycleResult := do
  match (← now).session with
  | none => launch
  | some session =>
    if ← .peek fun s => s.isSessionAlive session then
      pure (LifecycleResult.noop .start "already running" (some (Session.nameOf session))
        (← pidOf session))
    else
      let _ ← stopSession session
      launch

/-- The first half of a restart. -/
def stopForRestart : Act LifecycleResult := do
  match (← now).session with
  | none =>
    pure (LifecycleResult.simple .stop .noop (some .noActiveSession) "not running" none none)
  | some session => stopSession session

/-- The result of a restart, from those of its halves. -/
def restartResult (stop start : LifecycleResult) : LifecycleResult :=
  { start with operation := .restart, stopResult := some stop, startResult := some start }

/-- Stops the present session, if there is one, and starts a new one. -/
def doRestart : Act LifecycleResult := do
  publish .restarting (← now).session ""
  let stop ← stopForRestart
  let start ← doStart
  let result := restartResult stop start
  if result.ok then publish .restarted (← now).session ""
  pure result

/-- Runs an operation while no other one runs. -/
def serialized (operation : Operation) (policy : BusyPolicy) (p : Act LifecycleResult) :
    Act LifecycleResult := do
  if policy = .reject ∧ (← now).isBusy then pure (LifecycleResult.rejected operation)
  else locked lifecyclePlace p

/-- Carries out an operation. A shutdown always waits for its turn, and the documents are forgotten
after it. -/
def operate (o : Operation) : Act LifecycleResult := do
  let policy := (← now).config.busyPolicy
  match o with
  | .start => serialized .start policy doStart
  | .stop => serialized .stop policy doStop
  | .restart => serialized .restart policy doRestart
  | .shutdown =>
    let result ← serialized .shutdown .queue doStop
    modify fun v => { v with documents := [] }
    pure { result with operation := .shutdown }

/-- Sends any request to the present session. -/
def request (method params : Json) : Act Json := do
  match (← now).session with
  | some session => Session.request session method params
  | none => fail (Transport.missing "request")

/-- Carries out a call. -/
def run : SupervisorCall → Act Reply
  | .operate o => do pure (.lifecycle (← operate o))
  | .openDocument uri languageId text => do pure (.truth (← openDocument uri languageId text))
  | .changeDocument uri text => do pure (.truth (← changeDocument uri text))
  | .closeDocument uri => do pure (.truth (← closeDocument uri))
  | .hover uri line character => do pure (.hover (← hover uri line character))
  | .tokens uri range => do pure (.tokens (← semanticTokens uri range))
  | .request method params => do pure (.value (← request method params))

end LspHost.Supervisor
