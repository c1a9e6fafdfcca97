import LspHost.Supervisor.Lifecycle

/-!
What a host does: it is activated and deactivated, carries out its commands, and turns the results of
lifecycle operations into notices.
-/

namespace LspHost.Host

open Act

/-- Prints a notice, unless its markup is faulty. -/
def print (n : Display.Notice) : Act Unit := do
  let width ← .peek fun s => s.host.width
  let text ← .ofExcept (n.text width)
  .update fun s => s.record (.printed text)

/-- Gives a notice. -/
def notify (n : Display.Notice) : Act Unit := do
  .update fun s => s.record (.noted n)
  print n

def say (severity : Display.Severity) (text : String) : Act Unit :=
  notify (.message severity text)

/-- A text in the language in use. -/
def translate (key : String) (values : Members) : Act String :=
  .peek fun s => s.host.catalogue.text key values

/-- Gives a notice in the language in use. -/
def sayText (severity : Display.Severity) (key : String) (values : Members) : Act Unit := do
  say severity (← translate key values)

/-- The text for a failed operation; the mere absence of a session has none. -/
def failureKey : ErrorKind → Option String
  | .spawnFailed => some "spawn_failed"
  | .handshakeFailed => some "handshake_failed"
  | .shutdownTimeout => some "shutdown_timeout"
  | .operationInProgress => some "operation_in_progress"
  | .noActiveSession => none

/-- How much a failure matters: a shutdown that was forced has happened all the same. -/
def failureSeverity (error : Option ErrorKind) : Display.Severity :=
  if error = some .shutdownTimeout then .warning else .error

/-- Reports a failed operation. -/
def reportFailure (r : LifecycleResult) : Act Unit :=
  match r.error.bind failureKey with
  | none => say .error r.message
  | some key => sayText (failureSeverity r.error) key [("reason", .str r.message)]

/-- The names of the commands. -/
def restartName : String := "deval.restartServer"
def startName : String := "deval.startServer"
def stopName : String := "deval.stopServer"
def statusName : String := "deval.showStatus"

/-- The commands that an active host has. -/
def standardCommands : List (String × HostCommand) :=
  [(restartName, .restart), (startName, .start), (stopName, .stop), (statusName, .status)]

/-- Registers a command. -/
def addCommand (name : String) (command : HostCommand) : Act Unit :=
  .update fun s => { s with host := { s.host with commands := register name command s.host.commands } }

def setActive (active : Bool) : Act Unit :=
  .update fun s => { s with host := { s.host with active := active } }

/-- Reports a result that is not what was asked for. -/
def reportUnlessOk (r : LifecycleResult) : Act Unit :=
  if r.ok then pure () else reportFailure r

/-- Registers the commands and starts a session. -/
def activate : Act LifecycleResult := do
  standardCommands.forM fun c => addCommand c.1 c.2
  setActive true
  let result ← Supervisor.operate .start
  reportUnlessOk result
  pure result

/-- Stops the session and forgets the commands. -/
def deactivate : Act LifecycleResult := do
  let result ← Supervisor.operate .shutdown
  reportUnlessOk result
  .update fun s => { s with host := { s.host with commands := [], active := false } }
  pure result

/-- Reports how a restart ended; the failure of its first half comes first. -/
def reportRestart (r : LifecycleResult) : Act Unit := do
  match r.stopResult with
  | some stop => reportUnlessOk stop
  | none => pure ()
  if !r.previouslyRunning then sayText .info "not_running" []
  if r.ok then sayText .info "restarted" [] else reportFailure (r.startResult.getD r)

/-- Restarts the session. -/
def restartServer : Act Unit := do
  sayText .info "restarting" []
  let r ← Supervisor.operate .restart
  if r.outcome = .rejected then reportFailure r else reportRestart r

/-- Starts a session. -/
def startServer : Act Unit := do
  let r ← Supervisor.operate .start
  match r.outcome with
  | .success => sayText .info "started" [("server", .str r.message)]
  | .noop => sayText .info "already_running" []
  | _ => reportFailure r

/-- Stops the session. -/
def stopServer : Act Unit := do
  let r ← Supervisor.operate .stop
  match r.outcome with
  | .success => sayText .info "stopped" []
  | .noop => sayText .info "already_stopped" []
  | _ => reportFailure r

/-- A number, or its absence. -/
def numberOrNone (n : Option Nat) : Json :=
  match n with
  | some n => .int n
  | none => .null

/-- How things stand, in the language in use. -/
def statusText (s : World) : String :=
  let text := s.host.catalogue.text
  if s.supervisor.isBusy then text "status_busy" []
  else
    match s.supervisor.session with
    | none => text "status_stopped" []
    | some id =>
      let session : Members := [("server", .str (s.serverName id)), ("session", .str (Session.nameOf id))]
      if s.isSessionAlive id then
        text "status_running" (session ++ [("pid", numberOrNone (s.sessionPid? id))])
      else text "status_exited" session

/-- Shows how things stand. -/
def showStatus : Act Unit := do
  say .info (← .peek statusText)

/-- Carries out a command. -/
def runCommand : HostCommand → Act Unit
  | .restart => restartServer
  | .start => startServer
  | .stop => stopServer
  | .status => showStatus
  | .broken reason => fail (.plain .runtime reason)

/-- Reports a command that has failed. -/
def reportCommand (name reason : String) : Act Unit :=
  sayText .error "command_failed" [("command", .str name), ("reason", .str reason)]

/-- Carries out a registered command; tells whether there was one and it did not fail. -/
def execute (name : String) : Act Bool := do
  match ← .peek fun s => s.host.commands.lookup name with
  | none =>
    sayText .error "unknown_command" [("command", .str name)]
    pure false
  | some command =>
    match ← Program.attempt (runCommand command) with
    | .ok () => pure true
    | .error .cancelled => fail .cancelled
    | .error f =>
      reportCommand name f.message
      pure false

end LspHost.Host
