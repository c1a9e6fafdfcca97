/-!
Events: what happens to sessions and what servers report, as told to subscribers.
-/

namespace LspHost

/-- What an event is about. -/
inductive EventType where
  | sessionStarting
  | sessionStarted
  | sessionStartFailed
  | sessionStopping
  | sessionStopped
  | restarting
  | restarted
  | diagnostics
  | serverLog
  deriving DecidableEq, Repr

namespace EventType

/-- The events of the life of sessions. -/
def lifecycle : List EventType :=
  [.sessionStarting, .sessionStarted, .sessionStartFailed, .sessionStopping, .sessionStopped,
    .restarting, .restarted]

def all : List EventType := lifecycle ++ [.diagnostics, .serverLog]

def name : EventType → String
  | .sessionStarting => "session_starting"
  | .sessionStarted => "session_started"
  | .sessionStartFailed => "session_start_failed"
  | .sessionStopping => "session_stopping"
  | .sessionStopped => "session_stopped"
  | .restarting => "restarting"
  | .restarted => "restarted"
  | .diagnostics => "diagnostics"
  | .serverLog => "server_log"

def ofName? (s : String) : Option EventType := all.find? fun t => t.name = s

end EventType


namespace LogLevel

def debug : Int := 10
def info : Int := 20
def warning : Int := 30
def error : Int := 40

/-- The named levels. -/
def names : List (String × Int) :=
  [("NOTSET", 0), ("DEBUG", 10), ("INFO", 20), ("WARNING", 30), ("ERROR", 40), ("CRITICAL", 50),
    ("WARN", 30), ("FATAL", 50)]

/-- The name of a level; one without a name is spelled out by its number. -/
def name (level : Int) : String :=
  match names.find? fun p => p.2 = level with
  | some p => p.1
  | none => "Level " ++ toString level

end LogLevel

/-- A time of day. -/
structure TimeOfDay where
  hour : Nat
  minute : Nat
  second : Nat
  deriving DecidableEq, Repr

namespace TimeOfDay

def midnight : TimeOfDay := ⟨0, 0, 0⟩

/-- Two digits of a number below a hundred. -/
def twoDigits (n : Nat) : String := if n < 10 then "0" ++ toString n else toString n

/-- A time of day with two digits for each part. -/
def text (t : TimeOfDay) : String :=
  twoDigits t.hour ++ ":" ++ twoDigits t.minute ++ ":" ++ twoDigits t.second

end TimeOfDay

/-- What an event tells besides its type and session. -/
inductive EventDetail where
  | plain
  | lifecycle (pid : Option Int) (message : String)
  | diagnostics (uri : String) (count : Int)
  | serverLog (level : Int) (message : String)
  deriving DecidableEq, Repr

/-- An event. -/
structure Event where
  type : EventType
  time : TimeOfDay
  sessionId : Option String
  detail : EventDetail
  deriving DecidableEq, Repr

end LspHost
