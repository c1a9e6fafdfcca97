import LspHost.Terminal.Execute

/-!
A host at a terminal: it is activated, carries out the lines that are typed, and is deactivated
whatever they led to. The exit code tells whether the last shutdown went well.
-/

namespace LspHost.Terminal

open Act Host

/-- The time after which a line that is asked for has been typed, in nanoseconds. -/
def typingTime : Nat := 1000000

/-- The next line that is typed; nothing at the end. -/
def readLine : Act (Option String) := do
  let ticket ← issue
  let line ← .yield fun s => (s.lines.head?, { s with lines := s.lines.tail })
  let _ ← ask (Loop.later · typingTime (.settle ticket ((line.map Json.str).getD .null)))
  match ← Program.await ticket with
  | .str s => pure (some s)
  | _ => pure none

/-- Carries out lines up to the first that ends it, but at most so many. -/
def converseWithin : Nat → Act Unit
  | 0 => pure ()
  | fuel + 1 => do
    match ← readLine with
    | none => pure ()
    | some line =>
      let line := Text.trim line.toList
      if line.isEmpty then converseWithin fuel
      else if ← execute (String.ofList line) then converseWithin fuel
      else pure ()

/-- Carries out the lines that are typed, up to one that ends it. -/
def converse : Act Unit := do
  let lines ← .peek World.lines
  converseWithin (lines.length + 1)

/-- The events that a trace shows. -/
def tracedTypes : List EventType := EventType.lifecycle ++ [.serverLog]

/-- One turn of a task that shows events: it subscribes to them. -/
def traceTurn : Act Turn := do
  let queue ← .yield fun s =>
    let (broker, queue) := s.broker.subscribe tracedTypes
    (queue, { s with broker := broker })
  pure (.onward (.showEvents queue))

/-- The oldest event of a queue. -/
def takeEvent (queue : Nat) : Act (Option Event) :=
  .yield fun s =>
    let (broker, events) := s.broker.drain queue 1
    (events.head?, { s with broker := broker })

/-- One turn of a task that shows the events of a queue: it shows one or waits for one. -/
def showTurn (queue : Nat) : Act Turn := do
  match ← takeEvent queue with
  | some e => notify (.event e)
  | none =>
    let ticket ← issue
    .update fun s => { s with getters := s.getters ++ [(queue, ticket)] }
    Program.ensure (do let _ ← Program.await ticket)
      (.update fun s => { s with getters := s.getters.erase (queue, ticket) })
  pure (.onward (.showEvents queue))

/-- Starts a task that shows events, if that is wanted. -/
def startTrace (traced : Bool) : Act (Option Nat) := do
  if traced then
    let trace ← Act.start .trace
    pure (some trace)
  else pure none

/-- Deactivates the host and stops the trace. -/
def finish (trace : Option Nat) : Act LifecycleResult := do
  let result ← deactivate
  match trace with
  | some t => tell (Loop.cancelTicket · t)
  | none => pure ()
  pure result

/-- Runs the host and gives its exit code. -/
def run (traced : Bool) : Act Reply := do
  let trace ← startTrace traced
  let _ ← activate
  say .info "输入 /help 查看帮助，/quit 退出"
  let r ← Program.attempt converse
  let result ← finish trace
  match r with
  | .ok () => pure (.exitCode (if result.ok then 0 else 1))
  | .error f => fail f

end LspHost.Terminal
