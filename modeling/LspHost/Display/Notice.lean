import LspHost.Display.Markup
import LspHost.Display.Table
import LspHost.Event
import LspHost.Protocol.Diagnostic
import LspHost.Protocol.SemanticTokens

/-!
What is shown to people: notices, events, and tables of diagnostics and tokens. A notice is shown as
a whole or, if its markup is faulty, not at all.
-/

namespace LspHost.Display

/-- How much a notice matters. -/
inductive Severity where
  | info
  | warning
  | error
  deriving DecidableEq, Repr

/-- Something to be shown. -/
inductive Notice where
  | message (severity : Severity) (text : String)
  | event (e : Event)
  | diagnostics (d : List (String × List Diagnostic))
  | tokens (ts : List SemanticToken)
  /-- Markup that is shown as it is. -/
  | plain (markup : String)

namespace Notice

/-- The sign in front of a message, in markup. -/
def sign : Severity → String
  | .info => "[cyan]ℹ[/cyan] "
  | .warning => "[yellow]⚠[/yellow] "
  | .error => "[bold red]✗[/bold red] "

/-- What stands behind the session of an event. -/
def eventDetail : EventDetail → String
  | .plain => ""
  | .lifecycle pid words =>
    (match pid with
      | some n => if n = 0 then "" else " pid=" ++ toString n
      | none => "")
    ++ (if words.isEmpty then "" else " " ++ String.ofList (Markup.escape words.toList))
  | .diagnostics _ _ => ""
  | .serverLog level words =>
    " (" ++ String.ofList (Text.asciiLower (LogLevel.name level).toList) ++ ") "
      ++ String.ofList (Markup.escape words.toList)

/-- An event in one line of markup. The session goes in as it is. -/
def eventMarkup (e : Event) : String :=
  let session := match e.sessionId with
    | some s => if s.isEmpty then "" else " session=" ++ s
    | none => ""
  "[dim]" ++ e.time.text ++ "[/dim] [magenta]" ++ e.type.name ++ "[/magenta]" ++ session
    ++ eventDetail e.detail

/-- A paragraph in a width: its lines with their ends. -/
def paragraph (width : Nat) (s : List Char) : List Char :=
  (Lines.wrap width .fold .natural s).flatMap (· ++ ['\n'])

/-- Markup as a paragraph. -/
def markupText (width : Nat) (markup : String) : Except Fault (List Char) :=
  (Markup.shown markup.toList).map (paragraph width)

/-- A place, counted from one. -/
def placeText (line character : Int) : String := toString (line + 1) ++ ":" ++ toString (character + 1)

/-- A table of cells in markup. -/
def tableText (width : Nat) (columns : List Column) (rows : List (List String)) :
    Except Fault (List Char) := do
  let cells ← rows.mapM fun r => r.mapM fun c => Markup.shown c.toList
  .ok ((Table.lines ⟨columns, cells⟩ width).flatMap (· ++ ['\n']))

def diagnosticColumns : List Column :=
  [⟨"Document", .left⟩, ⟨"Location", .right⟩, ⟨"Message", .left⟩]

def diagnosticRow (uri : String) (d : Diagnostic) : List String :=
  [uri, placeText d.range.start.line d.range.start.character, d.format]

def tokenColumns : List Column :=
  [⟨"Location", .right⟩, ⟨"Length", .right⟩, ⟨"Type", .left⟩, ⟨"Modifiers", .left⟩]

def tokenRow (t : SemanticToken) : List String :=
  [placeText t.line t.start, toString t.length, t.tokenType, ", ".intercalate t.modifiers]

/-- What is shown of a notice in a given width. -/
def text (width : Nat) : Notice → Except Fault (List Char)
  | .message s t => markupText width (sign s ++ t)
  | .event e => markupText width (eventMarkup e)
  | .plain m => markupText width m
  | .diagnostics d =>
    if d.all fun (_, ds) => ds.isEmpty then markupText width "No diagnostics found."
    else tableText width diagnosticColumns (d.flatMap fun (uri, ds) => ds.map (diagnosticRow uri))
  | .tokens ts =>
    if ts.isEmpty then markupText width "No semantic tokens."
    else tableText width tokenColumns (ts.map tokenRow)

end Notice

end LspHost.Display
