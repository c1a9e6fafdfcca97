import LspHost.Protocol.Position

/-!
Diagnostics: what a server has to say about a place in a document.
-/

namespace LspHost

/-- A code of a diagnostic: a number or a text. -/
inductive DiagnosticCode where
  | number (n : Int)
  | name (s : String)
  deriving DecidableEq, Repr

namespace DiagnosticCode

/-- A text is a name; everything that can be read as an integer is a number. -/
def ofJson? : Json → Option DiagnosticCode
  | .str s => some (.name s)
  | v => (Schema.integer? v).map .number

def toJson : DiagnosticCode → Json
  | .number n => .int n
  | .name s => .str s

end DiagnosticCode

/-- A remark about a range of a document. -/
structure Diagnostic where
  range : Range
  message : String
  severity : Option Int
  code : Option DiagnosticCode
  source : Option String
  deriving DecidableEq, Repr

namespace Diagnostic

def ofMembers (m : Members) : Except Misfit Diagnostic :=
  (((((Checked.start Diagnostic.mk).ap (Schema.required m "range" Range.ofJson?)).ap
    (Schema.required m "message" Schema.text?)).ap
    (Schema.optional m "severity" Schema.integer?)).ap
    (Schema.optional m "code" DiagnosticCode.ofJson?)).ap
    (Schema.optional m "source" Schema.text?) |>.under "Diagnostic"

def ofJson? (v : Json) : Option Diagnostic :=
  (Schema.members? v).bind fun m => (ofMembers m).toOption

def toMembers (d : Diagnostic) (g : Gaps) : Members :=
  [("range", d.range.toJson), ("message", .str d.message)]
    ++ g.field "severity" (d.severity.map .int)
    ++ g.field "code" (d.code.map DiagnosticCode.toJson)
    ++ g.field "source" (d.source.map .str)

def toJson (d : Diagnostic) (g : Gaps) : Json := .obj (d.toMembers g)

/-- The word for a severity. -/
def severityWord (severity : Option Int) : String :=
  match severity with
  | some 1 => "Error"
  | some 2 => "Warning"
  | some 3 => "Info"
  | some 4 => "Hint"
  | _ => "Unknown"

/-- A diagnostic in one line, its place counted from one. -/
def format (d : Diagnostic) : String :=
  let source := match d.source with
    | some s => if s.isEmpty then "" else "[" ++ s ++ "] "
    | none => ""
  source ++ severityWord d.severity ++ " at line " ++ toString (d.range.start.line + 1) ++ ":"
    ++ toString (d.range.start.character + 1) ++ ": " ++ d.message

end Diagnostic

/-- The diagnostics of one document, as a server publishes them. -/
structure PublishedDiagnostics where
  uri : String
  diagnostics : List Diagnostic
  version : Option Int
  deriving DecidableEq, Repr

namespace PublishedDiagnostics

def ofMembers (m : Members) : Except Misfit PublishedDiagnostics :=
  (((Checked.start PublishedDiagnostics.mk).ap (Schema.required m "uri" Schema.text?)).ap
    (Schema.required m "diagnostics" (Schema.list? Diagnostic.ofJson?))).ap
    (Schema.optional m "version" Schema.integer?) |>.under "PublishDiagnosticsParams"

def toMembers (p : PublishedDiagnostics) (g : Gaps) : Members :=
  [("uri", .str p.uri), ("diagnostics", .arr (p.diagnostics.map fun d => d.toJson g))]
    ++ g.field "version" (p.version.map .int)

end PublishedDiagnostics

end LspHost
