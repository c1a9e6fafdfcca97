import LspHost.Schema

/-!
Places in a text document: positions, counted from zero, and ranges between two of them.
-/

namespace LspHost

/-- A place between two characters of a document, line and character counted from zero. -/
structure Position where
  line : Int
  character : Int
  deriving DecidableEq, Repr

namespace Position

def ofMembers (m : Members) : Except Misfit Position :=
  ((Checked.start Position.mk).ap (Schema.required m "line" Schema.integer?)).ap
    (Schema.required m "character" Schema.integer?) |>.under "Position"

def ofJson? (v : Json) : Option Position :=
  (Schema.members? v).bind fun m => (ofMembers m).toOption

def toMembers (p : Position) : Members :=
  [("line", .int p.line), ("character", .int p.character)]

def toJson (p : Position) : Json := .obj p.toMembers

end Position

/-- The part of a document between two places. -/
structure Range where
  start : Position
  stop : Position
  deriving DecidableEq, Repr

namespace Range

def ofMembers (m : Members) : Except Misfit Range :=
  ((Checked.start Range.mk).ap (Schema.required m "start" Position.ofJson?)).ap
    (Schema.required m "end" Position.ofJson?) |>.under "Range"

def ofJson? (v : Json) : Option Range :=
  (Schema.members? v).bind fun m => (ofMembers m).toOption

def toMembers (r : Range) : Members :=
  [("start", r.start.toJson), ("end", r.stop.toJson)]

def toJson (r : Range) : Json := .obj r.toMembers

end Range

end LspHost
