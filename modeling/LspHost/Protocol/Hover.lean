import LspHost.Protocol.Position
import LspHost.Datum

/-!
Hover answers: texts about a place in a document.
-/

namespace LspHost

/-- One piece of a hover: a plain text, or an object whose `value` is the text. -/
inductive HoverPiece where
  | plain (s : String)
  | marked (m : Members)
  deriving DecidableEq

namespace HoverPiece

def ofJson? : Json → Option HoverPiece
  | .str s => some (.plain s)
  | .obj m => some (.marked m)
  | _ => none

def toJson : HoverPiece → Json
  | .plain s => .str s
  | .marked m => .obj m

/-- The text of a piece, if it has one that counts as present. -/
def text? : HoverPiece → Option String
  | .plain s => if s.isEmpty then none else some s
  | .marked m =>
    match m.get? "value" with
    | some v => if v.isTruthy then some (String.ofList v.display) else none
    | none => none

end HoverPiece

/-- What a hover holds: one piece or a list of pieces. -/
inductive HoverContents where
  | one (p : HoverPiece)
  | many (ps : List HoverPiece)
  deriving DecidableEq

namespace HoverContents

def ofJson? : Json → Option HoverContents
  | .arr items => (Schema.each? HoverPiece.ofJson? items).map .many
  | v => (HoverPiece.ofJson? v).map .one

def toJson : HoverContents → Json
  | .one p => p.toJson
  | .many ps => .arr (ps.map HoverPiece.toJson)

def pieces : HoverContents → List HoverPiece
  | .one p => [p]
  | .many ps => ps

end HoverContents

/-- A hover answer. -/
structure Hover where
  contents : HoverContents
  range : Option Range
  deriving DecidableEq

namespace Hover

def ofMembers (m : Members) : Except Misfit Hover :=
  ((Checked.start Hover.mk).ap (Schema.required m "contents" HoverContents.ofJson?)).ap
    (Schema.optional m "range" Range.ofJson?) |>.under "Hover"

def toMembers (h : Hover) (g : Gaps) : Members :=
  [("contents", h.contents.toJson)] ++ g.field "range" (h.range.map Range.toJson)

/-- The texts of all pieces, one to a line, those without text left out. -/
def text (h : Hover) : String :=
  "\n".intercalate (h.contents.pieces.filterMap HoverPiece.text?)

end Hover

end LspHost
