import LspHost.Display.Lines
import LspHost.Number.Binary64

/-!
Tables with a heavy frame around their head. Columns are as wide as what they hold; if that is more
than there is room for, the widest ones give way first.
-/

namespace LspHost.Display

/-- A column: its head, and where its cells stand. -/
structure Column where
  head : String
  justify : Justify
  deriving DecidableEq, Repr

/-- A table, its cells row by row. -/
structure Table where
  columns : List Column
  rows : List (List (List Char))
  deriving DecidableEq, Repr

namespace Table

/-- The blank on both sides of a cell. -/
def padding : Nat := 2

/-- Characters that end a line where the width of a text is measured. -/
def endsLine (c : Char) : Bool :=
  let n := c.toNat
  n = 10 ∨ (0x1C ≤ n ∧ n ≤ 0x1E) ∨ n = 0x85 ∨ n = 0x2028 ∨ n = 0x2029

/-- The width of the widest line of a text, the present one being so wide. -/
def widestFrom : Nat → Nat → List Char → Nat
  | now, widest, [] => max now widest
  | now, widest, c :: rest =>
    if endsLine c then widestFrom 0 (max now widest) rest
    else widestFrom (now + Text.charWidth c) widest rest

/-- The width that a cell asks for where there is so much room. -/
def cellWidth (room : Nat) (s : List Char) : Nat :=
  if room < padding + 1 then room else min (widestFrom 0 0 s + padding) room

/-- The width that a column asks for where there is so much room. -/
def columnWidth (room : Nat) (cells : List (List Char)) : Nat :=
  (cells.map (cellWidth room)).foldl max 0

/-- The cells of each column, its head first. -/
def columnCells (t : Table) : List (List (List Char)) :=
  t.columns.zipIdx.map fun (c, i) => c.head.toList :: t.rows.map fun r => (r[i]?).getD []

/-- Takes an amount off widths, each by its share of what is left and by no more than a limit. -/
def reduce : Nat → Nat → List (Bool × Nat × Nat) → List Nat
  | _, _, [] => []
  | excess, shares, (takes, most, width) :: rest =>
    if takes && most ≠ 0 && shares ≠ 0 then
      let part := min most (roundHalfEven excess shares)
      (width - part) :: reduce (excess - part) (shares - 1) rest
    else width :: reduce excess shares rest

/-- All widths together. -/
def total (widths : List Nat) : Nat := widths.foldl (· + ·) 0

/-- Narrows the widest columns to the width of the next ones, until all fit. The fuel bounds the
widths that there are. -/
def collapse (room : Nat) : Nat → List Nat → List Nat
  | 0, widths => widths
  | fuel + 1, widths =>
    let excess := total widths - room
    let widest := widths.foldl max 0
    let second := (widths.filter (· ≠ widest)).foldl max 0
    let difference := widest - second
    if excess = 0 ∨ difference = 0 then widths
    else
      let most := min excess difference
      let parts := widths.map fun w => (decide (w = widest), most, w)
      collapse room fuel (reduce excess (widths.filter (· = widest)).length parts)

/-- Takes what is still too much off all columns alike. -/
def reduceEvenly (room : Nat) (widths : List Nat) : List Nat :=
  if total widths ≤ room then widths
  else
    reduce (total widths - room) (widths.filter (· ≠ 0)).length (widths.map fun w => (true, w, w))

/-- The width of the lines between and around columns. -/
def frameWidth (t : Table) : Nat := t.columns.length + 1

/-- The widths of the columns in a given width. -/
def widths (t : Table) (width : Nat) : List Nat :=
  let room := width - t.frameWidth
  let cells := t.columnCells
  let asked := cells.map fun c => max 1 (columnWidth room c)
  if total asked ≤ room then asked
  else
    let given := reduceEvenly room (collapse room (total asked + 1) asked)
    (given.zip cells).map fun (w, c) => columnWidth w c

/-- A line of the frame: its ends, its crossings and what runs between them. -/
def rule (left cross right line : Char) (widths : List Nat) : List Char :=
  left :: ([cross].intercalate (widths.map fun w => List.replicate w line)) ++ [right]

/-- The lines of a cell in a column of a width. -/
def cellLines (width : Nat) (j : Justify) (s : List Char) : List (List Char) :=
  let inner := width - padding
  (Lines.wrap inner .ellipsis j s).map fun l =>
    let l := Lines.truncate inner .fold l
    Lines.truncate width .fold (' ' :: l ++ Lines.blanks (inner - Text.width l) ++ [' '])

/-- The lines of a row between dividers. -/
def rowLines (divider : Char) (columns : List Column) (widths : List Nat) (row : List (List Char)) :
    List (List Char) :=
  let cells := ((columns.zip widths).zip row).map fun ((c, w), s) => (w, cellLines w c.justify s)
  let height := (cells.map fun c => c.2.length).foldl max 1
  (List.range height).map fun i =>
    let parts := cells.map fun (w, ls) => (ls[i]?).getD (Lines.blanks w)
    divider :: ([divider].intercalate parts) ++ [divider]

/-- The lines of a table in a given width. -/
def lines (t : Table) (width : Nat) : List (List Char) :=
  let widths := t.widths width
  let heads := t.columns.map fun c => c.head.toList
  [rule '┏' '┳' '┓' '━' widths]
    ++ rowLines '┃' t.columns widths heads
    ++ [rule '┡' '╇' '┩' '━' widths]
    ++ t.rows.flatMap (rowLines '│' t.columns widths)
    ++ [rule '└' '┴' '┘' '─' widths]

end Table

end LspHost.Display
