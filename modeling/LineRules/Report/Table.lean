import LineRules.Report.Wrap
import LineRules.Text.Line

/-!
# Tables

A table has a title in the middle above it, a heavy frame around its head and a light one
around its rows. Columns are as wide as their widest cell, with a blank on either side; if
that is too much for the terminal, the widest columns give way first.
-/

namespace LineRules.Report

open LineRules.Text

/-- Where the text of a cell stands. -/
inductive Alignment where
  | left
  | center
deriving Repr, DecidableEq

/-- A column of a table. -/
structure Column where
  header : String
  alignment : Alignment := .left
deriving Repr, DecidableEq

/-- A table. -/
structure Table where
  title : String
  columns : List Column
  rows : List (List (List Char))

/-- The characters of a line of a frame. -/
structure FrameLine where
  left : Char
  fill : Char
  middle : Char
  right : Char

/-- A row of a text brought to a width. In the middle it goes without the blanks at its
end. -/
def align (alignment : Alignment) (width : Nat) (row : List Char) : List Char :=
  let row := match alignment with
    | .left => row
    | .center => trimEnd row
  let excess := width - cells row
  let before := match alignment with
    | .left => 0
    | .center => excess / 2
  List.replicate before ' ' ++ row ++ List.replicate (excess - before) ' '

/-- The quotient rounded to the nearest number, and from the middle to an even one. -/
def roundedQuotient (a b : Nat) : Nat :=
  let quotient := a / b
  if 2 * (a % b) < b then quotient
  else if b < 2 * (a % b) then quotient + 1
  else quotient + quotient % 2

/-- Takes an excess evenly off the columns that are `level` wide; `sharing` counts those of
them that are still to come, and none gives more than `most`. -/
def takeOff (level most excess sharing : Nat) : List Nat → List Nat
  | [] => []
  | width :: rest =>
    if width = level then
      let given := min most (roundedQuotient excess sharing)
      (width - given) :: takeOff level most (excess - given) (sharing - 1) rest
    else width :: takeOff level most excess sharing rest

/-- The sum of some widths. -/
def totalWidth (widths : List Nat) : Nat := widths.foldr (· + ·) 0

/-- Narrows the widest columns, down to the next widest at a time, until all fit into a
room; `steps` bounds the number of times. -/
def narrow (room : Nat) : (steps : Nat) → List Nat → List Nat
  | 0, widths => widths
  | steps + 1, widths =>
    let excess := totalWidth widths - room
    if excess = 0 then widths
    else
      let widest := widths.foldr max 0
      let next := (widths.filter (· ≠ widest)).foldr max 0
      narrow room steps
        (takeOff widest (min excess (widest - next)) excess (widths.count widest) widths)

namespace Table

/-- The width of a cell: that of its widest line. -/
def cellWidth (cell : List Char) : Nat :=
  (splitWhere isLineBoundary cell).foldr (fun line width => max (cells line) width) 0

/-- The widths of all columns with the blanks on either side, on a terminal of a width. -/
def widths (table : Table) (terminal : Nat) : List Nat :=
  let room := terminal - (table.columns.length + 1)
  let wanted := table.columns.zipIdx.map fun (column, index) =>
    let inColumn := column.header.toList :: table.rows.map fun row => row[index]?.getD []
    min room (inColumn.foldr (fun cell width => max (cellWidth cell) width) 0 + 2)
  narrow room (totalWidth wanted) wanted

/-- A line of the frame. -/
def frameLine (line : FrameLine) (widths : List Nat) : List Char :=
  line.left :: [line.middle].intercalate
    (widths.map fun width => List.replicate width line.fill) ++ [line.right]

/-- The lines of a row between the characters of a frame. -/
def rowLines (edge inner : Char) (alignments : List Alignment) (widths : List Nat)
    (row : List (List Char)) : List (List Char) :=
  let wrapped := (row.zip widths).map fun (cell, width) => wrapText .shorten (width - 2) cell
  let height := wrapped.foldl (fun height rows => max height rows.length) 1
  (List.range height).map fun index =>
    let parts := ((wrapped.zip alignments).zip widths).map fun ((rows, alignment), width) =>
      ' ' :: align alignment (width - 2) (rows[index]?.getD []) ++ [' ']
    edge :: [inner].intercalate parts ++ [edge]

/-- The lines of a table on a terminal of a width. -/
def lines (table : Table) (terminal : Nat) : List (List Char) :=
  let widths := table.widths terminal
  let alignments := table.columns.map Column.alignment
  let total := totalWidth widths + (table.columns.length + 1)
  let header := table.columns.map fun column => column.header.toList
  [align .center total table.title.toList, frameLine ⟨'┏', '━', '┳', '┓'⟩ widths]
    ++ rowLines '┃' '┃' alignments widths header
    ++ [frameLine ⟨'┡', '━', '╇', '┩'⟩ widths]
    ++ table.rows.flatMap (rowLines '│' '│' alignments widths)
    ++ [frameLine ⟨'└', '─', '┴', '┘'⟩ widths]

end Table

end LineRules.Report
