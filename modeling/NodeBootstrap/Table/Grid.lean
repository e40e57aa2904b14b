import NodeBootstrap.Text.Cut
import NodeBootstrap.Text.Width

/-!
# Tables in a frame

* `Cell`, `Table`: texts in rows and columns, with or without a header;
* `Table.widths`: the columns are as wide as their widest line;
* `Table.render`: the table in a frame of box-drawing characters.
-/

namespace NodeBootstrap

/-- Where a line stands in a column that is wider. -/
inductive Alignment where
  | left
  | center
deriving DecidableEq, Repr, Inhabited

/-- A text in a table. -/
structure Cell where
  text : String
  alignment : Alignment := .left
deriving DecidableEq, Repr, Inhabited

/-- A table; an empty header is not shown. -/
structure Table where
  header : List Cell := []
  rows : List (List Cell)
deriving DecidableEq, Repr, Inhabited

namespace Cell

/-- The lines of a cell. -/
def lines (c : Cell) : List String := Text.pieces '\n' c.text

/-- The width of the widest line. -/
def width (c : Cell) : Nat := (c.lines.map fun l => Width.columns l.toList).foldl max 0

/-- So many blanks. -/
def blanks (n : Nat) : String := String.ofList (List.replicate n ' ')

/-- A line in a column of some width; of an odd number of blanks around a centred line one more
stands before it. -/
def align (a : Alignment) (width : Nat) (line : String) : String :=
  let room := width - Width.columns line.toList
  match a with
  | .left => line ++ blanks room
  | .center => blanks ((room + 1) / 2) ++ line ++ blanks (room / 2)

/-- A line of a cell in a column of some width; lines that the cell does not have are empty. -/
def lineAt (c : Cell) (width k : Nat) : String := align c.alignment width (c.lines[k]?.getD "")

end Cell

namespace Table

/-- The larger number at each place. -/
def widest : List Nat → List Nat → List Nat
  | [], ns => ns
  | ms, [] => ms
  | m :: ms, n :: ns => max m n :: widest ms ns

/-- The widths of the columns. -/
def widths (t : Table) : List Nat :=
  ((t.header :: t.rows).map fun row => row.map Cell.width).foldl widest []

/-- A line of the frame: its start, its stroke, what stands between two columns, and its end. -/
def frame (start stroke between finish : String) (widths : List Nat) : String :=
  let strokes := widths.map fun w => String.join (List.replicate (w + 2) stroke)
  start ++ Text.glue between strokes ++ finish

/-- The lines of a row. -/
def rowLines (widths : List Nat) (row : List Cell) : List String :=
  let height := (row.map fun c => c.lines.length).foldl max 0
  (List.range height).map fun k =>
    let cells := (row.zip widths).map fun (c, w) => " " ++ c.lineAt w k ++ " "
    "│" ++ Text.glue "┆" cells ++ "│"

/-- The lines of rows, with a line of the frame between each two. -/
def bodyLines (widths : List Nat) : List (List Cell) → List String
  | [] => []
  | [row] => rowLines widths row
  | row :: next :: rows =>
    rowLines widths row ++ frame "├" "╌" "┼" "┤" widths :: bodyLines widths (next :: rows)

/-- The lines of the header, if there is one, and the line under it. -/
def headerLines (widths : List Nat) (header : List Cell) : List String :=
  if header.isEmpty then [] else rowLines widths header ++ [frame "╞" "═" "╪" "╡" widths]

/-- The table in its frame, without an end of the last line. -/
def render (t : Table) : String :=
  let ws := t.widths
  Text.glue "\n" <|
    frame "┌" "─" "┬" "┐" ws :: headerLines ws t.header ++ bodyLines ws t.rows ++
      [frame "└" "─" "┴" "┘" ws]

end Table

end NodeBootstrap
