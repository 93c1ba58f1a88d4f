import ControlPlane.Text.Width

/-!
Bordered tables. A column is as wide as its widest line; a blank stands on either side of every
cell, and a row has as many lines as the highest of its cells.
-/

namespace ControlPlane

/-- A header and the rows below it, each with a cell for every column. -/
structure Table where
  header : List String
  rows : List (List String) := []
  deriving DecidableEq, Inhabited

namespace Table

/-- The lines of a cell. -/
def linesOf (cell : String) : List String := cell.splitOn "\n"

/-- The width of a cell. -/
def cellWidth (cell : String) : Nat := ((linesOf cell).map Text.width).max?.getD 0

/-- The widths of the columns. -/
def widths (t : Table) : List Nat :=
  t.rows.foldl (fun widths row => List.zipWith max widths (row.map cellWidth))
    (t.header.map cellWidth)

/-- A border: its left end, what it is made of, what crosses the borders of columns, and its right
end. -/
structure Border where
  left : Char
  line : Char
  cross : Char
  right : Char

def topBorder : Border := ⟨'┌', '─', '┬', '┐'⟩

def headerBorder : Border := ⟨'╞', '═', '╪', '╡'⟩

def rowBorder : Border := ⟨'├', '╌', '┼', '┤'⟩

def bottomBorder : Border := ⟨'└', '─', '┴', '┘'⟩

/-- A border across columns. -/
def Border.across (b : Border) (widths : List Nat) : String :=
  let spans := widths.map fun w => String.ofList (List.replicate (w + 2) b.line)
  b.left.toString ++ String.intercalate b.cross.toString spans ++ b.right.toString

/-- A line filled up with blanks to a width. -/
def filled (width : Nat) (line : String) : String :=
  line ++ String.ofList (List.replicate (width - Text.width line) ' ')

/-- The line of a row at a height from its top. -/
def rowLine (widths : List Nat) (cells : List (List String)) (height : Nat) : String :=
  "│ " ++
    String.intercalate " ┆ " (List.zipWith (fun w lines => filled w (lines.getD height ""))
      widths cells) ++ " │"

/-- The lines of a row. -/
def rowLines (widths : List Nat) (row : List String) : List String :=
  let cells := row.map linesOf
  (List.range ((cells.map List.length).max?.getD 0)).map (rowLine widths cells)

/-- The lines of a table. -/
def lines (t : Table) : List String :=
  let widths := t.widths
  let body := ((t.rows.map (rowLines widths)).intersperse [rowBorder.across widths]).flatten
  [topBorder.across widths] ++ rowLines widths t.header ++ [headerBorder.across widths] ++ body ++
    [bottomBorder.across widths]

/-- The text of a table, without an end of its last line. -/
def render (t : Table) : String := String.intercalate "\n" t.lines

end Table

end ControlPlane
