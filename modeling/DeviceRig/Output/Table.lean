import DeviceRig.Text.Ligature

/-!
Tables drawn with box characters. A column is as wide as the widest line of any of its cells; a cell
may have several lines; a double rule stands below the header and dashes between the rows.
-/
namespace DeviceRig.Output

abbrev Cell := List String

def Cell.ofText (text : String) : Cell :=
  text.splitOn "\n"

def Cell.width (cell : Cell) : Nat :=
  cell.foldl (fun most line => max most (Text.width line)) 0

def columnWidths (rows : List (List Cell)) : List Nat :=
  rows.foldl (fun widths row => List.zipWith max widths (row.map Cell.width))
    ((rows.headD []).map fun _ => 0)

def repeated (text : String) (count : Nat) : String :=
  String.join (List.replicate count text)

def rule (left dash cross right : String) (widths : List Nat) : String :=
  left ++ String.intercalate cross (widths.map fun width => repeated dash (width + 2)) ++ right

/-- One line of a row. A cell that has no such line is blank there. -/
def rowLine (widths : List Nat) (row : List Cell) (index : Nat) : String :=
  let parts := List.zipWith
    (fun width cell =>
      let line := (cell[index]?).getD ""
      " " ++ line ++ repeated " " (width - Text.width line) ++ " ")
    widths row
  "│" ++ String.intercalate "┆" parts ++ "│"

def rowLines (widths : List Nat) (row : List Cell) : List String :=
  let height := row.foldl (fun most cell => max most cell.length) 0
  (List.range height).map (rowLine widths row)

def drawTable (header : List String) (rows : List (List String)) : String :=
  let head := header.map Cell.ofText
  let body := rows.map fun row => row.map Cell.ofText
  let widths := columnWidths (head :: body)
  let dashes := rule "├" "╌" "┼" "┤" widths
  let drawn := (body.map (rowLines widths)).intersperse [dashes]
  String.intercalate "\n"
    (rule "┌" "─" "┬" "┐" widths :: rowLines widths head
      ++ rule "╞" "═" "╪" "╡" widths :: drawn.flatten ++ [rule "└" "─" "┴" "┘" widths])

end DeviceRig.Output
