import FabricAudit.Report.Terminal
import FabricAudit.Text.Width

set_option autoImplicit false

/-! # Tables of results

Results as a table in Markdown, with a heading. Every column is as wide as its widest line; a cell
with several lines makes its row as high.
-/

namespace FabricAudit.Table

def heading : List String := ["Phase", "Status", "Severity", "Check", "Message"]

def cellLines (cell : String) : List String := Text.splitAt '\n' cell

def cellWidth (cell : String) : Nat := ((cellLines cell).map Text.width).foldl max 0

def columnWidths (rows : List (List String)) : List Nat :=
  rows.foldl (fun widths row => List.zipWith max widths (row.map cellWidth))
    (heading.map fun _ => 0)

def paddedLine (width : Nat) (line : String) : String :=
  " " ++ line ++ String.ofList (List.replicate (width - Text.width line) ' ') ++ " "

/-- The pieces of a line of a table, with bars around them. -/
def barred (pieces : List String) : String := "|" ++ String.join (pieces.map (· ++ "|"))

def rowLines (widths : List Nat) (row : List String) : List String :=
  let cells := row.map cellLines
  let height := (cells.map List.length).foldl max 1
  (List.range height).map fun i =>
    barred (List.zipWith (fun width lines => paddedLine width (lines[i]?.getD "")) widths cells)

def rule (widths : List Nat) : String :=
  barred (widths.map fun width => String.ofList (List.replicate (width + 2) '-'))

def lines (s : Summary) : List String :=
  let rows := s.results.map Terminal.row
  let widths := columnWidths (heading :: rows)
  rowLines widths heading ++ [rule widths] ++ rows.flatMap (rowLines widths)

end FabricAudit.Table
