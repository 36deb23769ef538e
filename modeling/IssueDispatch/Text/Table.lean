import IssueDispatch.Fault

/-!
# Tables

A table is a row of headers, a row of dashes and rows of cells.  Every column is as wide as its
widest cell, columns are two spaces apart, and cells are padded on the right.
-/

namespace IssueDispatch.Text

/-- Pads a text with spaces on the right to a least width. -/
def padRight (width : Nat) (s : String) : String :=
  String.ofList (s.toList ++ List.replicate (width - s.length) ' ')

/-- The width of each column of a table with the given headers.  Every row needs a cell for every
header. -/
def columnWidths (headers : List String) (rows : List (List String)) : Except Fault (List Nat) :=
  (List.range headers.length).mapM fun i => do
    let cells ← (headers :: rows).mapM fun row =>
      match row[i]? with
      | some cell => .ok cell
      | none => .error Fault.missingCell
    return cells.foldl (fun width cell => max width cell.length) 0

/-- One line of a table; cells beyond the last column are left out. -/
def tableLine (widths : List Nat) (cells : List String) : String :=
  "  ".intercalate (List.zipWith padRight widths cells)

/-- A table as one text. -/
def table (headers : List String) (rows : List (List String)) : Except Fault String := do
  let widths ← columnWidths headers rows
  let rule := widths.map fun width => String.ofList (List.replicate width '-')
  return "\n".intercalate
    (tableLine widths headers :: "  ".intercalate rule :: rows.map (tableLine widths))

end IssueDispatch.Text
