/-!
# Aligned columns

A table of text cells. Each column but the last is as wide as its widest cell and two spaces; the
last cell of a row is written as it is.
-/

namespace Lanewise.Text

def columnGap : Nat := 2

/-- The width of the widest cell among the heads of the rows that go on after it. -/
def columnWidth (rows : List (List String)) : Nat :=
  rows.foldl (fun width row =>
    match row with
    | cell :: _ :: _ => max width cell.length
    | _ => width) 0

def columnWidths : Nat → List (List String) → List Nat
  | 0, _ => []
  | n + 1, rows => columnWidth rows :: columnWidths n (rows.map List.tail)

def alignRow : List Nat → List String → String
  | width :: widths, cell :: next :: cells =>
    cell ++ String.ofList (List.replicate (width + columnGap - cell.length) ' ') ++
      alignRow widths (next :: cells)
  | _, cells => String.join cells

def alignRows (rows : List (List String)) : List String :=
  let columns := rows.foldl (fun n row => max n row.length) 0
  rows.map (alignRow (columnWidths columns rows))

end Lanewise.Text
