import SeedArchive.Archive.Report
import SeedArchive.Text.Columns

namespace SeedArchive.Listing

/-- The lines of a cell; there is one at least. -/
def cellLines (cell : String) : List (List Char) :=
  cell.toList.splitOn '\n'

/-- The columns that the widest line of a cell takes. -/
def cellWidth (cell : String) : Nat :=
  ((cellLines cell).map Columns.ofLine).foldl max 0

def columnWidths (rows : List (List String)) : List Nat :=
  rows.foldl (fun widths row => widths.zipWith max (row.map cellWidth)) [0, 0, 0, 0]

/-- A line of a cell with a blank before it and blanks after it, one more than fill the column. -/
def padded (width : Nat) (line : List Char) : List Char :=
  ' ' :: line ++ List.replicate (width - Columns.ofLine line + 1) ' '

/-- The lines of a row, which is as high as its highest cell. -/
def rowLines (widths : List Nat) (row : List String) : List (List Char) :=
  let cells := row.map cellLines
  let height := (cells.map List.length).foldl max 0
  (List.range height).map fun i =>
    ['|'].intercalate (widths.zipWith padded (cells.map fun lines => lines.getD i []))

/-- The line under the head of a table. -/
def rule (widths : List Nat) : List Char :=
  ['+'].intercalate (widths.map fun width => List.replicate (width + 2) '-')

def head : List String :=
  ["Entry", "Rows", "Size", "Packed"]

def row (e : EntryReport) : List String :=
  [e.name, e.rows.elim "-" toString, toString e.size, toString e.packed]

def table (entries : List EntryReport) : List (List Char) :=
  let rows := entries.map row
  let widths := columnWidths (head :: rows)
  rowLines widths head ++ rule widths :: rows.flatMap (rowLines widths)

end SeedArchive.Listing

namespace SeedArchive

/-- A table of the entries, followed by a line for each difference from the layout. -/
def Report.listing (r : Report) : String :=
  if r.entries = [] then "Archive is empty."
  else
    let lines := Listing.table r.entries ++
      r.missing.map (fun n => "missing: ".toList ++ n.toList) ++
      r.unexpected.map (fun n => "unexpected: ".toList ++ n.toList)
    String.ofList (['\n'].intercalate lines)

end SeedArchive
