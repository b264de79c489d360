import SeedArchive.Csv.Draft

namespace SeedArchive.Csv

/-- Nothing but a line feed outside of quotes ends a record; a carriage return is like any other
character, and a blank line is a record of one empty field. -/
def Marks.lineFeeds : Marks Char where
  comma := ','
  quote := '"'
  ends c := c = '\n'
  blankLines := true
  comma_ne_quote := Csv.comma_ne_quote
  ends_comma := by decide
  ends_quote := by decide

/-- A table as its text tells it: the names of the columns and the records under them. -/
structure Sheet where
  columns : List String
  records : List (List String)
  deriving DecidableEq, Repr

namespace Sheet

/-- Undoes the quoting of a table. -/
def ofText (text : String) : Sheet :=
  match (Marks.lineFeeds.records text.toList).map (·.map String.ofList) with
  | [] => ⟨[], []⟩
  | columns :: records => ⟨columns, records⟩

/-- The field of a record under a column name. -/
def cell (t : Sheet) (column : String) (record : List String) : String :=
  ((t.columns.zip record).lookup column).getD ""

/-- The fields of all records under a column name. -/
def column (t : Sheet) (name : String) : List String :=
  t.records.map (t.cell name)

end Sheet

end SeedArchive.Csv
