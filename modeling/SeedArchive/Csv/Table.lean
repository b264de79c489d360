namespace SeedArchive.Csv

def needsQuotes (c : Char) : Bool :=
  c = ',' ∨ c = '"' ∨ c = '\n'

/-- A quote inside a quoted field is written twice. -/
def double (c : Char) : List Char :=
  if c = '"' then ['"', '"'] else [c]

/-- A field with a comma, a quote or a line feed in it is quoted; any other is written as it is. -/
def escape (s : String) : String :=
  if s.toList.any needsQuotes then String.ofList ('"' :: s.toList.flatMap double ++ ['"']) else s

/-- A field that is written without quotes though there is a carriage return in it, which ends a
record for other readers. -/
def BareReturn (s : String) : Prop :=
  '\r' ∈ s.toList ∧ ',' ∉ s.toList ∧ '"' ∉ s.toList ∧ '\n' ∉ s.toList

instance : DecidablePred BareReturn := fun s => by
  unfold BareReturn
  infer_instance

/-- Fields with commas between them. -/
def join : List String → String
  | [] => ""
  | [field] => field
  | field :: rest => field ++ "," ++ join rest

/-- The text of a table: a header and rows, each ended by a line feed, and the number of rows. -/
structure Table where
  text : String
  rows : Nat
  deriving DecidableEq

namespace Table

def header (columns : String) : Table :=
  ⟨columns ++ "\n", 0⟩

/-- Puts a row after the others. The fields are taken as they are. -/
def push (t : Table) (fields : List String) : Table :=
  ⟨t.text ++ join fields ++ "\n", t.rows + 1⟩

def pushAll (t : Table) (rows : List (List String)) : Table :=
  rows.foldl push t

end Table

end SeedArchive.Csv
