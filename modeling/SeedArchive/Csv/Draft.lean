namespace SeedArchive.Csv

/-- Where a reader stands: between records, before a field, in a field without quotes, in a quoted
field, or after a quote in one, which may be the first half of a doubled quote. -/
inductive Stand
  | outside
  | fieldStart
  | plain
  | quoted
  | afterQuote
  deriving DecidableEq

/-- What a reader of letters goes by: what separates fields, what quotes them, what ends a record,
and whether a line without a letter in it is a record. -/
structure Marks (α : Type) where
  comma : α
  quote : α
  ends : α → Bool
  blankLines : Bool
  comma_ne_quote : comma ≠ quote
  ends_comma : ends comma = false
  ends_quote : ends quote = false

theorem comma_ne_quote : ',' ≠ '"' := by
  decide

/-- A record under construction: its fields and the letters of the field that is read, last
first. -/
structure Draft (α : Type) where
  stand : Stand := .outside
  fields : List (List α) := []
  field : List α := []

namespace Draft

variable {α : Type}

def push (d : Draft α) (b : α) (stand : Stand) : Draft α :=
  { d with stand, field := b :: d.field }

def endField (d : Draft α) : Draft α :=
  { stand := .fieldStart, fields := d.field.reverse :: d.fields, field := [] }

def finish (d : Draft α) : List (List α) :=
  (d.field.reverse :: d.fields).reverse

variable [DecidableEq α]

/-- A letter outside of quotes: a comma ends the field and any letter that ends no record belongs
to it. -/
def outsideQuotes (m : Marks α) (d : Draft α) (b : α) : Draft α :=
  if b = m.comma then d.endField else d.push b .plain

/-- Reads a letter that ends no record. -/
def read (m : Marks α) (d : Draft α) (b : α) : Draft α :=
  match d.stand with
  | .outside | .fieldStart =>
    if b = m.quote then { d with stand := .quoted } else d.outsideQuotes m b
  | .plain => d.outsideQuotes m b
  | .quoted => if b = m.quote then { d with stand := .afterQuote } else d.push b .quoted
  | .afterQuote => if b = m.quote then d.push b .quoted else d.outsideQuotes m b

end Draft

/-- What is read so far: the records that are ended, last first, and the one under construction. -/
structure Progress (α : Type) where
  ended : List (List (List α)) := []
  draft : Draft α := {}

/-- All records, also the one that the letters stop in. -/
def Progress.records {α : Type} (p : Progress α) : List (List (List α)) :=
  p.ended.reverse ++ if p.draft.stand = .outside then [] else [p.draft.finish]

namespace Marks

variable {α : Type} [DecidableEq α]

def step (m : Marks α) (p : Progress α) (b : α) : Progress α :=
  if m.ends b ∧ p.draft.stand ≠ .quoted then
    if p.draft.stand = .outside ∧ ¬ m.blankLines then p else ⟨p.draft.finish :: p.ended, {}⟩
  else { p with draft := p.draft.read m b }

/-- The records of a text. -/
def records (m : Marks α) (text : List α) : List (List (List α)) :=
  (text.foldl m.step {}).records

end Marks

end SeedArchive.Csv
