import SeedArchive.Seed.Account

namespace SeedArchive

/-- A line of a journal template. -/
structure TemplateLine where
  account : String := ""
  hint : String := ""
  position : Position := .debit
  formula : String := ""
  description : String := ""
  deriving DecidableEq, Repr

namespace TemplateLine

def record : Json.Record TemplateLine where
  name := "struct TemplateLine"
  blank := {}
  fields := [
    .any "accountCode" fun v l => { l with account := v.text },
    .any "accountHint" fun v l => { l with hint := v.text },
    .any "position" fun v l => { l with position := (v.text?.map .ofText).getD .debit },
    .any "formula" fun v l => { l with formula := v.text },
    .any "description" fun v l => { l with description := v.text }]

end TemplateLine

structure JournalTemplate where
  name : String := ""
  category : String := "EXPENSE"
  cashFlow : String := "OPERATING"
  description : String := ""
  lines : List TemplateLine := []
  tags : List String := []
  deriving DecidableEq, Repr

namespace JournalTemplate

/-- The lines with their order, counted from 1. -/
def numberedLines (t : JournalTemplate) : List (Nat × TemplateLine) :=
  t.lines.zipIdx.map fun (line, i) => (i + 1, line)

/-- The texts of a list of tags, which may be null. -/
def readTags (depth : Nat) (node : Json.Node) : Except Json.Trouble (List String) :=
  match node.value depth with
  | .error fault => .error (.placed fault)
  | .ok .null => .ok []
  | .ok (.array items) => .ok (items.map Json.text)
  | .ok v => .error (.unplaced (.notList v))

def record : Json.Record JournalTemplate where
  name := "struct JournalTemplate"
  blank := {}
  fields := [
    .any "name" fun v t => { t with name := v.text },
    .any "category" fun v t => { t with category := v.text?.getD "EXPENSE" },
    .any "cashFlowCategory" fun v t => { t with cashFlow := v.text?.getD "OPERATING" },
    .any "description" fun v t => { t with description := v.text },
    .nullable "lines" (Json.readList TemplateLine.record.read) fun lines t => { t with lines },
    { key := "tags"
      read := fun depth node => (readTags depth node).map fun tags t => { t with tags } }]

/-- Reads a catalog of templates. -/
def catalog : Json.Record (List JournalTemplate) where
  name := "struct TemplateCatalog"
  blank := []
  fields := [.list "templates" record.read fun templates _ => templates]

end JournalTemplate

end SeedArchive
