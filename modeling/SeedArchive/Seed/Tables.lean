import SeedArchive.Csv.Table
import SeedArchive.Seed.Basic

namespace SeedArchive

namespace Account

def columns : String :=
  "account_code,account_name,account_type,parent_code,normal_balance,active,created_at"

/-- An account as a row: it is active and was never created by a user. -/
def cells (a : Account) : List String :=
  [a.code, a.name, a.typeText, a.parentText, a.balance.text, "true", ""]

end Account

namespace TemplateLine

def columns : String :=
  "template_name,line_order,account_code,account_hint,position,formula,description"

def cells (template : String) (order : Nat) (l : TemplateLine) : List String :=
  [template, toString order, l.account, l.hint, l.position.text, l.formula, l.description]

end TemplateLine

namespace JournalTemplate

def columns : String :=
  "template_name,category,cash_flow_category,template_type,description,is_favorite,is_system,active,version,usage_count,last_used_at"

/-- A template as a row: simple, active, in its first version and not used so far. -/
def cells (t : JournalTemplate) : List String :=
  [t.name, t.category, t.cashFlow, "SIMPLE", t.description, "false", "false", "true", "1", "0", ""]

def lineCells (t : JournalTemplate) : List (List String) :=
  t.numberedLines.map fun (order, line) => line.cells t.name order

def tagColumns : String :=
  "template_name,tag"

def tagCells (t : JournalTemplate) : List (List String) :=
  t.tags.map fun tag => [t.name, tag]

end JournalTemplate

namespace Seed

/-- A table of the given cells, each escaped. -/
def table (columns : String) (rows : List (List String)) : Csv.Table :=
  (Csv.Table.header columns).pushAll (rows.map (·.map Csv.escape))

def accountTable (s : Seed) : Csv.Table :=
  table Account.columns (s.accounts.map Account.cells)

def templateTable (s : Seed) : Csv.Table :=
  table JournalTemplate.columns (s.templates.map JournalTemplate.cells)

def lineTable (s : Seed) : Csv.Table :=
  table TemplateLine.columns (s.templates.flatMap JournalTemplate.lineCells)

def tagTable (s : Seed) : Csv.Table :=
  table JournalTemplate.tagColumns (s.templates.flatMap JournalTemplate.tagCells)

end Seed

end SeedArchive
