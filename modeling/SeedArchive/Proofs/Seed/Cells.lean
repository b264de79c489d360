import SeedArchive.Proofs.Seed.Records
import SeedArchive.Proofs.Seed.References

namespace SeedArchive

/-- The types that the importer knows. -/
def AccountType.words : List String :=
  ["ASSET", "LIABILITY", "EQUITY", "REVENUE", "EXPENSE"]

theorem AccountType.isRecognised_ofText (s : String) :
    (ofText s).isRecognised = true ↔ s ∈ words := by
  unfold ofText
  repeat' split
  all_goals simp_all [isRecognised, words]

theorem AccountType.text_getD_ofText (text? : Option String) :
    ((text?.map ofText).map text).getD "" = text?.getD "" := by
  cases text? with
  | none => rfl
  | some s => exact text_ofText s

/-- The sides that the importer knows. -/
def Position.words : List String :=
  ["DEBIT", "CREDIT"]

theorem Position.isRecognised_ofText (s : String) :
    (ofText s).isRecognised = true ↔ s ∈ words := by
  unfold ofText
  repeat' split
  all_goals simp_all [isRecognised, words]

theorem Position.text_getD_ofText (text? : Option String) :
    ((text?.map ofText).getD .debit).text = text?.getD "DEBIT" := by
  cases text? with
  | none => rfl
  | some s => exact text_ofText s

theorem toList_strange {α : Type} {known : Bool} {s : String} {words : List String}
    (h : known = true ↔ s ∈ words) (f : String → α) :
    (if known then [] else [f s]) = (((some s).filter (· ∉ words)).map f).toList := by
  by_cases hs : s ∈ words
  · simp [h.mpr hs, Option.filter, hs]
  · simp [h.not.mpr hs, Option.filter, hs]

/-- An absent position is known. -/
theorem Position.unrecognised_eq {α : Type} (text? : Option String) (f : String → α) :
    (if ((text?.map ofText).getD .debit).isRecognised then []
      else [f ((text?.map ofText).getD .debit).text]) =
      ((text?.filter (· ∉ words)).map f).toList := by
  cases text? with
  | none => rfl
  | some s =>
    rw [Option.map_some, Option.getD_some, text_ofText]
    exact toList_strange (isRecognised_ofText s) f

namespace Json.Node

/-- The text that a record has for a key, if it is none of some words. -/
def strange? (keys : List String) (key : String) (words : List String) (n : Node) :
    Option String :=
  (n.columnText? keys key).filter (· ∉ words)

def accountRow (n : Node) : List String :=
  [n.cell accountKeys "code" "", n.cell accountKeys "name" "", n.cell accountKeys "type" "",
    n.cell accountKeys "parentCode" "", n.cell accountKeys "normalBalance" "DEBIT", "true", ""]

def templateRow (n : Node) : List String :=
  [n.cell templateKeys "name" "", n.cell templateKeys "category" "EXPENSE",
    n.cell templateKeys "cashFlowCategory" "OPERATING", "SIMPLE",
    n.cell templateKeys "description" "", "false", "false", "true", "1", "0", ""]

def lineRow (template : String) (order : Nat) (n : Node) : List String :=
  [template, toString order, n.cell lineKeys "accountCode" "", n.cell lineKeys "accountHint" "",
    n.cell lineKeys "position" "DEBIT", n.cell lineKeys "formula" "",
    n.cell lineKeys "description" ""]

/-- The lines of a template with their order, counted from 1. -/
def numberedLines (n : Node) : List (Nat × Node) :=
  (n.listAt templateKeys "lines").zipIdx.map fun (line, i) => (i + 1, line)

def lineRows (n : Node) : List (List String) :=
  n.numberedLines.map fun (order, line) => line.lineRow (n.cell templateKeys "name" "") order

def tagRows (n : Node) : List (List String) :=
  (n.listAt templateKeys "tags").map fun tag => [n.cell templateKeys "name" "", tag.tag]

/-- The texts of an account that the importer does not know. -/
def accountStrangers (n : Node) : List Finding :=
  let owner := .account (n.cell accountKeys "code" "")
  ((n.strange? accountKeys "type" AccountType.words).map
      (.unrecognised owner .accountType)).toList ++
    ((n.strange? accountKeys "normalBalance" Position.words).map
      (.unrecognised owner .normalBalance)).toList

/-- The texts of the lines of a template that the importer does not know. -/
def lineStrangers (n : Node) : List Finding :=
  n.numberedLines.flatMap fun (order, line) =>
    ((line.strange? lineKeys "position" Position.words).map
      (.unrecognised (.line (n.cell templateKeys "name" "") order) .position)).toList

theorem cells_account (n : Node) : n.account.cells = n.accountRow := by
  have htype : n.account.typeText = n.cell accountKeys "type" "" :=
    AccountType.text_getD_ofText _
  rw [Account.cells, accountRow, htype, account, Position.text_getD_ofText]
  rfl

theorem cells_template (n : Node) : n.template.cells = n.templateRow := by
  rfl

theorem cells_line (template : String) (order : Nat) (n : Node) :
    n.line.cells template order = n.lineRow template order := by
  rw [TemplateLine.cells, lineRow, line, Position.text_getD_ofText]
  rfl

theorem numberedLines_template (n : Node) :
    n.template.numberedLines = n.numberedLines.map fun p => (p.1, p.2.line) := by
  rw [JournalTemplate.numberedLines, template, List.zipIdx_map, List.map_map, numberedLines,
    List.map_map]
  rfl

theorem lineCells_template (n : Node) : n.template.lineCells = n.lineRows := by
  rw [JournalTemplate.lineCells, numberedLines_template, List.map_map, lineRows]
  exact List.map_congr_left fun p _ => cells_line _ p.1 p.2

theorem tagCells_template (n : Node) : n.template.tagCells = n.tagRows := by
  rw [JournalTemplate.tagCells, template, List.map_map, tagRows]
  rfl

theorem unrecognised_account (n : Node) : n.account.unrecognised = n.accountStrangers := by
  rw [Account.unrecognised, accountStrangers, account, strange?, strange?,
    Position.unrecognised_eq]
  congr 1
  cases n.columnText? accountKeys "type" with
  | none => rfl
  | some s =>
    dsimp only [Option.map_some]
    rw [AccountType.text_ofText]
    exact toList_strange (AccountType.isRecognised_ofText s) _

theorem unrecognised_lines_template (n : Node) :
    (n.template.numberedLines.flatMap fun p => p.2.unrecognised n.template.name p.1) =
      n.lineStrangers := by
  rw [numberedLines_template, List.flatMap_map, lineStrangers]
  exact List.flatMap_congr fun p _ => Position.unrecognised_eq _ _

end Json.Node

def Finding.isUnrecognised : Finding → Bool
  | .unrecognised _ _ _ => true
  | _ => false

theorem filter_isUnrecognised_eq_self {found : List Finding}
    (h : ∀ x ∈ found, ∃ owner term value, x = .unrecognised owner term value) :
    found.filter Finding.isUnrecognised = found := by
  rw [List.filter_eq_self]
  intro x hx
  obtain ⟨owner, term, value, rfl⟩ := h x hx
  rfl

theorem filter_isUnrecognised_account (codes : List String) (a : Account) :
    (a.findings codes).filter Finding.isUnrecognised = a.unrecognised := by
  have hparent : (a.unknownParent codes).filter Finding.isUnrecognised = [] := by
    rw [a.unknownParent_eq]
    split <;> rfl
  rw [Account.findings, List.filter_append, hparent, List.append_nil]
  exact filter_isUnrecognised_eq_self fun _ => a.exists_of_mem_unrecognised

theorem filter_isUnrecognised_template (codes : List String) (t : JournalTemplate) :
    (t.findings codes).filter Finding.isUnrecognised =
      t.numberedLines.flatMap fun p => p.2.unrecognised t.name p.1 := by
  have hempty : (if t.lines = [] then [Finding.noLines t.name] else []).filter
      Finding.isUnrecognised = [] := by
    split <;> rfl
  rw [JournalTemplate.findings, List.filter_append, hempty, List.nil_append, List.filter_flatMap]
  refine List.flatMap_congr fun p _ => ?_
  show (p.2.findings codes t.name p.1).filter Finding.isUnrecognised = _
  have haccount : (p.2.unknownAccount codes t.name p.1).filter Finding.isUnrecognised = [] := by
    rw [TemplateLine.unknownAccount_eq]
    split <;> rfl
  rw [TemplateLine.findings, List.filter_append, haccount, List.append_nil]
  exact filter_isUnrecognised_eq_self fun _ => p.2.exists_of_mem_unrecognised t.name p.1

namespace Seed

theorem filter_isUnrecognised_findings (s : Seed) :
    s.findings.filter Finding.isUnrecognised =
      s.accounts.flatMap Account.unrecognised ++
        s.templates.flatMap fun t =>
          t.numberedLines.flatMap fun p => p.2.unrecognised t.name p.1 := by
  have hduplicates (f : String × Nat → Finding) (values : List String)
      (hf : ∀ d, (f d).isUnrecognised = false) :
      ((duplicates values).map f).filter Finding.isUnrecognised = [] := by
    rw [List.filter_eq_nil_iff, List.forall_mem_map]
    intro d _
    rw [hf]
    decide
  rw [findings, List.filter_append, List.filter_append, List.filter_append,
    hduplicates _ _ fun _ => rfl, hduplicates _ _ fun _ => rfl, List.nil_append, List.append_nil,
    List.filter_flatMap, List.filter_flatMap,
    List.flatMap_congr fun a _ => filter_isUnrecognised_account s.codes a,
    List.flatMap_congr fun t _ => filter_isUnrecognised_template s.codes t]

/-- What is written in a chart and a catalog is what the tables of a seed tell. Each column that is
used is a whole value, and a text that the importer does not know is told. -/
structure Copies (s : Seed) (chart catalog : Json.Node) : Prop where
  accounts : s.sheets.accounts.records = chart.accounts.map Json.Node.accountRow
  templates : s.sheets.templates.records = catalog.templates.map Json.Node.templateRow
  lines : s.sheets.lines.records = catalog.templates.flatMap Json.Node.lineRows
  tags : s.sheets.tags.records = catalog.templates.flatMap Json.Node.tagRows
  unrecognised : s.findings.filter Finding.isUnrecognised =
    chart.accounts.flatMap Json.Node.accountStrangers ++
      catalog.templates.flatMap Json.Node.lineStrangers
  legible_accounts : ∀ n ∈ chart.accounts, ∀ key ∈ Json.accountKeys,
    n.Legible Json.accountKeys key
  legible_templates : ∀ n ∈ catalog.templates, n.LegibleTemplate

end Seed

/-- The value that the document at a path starts with. -/
def Machine.nodeAt (m : Machine) (path : String) : Option Json.Node :=
  (m.contents path).toOption.map fun document => (Json.documentNode document).1

theorem exists_node_of_recordAt {α : Type} {r : Json.Record α} {m : Machine} {path : String}
    {a : α} (h : m.recordAt r path = .ok a) :
    ∃ n, m.nodeAt path = some n ∧ r.read 128 n = .ok a := by
  rw [Machine.recordAt] at h
  split at h
  · rw [Machine.nodeAt]
    cases hcontents : m.contents path with
    | error e =>
      rw [hcontents] at h
      cases h
    | ok document =>
      rw [hcontents] at h
      cases hdecode : Json.decode .streamed r.read document with
      | error refusal =>
        dsimp only at h
        rw [hdecode] at h
        cases h
      | ok b =>
        dsimp only at h
        rw [hdecode] at h
        cases h
        exact ⟨_, rfl, (Json.decode_eq_ok_iff.mp hdecode).1⟩
  · cases h

/-- Whatever value is written under a key of a seed that is loaded, its text comes into the tables,
and where none is written the default does. -/
theorem loadSeed_copies {m : Machine} {coa templates : String} {seed : Seed}
    (h : ((loadSeed coa templates : ExceptT Failure (StateM Machine) Seed).run m).1 = .ok seed) :
    ∃ chart catalog, m.nodeAt coa = some chart ∧ m.nodeAt templates = some catalog ∧
      seed.Copies chart catalog := by
  rw [run_loadSeed] at h
  obtain ⟨accounts, haccounts, h⟩ := bind_eq_ok_iff.mp h
  obtain ⟨journal, hjournal, h⟩ := bind_eq_ok_iff.mp h
  cases h
  obtain ⟨chart, hchart, hreadChart⟩ := exists_node_of_recordAt haccounts
  obtain ⟨catalog, hcatalog, hreadCatalog⟩ := exists_node_of_recordAt hjournal
  obtain ⟨hlegible, rfl⟩ := Json.yields_chart 128 chart accounts le_rfl hreadChart
  obtain ⟨hlegible', rfl⟩ := Json.yields_catalog 128 catalog journal le_rfl hreadCatalog
  refine ⟨chart, catalog, hchart, hcatalog, ?_⟩
  constructor
  case accounts =>
    rw [Seed.sheets_eq, Seed.accountSheet, List.map_map]
    exact List.map_congr_left fun n _ => n.cells_account
  case templates =>
    rw [Seed.sheets_eq, Seed.templateSheet, List.map_map]
    exact List.map_congr_left fun n _ => n.cells_template
  case lines =>
    rw [Seed.sheets_eq, Seed.lineSheet, List.flatMap_map]
    exact List.flatMap_congr fun n _ => n.lineCells_template
  case tags =>
    rw [Seed.sheets_eq, Seed.tagSheet, List.flatMap_map]
    exact List.flatMap_congr fun n _ => n.tagCells_template
  case unrecognised =>
    rw [Seed.filter_isUnrecognised_findings, List.flatMap_map, List.flatMap_map]
    exact congrArg₂ (· ++ ·) (List.flatMap_congr fun n _ => n.unrecognised_account)
      (List.flatMap_congr fun n _ => n.unrecognised_lines_template)
  case legible_accounts => exact hlegible
  case legible_templates => exact hlegible'

/-- A chart and a catalog with values of all kinds. What stands under a key that is not known is no
value, for its number is out of range. -/
def handEdited : Machine where
  tree := ⟨[
    (["coa.json"], .file (Utf8.bytes ("\x7b\"x\":1e999,\"accounts\":[" ++
      "\x7b\"name\":true,\"type\":\"\",\"parentCode\":null,\"code\":1000\x7d," ++
      "[[2],null,\"asset\",\"1000\",\"CREDIT\"]]\x7d"))),
    (["templates.json"], .file (Utf8.bytes ("\x7b\"templates\":[\x7b\"tags\":[null,7]," ++
      "\"lines\":[\x7b\"position\":\"Kredit\",\"accountCode\":\x7b\x7d\x7d,[\"2\"]]," ++
      "\"category\":\"\"\x7d]\x7d")))]⟩

def handEditedSeed : Seed where
  accounts := [{ code := "1000", name := "True", type? := some (.other "") },
    { code := "[2]", type? := some (.other "asset"), parent? := some "1000", balance := .credit }]
  templates := [{
    category := ""
    lines := [{ account := "\x7b\x7d", position := .other "Kredit" }, { account := "2" }]
    tags := ["", "7"] }]

theorem loadSeed_copies_handEdited :
    ((loadSeed "coa.json" "templates.json" : ExceptT Failure (StateM Machine) Seed).run
        handEdited).1 = .ok handEditedSeed ∧
      ∃ chart catalog, handEdited.nodeAt "coa.json" = some chart ∧
        handEdited.nodeAt "templates.json" = some catalog ∧
        handEditedSeed.Copies chart catalog := by
  have hload : ((loadSeed "coa.json" "templates.json" : ExceptT Failure (StateM Machine) Seed).run
      handEdited).1 = .ok handEditedSeed := by
    apply eq_ok_of_toOption
    decide +kernel
  exact ⟨hload, loadSeed_copies hload⟩

end SeedArchive
