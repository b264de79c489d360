import SeedArchive.Proofs.Seed.Findings

namespace SeedArchive

theorem toString_injective : Function.Injective (toString : Nat → String) := by
  intro m n h
  have hdigits : Nat.toDigits 10 m = Nat.toDigits 10 n := by
    rw [← Nat.toList_repr, ← Nat.toList_repr]
    exact congrArg String.toList h
  rw [← Nat.ofDigitChars_ten_toDigits (n := m), hdigits, Nat.ofDigitChars_ten_toDigits]

theorem JournalTemplate.map_fst_numberedLines (t : JournalTemplate) :
    t.numberedLines.map Prod.fst = List.range' 1 t.lines.length := by
  have hfst : (Prod.fst : Nat × TemplateLine → Nat) ∘ (fun p : TemplateLine × Nat =>
      (p.2 + 1, p.1)) = (1 + ·) ∘ Prod.snd := by
    funext p
    exact Nat.add_comm p.2 1
  rw [numberedLines, List.map_map, List.range'_eq_map_range]
  show t.lines.zipIdx.map (Prod.fst ∘ fun p : TemplateLine × Nat => (p.2 + 1, p.1)) = _
  rw [hfst, ← List.map_map, List.zipIdx_map_snd, List.range_eq_range']

/-- A seed that the importer takes without a question. -/
structure Seed.Clean (s : Seed) : Prop where
  nodup_codes : s.codes.Nodup
  nodup_names : s.names.Nodup
  accounts : ∀ a ∈ s.accounts, a.unrecognised = [] ∧ (a.parentText = "" ∨ a.parentText ∈ s.codes)
  templates : ∀ t ∈ s.templates, t.lines ≠ [] ∧ ∀ l ∈ t.lines,
    l.position.isRecognised = true ∧ (l.account = "" ∨ l.account ∈ s.codes)

namespace Seed

variable (s : Seed)

theorem findings_eq_nil_iff : s.findings = [] ↔ s.Clean := by
  have haccounts : s.accounts.flatMap (Account.findings s.codes) = [] ↔
      ∀ a ∈ s.accounts, a.unrecognised = [] ∧ (a.parentText = "" ∨ a.parentText ∈ s.codes) := by
    rw [List.flatMap_eq_nil_iff]
    refine forall₂_congr fun a _ => ?_
    rw [Account.findings, List.append_eq_nil_iff, a.unknownParent_eq]
    refine and_congr_right fun _ => ?_
    by_cases hblank : a.parentText = "" <;> simp [hblank]
  have htemplates : s.templates.flatMap (JournalTemplate.findings s.codes) = [] ↔
      ∀ t ∈ s.templates, t.lines ≠ [] ∧ ∀ l ∈ t.lines,
        l.position.isRecognised = true ∧ (l.account = "" ∨ l.account ∈ s.codes) := by
    rw [List.flatMap_eq_nil_iff]
    refine forall₂_congr fun t _ => ?_
    have hlines : (if t.lines = [] then [Finding.noLines t.name] else []) = [] ↔
        t.lines ≠ [] := by
      split <;> simp_all
    rw [JournalTemplate.findings, List.append_eq_nil_iff, hlines, List.flatMap_eq_nil_iff]
    refine and_congr_right fun _ => ?_
    conv_rhs => rw [← t.map_snd_numberedLines, List.forall_mem_map]
    refine forall₂_congr fun p _ => ?_
    obtain ⟨order, l⟩ := p
    show l.findings s.codes t.name order = [] ↔ _
    rw [TemplateLine.findings, List.append_eq_nil_iff, l.unrecognised_eq_nil_iff,
      l.unknownAccount_eq]
    refine and_congr_right fun _ => ?_
    by_cases hblank : l.account = "" <;> simp [hblank]
  rw [findings, List.append_eq_nil_iff, List.append_eq_nil_iff, List.append_eq_nil_iff,
    List.map_eq_nil_iff, List.map_eq_nil_iff, duplicates_eq_nil_iff, duplicates_eq_nil_iff,
    haccounts, htemplates]
  constructor
  · rintro ⟨⟨⟨hcodes, haccounts⟩, hnames⟩, htemplates⟩
    exact ⟨hcodes, hnames, haccounts, htemplates⟩
  · intro h
    exact ⟨⟨⟨h.nodup_codes, h.accounts⟩, h.nodup_names⟩, h.templates⟩

theorem clean_of_check {n : Nat} (h : s.check true = .ok n) : s.Clean := by
  rw [← findings_eq_nil_iff]
  by_contra hne
  rw [s.check_true_of_ne_nil hne] at h
  cases h

theorem ofText_table_rows {e : LayoutEntry} (he : e ∈ Layout.entries) (hm : e.content ≠ .manifest) :
    Csv.Sheet.ofText (table e.content.columns (s.rows e.content)).text =
      ⟨Csv.columnNames e.content.columns, s.rows e.content⟩ := by
  have hheader := plainHeader_columns e he hm
  exact Csv.ofText_table hheader (Csv.ne_nil_of_under hheader (s.under_rows e.content))

def accountSheet : Csv.Sheet where
  columns := ["account_code", "account_name", "account_type", "parent_code", "normal_balance",
    "active", "created_at"]
  records := s.accounts.map Account.cells

def templateSheet : Csv.Sheet where
  columns := ["template_name", "category", "cash_flow_category", "template_type", "description",
    "is_favorite", "is_system", "active", "version", "usage_count", "last_used_at"]
  records := s.templates.map JournalTemplate.cells

def lineSheet : Csv.Sheet where
  columns := ["template_name", "line_order", "account_code", "account_hint", "position", "formula",
    "description"]
  records := s.templates.flatMap JournalTemplate.lineCells

def tagSheet : Csv.Sheet where
  columns := ["template_name", "tag"]
  records := s.templates.flatMap JournalTemplate.tagCells

theorem ofText_accountTable : Csv.Sheet.ofText s.accountTable.text = s.accountSheet := by
  have hsheet := s.ofText_table_rows (e := ⟨"02_chart_of_accounts.csv", .accounts⟩) (by decide)
    (by decide)
  rw [accountSheet, ← columnNames_accounts]
  exact hsheet

theorem ofText_templateTable : Csv.Sheet.ofText s.templateTable.text = s.templateSheet := by
  have hsheet := s.ofText_table_rows (e := ⟨"04_journal_templates.csv", .templates⟩) (by decide)
    (by decide)
  rw [templateSheet, ← columnNames_templates]
  exact hsheet

theorem ofText_lineTable : Csv.Sheet.ofText s.lineTable.text = s.lineSheet := by
  have hsheet := s.ofText_table_rows (e := ⟨"05_journal_template_lines.csv", .templateLines⟩)
    (by decide) (by decide)
  rw [lineSheet, ← columnNames_lines]
  exact hsheet

theorem ofText_tagTable : Csv.Sheet.ofText s.tagTable.text = s.tagSheet := by
  have hsheet := s.ofText_table_rows (e := ⟨"06_journal_template_tags.csv", .templateTags⟩)
    (by decide) (by decide)
  rw [tagSheet, ← columnNames_tags]
  exact hsheet

end Seed

/-- The records of a table that refer to none of the given values, though they refer to
something. -/
def Csv.Sheet.dangling (t : Csv.Sheet) (column : String) (values : List String) :
    List (List String) :=
  t.records.filter fun r => t.cell column r ≠ "" ∧ t.cell column r ∉ values

/-- The tables of a seed, as their texts tell them. -/
structure Sheets where
  accounts : Csv.Sheet
  templates : Csv.Sheet
  lines : Csv.Sheet
  tags : Csv.Sheet

namespace Sheets

def codes (t : Sheets) : List String :=
  t.accounts.column "account_code"

def names (t : Sheets) : List String :=
  t.templates.column "template_name"

/-- Every reference leads somewhere, and no record is taken for another. -/
structure Intact (t : Sheets) : Prop where
  parents : t.accounts.dangling "parent_code" t.codes = []
  lineAccounts : t.lines.dangling "account_code" t.codes = []
  lineTemplates : t.lines.dangling "template_name" t.names = []
  tagTemplates : t.tags.dangling "template_name" t.names = []
  nodup_codes : t.codes.Nodup
  nodup_names : t.names.Nodup
  nodup_lines : (t.lines.records.map fun r =>
    (t.lines.cell "template_name" r, t.lines.cell "line_order" r)).Nodup

end Sheets

namespace Seed

variable (s : Seed)

def sheets : Sheets where
  accounts := .ofText s.accountTable.text
  templates := .ofText s.templateTable.text
  lines := .ofText s.lineTable.text
  tags := .ofText s.tagTable.text

theorem sheets_eq : s.sheets = ⟨s.accountSheet, s.templateSheet, s.lineSheet, s.tagSheet⟩ := by
  rw [sheets, ofText_accountTable, ofText_templateTable, ofText_lineTable, ofText_tagTable]

theorem column_account_code : s.accountSheet.column "account_code" = s.codes := by
  rw [Csv.Sheet.column, accountSheet, List.map_map]
  rfl

theorem column_template_name : s.templateSheet.column "template_name" = s.names := by
  rw [Csv.Sheet.column, templateSheet, List.map_map]
  rfl

theorem dangling_parent_code (codes : List String) :
    s.accountSheet.dangling "parent_code" codes =
      (s.accounts.filter fun a => a.parentText ≠ "" ∧ a.parentText ∉ codes).map
        Account.cells := by
  rw [Csv.Sheet.dangling, accountSheet, List.filter_map]
  rfl

theorem dangling_account_code (codes : List String) :
    s.lineSheet.dangling "account_code" codes = s.templates.flatMap fun t =>
      (t.numberedLines.filter fun p => p.2.account ≠ "" ∧ p.2.account ∉ codes).map fun p =>
        p.2.cells t.name p.1 := by
  rw [Csv.Sheet.dangling, lineSheet, List.filter_flatMap]
  refine List.flatMap_congr fun t _ => ?_
  rw [JournalTemplate.lineCells, List.filter_map]
  rfl

theorem cell_template_name_line {t : JournalTemplate} {r : List String} (hr : r ∈ t.lineCells) :
    s.lineSheet.cell "template_name" r = t.name := by
  obtain ⟨⟨order, l⟩, -, rfl⟩ := List.mem_map.mp hr
  rfl

theorem cell_template_name_tag {t : JournalTemplate} {r : List String} (hr : r ∈ t.tagCells) :
    s.tagSheet.cell "template_name" r = t.name := by
  obtain ⟨tag, -, rfl⟩ := List.mem_map.mp hr
  rfl

/-- Rows that name the template they belong to name one that there is. -/
theorem dangling_template_name {t : Csv.Sheet} {rows : JournalTemplate → List (List String)}
    (hrecords : t.records = s.templates.flatMap rows)
    (hname : ∀ u, ∀ r ∈ rows u, t.cell "template_name" r = u.name) :
    t.dangling "template_name" s.names = [] := by
  rw [Csv.Sheet.dangling, List.filter_eq_nil_iff]
  intro r hr
  rw [hrecords] at hr
  obtain ⟨u, hu, hr⟩ := List.mem_flatMap.mp hr
  have hmem : u.name ∈ s.names := List.mem_map_of_mem hu
  rw [hname u r hr, decide_eq_true_eq]
  exact fun h => h.2 hmem

/-- A line is known by the name of its template and its order. -/
theorem nodup_line_keys (h : s.names.Nodup) :
    (s.lineSheet.records.map fun r =>
      (s.lineSheet.cell "template_name" r, s.lineSheet.cell "line_order" r)).Nodup := by
  have hkeys : (s.lineSheet.records.map fun r =>
      (s.lineSheet.cell "template_name" r, s.lineSheet.cell "line_order" r)) =
      s.templates.flatMap fun t => t.numberedLines.map fun p => (t.name, toString p.1) := by
    rw [lineSheet, List.map_flatMap]
    refine List.flatMap_congr fun t _ => ?_
    rw [JournalTemplate.lineCells, List.map_map]
    rfl
  rw [hkeys, List.nodup_flatMap]
  constructor
  · intro t _
    have horders : (t.numberedLines.map Prod.fst).Nodup := by
      rw [t.map_fst_numberedLines]
      exact List.nodup_range'
    have hinjective : Function.Injective fun order : Nat => (t.name, toString order) := by
      intro m n hmn
      exact toString_injective (Prod.mk.inj hmn).2
    have hmap := horders.map hinjective
    rwa [List.map_map] at hmap
  · have hpairs := List.pairwise_map.mp h
    refine hpairs.imp fun {t u} hne => ?_
    rintro key ht hu
    obtain ⟨p, -, rfl⟩ := List.mem_map.mp ht
    obtain ⟨q, -, hq⟩ := List.mem_map.mp hu
    exact hne (Prod.mk.inj hq).1.symm

theorem codes_sheets : s.sheets.codes = s.codes := by
  rw [Sheets.codes, sheets_eq]
  exact s.column_account_code

theorem names_sheets : s.sheets.names = s.names := by
  rw [Sheets.names, sheets_eq]
  exact s.column_template_name

theorem intact_sheets (hclean : s.Clean) : s.sheets.Intact := by
  have hparents : s.accountSheet.dangling "parent_code" s.codes = [] := by
    rw [dangling_parent_code, List.map_eq_nil_iff, List.filter_eq_nil_iff]
    intro a ha
    have hparent := (hclean.accounts a ha).2
    rw [decide_eq_true_eq]
    rintro ⟨hne, hunknown⟩
    exact hparent.elim hne hunknown
  have hlines : s.lineSheet.dangling "account_code" s.codes = [] := by
    rw [dangling_account_code, List.flatMap_eq_nil_iff]
    intro t ht
    rw [List.map_eq_nil_iff, List.filter_eq_nil_iff]
    intro p hp
    have hl : p.2 ∈ t.lines := by
      rw [← t.map_snd_numberedLines]
      exact List.mem_map_of_mem hp
    have haccount := ((hclean.templates t ht).2 p.2 hl).2
    rw [decide_eq_true_eq]
    rintro ⟨hne, hunknown⟩
    exact haccount.elim hne hunknown
  have hlineNames := s.dangling_template_name (t := s.lineSheet) rfl
    fun _ _ => s.cell_template_name_line
  have htagNames := s.dangling_template_name (t := s.tagSheet) rfl
    fun _ _ => s.cell_template_name_tag
  have hcodes := s.codes_sheets
  have hnames := s.names_sheets
  rw [sheets_eq] at hcodes hnames ⊢
  constructor
  case parents => rwa [hcodes]
  case lineAccounts => rwa [hcodes]
  case lineTemplates => rwa [hnames]
  case tagTemplates => rwa [hnames]
  case nodup_codes => exact hcodes ▸ hclean.nodup_codes
  case nodup_names => exact hnames ▸ hclean.nodup_names
  case nodup_lines => exact s.nodup_line_keys hclean.nodup_names

/-- The findings about references and repeated keys are the defects of the tables, one by one and in
order; the tables of a seed that passes the check have no defect. -/
theorem findings_eq_defects :
    s.findings.filterMap Finding.unknownParent? =
        (s.sheets.accounts.dangling "parent_code" s.sheets.codes).map (fun r =>
          (s.sheets.accounts.cell "account_code" r, s.sheets.accounts.cell "parent_code" r)) ∧
      s.findings.filterMap Finding.unknownAccount? =
        (s.sheets.lines.dangling "account_code" s.sheets.codes).map (fun r =>
          (s.sheets.lines.cell "template_name" r, s.sheets.lines.cell "line_order" r,
            s.sheets.lines.cell "account_code" r)) ∧
      s.findings.filterMap Finding.duplicateCode? = repeated s.sheets.codes ∧
      s.findings.filterMap Finding.duplicateName? = repeated s.sheets.names ∧
      ∀ n, s.check true = .ok n → s.sheets.Intact := by
  refine ⟨?_, ?_, ?_, ?_, ?_⟩
  · rw [codes_sheets, sheets_eq, s.filterMap_unknownParent?, dangling_parent_code, List.map_map]
    rfl
  · rw [codes_sheets, sheets_eq, s.filterMap_unknownAccount?, dangling_account_code,
      List.map_flatMap]
    refine List.flatMap_congr fun t _ => ?_
    rw [List.map_map]
    rfl
  · rw [codes_sheets]
    exact s.filterMap_duplicateCode?
  · rw [names_sheets]
    exact s.filterMap_duplicateName?
  · intro n hcheck
    exact s.intact_sheets (s.clean_of_check hcheck)

end Seed

end SeedArchive
