import SeedArchive.Archive.Build
import SeedArchive.Proofs.Seed.Tables

namespace SeedArchive

/-- The header of the table that an entry holds. -/
def Content.columns : Content → String
  | .manifest => ""
  | .accounts => Account.columns
  | .templates => JournalTemplate.columns
  | .templateLines => TemplateLine.columns
  | .templateTags => JournalTemplate.tagColumns
  | .placeholder columns => columns

theorem JournalTemplate.map_snd_numberedLines (t : JournalTemplate) :
    t.numberedLines.map Prod.snd = t.lines := by
  rw [numberedLines, List.map_map]
  exact List.zipIdx_map_fst 0 t.lines

namespace Seed

/-- The rows of the table that an entry holds. -/
def rows (s : Seed) : Content → List (List String)
  | .accounts => s.accounts.map Account.cells
  | .templates => s.templates.map JournalTemplate.cells
  | .templateLines => s.templates.flatMap JournalTemplate.lineCells
  | .templateTags => s.templates.flatMap JournalTemplate.tagCells
  | .manifest | .placeholder _ => []

/-- The texts of a seed that stand in the table of an entry. -/
def written (s : Seed) : Content → List String
  | .accounts => s.accounts.flatMap fun a =>
    [a.code, a.name, a.typeText, a.parentText, a.balance.text]
  | .templates => s.templates.flatMap fun t => [t.name, t.category, t.cashFlow, t.description]
  | .templateLines => s.templates.flatMap fun t => t.lines.flatMap fun l =>
    [t.name, l.account, l.hint, l.position.text, l.formula, l.description]
  | .templateTags => s.templates.flatMap fun t => t.tags.flatMap fun tag => [t.name, tag]
  | .manifest | .placeholder _ => []

variable (s : Seed)

theorem textOf_eq_table (settings : Settings) (exportedAt : Timestamp) {c : Content}
    (hc : c ≠ .manifest) :
    s.textOf settings exportedAt c = (table c.columns (s.rows c)).text := by
  cases c with
  | manifest => exact absurd rfl hc
  | _ => rfl

end Seed

theorem plainHeader_columns : ∀ e ∈ Layout.entries, e.content ≠ .manifest →
    Csv.plainHeader e.content.columns.toList = true := by
  simp only [Layout.entries, Content.columns, Account.columns, JournalTemplate.columns,
    JournalTemplate.tagColumns, TemplateLine.columns, List.forall_mem_cons, List.not_mem_nil,
    false_implies, implies_true, and_true]
  refine ⟨fun h => absurd rfl h, ?_⟩
  repeat' apply And.intro
  all_goals
    intro
    rw [String.toList_ofList]
    decide +kernel

theorem columnNames_accounts : Csv.columnNames Account.columns =
    ["account_code", "account_name", "account_type", "parent_code", "normal_balance", "active",
      "created_at"] := by
  rw [Account.columns, Csv.columnNames, String.toList_ofList]
  decide +kernel

theorem columnNames_templates : Csv.columnNames JournalTemplate.columns =
    ["template_name", "category", "cash_flow_category", "template_type", "description",
      "is_favorite", "is_system", "active", "version", "usage_count", "last_used_at"] := by
  rw [JournalTemplate.columns, Csv.columnNames, String.toList_ofList]
  decide +kernel

theorem columnNames_lines : Csv.columnNames TemplateLine.columns =
    ["template_name", "line_order", "account_code", "account_hint", "position", "formula",
      "description"] := by
  rw [TemplateLine.columns, Csv.columnNames, String.toList_ofList]
  decide +kernel

theorem columnNames_tags : Csv.columnNames JournalTemplate.tagColumns =
    ["template_name", "tag"] := by
  rw [JournalTemplate.tagColumns, Csv.columnNames, String.toList_ofList]
  decide +kernel

namespace Seed

variable (s : Seed)

theorem under_rows (c : Content) : Csv.Under c.columns (s.rows c) := by
  intro row hr
  cases c with
  | manifest => simp [rows] at hr
  | placeholder columns => simp [rows] at hr
  | accounts =>
    obtain ⟨a, -, rfl⟩ := List.mem_map.mp hr
    rw [Content.columns, columnNames_accounts]
    rfl
  | templates =>
    obtain ⟨t, -, rfl⟩ := List.mem_map.mp hr
    rw [Content.columns, columnNames_templates]
    rfl
  | templateLines =>
    obtain ⟨t, -, hr⟩ := List.mem_flatMap.mp hr
    obtain ⟨⟨order, line⟩, -, rfl⟩ := List.mem_map.mp hr
    rw [Content.columns, columnNames_lines]
    rfl
  | templateTags =>
    obtain ⟨t, -, hr⟩ := List.mem_flatMap.mp hr
    obtain ⟨tag, -, rfl⟩ := List.mem_map.mp hr
    rw [Content.columns, columnNames_tags]
    rfl

theorem not_bareReturn_toString (n : Nat) : ¬ Csv.BareReturn (toString n) := by
  apply Csv.not_bareReturn_of_notMem
  intro hr
  rw [show toString n = n.repr from rfl, Nat.toList_repr] at hr
  have hdigit := Nat.isDigit_of_mem_toDigits (by decide) (by decide) hr
  simp [Char.isDigit] at hdigit

/-- What the program writes beside the texts of a seed has no carriage return in it. -/
theorem not_bareReturn_rows_iff (c : Content) :
    (∀ row ∈ s.rows c, ∀ t ∈ row, ¬ Csv.BareReturn t) ↔
      ∀ t ∈ s.written c, ¬ Csv.BareReturn t := by
  have hconst : ∀ t ∈ ["true", "false", "SIMPLE", "1", "0", ""], ¬ Csv.BareReturn t := by
    decide
  simp only [List.forall_mem_cons, List.not_mem_nil, false_implies, implies_true, and_true]
    at hconst
  obtain ⟨htrue, hfalse, hsimple, hone, hzero, hempty⟩ := hconst
  cases c with
  | manifest => simp [rows, written]
  | placeholder columns => simp [rows, written]
  | accounts =>
    simp only [rows, written, Account.cells, List.forall_mem_map, List.forall_mem_flatMap,
      List.forall_mem_cons, htrue, hempty, not_false_eq_true, List.not_mem_nil, false_implies,
      implies_true, and_true]
  | templates =>
    simp only [rows, written, JournalTemplate.cells, List.forall_mem_map, List.forall_mem_flatMap,
      List.forall_mem_cons, htrue, hfalse, hsimple, hone, hzero, hempty, not_false_eq_true,
      List.not_mem_nil, false_implies, implies_true, and_true, true_and]
  | templateLines =>
    simp only [rows, written, JournalTemplate.lineCells, TemplateLine.cells, List.forall_mem_map,
      List.forall_mem_flatMap, List.forall_mem_cons, not_bareReturn_toString, not_false_eq_true,
      List.not_mem_nil, false_implies, implies_true, and_true, true_and]
    refine forall₂_congr fun t _ => ?_
    conv_rhs => rw [← t.map_snd_numberedLines]
    rw [List.forall_mem_map]
  | templateTags =>
    simp only [rows, written, JournalTemplate.tagCells, List.forall_mem_map,
      List.forall_mem_flatMap, List.forall_mem_cons, List.not_mem_nil, false_implies, implies_true,
      and_true]

/-- Reading a table gives back every field of it if and only if none of the texts that stand in it
has a bare return. -/
theorem read_tables_iff :
    (Csv.read (Utf8.bytes s.accountTable.text) =
        .ok (s.accounts.map fun a =>
          [a.code, a.name, a.typeText, a.parentText, a.balance.text, "true", ""]) ↔
      ∀ t ∈ s.written .accounts, ¬ Csv.BareReturn t) ∧
    (Csv.read (Utf8.bytes s.templateTable.text) =
        .ok (s.templates.map fun t =>
          [t.name, t.category, t.cashFlow, "SIMPLE", t.description, "false", "false", "true", "1",
            "0", ""]) ↔
      ∀ t ∈ s.written .templates, ¬ Csv.BareReturn t) ∧
    (Csv.read (Utf8.bytes s.lineTable.text) =
        .ok (s.templates.flatMap fun t => t.lines.zipIdx.map fun (l, i) =>
          [t.name, toString (i + 1), l.account, l.hint, l.position.text, l.formula,
            l.description]) ↔
      ∀ t ∈ s.written .templateLines, ¬ Csv.BareReturn t) ∧
    (Csv.read (Utf8.bytes s.tagTable.text) =
        .ok (s.templates.flatMap fun t => t.tags.map fun tag => [t.name, tag]) ↔
      ∀ t ∈ s.written .templateTags, ¬ Csv.BareReturn t) := by
  have hread : ∀ e ∈ Layout.entries, e.content ≠ .manifest →
      (Csv.read (Utf8.bytes (table e.content.columns (s.rows e.content)).text) =
          .ok (s.rows e.content) ↔
        ∀ t ∈ s.written e.content, ¬ Csv.BareReturn t) := by
    intro e he hm
    rw [← s.not_bareReturn_rows_iff]
    exact Csv.read_table_iff (plainHeader_columns e he hm) (s.under_rows e.content)
  have hlines : s.templates.flatMap JournalTemplate.lineCells =
      s.templates.flatMap fun t => t.lines.zipIdx.map fun (l, i) =>
        [t.name, toString (i + 1), l.account, l.hint, l.position.text, l.formula,
          l.description] := by
    apply List.flatMap_congr
    intro t _
    rw [JournalTemplate.lineCells, JournalTemplate.numberedLines, List.map_map]
    rfl
  rw [← hlines]
  refine ⟨hread ⟨"02_chart_of_accounts.csv", .accounts⟩ (by decide) (by decide),
    hread ⟨"04_journal_templates.csv", .templates⟩ (by decide) (by decide),
    hread ⟨"05_journal_template_lines.csv", .templateLines⟩ (by decide) (by decide),
    hread ⟨"06_journal_template_tags.csv", .templateTags⟩ (by decide) (by decide)⟩

/-- A carriage return tears a row apart in one table and is lost from the end of a row in
another. -/
theorem read_tables_of_return :
    let s : Seed :=
      { accounts := [{ code := "1\r2", name := "Cash" }]
        templates := [{ name := "Rent", tags := ["monthly\r"] }] }
    Csv.read (Utf8.bytes s.accountTable.text) = .error (.unequalLengths ⟨1, 2, 84⟩ 1 7) ∧
      Csv.read (Utf8.bytes s.tagTable.text) = .ok [["Rent", "monthly"]] := by
  decide +kernel

end Seed

end SeedArchive
