import SeedArchive.Proofs.Seed.References

namespace SeedArchive

/-- The rows of one owner among the rows of all. -/
theorem filter_flatMap_of_nodup {α β : Type} (key : α → String) {owner : β → String}
    {rows : α → List β} {as : List α} (hkeys : (as.map key).Nodup)
    (howner : ∀ a, ∀ b ∈ rows a, owner b = key a) {a : α} (ha : a ∈ as) :
    (as.flatMap rows).filter (fun b => owner b = key a) = rows a := by
  have hother {c : α} (hne : key c ≠ key a) :
      (rows c).filter (fun b => owner b = key a) = [] := by
    rw [List.filter_eq_nil_iff]
    intro b hb
    rw [decide_eq_true_eq, howner c b hb]
    exact hne
  induction as with
  | nil => exact absurd ha List.not_mem_nil
  | cons c as ih =>
    rw [List.map_cons, List.nodup_cons] at hkeys
    rw [List.flatMap_cons, List.filter_append]
    rcases List.mem_cons.mp ha with rfl | ha
    · have hown : (rows a).filter (fun b => owner b = key a) = rows a := by
        rw [List.filter_eq_self]
        intro b hb
        exact decide_eq_true (howner a b hb)
      have hrest : (as.flatMap rows).filter (fun b => owner b = key a) = [] := by
        rw [List.filter_flatMap, List.flatMap_eq_nil_iff]
        intro c hc
        apply hother
        intro hsame
        exact hkeys.1 (hsame ▸ List.mem_map_of_mem hc)
      rw [hown, hrest, List.append_nil]
    · have hne : key c ≠ key a := by
        intro hsame
        exact hkeys.1 (hsame ▸ List.mem_map_of_mem ha)
      rw [hother hne, ih hkeys.2 ha, List.nil_append]

theorem AccountType.ofText_text {t : AccountType} (h : t.isRecognised = true) :
    ofText t.text = t := by
  cases t with
  | other => cases h
  | _ => rfl

theorem AccountType.text_ne_empty {t : AccountType} (h : t.isRecognised = true) :
    t.text ≠ "" := by
  cases t with
  | other => cases h
  | _ => decide

theorem Position.ofText_text {p : Position} (h : p.isRecognised = true) : ofText p.text = p := by
  cases p with
  | other => cases h
  | _ => rfl

namespace Account

/-- An empty parent code is no parent. -/
def settled (a : Account) : Account :=
  { a with parent? := a.parent?.filter (· ≠ "") }

/-- Reads an account out of a record; an empty field is an absent value. -/
def ofRecord (t : Csv.Sheet) (record : List String) : Account where
  code := t.cell "account_code" record
  name := t.cell "account_name" record
  type? := ((some (t.cell "account_type" record)).filter (· ≠ "")).map .ofText
  parent? := (some (t.cell "parent_code" record)).filter (· ≠ "")
  balance := .ofText (t.cell "normal_balance" record)

theorem filter_parentText (a : Account) :
    (some a.parentText).filter (· ≠ "") = a.parent?.filter (· ≠ "") := by
  cases hp : a.parent? <;> simp [parentText, hp]

theorem map_ofText_typeText {a : Account} (h : ∀ t, a.type? = some t → t.isRecognised = true) :
    ((some a.typeText).filter (· ≠ "")).map AccountType.ofText = a.type? := by
  cases ht : a.type? with
  | none => simp [typeText, ht]
  | some t =>
    have hne := AccountType.text_ne_empty (h t ht)
    simp [typeText, ht, hne, AccountType.ofText_text (h t ht)]

end Account

namespace TemplateLine

def ofRecord (t : Csv.Sheet) (record : List String) : TemplateLine where
  account := t.cell "account_code" record
  hint := t.cell "account_hint" record
  position := .ofText (t.cell "position" record)
  formula := t.cell "formula" record
  description := t.cell "description" record

end TemplateLine

namespace Sheets

/-- Reads a template out of a record; its lines and tags are those that name it. -/
def templateOf (t : Sheets) (record : List String) : JournalTemplate where
  name := t.templates.cell "template_name" record
  category := t.templates.cell "category" record
  cashFlow := t.templates.cell "cash_flow_category" record
  description := t.templates.cell "description" record
  lines := (t.lines.records.filter fun r =>
    t.lines.cell "template_name" r = t.templates.cell "template_name" record).map
      (TemplateLine.ofRecord t.lines)
  tags := (t.tags.records.filter fun r =>
    t.tags.cell "template_name" r = t.templates.cell "template_name" record).map
      (t.tags.cell "tag")

/-- Reads a seed out of its tables. -/
def seed (t : Sheets) : Seed where
  accounts := t.accounts.records.map (Account.ofRecord t.accounts)
  templates := t.templates.records.map t.templateOf

end Sheets

namespace Seed

variable {s : Seed}

theorem ofRecord_account {a : Account} (h : a.unrecognised = []) :
    Account.ofRecord s.accountSheet a.cells = a.settled := by
  obtain ⟨htype, hbalance⟩ := a.unrecognised_eq_nil_iff.mp h
  have hread : Account.ofRecord s.accountSheet a.cells =
      { code := a.code
        name := a.name
        type? := ((some a.typeText).filter (· ≠ "")).map .ofText
        parent? := (some a.parentText).filter (· ≠ "")
        balance := .ofText a.balance.text } := rfl
  rw [hread, Account.map_ofText_typeText htype, a.filter_parentText,
    Position.ofText_text hbalance]
  rfl

theorem ofRecord_line {l : TemplateLine} (h : l.position.isRecognised = true) (template : String)
    (order : Nat) : TemplateLine.ofRecord s.lineSheet (l.cells template order) = l := by
  have hread : TemplateLine.ofRecord s.lineSheet (l.cells template order) =
      { l with position := .ofText l.position.text } := rfl
  rw [hread, Position.ofText_text h]

theorem lines_of_template (hnames : s.names.Nodup) {t : JournalTemplate} (ht : t ∈ s.templates) :
    (s.lineSheet.records.filter fun r => s.lineSheet.cell "template_name" r = t.name) =
      t.lineCells := by
  exact filter_flatMap_of_nodup JournalTemplate.name hnames
    (fun _ _ => s.cell_template_name_line) ht

theorem tags_of_template (hnames : s.names.Nodup) {t : JournalTemplate} (ht : t ∈ s.templates) :
    (s.tagSheet.records.filter fun r => s.tagSheet.cell "template_name" r = t.name) =
      t.tagCells := by
  exact filter_flatMap_of_nodup JournalTemplate.name hnames
    (fun _ _ => s.cell_template_name_tag) ht

theorem templateOf_cells (hclean : s.Clean) {t : JournalTemplate} (ht : t ∈ s.templates) :
    Sheets.templateOf ⟨s.accountSheet, s.templateSheet, s.lineSheet, s.tagSheet⟩ t.cells = t := by
  have hread : Sheets.templateOf ⟨s.accountSheet, s.templateSheet, s.lineSheet, s.tagSheet⟩
      t.cells =
      { t with
        lines := (s.lineSheet.records.filter fun r =>
          s.lineSheet.cell "template_name" r = t.name).map (TemplateLine.ofRecord s.lineSheet)
        tags := (s.tagSheet.records.filter fun r =>
          s.tagSheet.cell "template_name" r = t.name).map (s.tagSheet.cell "tag") } := rfl
  have hlines : t.lineCells.map (TemplateLine.ofRecord s.lineSheet) = t.lines := by
    rw [JournalTemplate.lineCells, List.map_map, ← t.map_snd_numberedLines]
    apply List.map_congr_left
    intro p hp
    have hl : p.2 ∈ t.lines := by
      rw [← t.map_snd_numberedLines]
      exact List.mem_map_of_mem hp
    exact ofRecord_line ((hclean.templates t ht).2 p.2 hl).1 t.name p.1
  have htags : t.tagCells.map (s.tagSheet.cell "tag") = t.tags := by
    rw [JournalTemplate.tagCells, List.map_map]
    exact List.map_id t.tags
  rw [hread, lines_of_template hclean.nodup_names ht, tags_of_template hclean.nodup_names ht,
    hlines, htags]

/-- A clean seed can be read back, except that an empty parent code is then absent. -/
theorem seed_sheets (hclean : s.Clean) :
    s.sheets.seed = { s with accounts := s.accounts.map Account.settled } := by
  have haccounts : s.accountSheet.records.map (Account.ofRecord s.accountSheet) =
      s.accounts.map Account.settled := by
    rw [accountSheet, List.map_map]
    apply List.map_congr_left
    intro a ha
    exact ofRecord_account (hclean.accounts a ha).1
  have htemplates : s.templateSheet.records.map (Sheets.templateOf
      ⟨s.accountSheet, s.templateSheet, s.lineSheet, s.tagSheet⟩) = s.templates := by
    rw [templateSheet, List.map_map]
    refine (List.map_congr_left fun t ht => ?_).trans (List.map_id s.templates)
    exact templateOf_cells hclean ht
  rw [sheets_eq, Sheets.seed, haccounts, htemplates]

/-- Two clean seeds with the same tables differ at most in whether an empty parent code is there. -/
theorem eq_of_tables_eq {s t : Seed} {m n : Nat} (hs : s.check true = .ok m)
    (ht : t.check true = .ok n) (haccounts : s.accountTable.text = t.accountTable.text)
    (htemplates : s.templateTable.text = t.templateTable.text)
    (hlines : s.lineTable.text = t.lineTable.text) (htags : s.tagTable.text = t.tagTable.text) :
    s.templates = t.templates ∧
      s.accounts.map Account.settled = t.accounts.map Account.settled := by
  have hsheets : s.sheets = t.sheets := by
    rw [sheets, haccounts, htemplates, hlines, htags, sheets]
  have hseed := seed_sheets (s.clean_of_check hs)
  rw [hsheets, seed_sheets (t.clean_of_check ht)] at hseed
  exact ⟨(congrArg Seed.templates hseed).symm, (congrArg Seed.accounts hseed).symm⟩

/-- A sale in cash; the account has the given parent. -/
def cashSale (parent? : Option String) : Seed where
  accounts := [{ code := "1.1", name := "Cash", type? := some .asset, parent? }]
  templates := [{ name := "Sale", lines := [{ account := "1.1" }], tags := ["cash"] }]

theorem eq_of_tables_eq_cashSale :
    cashSale none ≠ cashSale (some "") ∧
      (cashSale none).check true = .ok 0 ∧ (cashSale (some "")).check true = .ok 0 ∧
      (cashSale none).accountTable.text = (cashSale (some "")).accountTable.text ∧
      (cashSale none).templates = (cashSale (some "")).templates ∧
      (cashSale none).accounts.map Account.settled =
        (cashSale (some "")).accounts.map Account.settled := by
  have hne : cashSale none ≠ cashSale (some "") := by decide
  have habsent : (cashSale none).check true = .ok 0 := by rfl
  have hempty : (cashSale (some "")).check true = .ok 0 := by rfl
  have haccounts : (cashSale none).accountTable.text = (cashSale (some "")).accountTable.text :=
    congrArg (fun rows => (table Account.columns rows).text) rfl
  exact ⟨hne, habsent, hempty, haccounts,
    eq_of_tables_eq habsent hempty haccounts rfl rfl rfl⟩

end Seed

end SeedArchive
