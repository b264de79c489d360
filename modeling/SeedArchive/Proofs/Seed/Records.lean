import SeedArchive.Proofs.Json.Columns
import SeedArchive.Proofs.Seed.Accepted

namespace SeedArchive

namespace Json

def accountKeys : List String :=
  ["code", "name", "type", "parentCode", "normalBalance"]

def lineKeys : List String :=
  ["accountCode", "accountHint", "position", "formula", "description"]

namespace Node

/-- The text that a record has for a key, and `default` if it has none or null. -/
def cell (keys : List String) (key default : String) (n : Node) : String :=
  (n.columnText? keys key).getD default

/-- The items of the list that a record has for a key. -/
def listAt (keys : List String) (key : String) (n : Node) : List Node :=
  (n.field? keys key).elim [] items

def account (n : Node) : Account where
  code := n.cell accountKeys "code" ""
  name := n.cell accountKeys "name" ""
  type? := (n.columnText? accountKeys "type").map .ofText
  parent? := n.columnText? accountKeys "parentCode"
  balance := ((n.columnText? accountKeys "normalBalance").map .ofText).getD .debit

def line (n : Node) : TemplateLine where
  account := n.cell lineKeys "accountCode" ""
  hint := n.cell lineKeys "accountHint" ""
  position := ((n.columnText? lineKeys "position").map .ofText).getD .debit
  formula := n.cell lineKeys "formula" ""
  description := n.cell lineKeys "description" ""

/-- A tag that is null is empty. -/
def tag (n : Node) : String :=
  (n.json?.bind Json.text?).getD ""

def template (n : Node) : JournalTemplate where
  name := n.cell templateKeys "name" ""
  category := n.cell templateKeys "category" "EXPENSE"
  cashFlow := n.cell templateKeys "cashFlowCategory" "OPERATING"
  description := n.cell templateKeys "description" ""
  lines := (n.listAt templateKeys "lines").map line
  tags := (n.listAt templateKeys "tags").map tag

end Node

/-- What an account shows of a column, if only the field of its key sets what is shown. -/
theorem yields_account_column {β : Type} (key : String) (view : Account → β)
    (c : Option String → β) (hkey : key ∈ accountKeys) (hblank : view {} = c none)
    (hset : ∀ (v : Json) (a : Account),
      view { a with code := v.text } = (if "code" = key then c v.text? else view a) ∧
      view { a with name := v.text } = (if "name" = key then c v.text? else view a) ∧
      view { a with type? := v.text?.map .ofText } =
        (if "type" = key then c v.text? else view a) ∧
      view { a with parent? := v.text? } = (if "parentCode" = key then c v.text? else view a) ∧
      view { a with balance := (v.text?.map .ofText).getD .debit } =
        (if "normalBalance" = key then c v.text? else view a)) :
    Yields Account.record.read fun n a =>
      n.Legible accountKeys key ∧ view a = c (n.columnText? accountKeys key) := by
  have hfills : ∀ f ∈ Account.record.fields, f.Fills key view (c none) fun n x =>
      ∃ v, n.json? = some v ∧ x = c v.text? := by
    simp only [Account.record, List.forall_mem_cons]
    exact ⟨fills_any fun v a => (hset v a).1, fills_any fun v a => (hset v a).2.1,
      fills_any fun v a => (hset v a).2.2.1, fills_any fun v a => (hset v a).2.2.2.1,
      fills_any fun v a => (hset v a).2.2.2.2, List.forall_mem_nil _⟩
  exact Record.yields_text hfills hblank (by decide) hkey

theorem yields_account : Yields Account.record.read fun n a =>
    (∀ key ∈ accountKeys, n.Legible accountKeys key) ∧ a = n.account := by
  intro depth n a hdepth h
  obtain ⟨lcode, hcode⟩ := yields_account_column "code" Account.code (·.getD "") (by decide) rfl
    (fun v a => by simp [Json.text]) depth n a hdepth h
  obtain ⟨lname, hname⟩ := yields_account_column "name" Account.name (·.getD "") (by decide) rfl
    (fun v a => by simp [Json.text]) depth n a hdepth h
  obtain ⟨ltype, htype⟩ := yields_account_column "type" Account.type? (·.map .ofText) (by decide)
    rfl (fun v a => by simp) depth n a hdepth h
  obtain ⟨lparent, hparent⟩ := yields_account_column "parentCode" Account.parent? id (by decide)
    rfl (fun v a => by simp) depth n a hdepth h
  obtain ⟨lbalance, hbalance⟩ := yields_account_column "normalBalance" Account.balance
    (fun o => (o.map .ofText).getD .debit) (by decide) rfl (fun v a => by simp) depth n a hdepth h
  refine ⟨?_, ?_⟩
  · simp only [accountKeys, List.forall_mem_cons]
    exact ⟨lcode, lname, ltype, lparent, lbalance, List.forall_mem_nil _⟩
  · obtain ⟨code, name, type?, parent?, balance⟩ := a
    cases hcode
    cases hname
    cases htype
    cases hparent
    cases hbalance
    rfl

/-- What a line shows of a column, if only the field of its key sets what is shown. -/
theorem yields_line_column {β : Type} (key : String) (view : TemplateLine → β)
    (c : Option String → β) (hkey : key ∈ lineKeys) (hblank : view {} = c none)
    (hset : ∀ (v : Json) (l : TemplateLine),
      view { l with account := v.text } =
        (if "accountCode" = key then c v.text? else view l) ∧
      view { l with hint := v.text } = (if "accountHint" = key then c v.text? else view l) ∧
      view { l with position := (v.text?.map .ofText).getD .debit } =
        (if "position" = key then c v.text? else view l) ∧
      view { l with formula := v.text } = (if "formula" = key then c v.text? else view l) ∧
      view { l with description := v.text } =
        (if "description" = key then c v.text? else view l)) :
    Yields TemplateLine.record.read fun n l =>
      n.Legible lineKeys key ∧ view l = c (n.columnText? lineKeys key) := by
  have hfills : ∀ f ∈ TemplateLine.record.fields, f.Fills key view (c none) fun n x =>
      ∃ v, n.json? = some v ∧ x = c v.text? := by
    simp only [TemplateLine.record, List.forall_mem_cons]
    exact ⟨fills_any fun v l => (hset v l).1, fills_any fun v l => (hset v l).2.1,
      fills_any fun v l => (hset v l).2.2.1, fills_any fun v l => (hset v l).2.2.2.1,
      fills_any fun v l => (hset v l).2.2.2.2, List.forall_mem_nil _⟩
  exact Record.yields_text hfills hblank (by decide) hkey

theorem yields_line : Yields TemplateLine.record.read fun n l =>
    (∀ key ∈ lineKeys, n.Legible lineKeys key) ∧ l = n.line := by
  intro depth n l hdepth h
  obtain ⟨laccount, haccount⟩ := yields_line_column "accountCode" TemplateLine.account (·.getD "")
    (by decide) rfl (fun v l => by simp [Json.text]) depth n l hdepth h
  obtain ⟨lhint, hhint⟩ := yields_line_column "accountHint" TemplateLine.hint (·.getD "")
    (by decide) rfl (fun v l => by simp [Json.text]) depth n l hdepth h
  obtain ⟨lposition, hposition⟩ := yields_line_column "position" TemplateLine.position
    (fun o => (o.map .ofText).getD .debit) (by decide) rfl (fun v l => by simp) depth n l hdepth h
  obtain ⟨lformula, hformula⟩ := yields_line_column "formula" TemplateLine.formula (·.getD "")
    (by decide) rfl (fun v l => by simp [Json.text]) depth n l hdepth h
  obtain ⟨ldescription, hdescription⟩ := yields_line_column "description"
    TemplateLine.description (·.getD "") (by decide) rfl (fun v l => by simp [Json.text])
    depth n l hdepth h
  refine ⟨?_, ?_⟩
  · simp only [lineKeys, List.forall_mem_cons]
    exact ⟨laccount, lhint, lposition, lformula, ldescription, List.forall_mem_nil _⟩
  · obtain ⟨account, hint, position, formula, description⟩ := l
    cases haccount
    cases hhint
    cases hposition
    cases hformula
    cases hdescription
    rfl

theorem eq_map_of_forall₂ {α : Type} {P : Node → Prop} {g : Node → α} {ns : List Node}
    {as : List α} (h : List.Forall₂ (fun n a => P n ∧ a = g n) ns as) :
    (∀ n ∈ ns, P n) ∧ as = ns.map g := by
  induction h with
  | nil => exact ⟨nofun, rfl⟩
  | cons hn _ ih =>
    obtain ⟨hP, rfl⟩ := hn
    obtain ⟨hrest, rfl⟩ := ih
    exact ⟨List.forall_mem_cons.mpr ⟨hP, hrest⟩, rfl⟩

theorem yields_tags : Yields JournalTemplate.readTags fun n tags =>
    n.json?.isSome ∧ tags = n.items.map Node.tag := by
  intro depth n tags hdepth h
  rw [JournalTemplate.readTags] at h
  cases hvalue : n.value depth with
  | error fault =>
    rw [hvalue] at h
    cases h
  | ok v =>
    rw [hvalue] at h
    rw [json?_of_value hdepth hvalue]
    refine ⟨rfl, ?_⟩
    cases Node.whole_of_value hvalue with
    | null after =>
      cases h
      rfl
    | list entered values =>
      cases h
      -- the tags are made of the values of the items, which are read one level deeper
      have hnodes := nodes_of_values ((le_of_enter entered).trans hdepth) values
      have hmap := congrArg (List.map fun o : Option Json => (o.bind Json.text?).getD "") hnodes
      rw [List.map_map, List.map_map] at hmap
      exact hmap.symm
    | _ => cases h

section Templates

variable {β : Type} {view : JournalTemplate → β}

theorem keeps_lines (hview : ∀ lines (t : JournalTemplate), view { t with lines } = view t) :
    Yields (Field.nullable "lines" (readList TemplateLine.record.read)
      fun lines (t : JournalTemplate) => { t with lines }).read
        fun _ set => ∀ t, view (set t) = view t := by
  intro depth n set hdepth h t
  obtain ⟨-, rfl⟩ | ⟨lines, -, rfl⟩ :=
    yields_nullable (yields_list yields_line) _ _ depth n set hdepth h
  · rfl
  · exact hview lines t

theorem keeps_tags (hview : ∀ tags (t : JournalTemplate), view { t with tags } = view t) :
    Yields (fun depth n => (JournalTemplate.readTags depth n).map
      fun tags (t : JournalTemplate) => { t with tags })
        fun _ set => ∀ t, view (set t) = view t := by
  intro depth n set hdepth h t
  obtain ⟨tags, -, rfl⟩ := yields_tags.map _ depth n set hdepth h
  exact hview tags t

/-- What a template shows of a column of text, if only the field of its key sets what is shown. -/
theorem yields_template_column (key : String) (view : JournalTemplate → β)
    (c : Option String → β) (hkey : key ∈ ["name", "category", "cashFlowCategory", "description"])
    (hblank : view {} = c none)
    (hset : ∀ (v : Json) (t : JournalTemplate),
      view { t with name := v.text } = (if "name" = key then c v.text? else view t) ∧
      view { t with category := v.text?.getD "EXPENSE" } =
        (if "category" = key then c v.text? else view t) ∧
      view { t with cashFlow := v.text?.getD "OPERATING" } =
        (if "cashFlowCategory" = key then c v.text? else view t) ∧
      view { t with description := v.text } =
        (if "description" = key then c v.text? else view t))
    (hlines : ∀ lines (t : JournalTemplate), view { t with lines } = view t)
    (htags : ∀ tags (t : JournalTemplate), view { t with tags } = view t) :
    Yields JournalTemplate.record.read fun n t =>
      n.Legible templateKeys key ∧ view t = c (n.columnText? templateKeys key) := by
  have hlist : "lines" ≠ key ∧ "tags" ≠ key := by
    constructor
    · rintro rfl
      exact absurd hkey (by decide)
    · rintro rfl
      exact absurd hkey (by decide)
  have htext : key ∈ templateKeys := List.mem_append_left ["lines", "tags"] hkey
  have hfills : ∀ f ∈ JournalTemplate.record.fields, f.Fills key view (c none) fun n x =>
      ∃ v, n.json? = some v ∧ x = c v.text? := by
    simp only [JournalTemplate.record, List.forall_mem_cons]
    exact ⟨fills_any fun v t => (hset v t).1, fills_any fun v t => (hset v t).2.1,
      fills_any fun v t => (hset v t).2.2.1, fills_any fun v t => (hset v t).2.2.2,
      fills_of_ne hlist.1 (keeps_lines hlines), fills_of_ne hlist.2 (keeps_tags htags),
      List.forall_mem_nil _⟩
  exact Record.yields_text hfills hblank (by decide) htext

end Templates

theorem forall_listAt {keys : List String} {key : String} {n : Node} {P : Node → Prop}
    (h : ∀ column, n.field? keys key = some column → ∀ m ∈ column.items, P m) :
    ∀ m ∈ n.listAt keys key, P m := by
  intro m hm
  rw [Node.listAt] at hm
  cases hfield : n.field? keys key with
  | none =>
    rw [hfield] at hm
    cases hm
  | some column =>
    rw [hfield] at hm
    exact h column hfield m hm

/-- A list that a record has for a key, made of what its field gives of each item. -/
theorem eq_listAt_of_shown {α : Type} {keys : List String} {key : String} {n : Node}
    {P : Node → Prop} {g : Node → α} {as : List α}
    (h : Shown (n.field? keys key) (fun column as => P column ∧ as = column.items.map g) [] as) :
    (∀ column, n.field? keys key = some column → P column) ∧ as = (n.listAt keys key).map g := by
  rw [Node.listAt]
  cases hfield : n.field? keys key with
  | none =>
    rw [hfield] at h
    exact ⟨nofun, h⟩
  | some column =>
    rw [hfield] at h
    refine ⟨fun _ heq => ?_, h.2⟩
    cases heq
    exact h.1

theorem yields_template_lines : Yields JournalTemplate.record.read fun n t =>
    (∀ l ∈ n.listAt templateKeys "lines", ∀ key ∈ lineKeys, l.Legible lineKeys key) ∧
      t.lines = (n.listAt templateKeys "lines").map Node.line := by
  have hlines : Yields (Field.nullable "lines" (readList TemplateLine.record.read)
      fun lines (t : JournalTemplate) => { t with lines }).read fun n set => ∀ t, t.lines = [] →
        (∀ l ∈ n.items, ∀ key ∈ lineKeys, l.Legible lineKeys key) ∧
          (set t).lines = n.items.map Node.line := by
    intro depth n set hdepth h t hblank
    obtain ⟨hitems, rfl⟩ | ⟨lines, hforall, rfl⟩ :=
      yields_nullable (yields_list yields_line) _ _ depth n set hdepth h
    · rw [hitems]
      exact ⟨nofun, hblank⟩
    · exact eq_map_of_forall₂ hforall
  have hfills : ∀ f ∈ JournalTemplate.record.fields, f.Fills "lines" JournalTemplate.lines []
      fun n lines => (∀ l ∈ n.items, ∀ key ∈ lineKeys, l.Legible lineKeys key) ∧
        lines = n.items.map Node.line := by
    simp only [JournalTemplate.record, List.forall_mem_cons]
    exact ⟨fills_of_ne (by decide) (keeps_any fun _ _ => rfl),
      fills_of_ne (by decide) (keeps_any fun _ _ => rfl),
      fills_of_ne (by decide) (keeps_any fun _ _ => rfl),
      fills_of_ne (by decide) (keeps_any fun _ _ => rfl),
      ⟨fun _ => hlines, fun hne => absurd rfl hne⟩,
      fills_of_ne (by decide) (keeps_tags fun _ _ => rfl), List.forall_mem_nil _⟩
  intro depth n t hdepth h
  obtain ⟨hlegible, heq⟩ := eq_listAt_of_shown
    (Record.yields_view hfills (by decide) (by decide) depth n t hdepth h)
  exact ⟨forall_listAt hlegible, heq⟩

theorem yields_template_tags : Yields JournalTemplate.record.read fun n t =>
    n.Legible templateKeys "tags" ∧ t.tags = (n.listAt templateKeys "tags").map Node.tag := by
  have htags : Yields (fun depth n => (JournalTemplate.readTags depth n).map
      fun tags (t : JournalTemplate) => { t with tags }) fun n set => ∀ t, t.tags = [] →
        n.json?.isSome ∧ (set t).tags = n.items.map Node.tag := by
    intro depth n set hdepth h t _
    obtain ⟨tags, htags, rfl⟩ := yields_tags.map _ depth n set hdepth h
    exact htags
  have hfills : ∀ f ∈ JournalTemplate.record.fields, f.Fills "tags" JournalTemplate.tags []
      fun n tags => n.json?.isSome ∧ tags = n.items.map Node.tag := by
    simp only [JournalTemplate.record, List.forall_mem_cons]
    exact ⟨fills_of_ne (by decide) (keeps_any fun _ _ => rfl),
      fills_of_ne (by decide) (keeps_any fun _ _ => rfl),
      fills_of_ne (by decide) (keeps_any fun _ _ => rfl),
      fills_of_ne (by decide) (keeps_any fun _ _ => rfl),
      fills_of_ne (by decide) (keeps_lines fun _ _ => rfl),
      ⟨fun _ => htags, fun hne => absurd rfl hne⟩, List.forall_mem_nil _⟩
  intro depth n t hdepth h
  exact eq_listAt_of_shown (Record.yields_view hfills (by decide) (by decide) depth n t hdepth h)

/-- The keys under which a template has a text or a list of texts. -/
def templateTextKeys : List String :=
  ["name", "category", "cashFlowCategory", "description", "tags"]

/-- What stands in the columns of a template is whole, and so it is for its lines. -/
def Node.LegibleTemplate (n : Node) : Prop :=
  (∀ key ∈ templateTextKeys, n.Legible templateKeys key) ∧
    ∀ l ∈ n.listAt templateKeys "lines", ∀ key ∈ lineKeys, l.Legible lineKeys key

theorem yields_template : Yields JournalTemplate.record.read fun n t =>
    n.LegibleTemplate ∧ t = n.template := by
  intro depth n t hdepth h
  obtain ⟨lname, hname⟩ := yields_template_column "name" JournalTemplate.name (·.getD "")
    (by decide) rfl (fun v t => by simp [Json.text]) (fun _ _ => rfl) (fun _ _ => rfl)
    depth n t hdepth h
  obtain ⟨lcategory, hcategory⟩ := yields_template_column "category" JournalTemplate.category
    (·.getD "EXPENSE") (by decide) rfl (fun v t => by simp) (fun _ _ => rfl) (fun _ _ => rfl)
    depth n t hdepth h
  obtain ⟨lcashFlow, hcashFlow⟩ := yields_template_column "cashFlowCategory"
    JournalTemplate.cashFlow (·.getD "OPERATING") (by decide) rfl (fun v t => by simp)
    (fun _ _ => rfl) (fun _ _ => rfl) depth n t hdepth h
  obtain ⟨ldescription, hdescription⟩ := yields_template_column "description"
    JournalTemplate.description (·.getD "") (by decide) rfl (fun v t => by simp [Json.text])
    (fun _ _ => rfl) (fun _ _ => rfl) depth n t hdepth h
  obtain ⟨llines, hlines⟩ := yields_template_lines depth n t hdepth h
  obtain ⟨ltags, htags⟩ := yields_template_tags depth n t hdepth h
  refine ⟨⟨?_, llines⟩, ?_⟩
  · simp only [templateTextKeys, List.forall_mem_cons]
    exact ⟨lname, lcategory, lcashFlow, ldescription, ltags, List.forall_mem_nil _⟩
  · obtain ⟨name, category, cashFlow, description, lines, tags⟩ := t
    cases hname
    cases hcategory
    cases hcashFlow
    cases hdescription
    cases hlines
    cases htags
    rfl

theorem yields_holding {α : Type} {r : Record (List α)} {key : String} {P : Node → Prop}
    {g : Node → α} {read : Nat → Node → Except Fault α}
    (hread : Yields read fun n a => P n ∧ a = g n)
    (hfields : r.fields = [.list key read fun as _ => as]) (hblank : r.blank = []) :
    Yields r.read fun n as =>
      (∀ m ∈ n.listAt [key] key, P m) ∧ as = (n.listAt [key] key).map g := by
  have hkeys : r.fields.map Field.key = [key] := by
    rw [hfields]
    rfl
  have hlist : Yields (Field.list key read fun as (_ : List α) => as).read fun n set =>
      ∀ a, a = r.blank → (∀ m ∈ n.items, P m) ∧ set a = n.items.map g := by
    intro depth n set hdepth h a _
    obtain ⟨as, hforall, rfl⟩ := yields_required hread key _ depth n set hdepth h
    exact eq_map_of_forall₂ hforall
  have hfills : ∀ f ∈ r.fields, f.Fills key id r.blank
      fun n as => (∀ m ∈ n.items, P m) ∧ as = n.items.map g := by
    rw [hfields, List.forall_mem_singleton]
    exact ⟨fun _ => hlist, fun hne => absurd rfl hne⟩
  intro depth n as hdepth h
  have hshown := Record.yields_view hfills (by simp [hkeys]) (by simp [hkeys]) depth n as hdepth h
  rw [hkeys, hblank] at hshown
  obtain ⟨hP, heq⟩ := eq_listAt_of_shown hshown
  exact ⟨forall_listAt hP, heq⟩

def Node.accounts (n : Node) : List Node :=
  n.listAt ["accounts"] "accounts"

def Node.templates (n : Node) : List Node :=
  n.listAt ["templates"] "templates"

theorem yields_chart : Yields Account.chart.read fun n accounts =>
    (∀ m ∈ n.accounts, ∀ key ∈ accountKeys, m.Legible accountKeys key) ∧
      accounts = n.accounts.map Node.account :=
  yields_holding yields_account rfl rfl

theorem yields_catalog : Yields JournalTemplate.catalog.read fun n templates =>
    (∀ m ∈ n.templates, m.LegibleTemplate) ∧ templates = n.templates.map Node.template :=
  yields_holding yields_template rfl rfl

end Json

end SeedArchive
