import Mathlib
import SeedArchive.Proofs.Json.Shape
import SeedArchive.Proofs.Seed.Loading

namespace SeedArchive

namespace Json

def IsAccount (v : Json) : Prop :=
  v.IsRecord ["code", "name", "type", "parentCode", "normalBalance"]

def IsLine (v : Json) : Prop :=
  v.IsRecord ["accountCode", "accountHint", "position", "formula", "description"]

def templateKeys : List String :=
  ["name", "category", "cashFlowCategory", "description", "lines", "tags"]

structure IsTemplate (v : Json) : Prop where
  record : v.IsRecord templateKeys
  lines : ∀ w, v.field? templateKeys "lines" = some w → w = .null ∨ w.IsListOf IsLine
  tags : ∀ w, v.field? templateKeys "tags" = some w → w = .null ∨ w.IsListOf fun _ => True

/-- A value holds a list under its only key. -/
structure Holds (key : String) (P : Json → Prop) (v : Json) : Prop where
  record : v.IsRecord [key]
  list : ∃ w, v.field? [key] key = some w ∧ w.IsListOf P

def IsChart : Json → Prop :=
  Holds "accounts" IsAccount

def IsCatalog : Json → Prop :=
  Holds "templates" IsTemplate

theorem reads_account : Reads Account.record.read IsAccount := by
  refine Record.reads_of_any (by decide) ?_
  simp only [Account.record, List.forall_mem_cons]
  exact ⟨⟨rfl, reads_any _ _⟩, ⟨rfl, reads_any _ _⟩, ⟨rfl, reads_any _ _⟩, ⟨rfl, reads_any _ _⟩,
    ⟨rfl, reads_any _ _⟩, nofun⟩

theorem reads_line : Reads TemplateLine.record.read IsLine := by
  refine Record.reads_of_any (by decide) ?_
  simp only [TemplateLine.record, List.forall_mem_cons]
  exact ⟨⟨rfl, reads_any _ _⟩, ⟨rfl, reads_any _ _⟩, ⟨rfl, reads_any _ _⟩, ⟨rfl, reads_any _ _⟩,
    ⟨rfl, reads_any _ _⟩, nofun⟩

theorem reads_tags :
    Reads JournalTemplate.readTags fun v => v = .null ∨ v.IsListOf fun _ => True := by
  intro depth node v hvalue
  rw [JournalTemplate.readTags, hvalue]
  cases v <;> simp [IsListOf]

def TemplateField (key : String) (w : Json) : Prop :=
  (key = "lines" → w = .null ∨ w.IsListOf IsLine) ∧
    (key = "tags" → w = .null ∨ w.IsListOf fun _ => True)

theorem reads_template : Reads JournalTemplate.record.read IsTemplate := by
  have hany (key : String) (set : Json → JournalTemplate → JournalTemplate)
      (hkey : key ≠ "lines" ∧ key ≠ "tags") : Reads (Field.any key set).read (TemplateField key) :=
    (reads_any key set).congr fun w => by simp [TemplateField, hkey]
  have hfields : ∀ f ∈ JournalTemplate.record.fields, Reads f.read (TemplateField f.key) := by
    simp only [JournalTemplate.record, List.forall_mem_cons]
    refine ⟨hany _ _ (by decide), hany _ _ (by decide), hany _ _ (by decide), hany _ _ (by decide),
      ?_, ?_, nofun⟩
    · refine (reads_nullable (reads_list reads_line) "lines" _).congr fun w => ?_
      show _ ↔ TemplateField "lines" w
      simp [TemplateField]
    · refine (reads_tags.map _).congr fun w => ?_
      simp [TemplateField]
  have hkeys : JournalTemplate.record.fields.map Field.key = templateKeys := by
    rfl
  refine (Record.reads_record (by decide) hfields).congr fun v => ?_
  constructor
  · rintro ⟨hrecord, hfits⟩
    have htaken : ∀ key ∈ templateKeys, ∀ w, v.field? templateKeys key = some w →
        TemplateField key w := by
      rw [← hkeys]
      exact List.forall_mem_map.mpr fun f hf => (hfits f hf).taken
    exact ⟨hrecord, fun w hw => (htaken "lines" (by decide) w hw).1 rfl,
      fun w hw => (htaken "tags" (by decide) w hw).2 rfl⟩
  · rintro ⟨hrecord, hlines, htags⟩
    -- what the record has for any other key is taken as it is
    have hoptional : ∀ f ∈ JournalTemplate.record.fields, f.required = false := by
      decide
    refine ⟨hrecord, fun f hf => ⟨by simp [hoptional f hf], fun w hw => ⟨?_, ?_⟩⟩⟩
    · intro hkey
      rw [hkey] at hw
      exact hlines w hw
    · intro hkey
      rw [hkey] at hw
      exact htags w hw

theorem reads_holding {α β : Type} {r : Record α} {key : String} {P : Json → Prop}
    {read : Nat → Node → Except Fault β} {set : List β → α → α} (hread : Reads read P)
    (hfields : r.fields = [.list key read set]) : Reads r.read (Holds key P) := by
  have hkeys : r.fields.map Field.key = [key] := by
    rw [hfields]
    rfl
  have hlist : ∀ f ∈ r.fields, Reads f.read (IsListOf P) := by
    rw [hfields, List.forall_mem_singleton]
    exact reads_required hread key set
  have hnodup : (r.fields.map Field.key).Nodup := by
    simp [hkeys]
  refine (Record.reads_record (P := fun _ => IsListOf P) hnodup hlist).congr fun v => ?_
  constructor
  · rintro ⟨hrecord, hfits⟩
    rw [hkeys] at hrecord hfits
    rw [hfields, List.forall_mem_singleton] at hfits
    obtain ⟨w, hw⟩ := Option.isSome_iff_exists.mp (hfits.required rfl)
    exact ⟨hrecord, w, hw, hfits.taken w hw⟩
  · rintro ⟨hrecord, w, hw, hlist⟩
    refine ⟨hkeys ▸ hrecord, ?_⟩
    rw [hkeys, hfields, List.forall_mem_singleton]
    exact (Field.fits_of_eq_some hw).mpr hlist

theorem reads_chart : Reads Account.chart.read IsChart :=
  reads_holding reads_account rfl

theorem reads_catalog : Reads JournalTemplate.catalog.read IsCatalog :=
  reads_holding reads_template rfl

end Json

variable {m : Machine} {coa templates : String} {document document' : List UInt8}
  {chart catalog : Json}

/-- A seed is loaded if its documents have the right shape, and only then. If that of the chart has
not, it is the one that is refused. -/
theorem loadSeed_eq_ok_iff (hcoa : m.contents coa = .ok document)
    (hchart : Json.decode .streamed (fun depth node => node.value depth) document = .ok chart)
    (htemplates : m.contents templates = .ok document')
    (hcatalog : Json.decode .streamed (fun depth node => node.value depth) document' =
      .ok catalog) :
    let run := (loadSeed coa templates : ExceptT Failure (StateM Machine) Seed).run m
    ((∃ seed, run.1 = .ok seed) ↔ chart.IsChart ∧ catalog.IsCatalog) ∧
      (¬chart.IsChart → ∃ refusal,
        Json.decode .streamed Account.chart.read document = .error refusal ∧
          run.1 = .error (.malformed coa refusal)) := by
  have haccounts := Json.decode_of_reads Json.reads_chart hchart
  have hrest := Json.decode_of_reads Json.reads_catalog hcatalog
  rw [run_loadSeed, Machine.seedAt, recordAt_of_contents _ hcoa, recordAt_of_contents _ htemplates]
  dsimp only
  rw [← haccounts, ← hrest]
  cases Json.decode .streamed Account.chart.read document with
  | error refusal =>
    refine ⟨⟨?_, ?_⟩, fun _ => ⟨refusal, rfl, rfl⟩⟩
    · rintro ⟨seed, hseed⟩
      cases hseed
    · rintro ⟨⟨accounts, haccounts⟩, -⟩
      cases haccounts
  | ok accounts =>
    refine ⟨?_, fun hnone => absurd ⟨accounts, rfl⟩ hnone⟩
    cases Json.decode .streamed JournalTemplate.catalog.read document' with
    | error refusal =>
      constructor
      · rintro ⟨seed, hseed⟩
        cases hseed
      · rintro ⟨-, templates, htemplates⟩
        cases htemplates
    | ok templates => exact iff_of_true ⟨_, rfl⟩ ⟨⟨accounts, rfl⟩, templates, rfl⟩

/-- A list with a list of accounts, which are written as a list and as an object. -/
def listedChart : List UInt8 :=
  Utf8.bytes "[[[1000,null],\x7b\"code\":\x7b\x7d,\"x\":0\x7d]]"

def doubledChart : List UInt8 :=
  Utf8.bytes "\x7b\"accounts\":[\x7b\"code\":1,\"code\":1\x7d]\x7d"

def shortCatalog : List UInt8 :=
  Utf8.bytes "\x7b\"templates\":[\x7b\"lines\":[[]],\"tags\":null\x7d]\x7d"

def shaped : Machine where
  tree := ⟨[(["listed.json"], .file listedChart), (["doubled.json"], .file doubledChart),
    (["templates.json"], .file shortCatalog)]⟩

theorem loadSeed_eq_ok_iff_shaped :
    (∃ seed, ((loadSeed "listed.json" "templates.json" :
      ExceptT Failure (StateM Machine) Seed).run shaped).1 = .ok seed) ∧
      ∃ refusal, ((loadSeed "doubled.json" "templates.json" :
        ExceptT Failure (StateM Machine) Seed).run shaped).1 =
          .error (.malformed "doubled.json" refusal) := by
  have hlisted : Json.decode .streamed (fun depth node => node.value depth) listedChart =
      .ok (.array [.array [.array [.number (.int 1000), .null],
        .object [("code", .object []), ("x", .number (.int 0))]]]) := by
    cbv
  have hdoubled : Json.decode .streamed (fun depth node => node.value depth) doubledChart =
      .ok (.object [("accounts", .array [.object [("code", .number (.int 1)),
        ("code", .number (.int 1))]])]) := by
    cbv
  have hshort : Json.decode .streamed (fun depth node => node.value depth) shortCatalog =
      .ok (.object [("templates", .array [.object [("lines", .array [.array []]),
        ("tags", .null)]])]) := by
    cbv
  have htemplates : shaped.contents "templates.json" = .ok shortCatalog := by
    rfl
  have hcatalog : Json.IsCatalog (.object [("templates", .array [.object
      [("lines", .array [.array []]), ("tags", .null)]])]) := by
    refine ⟨by simp [Json.IsRecord], _, rfl, ?_⟩
    rw [Json.IsListOf, List.forall_mem_singleton]
    refine ⟨by simp [Json.IsRecord, Json.templateKeys], fun w hw => ?_, fun w hw => ?_⟩
    · cases hw
      exact .inr (by simp [Json.IsListOf, Json.IsLine, Json.IsRecord])
    · cases hw
      exact .inl rfl
  constructor
  · have hcoa : shaped.contents "listed.json" = .ok listedChart := by
      rfl
    refine (loadSeed_eq_ok_iff hcoa hlisted htemplates hshort).1.mpr ⟨?_, hcatalog⟩
    refine ⟨by simp [Json.IsRecord], _, rfl, ?_⟩
    simp [Json.IsListOf, Json.IsAccount, Json.IsRecord]
  · have hcoa : shaped.contents "doubled.json" = .ok doubledChart := by
      rfl
    have hchart : ¬Json.IsChart (.object [("accounts", .array [.object
        [("code", .number (.int 1)), ("code", .number (.int 1))]])]) := by
      rintro ⟨-, w, hw, hlist⟩
      cases hw
      simp [Json.IsListOf, Json.IsAccount, Json.IsRecord] at hlist
    obtain ⟨refusal, -, hrefused⟩ :=
      (loadSeed_eq_ok_iff hcoa hdoubled htemplates hshort).2 hchart
    exact ⟨refusal, hrefused⟩

end SeedArchive
