import SeedArchive.Proofs.Json.Bare
import SeedArchive.Proofs.Json.Reordered
import SeedArchive.Proofs.Seed.Cells

namespace SeedArchive

namespace Json

theorem passes_account : Passes Account.record.read :=
  Record.passes_record <| by
    simp only [Account.record, List.forall_mem_cons]
    exact ⟨passes_any _ _, passes_any _ _, passes_any _ _, passes_any _ _, passes_any _ _,
      List.forall_mem_nil _⟩

theorem passes_line : Passes TemplateLine.record.read :=
  Record.passes_record <| by
    simp only [TemplateLine.record, List.forall_mem_cons]
    exact ⟨passes_any _ _, passes_any _ _, passes_any _ _, passes_any _ _, passes_any _ _,
      List.forall_mem_nil _⟩

theorem passes_tags : Passes JournalTemplate.readTags := by
  intro depth n tags hdepth h
  rw [JournalTemplate.readTags] at h
  cases hvalue : n.value depth with
  | error fault =>
    rw [hvalue] at h
    cases h
  | ok v => exact Node.obstacle_of_value hvalue

theorem passes_template : Passes JournalTemplate.record.read :=
  Record.passes_record <| by
    simp only [JournalTemplate.record, List.forall_mem_cons]
    exact ⟨passes_any _ _, passes_any _ _, passes_any _ _, passes_any _ _,
      passes_nullable (passes_list passes_line) _ _, passes_tags.map _, List.forall_mem_nil _⟩

theorem passes_chart : Passes Account.chart.read :=
  Record.passes_record <| by
    simp only [Account.chart, List.forall_mem_singleton]
    exact passes_required passes_account _ _

theorem passes_catalog : Passes JournalTemplate.catalog.read :=
  Record.passes_record <| by
    simp only [JournalTemplate.catalog, List.forall_mem_singleton]
    exact passes_required passes_template _ _

/-- What a document says, whatever blanks stand between its tokens. -/
def gist (document : List UInt8) : Node :=
  (documentNode (condensed document)).1.bare

theorem gist_of_decode {α : Type} {read : Nat → Node → Except Fault α} (hread : Passes read)
    {source : Source} {document : List UInt8} {a : α} (h : decode source read document = .ok a) :
    gist document = (documentNode document).1.bare := by
  obtain ⟨ha, n, hend⟩ := decode_eq_ok_iff.mp h
  exact documentNode_condensed (hread 128 _ a le_rfl ha) hend

/-- Members whose keys are strings. -/
def Members.named : Members → List (String × Node)
  | .member _ (.ok key) _ value rest => (key, value) :: rest.named
  | .member _ (.error _) _ _ rest => rest.named
  | .close _ | .broken _ _ => []

namespace Node

def IsNull : Node → Prop
  | .null _ => True
  | _ => False

instance : DecidablePred IsNull := fun n => by
  unfold IsNull
  split <;> infer_instance

/-- The values of a record with their keys; a list of values has those of `keys` in their order. -/
def named (keys : List String) : Node → List (String × Node)
  | .object _ found => found.named
  | .list _ found => keys.zip found.nodes
  | _ => []

/-- The values that a record has for `keys` and that are not null. -/
def given (keys : List String) (n : Node) : List (String × Node) :=
  (n.named keys).filter fun m => m.1 ∈ keys ∧ ¬m.2.IsNull

end Node

/-- Records with distinct keys that have the same values for `keys`, in whatever order and whatever
they have for other keys. Null is as good as no value. -/
structure SameRecord (keys : List String) (Same : String → Node → Node → Prop) (n n' : Node) :
    Prop where
  distinct : ((n.named keys).map Prod.fst).Nodup
  distinct' : ((n'.named keys).map Prod.fst).Nodup
  same : ∃ ms, List.Forall₂ (fun m m' => m.1 = m'.1 ∧ Same m.1 m.2 m'.2) (n.given keys) ms ∧
    ms.Perm (n'.given keys)

/-- Values that differ by the order of keys. -/
def SameText (n n' : Node) : Prop :=
  ∃ v v', n.json? = some v ∧ n'.json? = some v' ∧ Reordered v v'

def SameItems (Same : Node → Node → Prop) (n n' : Node) : Prop :=
  List.Forall₂ Same n.items n'.items

def SameAccount : Node → Node → Prop :=
  SameRecord accountKeys fun _ => SameText

def SameLine : Node → Node → Prop :=
  SameRecord lineKeys fun _ => SameText

def SameTemplate : Node → Node → Prop :=
  SameRecord templateKeys fun key =>
    if key = "lines" then SameItems SameLine
    else if key = "tags" then SameItems SameText
    else SameText

def SameChart : Node → Node → Prop :=
  SameRecord ["accounts"] fun _ => SameItems SameAccount

def SameCatalog : Node → Node → Prop :=
  SameRecord ["templates"] fun _ => SameItems SameTemplate

section Lookup

theorem lookup_eq_some_iff_mem {α : Type} {key : String} {a : α} {ms : List (String × α)}
    (hdistinct : (ms.map Prod.fst).Nodup) : ms.lookup key = some a ↔ (key, a) ∈ ms := by
  induction ms with
  | nil => simp
  | cons m ms ih =>
    obtain ⟨k, b⟩ := m
    rw [List.map_cons, List.nodup_cons] at hdistinct
    by_cases hk : key = k
    · subst hk
      have hnew : (key, a) ∉ ms := fun h => hdistinct.1 (List.mem_map.mpr ⟨_, h, rfl⟩)
      simp [hnew, eq_comm]
    · have hbeq : (key == k) = false := by simpa using hk
      simp [List.lookup_cons, hbeq, hk, ih hdistinct.2]

theorem find?_eq_lookup (key : String) :
    ∀ found : Members, found.find? key = found.named.lookup key
  | .close _ | .broken _ _ => rfl
  | .member _ (.error _) _ _ rest => find?_eq_lookup key rest
  | .member _ (.ok k) _ value rest => by
    rw [Members.find?, Members.named, List.lookup_cons, find?_eq_lookup key rest]
    by_cases hk : k = key
    · simp [hk]
    · have hbeq : (key == k) = false := by simpa using Ne.symm hk
      simp [hk, hbeq]

theorem lookup_zip {key : String} {keys : List String} (hkey : key ∈ keys) (ns : List Node) :
    (keys.zip ns).lookup key = ns[keys.idxOf key]? := by
  induction keys generalizing ns with
  | nil => cases hkey
  | cons k keys ih =>
    cases ns with
    | nil => rfl
    | cons n ns =>
      rw [List.zip_cons_cons, List.lookup_cons]
      by_cases hk : k = key
      · simp [hk]
      · have hbeq : (key == k) = false := by simpa using Ne.symm hk
        rw [hbeq, List.idxOf_cons_ne _ hk, List.getElem?_cons_succ]
        exact ih ((List.mem_cons.mp hkey).resolve_left (Ne.symm hk)) ns

theorem field?_eq_lookup {keys : List String} {key : String} (hkey : key ∈ keys) (n : Node) :
    n.field? keys key = (n.named keys).lookup key := by
  cases n with
  | object start found => exact find?_eq_lookup key found
  | list start found => exact (lookup_zip hkey _).symm
  | _ => rfl

variable {keys : List String} {key : String} {n n' : Node} {Same : String → Node → Node → Prop}

theorem mem_given_iff (hdistinct : ((n.named keys).map Prod.fst).Nodup) (hkey : key ∈ keys)
    {column : Node} :
    (key, column) ∈ n.given keys ↔ n.field? keys key = some column ∧ ¬column.IsNull := by
  rw [field?_eq_lookup hkey, lookup_eq_some_iff_mem hdistinct, Node.given, List.mem_filter]
  simp [hkey]

theorem exists_of_forall₂ {α β : Type} {R : α → β → Prop} {as : List α} {bs : List β}
    (h : List.Forall₂ R as bs) {a : α} (ha : a ∈ as) : ∃ b ∈ bs, R a b := by
  induction h with
  | nil => cases ha
  | cons hR _ ih =>
    obtain rfl | ha := List.mem_cons.mp ha
    · exact ⟨_, List.mem_cons_self, hR⟩
    · obtain ⟨b, hb, hR⟩ := ih ha
      exact ⟨b, List.mem_cons_of_mem _ hb, hR⟩

/-- Of two records that are the same either both have a value for a key, or neither has more than
null. -/
theorem SameRecord.field? (h : SameRecord keys Same n n') (hkey : key ∈ keys) :
    (∃ column column', n.field? keys key = some column ∧ n'.field? keys key = some column' ∧
        Same key column column') ∨
      (∀ column, n.field? keys key = some column → column.IsNull) ∧
        ∀ column, n'.field? keys key = some column → column.IsNull := by
  obtain ⟨ms, hsame, hperm⟩ := h.same
  by_cases hgiven : ∃ column, (key, column) ∈ n.given keys
  · obtain ⟨column, hcolumn⟩ := hgiven
    obtain ⟨⟨_, column'⟩, hcolumn', rfl, hsame⟩ := exists_of_forall₂ hsame hcolumn
    have hfield := (mem_given_iff h.distinct hkey).mp hcolumn
    have hfield' := (mem_given_iff h.distinct' hkey).mp (hperm.mem_iff.mp hcolumn')
    exact .inl ⟨column, column', hfield.1, hfield'.1, hsame⟩
  · refine .inr ⟨fun column hfield => ?_, fun column hfield => ?_⟩
    · by_contra hnull
      exact hgiven ⟨column, (mem_given_iff h.distinct hkey).mpr ⟨hfield, hnull⟩⟩
    · by_contra hnull
      have hcolumn := (mem_given_iff h.distinct' hkey).mpr ⟨hfield, hnull⟩
      obtain ⟨⟨_, column'⟩, hcolumn', rfl, -⟩ :=
        exists_of_forall₂ hsame.flip (hperm.mem_iff.mpr hcolumn)
      exact hgiven ⟨column', hcolumn'⟩

theorem columnText?_of_isNull
    (h : ∀ column, n.field? keys key = some column → column.IsNull) :
    n.columnText? keys key = none := by
  rw [Node.columnText?]
  cases hfield : n.field? keys key with
  | none => rfl
  | some column =>
    cases column with
    | null after => rfl
    | _ => exact (h _ hfield).elim

theorem listAt_of_isNull (h : ∀ column, n.field? keys key = some column → column.IsNull) :
    n.listAt keys key = [] := by
  rw [Node.listAt]
  cases hfield : n.field? keys key with
  | none => rfl
  | some column =>
    cases column with
    | null after => rfl
    | _ => exact (h _ hfield).elim

theorem SameRecord.columnText? (h : SameRecord keys Same n n') (hkey : key ∈ keys)
    (htext : Same key = SameText) : n'.columnText? keys key = n.columnText? keys key := by
  obtain ⟨column, column', hfield, hfield', hsame⟩ | ⟨hnull, hnull'⟩ := h.field? hkey
  · rw [htext] at hsame
    obtain ⟨v, v', hv, hv', hreordered⟩ := hsame
    rw [Node.columnText?, Node.columnText?, hfield, hfield', Option.bind_some, Option.bind_some,
      hv, hv', Option.bind_some, Option.bind_some, text?_of_reordered hreordered]
  · rw [columnText?_of_isNull hnull, columnText?_of_isNull hnull']

theorem SameRecord.listAt {SameItem : Node → Node → Prop} (h : SameRecord keys Same n n')
    (hkey : key ∈ keys) (hitems : Same key = SameItems SameItem) :
    List.Forall₂ SameItem (n.listAt keys key) (n'.listAt keys key) := by
  obtain ⟨column, column', hfield, hfield', hsame⟩ | ⟨hnull, hnull'⟩ := h.field? hkey
  · rw [hitems] at hsame
    rw [Node.listAt, Node.listAt, hfield, hfield']
    exact hsame
  · rw [listAt_of_isNull hnull, listAt_of_isNull hnull']
    exact .nil

theorem map_eq_of_forall₂ {α : Type} {R : Node → Node → Prop} {f : Node → α}
    {ns ns' : List Node} (h : List.Forall₂ R ns ns') (hf : ∀ n n', R n n' → f n' = f n) :
    ns'.map f = ns.map f := by
  induction h with
  | nil => rfl
  | cons hR _ ih => rw [List.map_cons, List.map_cons, hf _ _ hR, ih]

end Lookup

theorem account_of_same {n n' : Node} (h : SameAccount n n') : n'.account = n.account := by
  have hcolumn : ∀ key ∈ accountKeys, n'.columnText? accountKeys key =
      n.columnText? accountKeys key := fun key hkey => h.columnText? hkey rfl
  simp only [accountKeys, List.forall_mem_cons] at hcolumn
  obtain ⟨hcode, hname, htype, hparent, hbalance, -⟩ := hcolumn
  simp only [Node.account, Node.cell, accountKeys, hcode, hname, htype, hparent, hbalance]

theorem line_of_same {n n' : Node} (h : SameLine n n') : n'.line = n.line := by
  have hcolumn : ∀ key ∈ lineKeys, n'.columnText? lineKeys key =
      n.columnText? lineKeys key := fun key hkey => h.columnText? hkey rfl
  simp only [lineKeys, List.forall_mem_cons] at hcolumn
  obtain ⟨haccount, hhint, hposition, hformula, hdescription, -⟩ := hcolumn
  simp only [Node.line, Node.cell, lineKeys, haccount, hhint, hposition, hformula, hdescription]

theorem tag_of_same {n n' : Node} (h : SameText n n') : n'.tag = n.tag := by
  obtain ⟨v, v', hv, hv', hreordered⟩ := h
  rw [Node.tag, Node.tag, hv, hv', Option.bind_some, Option.bind_some,
    text?_of_reordered hreordered]

theorem template_of_same {n n' : Node} (h : SameTemplate n n') : n'.template = n.template := by
  have hcolumn : ∀ key ∈ ["name", "category", "cashFlowCategory", "description"],
      n'.columnText? templateKeys key = n.columnText? templateKeys key := by
    simp only [List.forall_mem_cons]
    exact ⟨h.columnText? (by decide) rfl, h.columnText? (by decide) rfl,
      h.columnText? (by decide) rfl, h.columnText? (by decide) rfl, nofun⟩
  simp only [List.forall_mem_cons] at hcolumn
  obtain ⟨hname, hcategory, hcashFlow, hdescription, -⟩ := hcolumn
  have hline : List.Forall₂ SameLine (n.listAt templateKeys "lines")
      (n'.listAt templateKeys "lines") := h.listAt (by decide) rfl
  have htag : List.Forall₂ SameText (n.listAt templateKeys "tags")
      (n'.listAt templateKeys "tags") := h.listAt (by decide) rfl
  have hlines := map_eq_of_forall₂ hline fun _ _ => line_of_same
  have htags := map_eq_of_forall₂ htag fun _ _ => tag_of_same
  simp only [Node.template, Node.cell, hname, hcategory, hcashFlow, hdescription, hlines, htags]

theorem accounts_of_same {n n' : Node} (h : SameChart n n') :
    n'.accounts.map Node.account = n.accounts.map Node.account := by
  have haccounts : List.Forall₂ SameAccount n.accounts n'.accounts :=
    h.listAt List.mem_cons_self rfl
  exact map_eq_of_forall₂ haccounts fun _ _ => account_of_same

theorem templates_of_same {n n' : Node} (h : SameCatalog n n') :
    n'.templates.map Node.template = n.templates.map Node.template := by
  have htemplates : List.Forall₂ SameTemplate n.templates n'.templates :=
    h.listAt List.mem_cons_self rfl
  exact map_eq_of_forall₂ htemplates fun _ _ => template_of_same

theorem cell_bare (keys : List String) (key default : String) (n : Node) :
    n.bare.cell keys key default = n.cell keys key default := by
  rw [Node.cell, Node.cell, Node.columnText?_bare]

theorem listAt_bare (keys : List String) (key : String) (n : Node) :
    n.bare.listAt keys key = (n.listAt keys key).map Node.bare := by
  rw [Node.listAt, Node.listAt, Node.field?_bare]
  cases n.field? keys key with
  | none => rfl
  | some column => exact column.items_bare

theorem account_bare (n : Node) : n.bare.account = n.account := by
  simp only [Node.account, cell_bare, Node.columnText?_bare]

theorem line_bare (n : Node) : n.bare.line = n.line := by
  simp only [Node.line, cell_bare, Node.columnText?_bare]

theorem tag_bare (n : Node) : n.bare.tag = n.tag := by
  rw [Node.tag, Node.tag, Node.json?_bare]

theorem template_bare (n : Node) : n.bare.template = n.template := by
  have hline : Node.line ∘ Node.bare = Node.line := funext line_bare
  have htag : Node.tag ∘ Node.bare = Node.tag := funext tag_bare
  simp only [Node.template, cell_bare, listAt_bare, List.map_map, hline, htag]

theorem accounts_bare (n : Node) :
    n.bare.accounts.map Node.account = n.accounts.map Node.account := by
  have haccount : Node.account ∘ Node.bare = Node.account := funext account_bare
  rw [Node.accounts, listAt_bare, List.map_map, haccount, Node.accounts]

theorem templates_bare (n : Node) :
    n.bare.templates.map Node.template = n.templates.map Node.template := by
  have htemplate : Node.template ∘ Node.bare = Node.template := funext template_bare
  rw [Node.templates, listAt_bare, List.map_map, htemplate, Node.templates]

/-- The accounts of a chart that is accepted are those of its gist. -/
theorem eq_accounts_of_decode {source : Source} {document : List UInt8} {accounts : List Account}
    (h : decode source Account.chart.read document = .ok accounts) :
    accounts = (gist document).accounts.map Node.account := by
  obtain ⟨haccounts, -⟩ := decode_eq_ok_iff.mp h
  rw [gist_of_decode passes_chart h, accounts_bare]
  exact (yields_chart 128 _ accounts le_rfl haccounts).2

theorem eq_templates_of_decode {source : Source} {document : List UInt8}
    {templates : List JournalTemplate}
    (h : decode source JournalTemplate.catalog.read document = .ok templates) :
    templates = (gist document).templates.map Node.template := by
  obtain ⟨htemplates, -⟩ := decode_eq_ok_iff.mp h
  rw [gist_of_decode passes_catalog h, templates_bare]
  exact (yields_catalog 128 _ templates le_rfl htemplates).2

end Json

/-- The seed that is loaded is made of the gists of its documents. -/
theorem eq_of_loadSeed {m : Machine} {coa templates : String} {chart catalog : List UInt8}
    (hchart : m.contents coa = .ok chart) (hcatalog : m.contents templates = .ok catalog)
    {seed : Seed}
    (h : ((loadSeed coa templates : ExceptT Failure (StateM Machine) Seed).run m).1 = .ok seed) :
    seed = ⟨(Json.gist chart).accounts.map Json.Node.account,
      (Json.gist catalog).templates.map Json.Node.template⟩ := by
  rw [run_loadSeed] at h
  obtain ⟨accounts, haccounts, h⟩ := bind_eq_ok_iff.mp h
  obtain ⟨journal, hjournal, h⟩ := bind_eq_ok_iff.mp h
  cases h
  rw [recordAt_of_contents _ hchart] at haccounts
  rw [recordAt_of_contents _ hcatalog] at hjournal
  rw [Json.eq_accounts_of_decode (mapError_eq_ok_iff.mp haccounts),
    Json.eq_templates_of_decode (mapError_eq_ok_iff.mp hjournal)]

/-- Documents of one meaning give one seed, and so the same findings and tables: neither the blanks
nor the order of keys, nor keys that are not known, nor a null in place of nothing come through. -/
theorem loadSeed_eq_of_same {m m' : Machine} {coa templates coa' templates' : String}
    {chart catalog chart' catalog' : List UInt8} {seed seed' : Seed}
    (hchart : m.contents coa = .ok chart) (hcatalog : m.contents templates = .ok catalog)
    (hchart' : m'.contents coa' = .ok chart') (hcatalog' : m'.contents templates' = .ok catalog')
    (hload :
      ((loadSeed coa templates : ExceptT Failure (StateM Machine) Seed).run m).1 = .ok seed)
    (hload' :
      ((loadSeed coa' templates' : ExceptT Failure (StateM Machine) Seed).run m').1 = .ok seed')
    (hsameChart : Json.SameChart (Json.gist chart) (Json.gist chart'))
    (hsameCatalog : Json.SameCatalog (Json.gist catalog) (Json.gist catalog')) :
    seed' = seed ∧ seed'.findings = seed.findings ∧
      seed'.accountTable.text = seed.accountTable.text ∧
      seed'.templateTable.text = seed.templateTable.text ∧
      seed'.lineTable.text = seed.lineTable.text ∧
      seed'.tagTable.text = seed.tagTable.text := by
  have hseed : seed' = seed := by
    rw [eq_of_loadSeed hchart hcatalog hload, eq_of_loadSeed hchart' hcatalog' hload',
      Json.accounts_of_same hsameChart, Json.templates_of_same hsameCatalog]
  rw [hseed]
  exact ⟨rfl, rfl, rfl, rfl, rfl, rfl⟩

/-- An object, wherever it stands. -/
def Json.Node.ofMembers (ms : List (String × Node)) : Node :=
  .object 0 (ms.foldr (fun m rest => .member (.at 0) (.ok m.1) (.at 0) m.2 rest) (.close (.at 0)))

/-- A list, wherever it stands. -/
def Json.Node.ofItems (ns : List Node) : Node :=
  .list 0 (ns.foldr (.item 0) (.close (.at 0)))

def Json.Node.ofNat (n : Nat) : Node :=
  .number (.ok (.int n)) (.at 0)

def spacedChart : List UInt8 :=
  Utf8.bytes
    "\x7b\"accounts\": [\x7b\"code\": \x7b\"b\": 1, \"a\": 2\x7d, \"name\": null\x7d]\x7d\n"

/-- The same in another order and with keys that are not known, of which one has no value. -/
def denseChart : List UInt8 :=
  Utf8.bytes "\x7b\"x\":1e999,\"accounts\":[\x7b\"y\":[],\"code\":\x7b\"a\":2,\"b\":1\x7d\x7d]\x7d"

def spacedCatalog : List UInt8 :=
  Utf8.bytes
    "\x7b\"templates\": [\x7b\"lines\": [\x7b\"position\": null\x7d], \"tags\": [7]\x7d]\x7d"

def denseCatalog : List UInt8 :=
  Utf8.bytes "\x7b\"templates\":[\x7b\"tags\":[7],\"lines\":[\x7b\x7d]\x7d]\x7d"

def retyped : Machine where
  tree := ⟨[(["coa.json"], .file spacedChart), (["coa2.json"], .file denseChart),
    (["templates.json"], .file spacedCatalog), (["templates2.json"], .file denseCatalog)]⟩

def retypedSeed : Seed where
  accounts := [{ code := "\x7b\"a\":2,\"b\":1\x7d" }]
  templates := [{ lines := [{}], tags := ["7"] }]

theorem sameChart_retyped : Json.SameChart (Json.gist spacedChart) (Json.gist denseChart) := by
  have hspaced : Json.gist spacedChart = .ofMembers [("accounts", .ofItems [.ofMembers
      [("code", .ofMembers [("b", .ofNat 1), ("a", .ofNat 2)]), ("name", .null (.at 0))]])] := by
    cbv
  have hdense : Json.gist denseChart = .ofMembers
      [("x", .number (.error ⟨.numberOutOfRange, .at 0⟩) (.at 0)),
        ("accounts", .ofItems [.ofMembers
          [("y", .ofItems []), ("code", .ofMembers [("a", .ofNat 2), ("b", .ofNat 1)])]])] := by
    cbv
  rw [hspaced, hdense]
  refine ⟨by decide, by decide, _, ?_, .refl _⟩
  refine .cons ⟨rfl, .cons ⟨by decide, by decide, _, ?_, .refl _⟩ .nil⟩ .nil
  refine .cons ⟨rfl, ?_⟩ .nil
  exact ⟨.object [("b", .number (.int 1)), ("a", .number (.int 2))],
    .object [("a", .number (.int 2)), ("b", .number (.int 1))], rfl, rfl,
    .object (by decide) (.cons "b" (.number _) (.cons "a" (.number _) .nil)) (.swap _ _ _)⟩

theorem sameCatalog_retyped :
    Json.SameCatalog (Json.gist spacedCatalog) (Json.gist denseCatalog) := by
  have hspaced : Json.gist spacedCatalog = .ofMembers [("templates", .ofItems [.ofMembers
      [("lines", .ofItems [.ofMembers [("position", .null (.at 0))]]),
        ("tags", .ofItems [.ofNat 7])]])] := by
    cbv
  have hdense : Json.gist denseCatalog = .ofMembers [("templates", .ofItems [.ofMembers
      [("tags", .ofItems [.ofNat 7]), ("lines", .ofItems [.ofMembers []])]])] := by
    cbv
  rw [hspaced, hdense]
  refine ⟨by decide, by decide, _, ?_, .refl _⟩
  refine .cons ⟨rfl, .cons ⟨by decide, by decide, _, ?_, .swap _ _ _⟩ .nil⟩ .nil
  refine .cons ⟨rfl, ?_⟩ (.cons ⟨rfl, ?_⟩ .nil)
  · exact .cons ⟨by decide, by decide, [], .nil, .nil⟩ .nil
  · exact .cons ⟨.number (.int 7), .number (.int 7), rfl, rfl, .number _⟩ .nil

theorem loadSeed_eq_of_same_retyped :
    ((loadSeed "coa.json" "templates.json" : ExceptT Failure (StateM Machine) Seed).run
        retyped).1 = .ok retypedSeed ∧
      ∃ seed, ((loadSeed "coa2.json" "templates2.json" :
        ExceptT Failure (StateM Machine) Seed).run retyped).1 = .ok seed ∧ seed = retypedSeed := by
  have hload : ((loadSeed "coa.json" "templates.json" :
      ExceptT Failure (StateM Machine) Seed).run retyped).1 = .ok retypedSeed := by
    apply eq_ok_of_toOption
    decide +kernel
  have hload' : ∃ seed, ((loadSeed "coa2.json" "templates2.json" :
      ExceptT Failure (StateM Machine) Seed).run retyped).1 = .ok seed := by
    refine ⟨retypedSeed, eq_ok_of_toOption ?_⟩
    decide +kernel
  obtain ⟨seed, hload'⟩ := hload'
  have hchart : retyped.contents "coa.json" = .ok spacedChart := by
    rfl
  have hchart' : retyped.contents "coa2.json" = .ok denseChart := by
    rfl
  have hcatalog : retyped.contents "templates.json" = .ok spacedCatalog := by
    rfl
  have hcatalog' : retyped.contents "templates2.json" = .ok denseCatalog := by
    rfl
  have hseed := loadSeed_eq_of_same hchart hcatalog hchart' hcatalog' hload hload'
    sameChart_retyped sameCatalog_retyped
  exact ⟨hload, seed, hload', hseed.1⟩

end SeedArchive
