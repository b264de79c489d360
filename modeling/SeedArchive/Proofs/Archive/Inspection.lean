import SeedArchive.Failure
import SeedArchive.Proofs.Seed.Written
import SeedArchive.Proofs.Zip.RoundTrip

namespace SeedArchive

theorem nodup_names : Layout.names.Nodup := by
  decide +kernel

theorem length_name_lt : ∀ e ∈ Layout.entries, (Utf8.bytes e.name).length < 2 ^ 16 := by
  simp only [Layout.entries, Layout.manifestName, List.forall_mem_cons, List.not_mem_nil,
    false_implies, implies_true, and_true]
  repeat' apply And.intro
  all_goals
    rw [Utf8.bytes, String.toList_ofList]
    decide +kernel

theorem isTable_iff : ∀ e ∈ Layout.entries, isTable e.name = true ↔ e.content ≠ .manifest := by
  simp only [Layout.entries, Layout.manifestName, isTable, tableEnding, List.forall_mem_cons,
    List.not_mem_nil, false_implies, implies_true, and_true]
  repeat' apply And.intro
  all_goals
    rw [String.toList_ofList, String.toList_ofList]
    decide +kernel

/-- The entries that hold what a seed brings along. -/
def Content.OfSeed (c : Content) : Prop :=
  c ∈ [Content.accounts, .templates, .templateLines, .templateTags]

instance : DecidablePred Content.OfSeed := fun c => by
  unfold Content.OfSeed
  infer_instance

/-- The entries that hold what a seed brings along, with their names. -/
def Layout.seedEntries : List LayoutEntry := [
  ⟨"02_chart_of_accounts.csv", .accounts⟩,
  ⟨"04_journal_templates.csv", .templates⟩,
  ⟨"05_journal_template_lines.csv", .templateLines⟩,
  ⟨"06_journal_template_tags.csv", .templateTags⟩]

theorem mem_seedEntries_iff {e : LayoutEntry} :
    e ∈ Layout.seedEntries ↔ e ∈ Layout.entries ∧ e.content.OfSeed := by
  have hfilter : Layout.entries.filter (fun e => e.content.OfSeed) = Layout.seedEntries := rfl
  rw [← hfilter, List.mem_filter, decide_eq_true_eq]

theorem mem_placeholders {p : String × String} (hp : p ∈ Layout.placeholders) :
    ∃ e ∈ Layout.entries, e.name = p.1 ∧ e.content = .placeholder p.2 := by
  obtain ⟨e, he, hplace⟩ := List.mem_filterMap.mp hp
  split at hplace
  next columns hcontent =>
    obtain rfl := Option.some.inj hplace
    exact ⟨e, he, rfl, hcontent⟩
  next => cases hplace

theorem heading_append_malformed (name cause : String) :
    Category.archive.heading ++ s!"Malformed CSV in {name}: {cause}" =
      "Archive error: Malformed CSV in " ++ name ++ ": " ++ cause := by
  have hheading : "Archive error: Malformed CSV in " =
      "Archive error: " ++ "Malformed CSV in " := by
    decide
  rw [hheading]
  simp only [Category.heading, toString, String.append_assoc]

theorem message_malformed (name : String) (fault : Csv.Fault) :
    (Failure.report (.malformed name fault)).message =
      "Archive error: Malformed CSV in " ++ name ++ ": " ++ fault.text :=
  heading_append_malformed name fault.text

theorem message_damaged (name : String) (damage : Zip.Damage) :
    (Failure.report (.damaged name damage)).message =
      "Archive error: Malformed CSV in " ++ name ++ ": " ++ damage.text :=
  heading_append_malformed name damage.text

theorem ofEach_map {α : Type} {entry : α → Zip.Entry} {report : α → EntryReport}
    {P : α → ReportFault → Prop} {as : List α}
    (h : ∀ a ∈ as, EntryReport.of (entry a) = .ok (report a) ∨
      ∃ fault, EntryReport.of (entry a) = .error fault ∧ P a fault) :
    EntryReport.ofEach (as.map entry) = .ok (as.map report) ∨
      ∃ a ∈ as, ∃ fault, EntryReport.ofEach (as.map entry) = .error fault ∧ P a fault := by
  induction as with
  | nil => exact Or.inl rfl
  | cons a as ih =>
    obtain ⟨ha, has⟩ := List.forall_mem_cons.mp h
    rw [List.map_cons, EntryReport.ofEach]
    rcases ha with hok | ⟨fault, herror, hP⟩
    · rcases ih has with hrest | ⟨b, hb, fault, hrest, hP⟩
      · left
        rw [hok, hrest]
        rfl
      · right
        refine ⟨b, List.mem_cons_of_mem a hb, fault, ?_, hP⟩
        rw [hok, hrest]
        rfl
    · right
      refine ⟨a, List.mem_cons_self, fault, ?_, hP⟩
      rw [herror]
      rfl

/-- What is reported of a file: only a table can be malformed, and only by its records. -/
theorem of_entry (f : Zip.File) :
    EntryReport.of f.entry =
      if isTable f.name then
        match Csv.read f.bytes with
        | .ok rows => .ok ⟨f.name, some rows.length, f.bytes.length, f.data.length⟩
        | .error fault => .error (.malformed f.name fault)
      else .ok ⟨f.name, none, f.bytes.length, f.data.length⟩ := by
  unfold EntryReport.of
  simp only [Zip.File.entry, Zip.contents_entry, countRows]
  split
  · cases Csv.read f.bytes <;> rfl
  · rfl

theorem Manifest.exists_text_eq (m : Manifest) (s : Settings) :
    ∃ before after, m.text s = before ++ "## Export Contents\n" ++
      "- Chart of Accounts: " ++ toString m.accounts ++ " records\n" ++
      "- Journal Templates: " ++ toString m.templates ++ " records\n" ++ after := by
  have hhead : "## Export Contents\n" = "## Export Contents" ++ "\n" := by decide
  have hend : " records\n" = " records" ++ "\n" := by decide
  refine ⟨String.join (((m.lines s).take 10).map (· ++ "\n")),
    String.join (((m.lines s).drop 13).map (· ++ "\n")), ?_⟩
  rw [text, hhead, hend]
  simp only [lines, List.cons_append, List.nil_append, List.map_cons, String.join_cons,
    String.append_assoc, List.take_succ_cons, List.take_zero, List.drop_succ_cons, List.drop_zero,
    List.map_nil, String.join_nil, String.empty_append]

/-- The text that is read from an entry of an archive. -/
def Archive.text? (a : Archive) (name : String) : Option String :=
  match Zip.read a.bytes with
  | .error _ => none
  | .ok entries => do
    let e ← entries.find? fun e => e.name = name
    let source ← e.source.toOption
    let contents := source.contents e.checksum
    if contents.damage = none then Utf8.text? contents.bytes else none

namespace Seed

variable (s : Seed) (settings : Settings) (exportedAt : Timestamp)

def file (e : LayoutEntry) : Zip.File :=
  { name := e.name, bytes := Utf8.bytes (s.textOf settings exportedAt e.content) }

theorem files_eq_map :
    s.files settings exportedAt = Layout.entries.map (s.file settings exportedAt) := by
  rw [files, texts, List.map_map]
  rfl

/-- The number of rows that an entry has to have; the manifest is no table. -/
def recordCount? (c : Content) : Option Nat :=
  if c = .manifest then none else some (s.rows c).length

theorem ofSeed_of_mem_written {c : Content} {t : String} (ht : t ∈ s.written c) : c.OfSeed := by
  cases c with
  | manifest => simp [written] at ht
  | placeholder columns => simp [written] at ht
  | _ => decide

/-- A table is reported with the number of rows that it has, or it is malformed and there is a bare
return in it. -/
theorem of_file {e : LayoutEntry} (he : e ∈ Layout.entries) :
    EntryReport.of (s.file settings exportedAt e).entry =
        .ok ⟨e.name, s.recordCount? e.content, (s.file settings exportedAt e).bytes.length,
          (s.file settings exportedAt e).data.length⟩ ∨
      ∃ fault, EntryReport.of (s.file settings exportedAt e).entry = .error fault ∧
        e.content.OfSeed ∧ (∃ f, fault = .malformed e.name f) ∧
        ∃ t ∈ s.written e.content, Csv.BareReturn t := by
  have htable := isTable_iff e he
  rw [of_entry]
  by_cases hm : e.content = .manifest
  · left
    have hno : ¬ isTable (s.file settings exportedAt e).name = true := fun h => htable.mp h hm
    rw [if_neg hno, recordCount?, if_pos hm]
    rfl
  · have hheader := plainHeader_columns e he hm
    have hunder := s.under_rows e.content
    have hbytes : (s.file settings exportedAt e).bytes =
        Utf8.bytes (table e.content.columns (s.rows e.content)).text := by
      rw [file, s.textOf_eq_table settings exportedAt hm]
    have hyes : isTable (s.file settings exportedAt e).name = true := htable.mpr hm
    rw [if_pos hyes, recordCount?, if_neg hm]
    cases hread : Csv.read (s.file settings exportedAt e).bytes with
    | ok found =>
      left
      have hlength := Csv.length_of_read_table hheader hunder (hbytes ▸ hread)
      rw [← hlength]
      rfl
    | error fault =>
      right
      have hbare : ∃ t ∈ s.written e.content, Csv.BareReturn t := by
        by_contra hnone
        have hclean : ∀ t ∈ s.written e.content, ¬ Csv.BareReturn t :=
          fun t ht hb => hnone ⟨t, ht, hb⟩
        have hok := Csv.read_table_of_not_bareReturn hheader hunder
          ((s.not_bareReturn_rows_iff e.content).mpr hclean)
        rw [← hbytes, hread] at hok
        cases hok
      obtain ⟨t, ht, hb⟩ := hbare
      exact ⟨_, rfl, s.ofSeed_of_mem_written ht, ⟨fault, rfl⟩, t, ht, hb⟩

variable {s settings exportedAt}

section Fitting

variable (h : ∀ f ∈ s.files settings exportedAt, f.fits = true)
include h

theorem build_of_fits :
    s.build settings exportedAt =
      .ok ⟨s.archive settings exportedAt, Layout.names, s.accounts.length, s.templates.length⟩ := by
  have hnone : (s.files settings exportedAt).find? (fun f => ¬ f.fits) = none := by
    rw [List.find?_eq_none]
    intro f hf
    rw [h f hf]
    decide
  unfold build
  rw [hnone]

theorem read_archive :
    Zip.read (s.archive settings exportedAt) =
      .ok (Layout.entries.map fun e => (s.file settings exportedAt e).entry) := by
  have hnames : (s.files settings exportedAt).map Zip.File.name = Layout.names := by
    rw [files_eq_map, List.map_map]
    rfl
  have hcount : (s.files settings exportedAt).length < 2 ^ 16 := by
    rw [files_eq_map, List.length_map]
    decide
  have hname : ∀ f ∈ s.files settings exportedAt, (Utf8.bytes f.name).length < 2 ^ 16 := by
    rw [files_eq_map, List.forall_mem_map]
    exact length_name_lt
  rw [archive, Zip.read_write (Zip.writable_of_fits hname (hnames ▸ nodup_names) h hcount),
    files_eq_map, List.map_map]
  rfl

/-- Every text of a seed is read back from its archive. -/
theorem text?_archive {a : Archive} (ha : a.bytes = s.archive settings exportedAt)
    {e : LayoutEntry} (he : e ∈ Layout.entries) :
    a.text? e.name = some (s.textOf settings exportedAt e.content) := by
  have hfind : (Layout.entries.map fun e => (s.file settings exportedAt e).entry).find?
      (fun entry => entry.name = e.name) = some (s.file settings exportedAt e).entry := by
    have hnodup : ((Layout.entries.map fun e => (s.file settings exportedAt e).entry).map
        Zip.Entry.name).Nodup := by
      rw [List.map_map]
      exact nodup_names
    exact Zip.find?_eq_some_of_nodup hnodup (List.mem_map_of_mem he)
  have hcontents := Zip.contents_entry (s.file settings exportedAt e)
  have htext : Utf8.text? (s.file settings exportedAt e).bytes =
      some (s.textOf settings exportedAt e.content) := by
    rw [file, Utf8.text?, Utf8.bytes, Utf8.decode_encode]
    simp
  rw [Archive.text?, ha, read_archive h]
  simp only [hfind, bind, Option.bind]
  simp only [Zip.File.entry, Except.toOption, hcontents, if_true, htext]

/-- What a report says of the archive of a seed, unless a table is malformed. -/
theorem ofArchive_archive :
    (∃ r, Report.ofArchive (s.archive settings exportedAt) = .ok r ∧
        r.entries.map EntryReport.name = Layout.names ∧ r.missing = [] ∧ r.unexpected = [] ∧
        r.layoutMatches = true ∧
        ∀ e ∈ Layout.entries, r.rowsOf e.name = s.recordCount? e.content) ∨
      ∃ e ∈ Layout.entries, ∃ fault,
        Report.ofArchive (s.archive settings exportedAt) = .error fault ∧
        e.content.OfSeed ∧ (∃ f, fault = .malformed e.name f) ∧
        ∃ t ∈ s.written e.content, Csv.BareReturn t := by
  have hread : Report.ofArchive (s.archive settings exportedAt) =
      Report.ofEntries (Layout.entries.map fun e => (s.file settings exportedAt e).entry) := by
    rw [Report.ofArchive, read_archive h]
  rw [hread, Report.ofEntries]
  rcases ofEach_map (fun e he => s.of_file settings exportedAt he) with hok | herror
  · left
    rw [hok]
    refine ⟨_, rfl, ?_⟩
    generalize hreports : Layout.entries.map (fun e => (⟨e.name, s.recordCount? e.content,
      (s.file settings exportedAt e).bytes.length,
      (s.file settings exportedAt e).data.length⟩ : EntryReport)) = reports
    have hnames : reports.map EntryReport.name = Layout.names := by
      rw [← hreports, List.map_map]
      rfl
    refine ⟨hnames, ?_, ?_, ?_, ?_⟩
    · simp [Report.ofReports, hnames]
    · simp [Report.ofReports, hnames]
    · simp [Report.ofReports, hnames]
    · intro e he
      have hmem : (⟨e.name, s.recordCount? e.content, (s.file settings exportedAt e).bytes.length,
          (s.file settings exportedAt e).data.length⟩ : EntryReport) ∈ reports := by
        rw [← hreports]
        exact List.mem_map_of_mem he
      have hfind := Zip.find?_eq_some_of_nodup (hnames ▸ nodup_names) hmem
      rw [Report.rowsOf, Report.ofReports, hfind]
      rfl
  · right
    obtain ⟨e, he, fault, herror, hP⟩ := herror
    refine ⟨e, he, fault, ?_, hP⟩
    rw [herror]
    rfl

end Fitting

theorem length_lineRows :
    (s.rows .templateLines).length = (s.templates.map fun t => t.lines.length).sum := by
  rw [rows, List.length_flatMap]
  congr 1
  apply List.map_congr_left
  intro t _
  rw [JournalTemplate.lineCells, List.length_map, ← t.map_snd_numberedLines, List.length_map]

theorem length_tagRows :
    (s.rows .templateTags).length = (s.templates.map fun t => t.tags.length).sum := by
  rw [rows, List.length_flatMap]
  congr 1
  apply List.map_congr_left
  intro t _
  rw [JournalTemplate.tagCells, List.length_map]

/-- What a report has to say of an archive for a seed. -/
structure Told (s : Seed) (a : Archive) (r : Report) : Prop where
  layoutMatches : r.layoutMatches = true
  missing : r.missing = []
  unexpected : r.unexpected = []
  names : r.entries.map EntryReport.name = a.entries
  length : r.entries.length = 35
  accounts : r.rowsOf "02_chart_of_accounts.csv" = some a.accounts
  templates : r.rowsOf "04_journal_templates.csv" = some a.templates
  lines : r.rowsOf "05_journal_template_lines.csv" =
    some (s.templates.map fun t => t.lines.length).sum
  tags : r.rowsOf "06_journal_template_tags.csv" =
    some (s.templates.map fun t => t.tags.length).sum
  placeholders : ∀ p ∈ Layout.placeholders, r.rowsOf p.1 = some 0
  manifest : r.rowsOf "MANIFEST.md" = none

theorem told_of_rowsOf {r : Report} (hnames : r.entries.map EntryReport.name = Layout.names)
    (hmissing : r.missing = []) (hunexpected : r.unexpected = []) (hlayout : r.layoutMatches = true)
    (hrows : ∀ e ∈ Layout.entries, r.rowsOf e.name = s.recordCount? e.content)
    (bytes : List UInt8) :
    Told s ⟨bytes, Layout.names, s.accounts.length, s.templates.length⟩ r := by
  have hseed {e : LayoutEntry} (he : e ∈ Layout.seedEntries) :
      r.rowsOf e.name = s.recordCount? e.content :=
    hrows e (mem_seedEntries_iff.mp he).1
  have hlength := congrArg List.length hnames
  rw [List.length_map] at hlength
  have htable (c : Content) (hc : c ≠ .manifest) :
      s.recordCount? c = some (s.rows c).length := by
    rw [recordCount?, if_neg hc]
  refine ⟨hlayout, hmissing, hunexpected, hnames, hlength.trans rfl, ?_, ?_, ?_, ?_, ?_, ?_⟩
  · have hcount := hseed (e := ⟨"02_chart_of_accounts.csv", .accounts⟩) (by decide)
    rw [hcount, htable _ (by decide), rows, List.length_map]
  · have hcount := hseed (e := ⟨"04_journal_templates.csv", .templates⟩) (by decide)
    rw [hcount, htable _ (by decide), rows, List.length_map]
  · have hcount := hseed (e := ⟨"05_journal_template_lines.csv", .templateLines⟩) (by decide)
    rw [hcount, htable _ (by decide), length_lineRows]
  · have hcount := hseed (e := ⟨"06_journal_template_tags.csv", .templateTags⟩) (by decide)
    rw [hcount, htable _ (by decide), length_tagRows]
  · intro p hp
    obtain ⟨e, he, hname, hcontent⟩ := mem_placeholders hp
    rw [← hname, hrows e he, hcontent, htable _ (by simp)]
    rfl
  · have hcount := hrows ⟨"MANIFEST.md", .manifest⟩ (List.mem_cons_self)
    exact hcount.trans (if_pos rfl)

end Seed

theorem length_bytes_append (a b : String) :
    (Utf8.bytes (a ++ b)).length = (Utf8.bytes a).length + (Utf8.bytes b).length := by
  simp [Utf8.bytes]

theorem length_bytes_join_le {pieces : List String} {bound : Nat}
    (h : ∀ piece ∈ pieces, (Utf8.bytes piece).length ≤ bound) :
    (Utf8.bytes (String.join pieces)).length ≤ pieces.length * bound := by
  rw [Utf8.bytes, String.toList_join, Utf8.encode, List.flatMap_assoc]
  exact Zip.length_flatMap_le h

theorem length_bytes_table_le {columns : String} {rows : List (List String)} {bound : Nat}
    (hcolumns : (Utf8.bytes columns).length ≤ bound)
    (hrows : ∀ row ∈ rows, (Utf8.bytes (Csv.join (row.map Csv.escape))).length ≤ bound) :
    (Utf8.bytes (Seed.table columns rows).text).length ≤ (rows.length + 1) * (bound + 1) := by
  have htext : (Seed.table columns rows).text.toList = columns.toList ++ '\n' ::
      rows.flatMap fun row => (Csv.join (row.map Csv.escape)).toList ++ ['\n'] := by
    rw [Seed.table, Csv.toList_pushAll, List.flatMap_map]
    simp [Csv.Table.header]
  have hlines : (Utf8.encode (rows.flatMap fun row =>
      (Csv.join (row.map Csv.escape)).toList ++ ['\n'])).length ≤ rows.length * (bound + 1) := by
    rw [Utf8.encode, List.flatMap_assoc]
    apply Zip.length_flatMap_le
    intro row hr
    have hrow := hrows row hr
    rw [Utf8.bytes, Utf8.encode] at hrow
    rw [List.flatMap_append, List.length_append]
    exact Nat.add_le_add hrow (by decide)
  rw [Utf8.bytes] at hcolumns ⊢
  rw [htext, Utf8.encode_append, Utf8.encode_cons, List.length_append, List.length_append,
    Nat.succ_mul]
  have hfeed : (String.utf8EncodeChar '\n').length = 1 := by decide
  omega

theorem length_columns_le : ∀ e ∈ Layout.entries,
    (Utf8.bytes e.content.columns).length ≤ 2 ^ 10 := by
  simp only [Layout.entries, Content.columns, Account.columns, JournalTemplate.columns,
    JournalTemplate.tagColumns, TemplateLine.columns, List.forall_mem_cons, List.not_mem_nil,
    false_implies, implies_true, and_true]
  repeat' apply And.intro
  all_goals
    rw [Utf8.bytes, String.toList_ofList]
    decide +kernel

namespace Seed

variable {s : Seed} {settings : Settings} {exportedAt : Timestamp}

def sample : Seed where
  accounts := [{ code := "1000", name := "Cash,\r\n\"Bank\"", type? := some .asset }]
  templates := [{
    name := "Rent"
    lines := [{ account := "5100" }, { account := "1000", position := .credit }]
    tags := ["a, b", ""] }]

def noon : Timestamp :=
  ⟨2024, 2, 29, 12, 0, 0, by decide, by decide, by decide, by decide, by decide, by decide⟩

theorem length_sample_manifest_lt :
    (Utf8.bytes ((sample.manifest noon).text {})).length < 2 ^ 31 := by
  have hlines : ∀ line ∈ ((sample.manifest noon).lines {}).map (· ++ "\n"),
      (Utf8.bytes line).length ≤ 2 ^ 10 := by
    simp only [Manifest.lines, Manifest.absent, List.map_append, List.map_cons, List.map_nil,
      List.forall_mem_append, List.forall_mem_cons, List.not_mem_nil, false_implies, implies_true,
      and_true, length_bytes_append]
    repeat' apply And.intro
    all_goals decide +kernel
  have htotal := length_bytes_join_le hlines
  have hcount : (((sample.manifest noon).lines {}).map (· ++ "\n")).length = 30 := by rfl
  rw [Manifest.text]
  omega

theorem fits_sample : ∀ f ∈ sample.files {} noon, f.fits = true := by
  rw [files_eq_map, List.forall_mem_map]
  intro e he
  apply Zip.File.fits_of_length_lt
  show (Utf8.bytes (sample.textOf {} noon e.content)).length < 2 ^ 31
  by_cases hm : e.content = .manifest
  · rw [hm]
    exact length_sample_manifest_lt
  · have hrows : (sample.rows e.content).length ≤ 2 ∧ ∀ row ∈ sample.rows e.content,
        (Utf8.bytes (Csv.join (row.map Csv.escape))).length ≤ 2 ^ 10 := by
      cases e.content with
      | manifest => simp [rows]
      | placeholder columns => simp [rows]
      | _ => decide +kernel
    have htotal := length_bytes_table_le (length_columns_le e he) hrows.2
    rw [sample.textOf_eq_table {} noon hm]
    omega

/-- Building succeeds, and a report on the archive tells what the build tells and what the manifest
says, unless one of the four tables of the seed is malformed because of a bare return. -/
theorem build_then_report (h : ∀ f ∈ s.files settings exportedAt, f.fits = true) :
    ∃ archive, s.build settings exportedAt = .ok archive ∧
      archive.accounts = s.accounts.length ∧ archive.templates = s.templates.length ∧
      (∃ before after, archive.text? "MANIFEST.md" = some (before ++ "## Export Contents\n" ++
        "- Chart of Accounts: " ++ toString archive.accounts ++ " records\n" ++
        "- Journal Templates: " ++ toString archive.templates ++ " records\n" ++ after)) ∧
      match Report.ofArchive archive.bytes with
      | .ok r => Told s archive r
      | .error fault =>
        ∃ e ∈ Layout.seedEntries,
          (∃ detail, (Failure.report fault).message =
            "Archive error: Malformed CSV in " ++ e.name ++ ": " ++ detail) ∧
          ∃ t ∈ s.written e.content, Csv.BareReturn t := by
  obtain ⟨before, after, htext⟩ := (s.manifest exportedAt).exists_text_eq settings
  have hmanifest : (⟨"MANIFEST.md", .manifest⟩ : LayoutEntry) ∈ Layout.entries :=
    List.mem_cons_self
  refine ⟨_, build_of_fits h, rfl, rfl, ⟨before, after, ?_⟩, ?_⟩
  · exact (text?_archive h rfl hmanifest).trans (congrArg some htext)
  have houtcome := ofArchive_archive h
  -- the bytes of the archive are of no more use, and too many to be carried along
  generalize Report.ofArchive (s.archive settings exportedAt) = outcome at houtcome ⊢
  rcases houtcome with ⟨r, rfl, hnames, hmissing, hunexpected, hlayout, hrows⟩ |
    ⟨e, he, fault, rfl, hseed, ⟨f, rfl⟩, hbare⟩
  · exact told_of_rowsOf hnames hmissing hunexpected hlayout hrows _
  · exact ⟨e, mem_seedEntries_iff.mpr ⟨he, hseed⟩, ⟨f.text, message_malformed e.name f⟩, hbare⟩

/-- A carriage return beside a comma does no harm. -/
theorem build_then_report_sample :
    (∀ f ∈ sample.files {} noon, f.fits = true) ∧
      ∃ archive r, sample.build {} noon = .ok archive ∧
        Report.ofArchive archive.bytes = .ok r ∧ Told sample archive r := by
  refine ⟨fits_sample, ?_⟩
  obtain ⟨archive, hbuild, -, -, -, houtcome⟩ := build_then_report fits_sample
  have hclean : ∀ e ∈ Layout.seedEntries, ∀ t ∈ sample.written e.content, ¬ Csv.BareReturn t := by
    decide +kernel
  cases hr : Report.ofArchive archive.bytes with
  | ok r =>
    rw [hr] at houtcome
    exact ⟨archive, r, hbuild, hr, houtcome⟩
  | error fault =>
    rw [hr] at houtcome
    obtain ⟨e, he, -, t, ht, hbare⟩ := houtcome
    exact absurd hbare (hclean e he t ht)

end Seed

end SeedArchive
