import Mathlib.Data.List.Perm.Basic
import SeedArchive.Command.Run
import SeedArchive.Proofs.Archive.Inspection
import SeedArchive.Proofs.Csv.Refusals
import SeedArchive.Proofs.Seed.Loading

namespace SeedArchive

theorem isTable_iff_exists {name : String} : isTable name = true ↔ ∃ stem, name = stem ++ ".csv" := by
  rw [isTable, tableEnding, List.isSuffixOf_iff_suffix]
  constructor
  · rintro ⟨stem, hstem⟩
    exact ⟨String.ofList stem, by rw [← String.toList_inj, String.toList_append,
      String.toList_ofList, hstem]⟩
  · rintro ⟨stem, rfl⟩
    exact ⟨stem.toList, String.toList_append.symm⟩

/-- A table is refused if its bytes are damaged or one of its records is refused. -/
def Zip.Contents.Refused (c : Zip.Contents) : Prop :=
  c.damage ≠ none ∨ Csv.Refused c.bytes

/-- Only tables are read, so that only they can be refused. -/
def Zip.Entry.Refused (e : Zip.Entry) : Prop :=
  (∃ stem, e.name = stem ++ ".csv") ∧
    ∃ source, e.source = .ok source ∧ (source.contents e.checksum).Refused

/-- The error that tells of an entry. -/
def ReportFault.TellsOf (fault : ReportFault) (e : Zip.Entry) : Prop :=
  ∃ cause, (Failure.report fault).message =
    "Archive error: Malformed CSV in " ++ e.name ++ ": " ++ cause

/-- What is reported of an entry. The rows of a table are its records but for the header. -/
structure EntryReport.TellsOf (r : EntryReport) (e : Zip.Entry) : Prop where
  name : r.name = e.name
  size : r.size = e.size
  packed : r.packed = e.packed
  rows_isSome : r.rows.isSome ↔ ∃ stem, e.name = stem ++ ".csv"
  rows : ∀ n, r.rows = some n → ∃ source, e.source = .ok source ∧
    n = (Csv.rawRecords (source.contents e.checksum).bytes).length - 1

theorem countRows_cases (name : String) (c : Zip.Contents) :
    (c.Refused ∧ ∃ fault, countRows name c = .error fault ∧
      ∃ cause, (Failure.report fault).message =
        "Archive error: Malformed CSV in " ++ name ++ ": " ++ cause) ∨
      ¬ c.Refused ∧ countRows name c = .ok ((Csv.rawRecords c.bytes).length - 1) := by
  rw [Zip.Contents.Refused, countRows]
  cases hdamage : c.damage with
  | some damage =>
    left
    refine ⟨.inl (by simp), ?_⟩
    dsimp only
    cases Csv.checked (Csv.records c.bytes).ended with
    | ok rows => exact ⟨_, rfl, _, message_damaged name damage⟩
    | error fault => exact ⟨_, rfl, _, message_malformed name fault⟩
  | none =>
    simp only [ne_eq, not_true_eq_false, false_or]
    rcases Csv.read_cases c.bytes with ⟨hrefused, fault, hread⟩ | ⟨hread, rows, hrows, hlength⟩
    · rw [hread]
      exact .inl ⟨hrefused, _, rfl, _, message_malformed name fault⟩
    · rw [hrows, ← hlength]
      exact .inr ⟨hread, rfl⟩

theorem of_cases {e : Zip.Entry} (h : ∃ source, e.source = .ok source) :
    (e.Refused ∧ ∃ fault, EntryReport.of e = .error fault ∧ fault.TellsOf e) ∨
      ¬ e.Refused ∧ ∃ r, EntryReport.of e = .ok r ∧ r.TellsOf e := by
  obtain ⟨source, hsource⟩ := h
  have hrefused : e.Refused ↔ isTable e.name = true ∧ (source.contents e.checksum).Refused := by
    rw [Zip.Entry.Refused, isTable_iff_exists, hsource]
    simp
  rw [hrefused, EntryReport.of, hsource]
  dsimp only
  split
  next htable =>
    rw [and_iff_right htable]
    rcases countRows_cases e.name (source.contents e.checksum) with ⟨hbad, fault, hcount, hcause⟩ |
      ⟨hgood, hcount⟩
    · rw [hcount]
      exact .inl ⟨hbad, fault, rfl, hcause⟩
    · rw [hcount]
      refine .inr ⟨hgood, _, rfl, rfl, rfl, rfl, ?_, ?_⟩
      · exact iff_of_true rfl (isTable_iff_exists.mp htable)
      · intro n hn
        exact ⟨source, hsource, (Option.some.inj hn).symm⟩
  next htable =>
    refine .inr ⟨fun h => htable h.1, _, rfl, rfl, rfl, rfl, ?_, ?_⟩
    · exact iff_of_false Bool.false_ne_true fun h => htable (isTable_iff_exists.mpr h)
    · intro n hn
      cases hn

/-- The entries are gone through in order, up to the first that is refused. -/
theorem ofEach_cases {entries : List Zip.Entry}
    (h : ∀ e ∈ entries, ∃ source, e.source = .ok source) :
    (∃ before e after fault, entries = before ++ e :: after ∧ (∀ b ∈ before, ¬ b.Refused) ∧
      e.Refused ∧ EntryReport.ofEach entries = .error fault ∧ fault.TellsOf e) ∨
      (∀ e ∈ entries, ¬ e.Refused) ∧ ∃ reports, EntryReport.ofEach entries = .ok reports ∧
        List.Forall₂ EntryReport.TellsOf reports entries := by
  induction entries with
  | nil => exact .inr ⟨by simp, [], rfl, .nil⟩
  | cons e entries ih =>
    obtain ⟨he, hentries⟩ := List.forall_mem_cons.mp h
    rw [EntryReport.ofEach]
    rcases of_cases he with ⟨hbad, fault, hof, htells⟩ | ⟨hgood, r, hof, htells⟩
    · -- the entries after this one are not looked at, so nothing is known of them
      refine .inl ⟨[], e, entries, fault, rfl, by simp, hbad, ?_, htells⟩
      rw [hof]
      rfl
    · rcases ih hentries with ⟨before, e', after, fault, rfl, hbefore, hbad, hrest, htells'⟩ |
        ⟨hgood', reports, hrest, htells'⟩
      · refine .inl ⟨e :: before, e', after, fault, rfl, ?_, hbad, ?_, htells'⟩
        · exact List.forall_mem_cons.mpr ⟨hgood, hbefore⟩
        · rw [hof, hrest]
          rfl
      · refine .inr ⟨List.forall_mem_cons.mpr ⟨hgood, hgood'⟩, r :: reports, ?_,
          .cons htells htells'⟩
        rw [hof, hrest]
        rfl

section Differences

variable {as bs : List String} (has : as.Nodup) (hbs : bs.Nodup)

include has hbs

/-- What two lists have in common counts in both. -/
theorem length_add_length_filter_notMem :
    as.length + (bs.filter (· ∉ as)).length = bs.length + (as.filter (· ∉ bs)).length := by
  have hcommon : (as.filter (· ∈ bs)).Perm (bs.filter (· ∈ as)) := by
    rw [List.perm_ext_iff_of_nodup (has.filter _) (hbs.filter _)]
    intro a
    simp only [List.mem_filter, decide_eq_true_eq, and_comm]
  have hlength := hcommon.length_eq
  have ha := List.length_eq_length_filter_add (l := as) (· ∈ bs)
  have hb := List.length_eq_length_filter_add (l := bs) (· ∈ as)
  simp only [decide_not] at ha hb ⊢
  omega

theorem filter_notMem_eq_nil_iff_perm :
    bs.filter (· ∉ as) = [] ∧ as.filter (· ∉ bs) = [] ↔ as.Perm bs := by
  rw [List.perm_ext_iff_of_nodup has hbs]
  simp only [List.filter_eq_nil_iff, decide_eq_true_eq, not_not]
  exact ⟨fun h a => ⟨h.2 a, h.1 a⟩, fun h => ⟨fun a => (h a).mpr, fun a => (h a).mp⟩⟩

end Differences

/-- What a report has to say of the entries of an archive. -/
structure Report.TellsOf (r : Report) (entries : List Zip.Entry) : Prop where
  each : List.Forall₂ EntryReport.TellsOf r.entries entries
  missing : r.missing = Layout.names.filter (· ∉ entries.map Zip.Entry.name)
  unexpected : r.unexpected = (entries.map Zip.Entry.name).filter (· ∉ Layout.names)
  count : r.entries.length + r.missing.length = 35 + r.unexpected.length
  layoutMatches_iff : r.layoutMatches = true ↔ entries.map Zip.Entry.name = Layout.names
  complete_iff : r.missing = [] ∧ r.unexpected = [] ↔
    (entries.map Zip.Entry.name).Perm Layout.names
  misordered_iff : r.layoutMatches = false ∧ r.missing = [] ∧ r.unexpected = [] ↔
    (entries.map Zip.Entry.name).Perm Layout.names ∧ entries.map Zip.Entry.name ≠ Layout.names

theorem tellsOf_ofReports {reports : List EntryReport} {entries : List Zip.Entry}
    (h : List.Forall₂ EntryReport.TellsOf reports entries)
    (hdistinct : (entries.map Zip.Entry.name).Nodup) :
    (Report.ofReports reports).TellsOf entries := by
  have hfound : reports.map EntryReport.name = entries.map Zip.Entry.name := by
    rw [← List.forall₂_eq_eq_eq, List.forall₂_map_left_iff, List.forall₂_map_right_iff]
    exact h.imp fun _ _ ht => ht.name
  have hreport : Report.ofReports reports =
      ⟨reports, Layout.names.filter (· ∉ entries.map Zip.Entry.name),
        (entries.map Zip.Entry.name).filter (· ∉ Layout.names),
        entries.map Zip.Entry.name = Layout.names⟩ := by
    rw [Report.ofReports, hfound]
  have hcomplete := filter_notMem_eq_nil_iff_perm hdistinct nodup_names
  have hcount := length_add_length_filter_notMem hdistinct nodup_names
  have hlength : Layout.names.length = 35 := rfl
  rw [List.length_map, hlength, ← h.length_eq] at hcount
  rw [hreport]
  exact {
    each := h
    missing := rfl
    unexpected := rfl
    count := hcount
    layoutMatches_iff := decide_eq_true_iff
    complete_iff := hcomplete
    misordered_iff := by rw [hcomplete, decide_eq_false_iff_not, and_comm] }

theorem presented_of_ofEach {entries : List Zip.Entry} {reports : List EntryReport}
    (h : EntryReport.ofEach entries = .ok reports) :
    ∀ e ∈ entries, ∃ source, e.source = .ok source := by
  induction entries generalizing reports with
  | nil => simp
  | cons e entries ih =>
    obtain ⟨r, hof, hrest⟩ := bind_eq_ok_iff.mp h
    obtain ⟨more, hmore, -⟩ := bind_eq_ok_iff.mp hrest
    refine List.forall_mem_cons.mpr ⟨?_, ih hmore⟩
    cases hsource : e.source with
    | error fault =>
      rw [EntryReport.of, hsource] at hof
      cases hof
    | ok source => exact ⟨source, rfl⟩

/-- A report on an archive, if there is one, tells of the entries as they are read. -/
theorem tellsOf_of_ofArchive {archive : List UInt8} {r : Report}
    (h : Report.ofArchive archive = .ok r) :
    ∃ entries, Zip.read archive = .ok entries ∧ r.TellsOf entries := by
  rw [Report.ofArchive] at h
  cases hread : Zip.read archive with
  | error fault =>
    rw [hread] at h
    cases h
  | ok entries =>
    rw [hread] at h
    dsimp only at h
    rw [Report.ofEntries] at h
    refine ⟨entries, rfl, ?_⟩
    cases heach : EntryReport.ofEach entries with
    | error fault =>
      rw [heach] at h
      cases h
    | ok reports =>
      rw [heach] at h
      cases h
      rcases ofEach_cases (presented_of_ofEach heach) with ⟨_, _, _, _, _, _, _, hfail, _⟩ |
        ⟨_, reports', heach', htells⟩
      · cases heach.symm.trans hfail
      · obtain rfl := Except.ok.inj (heach.symm.trans heach')
        exact tellsOf_ofReports htells (Zip.nodup_name_of_read hread)

theorem code_reportLines (archive : String) (r : Report) :
    (match reportLines archive r with
      | (lines, none) => Outcome.ofLines lines
      | (lines, some failure) => Outcome.failed lines failure).code = 0 ↔
        r.layoutMatches = true := by
  unfold reportLines
  cases r.layoutMatches with
  | true => exact iff_of_true rfl rfl
  | false => exact iff_of_false Nat.one_ne_zero Bool.false_ne_true

/-- An inspection is successful if the report says that the layout matches. -/
theorem run_answer_inspect {w : Workspace} {now : Timestamp} {archive? : Option String}
    {m : Machine} {settings : Settings} {bytes : List UInt8} {entries : List Zip.Entry}
    (hsettings : ((loadSettings w : ExceptT Failure (StateM Machine) Settings).run m).1 =
      .ok settings)
    (hbytes : m.contents (w.resolve (archive?.getD settings.outputFile)) = .ok bytes)
    (hentries : Zip.read bytes = .ok entries) :
    (∃ outcome, (answer w now (.inspect archive?) :
        ExceptT Failure (StateM Machine) Outcome).run m = (.ok outcome, m) ∧ outcome.code = 0) ↔
      ∃ r, Report.ofEntries entries = .ok r ∧ r.layoutMatches = true := by
  have hload : (loadSettings w : ExceptT Failure (StateM Machine) Settings).run m =
      (.ok settings, m) := by
    obtain ⟨_, hrun⟩ := run_loadSettings w m
    rw [hrun] at hsettings ⊢
    exact congrArg (·, m) hsettings
  have hreport : Report.ofArchive bytes = Report.ofEntries entries := by
    rw [Report.ofArchive, hentries]
  rw [answer, run_bind, hload]
  dsimp only
  rw [run_bind, run_inspectFile hbytes, hreport]
  cases Report.ofEntries entries with
  | error fault =>
    refine iff_of_false ?_ ?_
    · rintro ⟨outcome, h, -⟩
      cases h
    · rintro ⟨r, h, -⟩
      cases h
  | ok r =>
    have hcode := code_reportLines (archive?.getD settings.outputFile) r
    constructor
    · rintro ⟨outcome, h, hzero⟩
      cases h
      exact ⟨r, rfl, hcode.mp hzero⟩
    · rintro ⟨r', h, hmatches⟩
      cases h
      exact ⟨_, rfl, hcode.mpr hmatches⟩

/-- The report on an archive is exact: it fails for the first table that is refused and for nothing
else, and what it says of the layout is so. -/
theorem inspection_exact (entries : List Zip.Entry)
    (hdistinct : (entries.map Zip.Entry.name).Nodup)
    (hpresented : ∀ e ∈ entries, ∃ source, e.source = .ok source) :
    ((∃ fault, Report.ofEntries entries = .error fault) ↔ ∃ e ∈ entries, e.Refused) ∧
      (∀ fault, Report.ofEntries entries = .error fault →
        ∃ before e after, entries = before ++ e :: after ∧ (∀ b ∈ before, ¬ b.Refused) ∧
          e.Refused ∧ fault.TellsOf e) ∧
      (∀ r, Report.ofEntries entries = .ok r → r.TellsOf entries) ∧
      ∀ w now archive? m settings bytes,
        ((loadSettings w : ExceptT Failure (StateM Machine) Settings).run m).1 = .ok settings →
        m.contents (w.resolve (archive?.getD settings.outputFile)) = .ok bytes →
        Zip.read bytes = .ok entries →
        ((∃ outcome, (answer w now (.inspect archive?) :
            ExceptT Failure (StateM Machine) Outcome).run m = (.ok outcome, m) ∧
              outcome.code = 0) ↔
          ∃ r, Report.ofEntries entries = .ok r ∧ r.layoutMatches = true) := by
  rcases ofEach_cases hpresented with
    ⟨before, e, after, fault, rfl, hbefore, hbad, heach, htells⟩ | ⟨hgood, reports, heach, htells⟩
  · have hof : Report.ofEntries (before ++ e :: after) = .error fault := by
      rw [Report.ofEntries, heach]
      rfl
    refine ⟨?_, ?_, ?_, fun _ _ _ _ _ _ => run_answer_inspect⟩
    · exact iff_of_true ⟨fault, hof⟩ ⟨e, by simp, hbad⟩
    · intro fault' h
      obtain rfl := Except.error.inj (hof.symm.trans h)
      exact ⟨before, e, after, rfl, hbefore, hbad, htells⟩
    · intro r h
      cases hof.symm.trans h
  · have hof : Report.ofEntries entries = .ok (.ofReports reports) := by
      rw [Report.ofEntries, heach]
      rfl
    refine ⟨?_, ?_, ?_, fun _ _ _ _ _ _ => run_answer_inspect⟩
    · refine iff_of_false ?_ ?_
      · rintro ⟨fault, h⟩
        cases hof.symm.trans h
      · rintro ⟨e, he, hbad⟩
        exact hgood e he hbad
    · intro fault h
      cases hof.symm.trans h
    · intro r h
      obtain rfl := Except.ok.inj (hof.symm.trans h)
      exact tellsOf_ofReports htells hdistinct

/-- The entry that is no table may hold anything, and the third entry is never looked at. -/
def raggedEntries : List Zip.Entry :=
  [⟨"notes.txt", [0xFF], .stored⟩, ⟨"a.csv", Utf8.bytes "x\n1,2\n", .stored⟩,
    ⟨"b.csv", Utf8.bytes "x\n1\n", .stored⟩].map Zip.File.entry

theorem inspection_exact_ragged :
    ((raggedEntries.map Zip.Entry.name).Nodup ∧
        ∀ e ∈ raggedEntries, ∃ source, e.source = .ok source) ∧
      ∃ fault, Report.ofEntries raggedEntries = .error fault ∧
        ∃ before e after, raggedEntries = before ++ e :: after ∧ (∀ b ∈ before, ¬ b.Refused) ∧
          e.Refused ∧ fault.TellsOf e := by
  have hdistinct : (raggedEntries.map Zip.Entry.name).Nodup := by decide
  have hpresented : ∀ e ∈ raggedEntries, ∃ source, e.source = .ok source := by
    rw [raggedEntries, List.forall_mem_map]
    exact fun f _ => ⟨_, rfl⟩
  have hof : Report.ofEntries raggedEntries =
      .error (.malformed "a.csv" (.unequalLengths ⟨1, 2, 2⟩ 2 1)) := by
    decide +kernel
  exact ⟨⟨hdistinct, hpresented⟩, _, hof,
    (inspection_exact raggedEntries hdistinct hpresented).2.1 _ hof⟩

end SeedArchive
