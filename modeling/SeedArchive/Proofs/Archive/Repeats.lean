import SeedArchive.Proofs.Archive.Verdict
import SeedArchive.Proofs.Lists.Firsts

namespace SeedArchive

/-- An entry that can be opened and is not refused, so that a report can tell of it. -/
def Zip.Entry.Legible (e : Zip.Entry) : Prop :=
  (∃ source, e.source = .ok source) ∧ ¬ e.Refused

theorem exists_ofEntries_iff {entries : List Zip.Entry} :
    (∃ r, Report.ofEntries entries = .ok r) ↔ ∀ e ∈ entries, e.Legible := by
  rw [Report.ofEntries]
  constructor
  · rintro ⟨r, h⟩
    cases heach : EntryReport.ofEach entries with
    | error fault =>
      rw [heach] at h
      cases h
    | ok reports =>
      have hpresented := presented_of_ofEach heach
      rcases ofEach_cases hpresented with ⟨_, _, _, _, _, _, _, hfail, _⟩ | ⟨hgood, -⟩
      · cases heach.symm.trans hfail
      · exact fun e he => ⟨hpresented e he, hgood e he⟩
  · intro h
    rcases ofEach_cases fun e he => (h e he).1 with ⟨before, e, after, _, rfl, _, hbad, _, _⟩ |
      ⟨-, reports, heach, -⟩
    · exact absurd hbad (h e (by simp)).2
    · rw [heach]
      exact ⟨_, rfl⟩

/-- A report sees the last entry of each name that the directory of an archive lists. -/
theorem ofArchive_of_listed {archive : List UInt8} {entries : List Zip.Entry}
    (h : Zip.listed archive = .ok entries) :
    Report.ofArchive archive = Report.ofEntries (Zip.lastOfEach Zip.Entry.name entries) := by
  rw [Report.ofArchive, Zip.read_eq_map_listed, h]
  rfl

theorem layoutMatches_of_listed {archive : List UInt8} {entries : List Zip.Entry} {r : Report}
    (h : Zip.listed archive = .ok entries) (hr : Report.ofArchive archive = .ok r) :
    r.layoutMatches = true ↔ (entries.map Zip.Entry.name).eraseDups = Layout.names := by
  obtain ⟨seen, hread, htells⟩ := tellsOf_of_ofArchive hr
  rw [Zip.read_eq_map_listed, h] at hread
  obtain rfl := Except.ok.inj hread
  rw [htells.layoutMatches_iff, Zip.map_lastOfEach]

theorem exists_listed_of_ofArchive {archive : List UInt8} {r : Report}
    (h : Report.ofArchive archive = .ok r) : ∃ entries, Zip.listed archive = .ok entries := by
  obtain ⟨seen, hread, -⟩ := tellsOf_of_ofArchive h
  rw [Zip.read_eq_map_listed] at hread
  cases hlisted : Zip.listed archive with
  | error fault =>
    rw [hlisted] at hread
    cases hread
  | ok entries => exact ⟨entries, rfl⟩

/-- A report says that the layout matches if the names that the directory lists are those of the
layout once all but the first of each are left out, and a report can tell of the last entry of each.
It lists 35 entries then; those that the directory lists are more if a name is repeated. -/
theorem layoutMatches_iff_firsts (archive : List UInt8) :
    ((∃ r, Report.ofArchive archive = .ok r ∧ r.layoutMatches = true) ↔
      ∃ entries, Zip.listed archive = .ok entries ∧
        (entries.map Zip.Entry.name).eraseDups = Layout.names ∧
        ∀ e ∈ Zip.lastOfEach Zip.Entry.name entries, e.Legible) ∧
      ∀ entries r, Zip.listed archive = .ok entries → Report.ofArchive archive = .ok r →
        r.layoutMatches = true → r.entries.length = 35 ∧
          (35 < entries.length ↔ ¬ (entries.map Zip.Entry.name).Nodup) := by
  refine ⟨⟨?_, ?_⟩, ?_⟩
  · rintro ⟨r, hr, hmatches⟩
    obtain ⟨entries, hlisted⟩ := exists_listed_of_ofArchive hr
    refine ⟨entries, hlisted, (layoutMatches_of_listed hlisted hr).mp hmatches, ?_⟩
    rw [ofArchive_of_listed hlisted] at hr
    exact exists_ofEntries_iff.mp ⟨r, hr⟩
  · rintro ⟨entries, hlisted, hnames, hlegible⟩
    obtain ⟨r, hr⟩ := exists_ofEntries_iff.mpr hlegible
    rw [← ofArchive_of_listed hlisted] at hr
    exact ⟨r, hr, (layoutMatches_of_listed hlisted hr).mpr hnames⟩
  · intro entries r hlisted hr hmatches
    have hnames := (layoutMatches_of_listed hlisted hr).mp hmatches
    have hlength : (entries.map Zip.Entry.name).eraseDups.length = 35 := by
      rw [hnames]
      rfl
    have hcount := length_eraseDups_lt_iff (entries.map Zip.Entry.name)
    rw [hlength, List.length_map] at hcount
    refine ⟨?_, hcount⟩
    obtain ⟨seen, hread, htells⟩ := tellsOf_of_ofArchive hr
    rw [Zip.read_eq_map_listed, hlisted] at hread
    obtain rfl := Except.ok.inj hread
    rw [htells.each.length_eq, ← hlength, ← Zip.map_lastOfEach, List.length_map]

/-- A file for every name of the layout, and one more for a table. -/
def doubledFiles : List Zip.File :=
  Layout.names.map (fun name => ⟨name, [], .stored⟩) ++
    [⟨"02_chart_of_accounts.csv", Utf8.bytes "account_code\n1000\n", .stored⟩]

/-- A directory may list a name twice, and the layout matches all the same. -/
theorem layoutMatches_doubled :
    ∃ entries r, Zip.listed (Zip.write doubledFiles) = .ok entries ∧ entries.length = 36 ∧
      ¬ (entries.map Zip.Entry.name).Nodup ∧
      Report.ofArchive (Zip.write doubledFiles) = .ok r ∧ r.layoutMatches = true ∧
      r.rowsOf "02_chart_of_accounts.csv" = some 1 := by
  have hnames : ∀ name ∈ Layout.names, (Utf8.bytes name).length < 2 ^ 16 :=
    List.forall_mem_map.mpr length_name_lt
  have hname : ∀ f ∈ doubledFiles, (Utf8.bytes f.name).length < 2 ^ 16 := by
    have hmem : ∀ f ∈ doubledFiles, f.name ∈ Layout.names := by
      decide +kernel
    exact fun f hf => hnames f.name (hmem f hf)
  have hfits : ∀ f ∈ doubledFiles, f.fits = true := by
    decide +kernel
  have hlisted := Zip.listed_write hname (Zip.length_write_lt hname hfits (by decide))
  have hreport : ((Report.ofEntries (Zip.lastOfEach Zip.Entry.name
      (doubledFiles.map Zip.File.entry))).toOption.map fun r =>
        (r.layoutMatches, r.rowsOf "02_chart_of_accounts.csv")) = some (true, some 1) := by
    decide +kernel
  obtain ⟨r, hr, hfound⟩ := Option.map_eq_some_iff.mp hreport
  obtain ⟨hmatches, hrows⟩ := Prod.mk.inj hfound
  refine ⟨_, r, hlisted, rfl, by decide +kernel, ?_, hmatches, hrows⟩
  rw [ofArchive_of_listed hlisted]
  exact eq_ok_of_toOption hr

end SeedArchive
