import Mathlib
import SeedArchive.Proofs.Json.Columns
import SeedArchive.Proofs.Seed.Loading
import SeedArchive.Proofs.Text.Utf8

namespace SeedArchive

namespace Json

def settingsKeys : List String :=
  ["applicationName", "companyName", "companyNpwp", "coaLabel", "templatesLabel", "outputFile"]

/-- What a settings document has to be: a record, in which everything that is there is a string. -/
structure IsSettings (v : Json) : Prop where
  record : v.IsRecord settingsKeys
  strings : ∀ key ∈ settingsKeys, ∀ w, v.field? settingsKeys key = some w → ∃ s, w = .string s

/-- The string that settings have for a key, and `stock` if they have none. -/
def setting (key stock : String) (v : Json) : String :=
  match v.field? settingsKeys key with
  | some (.string s) => s
  | _ => stock

/-- Each field by itself. -/
def settings (v : Json) : Settings where
  applicationName := v.setting "applicationName" ({} : Settings).applicationName
  companyName := v.setting "companyName" ({} : Settings).companyName
  companyNpwp := v.setting "companyNpwp" ({} : Settings).companyNpwp
  coaLabel := v.setting "coaLabel" ({} : Settings).coaLabel
  templatesLabel := v.setting "templatesLabel" ({} : Settings).templatesLabel
  outputFile := v.setting "outputFile" ({} : Settings).outputFile

theorem map_key_settings : Settings.record.fields.map Field.key = settingsKeys := by
  rfl

theorem reads_settings : Reads Settings.record.read IsSettings := by
  have hfields : ∀ f ∈ Settings.record.fields, Reads f.read fun w => ∃ s, w = .string s := by
    simp only [Settings.record, List.forall_mem_cons]
    exact ⟨reads_string _ _, reads_string _ _, reads_string _ _, reads_string _ _,
      reads_string _ _, reads_string _ _, List.forall_mem_nil _⟩
  have hoptional : ∀ f ∈ Settings.record.fields, f.required = false := by
    decide
  refine (Record.reads_record (P := fun _ w => ∃ s, w = .string s) (by decide) hfields).congr
    fun v => ?_
  constructor
  · rintro ⟨hrecord, hfits⟩
    refine ⟨hrecord, ?_⟩
    rw [← map_key_settings]
    exact List.forall_mem_map.mpr fun f hf => (hfits f hf).taken
  · rintro ⟨hrecord, hstrings⟩
    rw [← map_key_settings] at hstrings
    exact ⟨hrecord, fun f hf => ⟨by simp [hoptional f hf], List.forall_mem_map.mp hstrings f hf⟩⟩

/-- What settings show of a field, if only the one with its key sets what is shown. -/
theorem yields_setting (key : String) (view : Settings → String) (hkey : key ∈ settingsKeys)
    (hset : ∀ (x : String) (s : Settings),
      view { s with applicationName := x } = (if "applicationName" = key then x else view s) ∧
      view { s with companyName := x } = (if "companyName" = key then x else view s) ∧
      view { s with companyNpwp := x } = (if "companyNpwp" = key then x else view s) ∧
      view { s with coaLabel := x } = (if "coaLabel" = key then x else view s) ∧
      view { s with templatesLabel := x } = (if "templatesLabel" = key then x else view s) ∧
      view { s with outputFile := x } = (if "outputFile" = key then x else view s)) :
    Yields Settings.record.read fun n s =>
      ∀ v, n.value 128 = .ok v → view s = v.setting key (view {}) := by
  have hfills : ∀ f ∈ Settings.record.fields, f.Fills key view (view {}) fun n x =>
      n.json? = some (.string x) := by
    simp only [Settings.record, List.forall_mem_cons]
    exact ⟨fills_string fun x s => (hset x s).1, fills_string fun x s => (hset x s).2.1,
      fills_string fun x s => (hset x s).2.2.1, fills_string fun x s => (hset x s).2.2.2.1,
      fills_string fun x s => (hset x s).2.2.2.2.1, fills_string fun x s => (hset x s).2.2.2.2.2,
      List.forall_mem_nil _⟩
  intro depth n s hdepth h v hvalue
  have hshown := Record.yields_view hfills (by decide) hkey depth n s hdepth h
  have hfield := field?_of_value (Nat.le_refl 128) hvalue settingsKeys key
  dsimp only at hshown
  rw [map_key_settings] at hshown
  rw [setting]
  cases hnode : n.field? settingsKeys key with
  | none =>
    rw [hnode] at hshown hfield
    rw [Option.map_eq_none_iff.mp hfield.symm]
    exact hshown
  | some column =>
    rw [hnode] at hshown hfield
    obtain ⟨w, hw, hsame⟩ := Option.map_eq_some_iff.mp hfield.symm
    rw [hw]
    rw [Shown] at hshown
    rw [hshown] at hsame
    cases hsame
    rfl

theorem yields_settings : Yields Settings.record.read fun n s =>
    ∀ v, n.value 128 = .ok v → s = v.settings := by
  intro depth n s hdepth h v hvalue
  have happlication := yields_setting "applicationName" Settings.applicationName (by decide)
    (fun x s => by simp) depth n s hdepth h v hvalue
  have hcompany := yields_setting "companyName" Settings.companyName (by decide)
    (fun x s => by simp) depth n s hdepth h v hvalue
  have hnpwp := yields_setting "companyNpwp" Settings.companyNpwp (by decide)
    (fun x s => by simp) depth n s hdepth h v hvalue
  have hcoa := yields_setting "coaLabel" Settings.coaLabel (by decide)
    (fun x s => by simp) depth n s hdepth h v hvalue
  have htemplates := yields_setting "templatesLabel" Settings.templatesLabel (by decide)
    (fun x s => by simp) depth n s hdepth h v hvalue
  have houtput := yields_setting "outputFile" Settings.outputFile (by decide)
    (fun x s => by simp) depth n s hdepth h v hvalue
  obtain ⟨application, company, npwp, coa, templates, output⟩ := s
  cases happlication
  cases hcompany
  cases hnpwp
  cases hcoa
  cases htemplates
  cases houtput
  rfl

end Json

section Document

variable {document : List UInt8} {v : Json}
  (hvalue : Json.decode .held (fun depth node => node.value depth) document = .ok v)
include hvalue

theorem eq_settings_of_decode {s : Settings}
    (h : Json.decode .held Settings.record.read document = .ok s) : s = v.settings := by
  obtain ⟨hnode, -⟩ := Json.decode_eq_ok_iff.mp hvalue
  obtain ⟨hread, -⟩ := Json.decode_eq_ok_iff.mp h
  exact Json.yields_settings 128 _ s (Nat.le_refl 128) hread v hnode

/-- Settings are those of a value if it is written as settings and the file they name is visible. -/
theorem ofDocument_eq_ok_iff (s : Settings) :
    Settings.ofDocument document = .ok s ↔
      v.IsSettings ∧ s = v.settings ∧ ∃ c ∈ s.outputFile.toList, isBlank c = false := by
  have hread := Json.decode_of_reads Json.reads_settings hvalue
  rw [Settings.ofDocument, bind_eq_ok_iff]
  simp only [mapError_eq_ok_iff]
  constructor
  · rintro ⟨t, ht, hvisible⟩
    cases hblank : blank t.outputFile with
    | true =>
      rw [hblank] at hvisible
      cases hvisible
    | false =>
      rw [hblank] at hvisible
      cases hvisible
      exact ⟨hread.mp ⟨s, ht⟩, eq_settings_of_decode hvalue ht, (blank_eq_false_iff _).mp hblank⟩
  · rintro ⟨hsettings, rfl, hvisible⟩
    obtain ⟨t, ht⟩ := hread.mpr hsettings
    refine ⟨v.settings, eq_settings_of_decode hvalue ht ▸ ht, ?_⟩
    rw [(blank_eq_false_iff _).mpr hvisible]
    rfl

end Document

section Load

variable {w : Workspace} {m : Machine}

theorem run_loadSettings_of_error {e : SystemError} (h : m.find w.settingsFile = .error e) :
    (loadSettings w : ExceptT Failure (StateM Machine) Settings).run m = (.ok {}, m) := by
  rw [loadSettings, run_bind, run_present, h]
  rfl

theorem run_loadSettings_of_text {text : String}
    (h : m.contents w.settingsFile = .ok (Utf8.bytes text)) :
    (loadSettings w : ExceptT Failure (StateM Machine) Settings).run m =
      ((Settings.ofDocument (Utf8.bytes text)).mapError .settings, m) := by
  have htext : (Utf8.text? (Utf8.bytes text)).isNone = false := by
    rw [Utf8.text?, Utf8.bytes, Utf8.decode_encode]
    rfl
  rw [loadSettings, run_bind, run_present]
  dsimp only
  rw [if_pos (present_of_contents h), run_bind, run_readOrFail, h]
  dsimp only [mapError_ok]
  rw [htext]
  rfl

end Load

/-- Without a document the settings are the stock ones. With one they are its own, field by field,
and a document that is a value and gives none is a fault of the configuration. -/
theorem loadSettings_fieldwise (w : Workspace) (m : Machine) :
    let run := (loadSettings w : ExceptT Failure (StateM Machine) Settings).run m
    ((∃ e, m.find w.settingsFile = .error e) → run.1 = .ok {}) ∧
      ∀ text v, m.contents w.settingsFile = .ok (Utf8.bytes text) →
        Json.decode .held (fun depth node => node.value depth) (Utf8.bytes text) = .ok v →
          (∀ s, run.1 = .ok s ↔
            v.IsSettings ∧ s = v.settings ∧ ∃ c ∈ s.outputFile.toList, isBlank c = false) ∧
          ((¬∃ s, run.1 = .ok s) →
            ∃ failure, run.1 = .error failure ∧ failure.category = .configuration) := by
  refine ⟨?_, fun text v hcontents hvalue => ?_⟩
  · rintro ⟨e, he⟩
    rw [run_loadSettings_of_error he]
  · rw [run_loadSettings_of_text hcontents]
    dsimp only
    refine ⟨fun s => mapError_eq_ok_iff.trans (ofDocument_eq_ok_iff hvalue s), fun hnone => ?_⟩
    cases hsettings : Settings.ofDocument (Utf8.bytes text) with
    | ok s => exact absurd ⟨s, by rw [hsettings, mapError_ok]⟩ hnone
    | error fault => exact ⟨.settings fault, rfl, rfl⟩

/-- Two of the fields, not in their order, and a key that is not known. -/
def partialSettings : String :=
  "\x7b\"outputFile\":\" a.zip\",\"v\":1,\"companyName\":\"\"\x7d"

def nullSettings : String :=
  "\x7b\"outputFile\":null\x7d"

def configured : Machine where
  tree := ⟨[(["some"], .directory),
    (["seed-export.json", "some"], .file (Utf8.bytes partialSettings)),
    (["null"], .directory),
    (["seed-export.json", "null"], .file (Utf8.bytes nullSettings)),
    (["none"], .directory)]⟩

theorem loadSettings_fieldwise_configured :
    ((loadSettings ⟨"some"⟩ : ExceptT Failure (StateM Machine) Settings).run configured).1 =
        .ok { companyName := "", outputFile := " a.zip" } ∧
      (∃ failure, ((loadSettings ⟨"null"⟩ : ExceptT Failure (StateM Machine) Settings).run
        configured).1 = .error failure ∧ failure.category = .configuration) ∧
      ((loadSettings ⟨"none"⟩ : ExceptT Failure (StateM Machine) Settings).run configured).1 =
        .ok {} := by
  have hpartial : Json.decode .held (fun depth node => node.value depth)
      (Utf8.bytes partialSettings) = .ok (.object [("outputFile", .string " a.zip"),
        ("v", .number (.int 1)), ("companyName", .string "")]) := by
    cbv
  have hnull : Json.decode .held (fun depth node => node.value depth)
      (Utf8.bytes nullSettings) = .ok (.object [("outputFile", .null)]) := by
    cbv
  have hsome : configured.contents (Workspace.mk "some").settingsFile =
      .ok (Utf8.bytes partialSettings) := by
    rfl
  have hrefused : configured.contents (Workspace.mk "null").settingsFile =
      .ok (Utf8.bytes nullSettings) := by
    rfl
  have hsettings : Json.IsSettings (.object [("outputFile", .string " a.zip"),
      ("v", .number (.int 1)), ("companyName", .string "")]) := by
    refine ⟨by simp [Json.IsRecord, Json.settingsKeys], fun key hkey x hx => ?_⟩
    simp only [Json.settingsKeys, List.mem_cons, List.not_mem_nil, or_false] at hkey
    rcases hkey with rfl | rfl | rfl | rfl | rfl | rfl <;> cases hx <;> exact ⟨_, rfl⟩
  refine ⟨?_, ?_, ?_⟩
  · exact (((loadSettings_fieldwise ⟨"some"⟩ configured).2 _ _ hsome hpartial).1 _).mpr
      ⟨hsettings, rfl, 'a', by simp, by decide⟩
  · obtain ⟨hiff, herror⟩ :=
      (loadSettings_fieldwise ⟨"null"⟩ configured).2 _ _ hrefused hnull
    refine herror ?_
    rintro ⟨s, hs⟩
    obtain ⟨x, hx⟩ := ((hiff s).mp hs).1.strings "outputFile" (by decide) .null rfl
    cases hx
  · exact (loadSettings_fieldwise ⟨"none"⟩ configured).1 ⟨_, rfl⟩

end SeedArchive
