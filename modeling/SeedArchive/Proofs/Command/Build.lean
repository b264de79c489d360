import SeedArchive.Command.Build
import SeedArchive.Proofs.Archive.Inspection
import SeedArchive.Proofs.Files.Calls
import SeedArchive.Proofs.Seed.Loading

namespace SeedArchive

variable {w : Workspace} {settings : Settings} {now : Timestamp} {o : BuildOptions} {m : Machine}

theorem run_replaceOrFail (path : String) (fill : Fill) (m : Machine) :
    (ExceptT.mk do
      let outcome ← (replaceFile path fill : ExceptT ReplaceFault (StateM Machine) Unit)
      return outcome.mapError .replace : ExceptT Failure (StateM Machine) Unit).run m =
      (((replaceFile path fill : ExceptT ReplaceFault (StateM Machine) Unit).run m).1.mapError
          .replace,
        ((replaceFile path fill : ExceptT ReplaceFault (StateM Machine) Unit).run m).2) := by
  rfl

/-- A build changes a machine only where it replaces a file with the archive. -/
theorem run_build (w : Workspace) (settings : Settings) (now : Timestamp) (o : BuildOptions)
    (m : Machine) :
    (build w settings now o : ExceptT Failure (StateM Machine) BuildSummary).run m =
      match m.seedAt (o.coaPath w) (o.templatesPath w) with
      | .error f => (.error f, m)
      | .ok seed =>
        match seed.check o.strict with
        | .error found => (.error (.findings found), m)
        | .ok findings =>
          match seed.build settings now with
          | .error e => (.error (.oversized e), m)
          | .ok archive =>
            let output := o.output settings
            let writtenTo := w.resolve output
            let replaced := (replaceFile writtenTo ⟨archive.bytes, none⟩ :
              ExceptT ReplaceFault (StateM Machine) Unit).run m
            ((replaced.1.mapError .replace).map fun _ =>
              ⟨output, writtenTo, archive.accounts, archive.templates, archive.entries.length,
                findings⟩, replaced.2) := by
  rw [build, run_bind, run_loadSeed]
  cases m.seedAt (o.coaPath w) (o.templatesPath w) with
  | error f => rfl
  | ok seed =>
    dsimp only
    rw [run_bind, run_mk_pure]
    cases seed.check o.strict with
    | error found => rfl
    | ok findings =>
      dsimp only [mapError_ok]
      rw [run_bind, run_mk_pure]
      cases seed.build settings now with
      | error e => rfl
      | ok archive =>
        dsimp only [mapError_ok]
        rw [run_bind, run_replaceOrFail]
        generalize (replaceFile (w.resolve (o.output settings)) ⟨archive.bytes, none⟩ :
          ExceptT ReplaceFault (StateM Machine) Unit).run m = replaced
        obtain ⟨_ | _, _⟩ := replaced <;> rfl

namespace Machine

/-- A machine was changed at most where a file is replaced. What stands elsewhere is found again,
also by a path that goes through the directories that were made. -/
structure Touched (m : Machine) (path : String) (m' : Machine) : Prop where
  found : ∀ q l i, m.find q = .ok (l, i) →
    (l = m.place path ∨ l = m.place (temporaryPath path) → i = .directory) →
    m'.find q = .ok (l, i)
  appeared : ∀ l, m.tree.item? l = none → ∀ i, m'.tree.item? l = some i →
    l = m.place path ∨ i = .directory ∧ m.Passes path l
  temporary : m.SameAt (m.Passes path) m' (m.place (temporaryPath path)) ∨
    m'.tree.item? (m.place (temporaryPath path)) = none

theorem Touched.refl (m : Machine) (path : String) : m.Touched path m where
  found _ _ _ hfind _ := hfind
  appeared l hl i hi := by
    rw [hl] at hi
    cases hi
  temporary := .inl (.inl rfl)

theorem Replacement.touched {m m' : Machine} {path : String} {fill : Fill}
    {outcome : Except ReplaceFault Unit} (h : m.Replacement path fill outcome m') :
    m.Touched path m' := by
  have hall := h.allOrNothing
  have hretains := h.retains
  constructor
  case found =>
    intro q l i hfind hspared
    obtain ⟨hlocate, hitem⟩ := find_eq_ok_iff.mp hfind
    refine find_eq_ok_iff.mpr ⟨locate_of_retains hretains hlocate, ?_⟩
    by_cases hl : l = m.place path ∨ l = m.place (temporaryPath path)
    · cases hspared hl
      exact hretains.directory l hitem
    · have hsame := hall.elsewhere l (fun heq => hl (.inl heq)) fun heq => hl (.inr heq)
      exact hsame.item?_eq_some hitem
  case appeared =>
    intro l hnone i hi
    by_cases hl : l = m.place path
    · exact .inl hl
    refine .inr ?_
    have hsame : m.SameAt (m.Passes path) m' l := by
      by_cases htemporary : l = m.place (temporaryPath path)
      · rw [htemporary] at hnone hi ⊢
        refine hall.unopened fun hopened => ?_
        rw [hall.temporary hopened] at hi
        cases hi
      · exact hall.elsewhere l hl htemporary
    rcases hsame with hsame | ⟨-, hdirectory, hpasses⟩
    · rw [hsame, hnone] at hi
      cases hi
    · rw [hdirectory] at hi
      exact ⟨(Option.some.inj hi).symm, hpasses⟩
  case temporary =>
    by_cases hopened : Opened outcome
    · exact .inr (hall.temporary hopened)
    · exact .inl (hall.unopened hopened)

end Machine

/-- A build that comes to an archive ends as the replacement does. -/
theorem run_build_of_archive {seed : Seed} {findings : Nat} {archive : Archive}
    {outcome : Except ReplaceFault Unit} {m' : Machine}
    (hseed : m.seedAt (o.coaPath w) (o.templatesPath w) = .ok seed)
    (hcheck : seed.check o.strict = .ok findings)
    (hbuild : seed.build settings now = .ok archive)
    (hreplace : (replaceFile (w.resolve (o.output settings)) ⟨archive.bytes, none⟩ :
      ExceptT ReplaceFault (StateM Machine) Unit).run m = (outcome, m')) :
    (build w settings now o : ExceptT Failure (StateM Machine) BuildSummary).run m =
      ((outcome.mapError .replace).map fun _ =>
        ⟨o.output settings, w.resolve (o.output settings), archive.accounts, archive.templates,
          archive.entries.length, findings⟩, m') := by
  rw [run_build, hseed]
  dsimp only
  rw [hcheck]
  dsimp only
  rw [hbuild]
  dsimp only
  rw [hreplace]

/-- Either a build fails before it changes anything, or it comes to an archive and replaces a file
with it. -/
theorem build_cases (w : Workspace) (settings : Settings) (now : Timestamp) (o : BuildOptions)
    (m : Machine) :
    (∃ f, (build w settings now o : ExceptT Failure (StateM Machine) BuildSummary).run m =
        (.error f, m)) ∨
      ∃ fill summary outcome m',
        m.Replacement (w.resolve (o.output settings)) fill outcome m' ∧
          (build w settings now o : ExceptT Failure (StateM Machine) BuildSummary).run m =
            ((outcome.mapError .replace).map fun _ => summary, m') := by
  rw [run_build]
  cases m.seedAt (o.coaPath w) (o.templatesPath w) with
  | error f => exact .inl ⟨f, rfl⟩
  | ok seed =>
    dsimp only
    cases seed.check o.strict with
    | error found => exact .inl ⟨_, rfl⟩
    | ok findings =>
      dsimp only
      cases seed.build settings now with
      | error e => exact .inl ⟨_, rfl⟩
      | ok archive =>
        exact .inr ⟨_, _, _, _, m.replacement (w.resolve (o.output settings)) ⟨archive.bytes, none⟩,
          rfl⟩

/-- A build leaves everything as it was but for the file that it writes, the file that is written
first, and directories that were missing. It leaves everything if it comes to no archive. -/
theorem build_touches (w : Workspace) (settings : Settings) (now : Timestamp) (o : BuildOptions)
    (m : Machine) :
    let run := (build w settings now o : ExceptT Failure (StateM Machine) BuildSummary).run m
    let loaded := ((loadSeed (o.coaPath w) (o.templatesPath w) :
      ExceptT Failure (StateM Machine) Seed).run m).1
    m.Touched (w.resolve (o.output settings)) run.2 ∧
      (∀ f, run.1 = .error f → (∀ fault, f ≠ .replace fault) → run.2 = m) ∧
      (∀ f, loaded = .error f → run = (.error f, m)) ∧
      ∀ seed found, loaded = .ok seed → seed.check o.strict = .error found →
        run = (.error (.findings found), m) := by
  rw [run_loadSeed]
  dsimp only
  refine ⟨?_, ?_, ?_, ?_⟩
  · rcases build_cases w settings now o m with ⟨f, hrun⟩ |
      ⟨fill, summary, outcome, m', hreplacement, hrun⟩
    · rw [hrun]
      exact .refl m _
    · rw [hrun]
      exact hreplacement.touched
  · intro f hf hfault
    rcases build_cases w settings now o m with ⟨f, hrun⟩ |
      ⟨fill, summary, outcome, m', hreplacement, hrun⟩
    · rw [hrun]
    · rw [hrun] at hf
      cases outcome with
      | ok _ => cases hf
      | error fault =>
        cases hf
        exact absurd rfl (hfault fault)
  · intro f hf
    rw [run_build, hf]
  · intro seed found hseed hfound
    rw [run_build, hseed]
    dsimp only
    rw [hfound]

/-- A chart, a catalog, and a file that is named like the one that is written first. -/
def crowded : Machine where
  tree := ⟨[
    (["templates"], .directory),
    (["coa.json", "templates"], .file (Utf8.bytes
      ("\x7b\"accounts\":[\x7b\"code\":\"1000\",\"name\":\"Cash,\\r\\n\\\"Bank\\\"\"," ++
        "\"type\":\"ASSET\"\x7d]\x7d"))),
    (["journal-templates.json", "templates"], .file (Utf8.bytes
      ("\x7b\"templates\":[\x7b\"name\":\"Rent\",\"tags\":[\"a, b\",\"\"]," ++
        "\"lines\":[[\"5100\"],[\"1000\",\"\",\"CREDIT\"]]\x7d]\x7d"))),
    (["artivisi-seed-data.zip.tmp"], .file [78, 79, 84, 69])]⟩

theorem seedAt_crowded :
    crowded.seedAt "templates/coa.json" "templates/journal-templates.json" = .ok Seed.sample := by
  apply eq_ok_of_toOption
  decide +kernel

theorem run_replaceFile_crowded (bytes : List UInt8) :
    (replaceFile "artivisi-seed-data.zip" ⟨bytes, none⟩ :
      ExceptT ReplaceFault (StateM Machine) Unit).run crowded =
      (.ok (), { tree := ⟨(["artivisi-seed-data.zip"], .file bytes) ::
        crowded.tree.items.take 3⟩ }) := by
  rfl

theorem exists_run_build_crowded :
    ∃ summary bytes, (build ⟨""⟩ {} Seed.noon {} :
      ExceptT Failure (StateM Machine) BuildSummary).run crowded =
        (.ok summary, { tree := ⟨(["artivisi-seed-data.zip"], .file bytes) ::
          crowded.tree.items.take 3⟩ }) := by
  -- the archive is named, so that it is not computed
  obtain ⟨archive, hbuild⟩ : ∃ archive, Seed.sample.build {} Seed.noon = .ok archive :=
    ⟨_, Seed.build_of_fits Seed.fits_sample⟩
  have hrun := run_build_of_archive (m := crowded) (w := ⟨""⟩) (o := {}) seedAt_crowded
    Seed.sample.check_false hbuild (run_replaceFile_crowded archive.bytes)
  exact ⟨_, archive.bytes, hrun⟩

/-- A file that has the name of the one that is written first is lost. -/
theorem build_takes_temporary :
    crowded.find "artivisi-seed-data.zip.tmp" =
        .ok (["artivisi-seed-data.zip.tmp"], .file [78, 79, 84, 69]) ∧
      crowded.place ((⟨""⟩ : Workspace).resolve (({} : BuildOptions).output {})) =
        ["artivisi-seed-data.zip"] ∧
      ((build ⟨""⟩ {} Seed.noon {} : ExceptT Failure (StateM Machine) BuildSummary).run
        crowded).2.find "artivisi-seed-data.zip.tmp" = .error .notFound := by
  refine ⟨rfl, rfl, ?_⟩
  obtain ⟨summary, bytes, hrun⟩ := exists_run_build_crowded
  rw [hrun]
  rfl

end SeedArchive
