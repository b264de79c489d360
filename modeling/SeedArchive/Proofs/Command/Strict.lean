import SeedArchive.Proofs.Command.Build

namespace SeedArchive

variable {w : Workspace} {settings : Settings} {now : Timestamp} {o : BuildOptions} {m : Machine}

/-- A build tells of as many findings as the check lets pass. -/
theorem findings_of_run_build {summary : BuildSummary} {m' : Machine}
    (h : (build w settings now o : ExceptT Failure (StateM Machine) BuildSummary).run m =
      (.ok summary, m')) :
    ∃ seed, m.seedAt (o.coaPath w) (o.templatesPath w) = .ok seed ∧
      seed.check o.strict = .ok summary.findings := by
  rw [run_build] at h
  cases hseed : m.seedAt (o.coaPath w) (o.templatesPath w) with
  | error f =>
    rw [hseed] at h
    cases h
  | ok seed =>
    rw [hseed] at h
    refine ⟨seed, rfl, ?_⟩
    dsimp only at h
    cases hcheck : seed.check o.strict with
    | error found =>
      rw [hcheck] at h
      cases h
    | ok n =>
      rw [hcheck] at h
      dsimp only at h
      cases hbuild : seed.build settings now with
      | error e =>
        rw [hbuild] at h
        cases h
      | ok archive =>
        rw [hbuild] at h
        dsimp only at h
        generalize (replaceFile (w.resolve (o.output settings)) ⟨archive.bytes, none⟩ :
          ExceptT ReplaceFault (StateM Machine) Unit).run m = replaced at h
        obtain ⟨_ | _, _⟩ := replaced
        · cases h
        · cases h
          rfl

/-- A build depends on strictness only through the check. -/
theorem run_build_of_check_eq {seed : Seed} {strict strict' : Bool}
    (hseed : m.seedAt (o.coaPath w) (o.templatesPath w) = .ok seed)
    (hcheck : seed.check strict = seed.check strict') :
    (build w settings now { o with strict } : ExceptT Failure (StateM Machine) BuildSummary).run m =
      (build w settings now { o with strict := strict' } :
        ExceptT Failure (StateM Machine) BuildSummary).run m := by
  have hpaths (b : Bool) : m.seedAt (({ o with strict := b } : BuildOptions).coaPath w)
      (({ o with strict := b } : BuildOptions).templatesPath w) = .ok seed := hseed
  have houtput (b : Bool) : ({ o with strict := b } : BuildOptions).output settings =
      o.output settings := rfl
  rw [run_build, run_build, hpaths strict, hpaths strict', houtput strict,
    houtput strict']
  dsimp only
  rw [hcheck]

theorem run_build_of_seedAt_error {f : Failure} (strict : Bool)
    (h : m.seedAt (o.coaPath w) (o.templatesPath w) = .error f) :
    (build w settings now { o with strict } : ExceptT Failure (StateM Machine) BuildSummary).run m =
      (.error f, m) := by
  have hpaths : m.seedAt (({ o with strict } : BuildOptions).coaPath w)
      (({ o with strict } : BuildOptions).templatesPath w) = .error f := h
  rw [run_build, hpaths]

theorem run_build_strict_of_ne_nil {seed : Seed}
    (hseed : m.seedAt (o.coaPath w) (o.templatesPath w) = .ok seed) (hne : seed.findings ≠ []) :
    (build w settings now { o with strict := true } :
      ExceptT Failure (StateM Machine) BuildSummary).run m =
        (.error (.findings seed.findings), m) := by
  have hpaths : m.seedAt (({ o with strict := true } : BuildOptions).coaPath w)
      (({ o with strict := true } : BuildOptions).templatesPath w) = .ok seed := hseed
  rw [run_build, hpaths]
  dsimp only
  rw [seed.check_true_of_ne_nil hne]

theorem message_findings (found : List Finding) :
    (Failure.findings found).message = "Validation error: " ++ toString found.length ++
      " problem(s) in seed data: " ++ "; ".intercalate (found.map Finding.text) := by
  show "Validation error: " ++ (s!"{found.length} problem(s) in seed data: " ++ _) = _
  simp only [toString, String.append_assoc]

/-- A strict build is the build that is not strict, but only for a seed without findings. It fails
for any other before it changes anything. -/
theorem build_strict_gate (w : Workspace) (settings : Settings) (now : Timestamp)
    (o : BuildOptions) (m : Machine) :
    let run (strict : Bool) := (build w settings now { o with strict } :
      ExceptT Failure (StateM Machine) BuildSummary).run m
    let loaded := ((loadSeed (o.coaPath w) (o.templatesPath w) :
      ExceptT Failure (StateM Machine) Seed).run m).1
    (∀ summary m', run true = (.ok summary, m') →
        run false = (.ok summary, m') ∧ summary.findings = 0) ∧
      (∀ summary m', run false = (.ok summary, m') → summary.findings = 0 →
        run true = (.ok summary, m')) ∧
      (∀ seed, loaded = .ok seed → 0 < seed.findings.length →
        (∃ f, run true = (.error f, m) ∧ f.category = .validation ∧
          f.message = "Validation error: " ++ toString seed.findings.length ++
            " problem(s) in seed data: " ++
            "; ".intercalate (seed.findings.map Finding.text)) ∧
        ∀ summary m', run false = (.ok summary, m') →
          summary.findings = seed.findings.length) ∧
      ∀ f, loaded = .error f → run true = (.error f, m) ∧ run false = (.error f, m) := by
  rw [run_loadSeed]
  dsimp only
  refine ⟨?_, ?_, ?_, ?_⟩
  · intro summary m' hrun
    obtain ⟨seed, hseed, hcheck⟩ := findings_of_run_build hrun
    have hnil : seed.findings = [] := by
      by_contra hne
      rw [seed.check_true_of_ne_nil hne] at hcheck
      cases hcheck
    have hsame : seed.check false = seed.check true := by
      rw [seed.check_of_eq_nil hnil, seed.check_of_eq_nil hnil]
    rw [seed.check_of_eq_nil hnil] at hcheck
    exact ⟨(run_build_of_check_eq hseed hsame).trans hrun, (Except.ok.inj hcheck).symm⟩
  · intro summary m' hrun hnone
    obtain ⟨seed, hseed, hcheck⟩ := findings_of_run_build hrun
    rw [seed.check_false, hnone] at hcheck
    have hnil : seed.findings = [] := List.length_eq_zero_iff.mp (Except.ok.inj hcheck)
    have hsame : seed.check true = seed.check false := by
      rw [seed.check_of_eq_nil hnil, seed.check_of_eq_nil hnil]
    exact (run_build_of_check_eq hseed hsame).trans hrun
  · intro seed hseed hsome
    have hne : seed.findings ≠ [] := List.length_pos_iff.mp hsome
    refine ⟨⟨_, run_build_strict_of_ne_nil hseed hne, rfl, message_findings _⟩, ?_⟩
    intro summary m' hrun
    obtain ⟨seed', hseed', hcheck⟩ := findings_of_run_build hrun
    obtain rfl := Except.ok.inj (hseed.symm.trans hseed')
    rw [seed.check_false] at hcheck
    exact (Except.ok.inj hcheck).symm
  · intro f hf
    exact ⟨run_build_of_seedAt_error true hf, run_build_of_seedAt_error false hf⟩

theorem build_strict_gate_crowded :
    (∃ f, (build ⟨""⟩ {} Seed.noon { strict := true } :
        ExceptT Failure (StateM Machine) BuildSummary).run crowded = (.error f, crowded) ∧
      f.category = .validation ∧
      f.message = "Validation error: " ++ toString 1 ++ " problem(s) in seed data: " ++
        "; ".intercalate (Seed.sample.findings.map Finding.text)) ∧
      ∃ summary m', (build ⟨""⟩ {} Seed.noon {} :
          ExceptT Failure (StateM Machine) BuildSummary).run crowded = (.ok summary, m') ∧
        summary.findings = 1 := by
  have hload : ((loadSeed (({} : BuildOptions).coaPath ⟨""⟩)
      (({} : BuildOptions).templatesPath ⟨""⟩) : ExceptT Failure (StateM Machine) Seed).run
        crowded).1 = .ok Seed.sample := by
    rw [run_loadSeed]
    exact seedAt_crowded
  have hcount : Seed.sample.findings.length = 1 := by
    decide +kernel
  obtain ⟨summary, bytes, hrun⟩ := exists_run_build_crowded
  obtain ⟨-, -, hgate, -⟩ := build_strict_gate ⟨""⟩ {} Seed.noon {} crowded
  obtain ⟨hstrict, hlenient⟩ := hgate Seed.sample hload (by omega)
  rw [hcount] at hstrict hlenient
  exact ⟨hstrict, summary, _, hrun, hlenient summary _ hrun⟩

end SeedArchive
