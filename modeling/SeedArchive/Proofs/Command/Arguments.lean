import Mathlib.Data.List.Perm.Basic
import SeedArchive.Command.Run
import SeedArchive.Files.Machine
import SeedArchive.Proofs.Command.Spelling

namespace SeedArchive

namespace Arguments

open Spelling

def spell (xs : List Spelling) : List String :=
  xs.flatMap Spelling.arguments

/-- The path that is chosen for an option, and none if the option is left out. -/
def pathFor (xs : List Spelling) (p : PathOption) : Option String :=
  (xs.filterMap choice?).lookup p

/-- What a list of options tells a build, in whatever order and spelling. -/
def chosen (xs : List Spelling) : BuildOptions where
  coa? := pathFor xs .coa
  templates? := pathFor xs .templates
  output? := pathFor xs .output
  strict := .strict ∈ xs

/-- Takes options in from left to right. -/
def takeAll? (o : BuildOptions) (xs : List Spelling) : Option BuildOptions :=
  xs.foldlM take? o

theorem readBuild_spell (named : Bool) (xs : List Spelling) (rest : List String)
    (o : BuildOptions) :
    readBuild named o (spell xs ++ rest) =
      (takeAll? o xs).elim .misuse fun o' => readBuild named o' rest := by
  induction xs generalizing o with
  | nil => rfl
  | cons x xs ih =>
    have hspell : spell (x :: xs) ++ rest = x.arguments ++ (spell xs ++ rest) := by
      rw [spell, List.flatMap_cons, List.append_assoc]
      rfl
    rw [hspell, readBuild_arguments, takeAll?, List.foldlM_cons]
    cases x.take? o with
    | none => rfl
    | some o' => exact ih o'

theorem takeAll?_perm {xs ys : List Spelling} (h : xs.Perm ys) (o : BuildOptions) :
    takeAll? o xs = takeAll? o ys := by
  induction h generalizing o with
  | nil => rfl
  | cons x _ ih => exact bind_congr ih
  | swap x y xs =>
    have hswap := congrArg (Option.bind · (takeAll? · xs)) (take?_bind_comm o y x)
    simpa only [takeAll?, List.foldlM_cons, Option.bind_eq_bind, Option.bind_assoc] using hswap
  | trans _ _ ih ih' => exact (ih o).trans (ih' o)

theorem given_of_takeAll? {xs : List Spelling} {o o' : BuildOptions}
    (h : takeAll? o xs = some o') (k : Option PathOption) :
    o'.given k ↔ o.given k ∨ k ∈ xs.map kind := by
  induction xs generalizing o with
  | nil =>
    cases h
    simp
  | cons x xs ih =>
    obtain ⟨o₁, htake, hrest⟩ := Option.bind_eq_some_iff.mp h
    have ho₁ : o.withChoice x.choice? = o₁ := by
      rw [take?] at htake
      split at htake
      · exact Option.some.inj htake
      · cases htake
    rw [ih hrest, ← ho₁, BuildOptions.given_withChoice, Bool.or_eq_true, decide_eq_true_iff,
      List.map_cons, List.mem_cons, or_assoc, or_left_comm]
    rfl

/-- What the options taken so far leave open is for the list to choose. -/
def orChosen (o : BuildOptions) (xs : List Spelling) : BuildOptions where
  coa? := o.coa?.or (pathFor xs .coa)
  templates? := o.templates?.or (pathFor xs .templates)
  output? := o.output?.or (pathFor xs .output)
  strict := o.strict || decide (.strict ∈ xs)

theorem pathFor_cons_of_eq {x : Spelling} {p : PathOption} {value : String}
    (h : x.choice? = some (p, value)) (xs : List Spelling) :
    pathFor (x :: xs) p = some value := by
  rw [pathFor, List.filterMap_cons_some h, List.lookup_cons, beq_self_eq_true]

theorem pathFor_cons_of_ne {x : Spelling} {p : PathOption} (h : x.kind ≠ some p)
    (xs : List Spelling) : pathFor (x :: xs) p = pathFor xs p := by
  rw [kind] at h
  cases hchoice : x.choice? with
  | none => rw [pathFor, List.filterMap_cons_none hchoice, pathFor]
  | some c =>
    have hp : (p == c.1) = false := by
      rw [hchoice] at h
      exact beq_eq_false_iff_ne.mpr fun hp => h (congrArg some hp.symm)
    rw [pathFor, List.filterMap_cons_some hchoice, List.lookup_cons, hp, pathFor]

theorem orChosen_cons (o : BuildOptions) (x : Spelling) (xs : List Spelling)
    (h : ¬ o.given x.kind) :
    orChosen o (x :: xs) = orChosen (o.withChoice x.choice?) xs := by
  have hother (p : PathOption) (hp : x.kind ≠ some p) : pathFor (x :: xs) p = pathFor xs p :=
    pathFor_cons_of_ne hp xs
  have hstrict : .strict ∈ x :: xs ↔ x.choice? = none ∨ .strict ∈ xs := by
    rw [List.mem_cons, eq_comm, choice?_eq_none_iff]
  rw [kind] at h hother
  simp only [orChosen, hstrict]
  rcases hchoice : x.choice? with _ | ⟨_ | _ | _, value⟩
  · simp_all [BuildOptions.given, BuildOptions.withChoice]
  all_goals
    rw [pathFor_cons_of_eq hchoice]
    simp_all [BuildOptions.given, BuildOptions.withChoice, BuildOptions.withPath]

/-- Each option that is read well and comes once is taken in for what it says. -/
theorem takeAll?_of_accepted {xs : List Spelling} {o : BuildOptions}
    (haccepted : ∀ x ∈ xs, x.Accepted) (hnodup : (xs.map kind).Nodup)
    (hgiven : ∀ x ∈ xs, ¬ o.given x.kind) : takeAll? o xs = some (orChosen o xs) := by
  induction xs generalizing o with
  | nil => simp [takeAll?, orChosen, pathFor]
  | cons x xs ih =>
    obtain ⟨hx, hxs⟩ := List.forall_mem_cons.mp haccepted
    obtain ⟨hx', hxs'⟩ := List.forall_mem_cons.mp hgiven
    obtain ⟨hnew, hnodup'⟩ := List.nodup_cons.mp hnodup
    have htake : x.take? o = some (o.withChoice x.choice?) := if_pos ⟨hx, hx'⟩
    rw [takeAll?, List.foldlM_cons, htake, orChosen_cons _ _ _ hx']
    refine ih hxs hnodup' fun y hy => ?_
    rw [BuildOptions.given_withChoice, Bool.or_eq_true, decide_eq_true_iff, not_or]
    exact ⟨fun h => hnew (List.mem_map.mpr ⟨y, hy, h⟩), hxs' y hy⟩

theorem not_given_of_takeAll? {xs : List Spelling} {o : BuildOptions} {k : Option PathOption}
    (h : takeAll? {} xs = some o) (hnew : ∀ x ∈ xs, x.kind ≠ k) : ¬ o.given k := by
  rw [given_of_takeAll? h, BuildOptions.given_default, List.mem_map]
  rintro (hgiven | ⟨x, hx, hkind⟩)
  · cases hgiven
  · exact hnew x hx hkind

theorem takeAll?_perm_cons {xs ys : List Spelling} {x : Spelling} (hperm : ys.Perm (x :: xs))
    (haccepted : x.Accepted) (hnew : ∀ y ∈ xs, y.kind ≠ x.kind) :
    takeAll? {} ys = (takeAll? {} xs).map fun o => o.withChoice x.choice? := by
  -- taken in last, the option meets all that the others have left
  have hlast : takeAll? {} ys = (takeAll? {} xs).bind x.take? := by
    rw [takeAll?_perm (hperm.trans (List.perm_append_singleton x xs).symm), takeAll?,
      List.foldlM_append]
    exact bind_congr fun o => bind_pure (x.take? o)
  rw [hlast]
  cases hxs : takeAll? {} xs with
  | none => rfl
  | some o => exact if_pos ⟨haccepted, not_given_of_takeAll? hxs hnew⟩

theorem read_eq_readBuild {arguments : List String}
    (h : ∀ first ∈ arguments.head?, first.toList.head? = some '-') :
    read arguments = readBuild false {} arguments := by
  unfold read
  split
  next => exact absurd (h _ rfl) (by decide)
  next => exact absurd (h _ rfl) (by decide)
  next => exact absurd (h _ rfl) (by decide)
  next => rfl

theorem head_spell (xs : List Spelling) :
    ∀ first ∈ (spell xs).head?, first.toList.head? = some '-' := by
  intro first hfirst
  cases xs with
  | nil => cases hfirst
  | cons x xs =>
    obtain ⟨first', rest, hx, hdash⟩ := x.arguments_eq_cons
    rw [spell, List.flatMap_cons, hx] at hfirst
    cases hfirst
    exact hdash

theorem read_spell (xs : List Spelling) :
    read (spell xs) = (takeAll? {} xs).elim .misuse .byDefault := by
  rw [read_eq_readBuild (head_spell xs), ← List.append_nil (spell xs), readBuild_spell]
  rfl

theorem read_build_spell (xs : List Spelling) :
    read ("build" :: spell xs) = (takeAll? {} xs).elim .misuse .build := by
  rw [← List.append_nil (spell xs)]
  exact readBuild_spell true xs [] {}

/-- A command has to come before the options. -/
theorem read_spell_command {xs : List Spelling} (hxs : xs ≠ []) {command : String}
    (hcommand : form command = .plain) (rest : List String) :
    read (spell xs ++ command :: rest) = .misuse := by
  have hhead : ∀ first ∈ (spell xs ++ command :: rest).head?,
      first.toList.head? = some '-' := by
    obtain ⟨x, xs, rfl⟩ := List.exists_cons_of_ne_nil hxs
    obtain ⟨first', rest', hx, -⟩ := x.arguments_eq_cons
    intro first hfirst
    refine head_spell (x :: xs) first ?_
    rw [spell, List.flatMap_cons, hx] at hfirst ⊢
    exact hfirst
  rw [read_eq_readBuild hhead, readBuild_spell]
  cases takeAll? {} xs with
  | none => rfl
  | some o => simp only [Option.elim_some, readBuild, hcommand]

end Arguments

variable {m : Type → Type} [Monad m] {Handle : Type} [Disk m Handle]

/-- A run depends on its arguments only through what they ask for. -/
theorem run_congr (s : Surroundings) {a b : List String}
    (h : Arguments.read a = Arguments.read b) : (run s a : m Outcome) = run s b := by
  rw [run, run, h]

theorem answer_ofOptions (w : Workspace) (now : Timestamp) (named : Bool) (o : BuildOptions) :
    (answer w now (.ofOptions named o) : ExceptT Failure m Outcome) =
      loadSettings w >>= fun settings => answerBuild w settings now o := by
  cases named <;> rfl

theorem run_of_ofOptions (s : Surroundings) {a : List String} {named : Bool} {o : BuildOptions}
    (h : Arguments.read a = .ofOptions named o) :
    (run s a : m Outcome) =
      match s.workspace with
      | .error failure => pure (.failed [] failure)
      | .ok w => (answer w s.now (.ofOptions named o)).run >>= fun
        | .ok outcome => pure outcome
        | .error failure => pure (.failed [] failure) := by
  rw [run, h]
  cases named <;> rfl

/-- Two builds run alike if they do alike, whether their command is named or not. -/
theorem run_congr_build (s : Surroundings) (named named' : Bool) {a b : List String}
    {o o' : BuildOptions} (ha : Arguments.read a = .ofOptions named o)
    (hb : Arguments.read b = .ofOptions named' o')
    (h : ∀ w settings, (build w settings s.now o : ExceptT Failure m BuildSummary) =
      build w settings s.now o') :
    (run s a : m Outcome) = run s b := by
  rw [run_of_ofOptions s ha, run_of_ofOptions s hb]
  simp only [answer_ofOptions, answerBuild, h]

/-- The stock paths can as well be given. -/
theorem build_withChoice_stock (w : Workspace) (settings : Settings) (now : Timestamp)
    {o : BuildOptions} {c : Option (Arguments.PathOption × String)}
    (hgiven : ¬ o.given (c.map Prod.fst))
    (hstock : c = some (.coa, "templates/coa.json") ∨
      c = some (.templates, "templates/journal-templates.json")) :
    (build w settings now (o.withChoice c) : ExceptT Failure m BuildSummary) =
      build w settings now o := by
  obtain rfl | rfl := hstock
  · have hcoa : o.coa? = none := by simpa [BuildOptions.given] using hgiven
    have hpath : o.coaPath w = w.coaFile := by rw [BuildOptions.coaPath, hcoa]; rfl
    unfold build
    rw [hpath]
    rfl
  · have htemplates : o.templates? = none := by simpa [BuildOptions.given] using hgiven
    have hpath : o.templatesPath w = w.templatesFile := by
      rw [BuildOptions.templatesPath, htemplates]; rfl
    unfold build
    rw [hpath]
    rfl

open Arguments Spelling

/-- The options of a build may stand in any order and spelling, and `build` before them can be left
out. None is lost: the request holds what each of them says, and a command after them is an
error. -/
theorem run_options (s : Surroundings) (xs : List Spelling) :
    (run s (spell xs) : StateM Machine Outcome) = run s ("build" :: spell xs) ∧
      (∀ ys, ys.Perm xs →
        (run s (spell ys) : StateM Machine Outcome) = run s (spell xs)) ∧
      (∀ x ys, (x.choice? = some (.coa, "templates/coa.json") ∨
          x.choice? = some (.templates, "templates/journal-templates.json")) →
        (∀ y ∈ xs, y.kind ≠ x.kind) → ys.Perm (x :: xs) →
        (run s (spell ys) : StateM Machine Outcome) = run s (spell xs)) ∧
      (xs ≠ [] → ∀ command ∈ ["build", "inspect"], ∀ rest disk, ∃ error,
        (run s (spell xs ++ command :: rest) : StateM Machine Outcome) disk =
          ({ code := 2, output := "", error }, disk)) ∧
      ((∀ x ∈ xs, x.Accepted) → (xs.map kind).Nodup →
        read (spell xs) = .byDefault (chosen xs) ∧
          read ("build" :: spell xs) = .build (chosen xs)) := by
  refine ⟨?_, ?_, ?_, ?_, ?_⟩
  · have himplied := read_spell xs
    have hnamed := read_build_spell xs
    cases hxs : takeAll? {} xs with
    | none =>
      rw [hxs] at himplied hnamed
      exact run_congr s (himplied.trans hnamed.symm)
    | some o =>
      rw [hxs] at himplied hnamed
      exact run_congr_build s false true himplied hnamed fun _ _ => rfl
  · intro ys hperm
    exact run_congr s (by rw [read_spell, read_spell, takeAll?_perm hperm])
  · intro x ys hstock hnew hperm
    have haccepted : x.Accepted := by
      obtain h | h := hstock <;> exact accepted_of_choice? h (by decide) (by decide)
    have hys := takeAll?_perm_cons hperm haccepted hnew
    cases hxs : takeAll? {} xs with
    | none => exact run_congr s (by rw [read_spell, read_spell, hys, hxs]; rfl)
    | some o =>
      have hread : read (spell ys) = .ofOptions false (o.withChoice x.choice?) := by
        rw [read_spell, hys, hxs]
        rfl
      have hread' : read (spell xs) = .ofOptions false o := by
        rw [read_spell, hxs]
        rfl
      exact run_congr_build s false false hread hread' fun w settings =>
        build_withChoice_stock w settings s.now (not_given_of_takeAll? hxs hnew) hstock
  · intro hxs command hcommand rest disk
    have hplain : form command = .plain := by
      rcases hcommand with _ | ⟨_, _ | ⟨_, ⟨⟩⟩⟩ <;> rfl
    refine ⟨Outcome.misuse.error, ?_⟩
    rw [run, read_spell_command hxs hplain]
    rfl
  · intro haccepted hnodup
    have hnone : ∀ x ∈ xs, ¬ ({} : BuildOptions).given x.kind := fun x _ => by
      rw [BuildOptions.given_default]
      exact Bool.false_ne_true
    rw [read_spell, read_build_spell, takeAll?_of_accepted haccepted hnodup hnone]
    simp [orChosen, chosen]

/-- A path may be named like a command. -/
def pathLikeCommand : List Spelling :=
  [.strict, .attached 'o' "ut.zip" (by decide), .apart (.long .coa) "build"]

theorem run_options_pathLikeCommand :
    ((∀ x ∈ pathLikeCommand, x.Accepted) ∧ (pathLikeCommand.map kind).Nodup) ∧
      read ["--strict", "-oout.zip", "--coa", "build"] =
        .byDefault { coa? := some "build", output? := some "out.zip", strict := true } ∧
      read ["build", "--strict", "-oout.zip", "--coa", "build"] =
        .build { coa? := some "build", output? := some "out.zip", strict := true } := by
  have haccepted : ∀ x ∈ pathLikeCommand, x.Accepted := by decide
  have hnodup : (pathLikeCommand.map kind).Nodup := by decide
  have hspell : spell pathLikeCommand = ["--strict", "-oout.zip", "--coa", "build"] := by decide
  have hchosen : chosen pathLikeCommand =
      { coa? := some "build", output? := some "out.zip", strict := true } := by decide
  refine ⟨⟨haccepted, hnodup⟩, ?_⟩
  rw [← hspell, ← hchosen]
  exact (run_options ⟨none, .error .notFound, ⟨2024, 2, 29, 12, 0, 0, by decide, by decide,
    by decide, by decide, by decide, by decide⟩⟩ pathLikeCommand).2.2.2.2 haccepted hnodup

end SeedArchive
