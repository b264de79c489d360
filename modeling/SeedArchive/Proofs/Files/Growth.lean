import SeedArchive.Proofs.Files.Machine

namespace SeedArchive

namespace Machine

/-- The same stands at a place, or a directory was made there. -/
def SameAt (m : Machine) (made : Location → Prop) (m' : Machine) (l : Location) : Prop :=
  m'.tree.item? l = m.tree.item? l ∨
    m.tree.item? l = none ∧ m'.tree.item? l = some .directory ∧ made l

section SameAt

variable {m m' m'' : Machine} {made : Location → Prop} {l : Location}

theorem SameAt.trans (h : m.SameAt made m' l) (h' : m'.SameAt made m'' l) :
    m.SameAt made m'' l := by
  rcases h' with hsame | ⟨hnone, hdirectory, hmade⟩
  · rw [SameAt, hsame]
    exact h
  · rcases h with hsame | ⟨-, hsome, -⟩
    · exact .inr ⟨hsame ▸ hnone, hdirectory, hmade⟩
    · rw [hnone] at hsome
      cases hsome

theorem SameAt.mono {other : Location → Prop} (h : m.SameAt made m' l)
    (hmade : made l → other l) : m.SameAt other m' l :=
  h.imp_right fun hl => ⟨hl.1, hl.2.1, hmade hl.2.2⟩

theorem SameAt.item?_eq_some {i : Item} (h : m.SameAt made m' l) (hi : m.tree.item? l = some i) :
    m'.tree.item? l = some i := by
  rcases h with hsame | ⟨hnone, -, -⟩
  · rw [hsame, hi]
  · rw [hi] at hnone
    cases hnone

end SameAt

/-- The second machine is the first one with directories made where nothing was. -/
structure Grown (m : Machine) (made : Location → Prop) (m' : Machine) : Prop where
  current : m'.current = m.current
  item : ∀ l, m.SameAt made m' l

namespace Grown

variable {m m' : Machine} {made : Location → Prop}

theorem refl (m : Machine) (made : Location → Prop) : m.Grown made m :=
  ⟨rfl, fun _ => .inl rfl⟩

theorem trans {m'' : Machine} (h : m.Grown made m') (h' : m'.Grown made m'') : m.Grown made m'' :=
  ⟨h'.current.trans h.current, fun l => (h.item l).trans (h'.item l)⟩

theorem mono {other : Location → Prop} (h : m.Grown made m') (hmade : ∀ l, made l → other l) :
    m.Grown other m' :=
  ⟨h.current, fun l => (h.item l).mono (hmade l)⟩

theorem retains (h : m.Grown made m') : m.Retains m' :=
  ⟨h.current, fun l hl => (h.item l).item?_eq_some hl⟩

end Grown

theorem grown_makeDirectory {m m' : Machine} {path : String} (h : m.makeDirectory path = .ok m') :
    m.Grown (fun l => m.Passes path l ∨ l = m.place path) m' := by
  obtain ⟨hne, hfree, rfl⟩ := makeDirectory_eq_ok h
  refine ⟨rfl, fun l => ?_⟩
  rw [SameAt, Tree.item?_put _ hne]
  split
  · next hl => exact .inr ⟨hl ▸ hfree, rfl, .inr hl⟩
  · exact .inl rfl

theorem run_attemptUnit (f : Machine → Except SystemError Machine) (m : Machine) :
    (attemptUnit f).run m =
      match f m with
      | .ok m' => (.ok (), m')
      | .error e => (.error e, m) := by
  show attempt (fun m => (f m).map fun m' => (m', ())) m = _
  rw [attempt]
  cases f m <;> rfl

theorem run_makeDirectory (m : Machine) (path : String) :
    (Disk.makeDirectory path : StateM Machine (Except SystemError Unit)).run m =
      match m.makeDirectory path with
      | .ok m' => (.ok (), m')
      | .error e => (.error e, m) :=
  run_attemptUnit (fun m => m.makeDirectory path) m

theorem grown_again (m : Machine) (path : String) :
    m.Grown (fun l => m.Passes path l ∨ l = m.place path)
      ((makeDirectories.again path : StateM Machine (Except SystemError Unit)).run m).2 := by
  rw [makeDirectories.again, StateT.run_bind, run_makeDirectory]
  cases hmake : m.makeDirectory path with
  | ok m' => exact grown_makeDirectory hmake
  | error e => exact .refl m _

/-- Directories are made only at the place that a path leads to and at those it goes through. -/
theorem grown_makeDirectories (m : Machine) (path : String) (depth : Nat) :
    m.Grown (fun l => m.Passes path l ∨ l = m.place path)
      ((makeDirectories path depth : StateM Machine (Except SystemError Unit)).run m).2 := by
  induction depth generalizing m path with
  | zero => exact .refl m _
  | succ depth ih =>
    rw [makeDirectories]
    by_cases hpath : path = ""
    · rw [if_pos hpath]
      exact .refl m _
    · rw [if_neg hpath, StateT.run_bind, run_makeDirectory]
      cases hmake : m.makeDirectory path with
      | ok m' => exact grown_makeDirectory hmake
      | error e =>
        by_cases he : e = .notFound
        · subst he
          cases hparent : Path.parent? path with
          | none => exact .refl m _
          | some parent =>
            have hgrown := (ih m parent).mono fun l hl =>
              (.inl (m.passes_of_parent hparent hl) : m.Passes path l ∨ l = m.place path)
            show m.Grown _ (StateT.run ((makeDirectories parent depth : StateM Machine _) >>=
              _) m).2
            rw [StateT.run_bind]
            generalize (makeDirectories parent depth : StateM Machine _).run m = result at hgrown ⊢
            obtain ⟨e | a, m'⟩ := result
            · exact hgrown
            · refine hgrown.trans ((grown_again m' path).mono fun l hl => ?_)
              rwa [passes_iff hgrown.current, place_eq hgrown.current] at hl
        · cases e with
          | notFound => exact absurd rfl he
          | _ => exact .refl m _

end Machine

end SeedArchive
