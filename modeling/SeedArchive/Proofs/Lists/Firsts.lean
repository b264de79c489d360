import Mathlib.Data.List.Perm.Subperm

namespace SeedArchive

section Firsts

variable {α : Type} [BEq α] [LawfulBEq α]

theorem eraseDups_of_nodup {as : List α} (h : as.Nodup) : as.eraseDups = as := by
  induction as with
  | nil => rfl
  | cons a as ih =>
    obtain ⟨ha, has⟩ := List.nodup_cons.mp h
    have hfilter : as.filter (fun b => !b == a) = as := by
      apply List.filter_eq_self.mpr
      intro b hb
      have hne : b ≠ a := by
        rintro rfl
        exact ha hb
      simpa using hne
    rw [List.eraseDups_cons, hfilter, ih has]

theorem nodup_eraseDups (as : List α) : as.eraseDups.Nodup := by
  induction hn : as.length using Nat.strongRecOn generalizing as with
  | ind n ih =>
    cases as with
    | nil => exact List.nodup_nil
    | cons a as =>
      have hshort : (as.filter fun b => !b == a).length < n := by
        have hle := List.length_filter_le (fun b => !b == a) as
        rw [List.length_cons] at hn
        omega
      rw [List.eraseDups_cons]
      refine List.nodup_cons.mpr ⟨?_, ih _ hshort _ rfl⟩
      simp [List.mem_eraseDups]

/-- A list is shorter without its repeats if it has any. -/
theorem length_eraseDups_lt_iff (as : List α) : as.eraseDups.length < as.length ↔ ¬ as.Nodup := by
  constructor
  · intro hlt hnodup
    rw [eraseDups_of_nodup hnodup] at hlt
    exact Nat.lt_irrefl _ hlt
  · intro hrepeat
    have hsub : as.eraseDups.Subperm as :=
      (nodup_eraseDups as).subperm fun _ hn => List.mem_eraseDups.mp hn
    refine Nat.lt_of_le_of_ne hsub.length_le fun hlength => hrepeat ?_
    have hperm := hsub.perm_of_length_le (Nat.le_of_eq hlength.symm)
    exact hperm.nodup_iff.mp (nodup_eraseDups as)

end Firsts

end SeedArchive
