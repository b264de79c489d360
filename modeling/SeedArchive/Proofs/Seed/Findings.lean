import SeedArchive.Proofs.Seed.Written
import SeedArchive.Seed.Finding

namespace SeedArchive

namespace Finding

def duplicateCode? : Finding → Option (String × Nat)
  | .duplicateCode code times => some (code, times)
  | _ => none

def duplicateName? : Finding → Option (String × Nat)
  | .duplicateName name times => some (name, times)
  | _ => none

def unknownParent? : Finding → Option (String × String)
  | .unknownParent code parent => some (code, parent)
  | _ => none

/-- The order of a line is given as it is written in a table. -/
def unknownAccount? : Finding → Option (String × String × String)
  | .unknownAccount template order account => some (template, toString order, account)
  | _ => none

end Finding

/-- Each value once, at its first place. -/
def firsts (values : List String) : List String :=
  (values.zipIdx.filter fun p => p.1 ∉ values.take p.2).map Prod.fst

/-- The values that occur more than once, at their first places, with the number of times. -/
def repeated (values : List String) : List (String × Nat) :=
  ((firsts values).filter fun v => 1 < values.count v).map fun v => (v, values.count v)

theorem eraseDups_filter_eq (seen values : List String) :
    (values.filter (· ∉ seen)).eraseDups =
      ((values.zipIdx seen.length).filter fun p => p.1 ∉ (seen ++ values).take p.2).map
        Prod.fst := by
  -- a value is kept if it is not among those before it, which are `seen` and a part of `values`
  induction values generalizing seen with
  | nil => rfl
  | cons v values ih =>
    have hrest := ih (seen ++ [v])
    rw [List.length_append, List.length_singleton, List.append_assoc, List.singleton_append]
      at hrest
    rw [List.zipIdx_cons, List.filter_cons, List.filter_cons, List.take_left]
    by_cases hv : v ∈ seen
    · have hsame : values.filter (· ∉ seen ++ [v]) = values.filter (· ∉ seen) := by
        apply List.filter_congr
        intro w _
        by_cases hw : w = v
        · simp [hw, hv]
        · simp [hw]
      rw [if_neg (by simp [hv]), if_neg (by simp [hv]), ← hrest, hsame]
    · have hsplit : (values.filter (· ∉ seen)).filter (fun w => !w == v) =
          values.filter (· ∉ seen ++ [v]) := by
        rw [List.filter_filter]
        apply List.filter_congr
        intro w _
        by_cases hw : w = v <;> simp [hw]
      rw [if_pos (by simp [hv]), if_pos (by simp [hv]), List.eraseDups_cons, hsplit, hrest,
        List.map_cons]

theorem eraseDups_eq_firsts (values : List String) : values.eraseDups = firsts values := by
  have hfirst := eraseDups_filter_eq [] values
  have hall : values.filter (· ∉ ([] : List String)) = values := by
    simp
  rw [hall, List.length_nil, List.nil_append] at hfirst
  exact hfirst

theorem duplicates_eq_repeated (values : List String) : duplicates values = repeated values := by
  rw [duplicates, repeated, ← eraseDups_eq_firsts, List.filter_map]
  rfl

theorem duplicates_eq_nil_iff (values : List String) : duplicates values = [] ↔ values.Nodup := by
  rw [duplicates, List.filter_eq_nil_iff, List.forall_mem_map, List.nodup_iff_count_le_one]
  constructor
  · intro h v
    by_cases hv : v ∈ values
    · have hcount := h v (List.mem_eraseDups.mpr hv)
      simpa using hcount
    · rw [List.count_eq_zero.mpr hv]
      omega
  · intro h v _
    have hcount := h v
    simpa using hcount

theorem flatMap_ite_eq_filterMap {α β : Type} (p : α → Bool) (f : α → Option β) (as : List α) :
    (as.flatMap fun a => if p a then (f a).toList else []) = (as.filter p).filterMap f := by
  induction as with
  | nil => rfl
  | cons a as ih =>
    rw [List.filter_cons, List.flatMap_cons, ih]
    split
    · cases hf : f a <;> simp [hf]
    · rfl

namespace Account

variable (a : Account)

theorem exists_of_mem_unrecognised {x : Finding} (hx : x ∈ a.unrecognised) :
    ∃ owner term value, x = .unrecognised owner term value := by
  rcases List.mem_append.mp hx with hx | hx
  · split at hx
    · split at hx
      · simp at hx
      · exact ⟨_, _, _, List.mem_singleton.mp hx⟩
    · simp at hx
  · split at hx
    · simp at hx
    · exact ⟨_, _, _, List.mem_singleton.mp hx⟩

theorem unrecognised_eq_nil_iff :
    a.unrecognised = [] ↔
      (∀ t, a.type? = some t → t.isRecognised = true) ∧ a.balance.isRecognised = true := by
  cases ht : a.type? <;> simp [unrecognised, ht]

theorem unknownParent_eq (codes : List String) :
    a.unknownParent codes =
      if a.parentText ≠ "" ∧ a.parentText ∉ codes then [.unknownParent a.code a.parentText]
      else [] := by
  cases hp : a.parent? with
  | none => simp [unknownParent, parentText, hp]
  | some parent =>
    by_cases hblank : parent = ""
    · simp [unknownParent, parentText, hp, hblank]
    · by_cases hcode : parent ∈ codes <;> simp [unknownParent, parentText, hp, hblank, hcode]

end Account

namespace TemplateLine

variable (template : String) (order : Nat) (l : TemplateLine)

theorem exists_of_mem_unrecognised {x : Finding} (hx : x ∈ l.unrecognised template order) :
    ∃ owner term value, x = .unrecognised owner term value := by
  unfold unrecognised at hx
  split at hx
  · simp at hx
  · exact ⟨_, _, _, List.mem_singleton.mp hx⟩

theorem unrecognised_eq_nil_iff :
    l.unrecognised template order = [] ↔ l.position.isRecognised = true := by
  simp [unrecognised]

theorem unknownAccount_eq (codes : List String) :
    l.unknownAccount codes template order =
      if l.account ≠ "" ∧ l.account ∉ codes then [.unknownAccount template order l.account]
      else [] := by
  by_cases hblank : l.account = ""
  · simp [unknownAccount, hblank]
  · by_cases hcode : l.account ∈ codes <;> simp [unknownAccount, hblank, hcode]

end TemplateLine

theorem filterMap_eq_nil_of_unrecognised {β : Type} {f : Finding → Option β}
    (hf : ∀ owner term value, f (.unrecognised owner term value) = none) {found : List Finding}
    (h : ∀ x ∈ found, ∃ owner term value, x = .unrecognised owner term value) :
    found.filterMap f = [] := by
  rw [List.filterMap_eq_nil_iff]
  intro x hx
  obtain ⟨owner, term, value, rfl⟩ := h x hx
  exact hf owner term value

namespace Seed

variable (s : Seed)

/-- What is selected from all findings, if values and empty templates are passed over. -/
theorem filterMap_findings {β : Type} {f : Finding → Option β}
    (hvalue : ∀ owner term value, f (.unrecognised owner term value) = none)
    (hempty : ∀ template, f (.noLines template) = none) :
    s.findings.filterMap f =
      (duplicates s.codes).filterMap (fun d => f (.duplicateCode d.1 d.2)) ++
        (s.accounts.filter fun a => a.parentText ≠ "" ∧ a.parentText ∉ s.codes).filterMap
          (fun a => f (.unknownParent a.code a.parentText)) ++
        (duplicates s.names).filterMap (fun d => f (.duplicateName d.1 d.2)) ++
        s.templates.flatMap fun t =>
          (t.numberedLines.filter fun p => p.2.account ≠ "" ∧ p.2.account ∉ s.codes).filterMap
            fun p => f (.unknownAccount t.name p.1 p.2.account) := by
  have haccount (a : Account) : (a.findings s.codes).filterMap f =
      if a.parentText ≠ "" ∧ a.parentText ∉ s.codes then
        (f (.unknownParent a.code a.parentText)).toList
      else [] := by
    rw [Account.findings, List.filterMap_append,
      filterMap_eq_nil_of_unrecognised hvalue fun _ => a.exists_of_mem_unrecognised,
      List.nil_append, a.unknownParent_eq]
    split
    · cases hf : f (.unknownParent a.code a.parentText) <;> simp [hf]
    · rfl
  have hline (template : String) (order : Nat) (l : TemplateLine) :
      (l.findings s.codes template order).filterMap f =
        if l.account ≠ "" ∧ l.account ∉ s.codes then
          (f (.unknownAccount template order l.account)).toList
        else [] := by
    rw [TemplateLine.findings, List.filterMap_append,
      filterMap_eq_nil_of_unrecognised hvalue fun _ => l.exists_of_mem_unrecognised template order,
      List.nil_append, l.unknownAccount_eq]
    split
    · cases hf : f (.unknownAccount template order l.account) <;> simp [hf]
    · rfl
  have htemplate (t : JournalTemplate) : (t.findings s.codes).filterMap f =
      (t.numberedLines.filter fun p => p.2.account ≠ "" ∧ p.2.account ∉ s.codes).filterMap
        fun p => f (.unknownAccount t.name p.1 p.2.account) := by
    have hnone : (if t.lines = [] then [Finding.noLines t.name] else []).filterMap f = [] := by
      split <;> simp [hempty]
    rw [JournalTemplate.findings, List.filterMap_append, hnone, List.nil_append,
      List.filterMap_flatMap, ← flatMap_ite_eq_filterMap]
    apply List.flatMap_congr
    intro p _
    rw [hline]
    simp only [decide_eq_true_eq]
  rw [findings, List.filterMap_append, List.filterMap_append, List.filterMap_append,
    List.filterMap_map, List.filterMap_map, List.filterMap_flatMap, List.filterMap_flatMap,
    ← flatMap_ite_eq_filterMap, List.flatMap_congr fun a _ => haccount a,
    List.flatMap_congr fun t _ => htemplate t]
  simp only [decide_eq_true_eq]
  rfl

theorem filterMap_duplicateCode? :
    s.findings.filterMap Finding.duplicateCode? = repeated s.codes := by
  rw [s.filterMap_findings (fun _ _ _ => rfl) (fun _ => rfl)]
  simp [Finding.duplicateCode?, duplicates_eq_repeated]

theorem filterMap_duplicateName? :
    s.findings.filterMap Finding.duplicateName? = repeated s.names := by
  rw [s.filterMap_findings (fun _ _ _ => rfl) (fun _ => rfl)]
  simp [Finding.duplicateName?, duplicates_eq_repeated]

theorem filterMap_unknownParent? :
    s.findings.filterMap Finding.unknownParent? =
      (s.accounts.filter fun a => a.parentText ≠ "" ∧ a.parentText ∉ s.codes).map fun a =>
        (a.code, a.parentText) := by
  rw [s.filterMap_findings (fun _ _ _ => rfl) (fun _ => rfl)]
  simp [Finding.unknownParent?]

theorem filterMap_unknownAccount? :
    s.findings.filterMap Finding.unknownAccount? =
      s.templates.flatMap fun t => (t.numberedLines.filter fun p =>
        p.2.account ≠ "" ∧ p.2.account ∉ s.codes).map fun p =>
          (t.name, toString p.1, p.2.account) := by
  rw [s.filterMap_findings (fun _ _ _ => rfl) (fun _ => rfl)]
  simp [Finding.unknownAccount?]

end Seed

end SeedArchive
