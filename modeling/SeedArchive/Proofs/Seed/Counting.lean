import Mathlib.Algebra.BigOperators.Group.List.Basic
import Mathlib.Data.Finset.Card
import SeedArchive.Failure
import SeedArchive.Proofs.Lists.Firsts
import SeedArchive.Proofs.Seed.References

namespace SeedArchive

/-- The number of distinct values that occur more than once. -/
def repeatedCount (values : List String) : Nat :=
  (values.toFinset.filter fun v => 2 ≤ values.count v).card

theorem length_duplicates (values : List String) :
    (duplicates values).length = repeatedCount values := by
  have hfilter : duplicates values =
      (values.eraseDups.filter fun v => 2 ≤ values.count v).map fun v => (v, values.count v) := by
    rw [duplicates, List.filter_map]
    rfl
  have hset : (values.eraseDups.filter fun v => 2 ≤ values.count v).toFinset =
      values.toFinset.filter fun v => 2 ≤ values.count v := by
    ext v
    simp
  have hnodup := (nodup_eraseDups values).filter fun v => decide (2 ≤ values.count v)
  rw [hfilter, List.length_map, ← List.toFinset_card_of_nodup hnodup, hset, repeatedCount]

theorem length_ite_singleton {α : Type} (p : Prop) [Decidable p] (a : α) :
    (if p then [a] else []).length = (decide p).toNat := by
  by_cases hp : p <;> simp [hp]

theorem sum_map_toNat {α : Type} (p : α → Bool) (as : List α) :
    (as.map fun a => (p a).toNat).sum = as.countP p := by
  induction as with
  | nil => rfl
  | cons a as ih =>
    rw [List.map_cons, List.sum_cons, ih, List.countP_cons, Nat.add_comm]
    cases p a <;> rfl

namespace Account

variable (codes : List String) (a : Account)

/-- The account has a type, and the importer does not know it. -/
def typeUnknown : Bool :=
  a.type?.any fun t => !t.isRecognised

def balanceUnknown : Bool :=
  !a.balance.isRecognised

/-- The account names a parent that none of `codes` stands for. -/
def parentUnknown : Bool :=
  a.parentText ≠ "" ∧ a.parentText ∉ codes

theorem length_unrecognised :
    a.unrecognised.length = a.typeUnknown.toNat + a.balanceUnknown.toNat := by
  rw [unrecognised, List.length_append]
  congr 1
  · cases ht : a.type? with
    | none => simp [typeUnknown, ht]
    | some t => cases hr : t.isRecognised <;> simp [typeUnknown, ht, hr]
  · cases hr : a.balance.isRecognised <;> simp [balanceUnknown, hr]

theorem length_findings :
    (a.findings codes).length =
      a.typeUnknown.toNat + a.balanceUnknown.toNat + (a.parentUnknown codes).toNat := by
  have hparent : (a.unknownParent codes).length = (a.parentUnknown codes).toNat := by
    rw [a.unknownParent_eq]
    exact length_ite_singleton _ _
  rw [findings, List.length_append, length_unrecognised, hparent]

end Account

namespace TemplateLine

variable (codes : List String) (l : TemplateLine)

def positionUnknown : Bool :=
  !l.position.isRecognised

/-- The line names an account that none of `codes` stands for. -/
def accountUnknown : Bool :=
  l.account ≠ "" ∧ l.account ∉ codes

theorem length_findings (template : String) (order : Nat) :
    (l.findings codes template order).length =
      l.positionUnknown.toNat + (l.accountUnknown codes).toNat := by
  have hposition : (l.unrecognised template order).length = l.positionUnknown.toNat := by
    cases hr : l.position.isRecognised <;> simp [unrecognised, positionUnknown, hr]
  have haccount : (l.unknownAccount codes template order).length =
      (l.accountUnknown codes).toNat := by
    rw [l.unknownAccount_eq]
    exact length_ite_singleton _ _
  rw [findings, List.length_append, hposition, haccount]

end TemplateLine

theorem JournalTemplate.length_findings (codes : List String) (t : JournalTemplate) :
    (t.findings codes).length = t.lines.isEmpty.toNat +
      (t.lines.countP TemplateLine.positionUnknown +
        t.lines.countP (TemplateLine.accountUnknown codes)) := by
  have hempty : (if t.lines = [] then [Finding.noLines t.name] else []).length =
      t.lines.isEmpty.toNat := by
    cases t.lines <;> simp
  have hlines : (t.numberedLines.flatMap fun p => p.2.findings codes t.name p.1).length =
      t.lines.countP TemplateLine.positionUnknown +
        t.lines.countP (TemplateLine.accountUnknown codes) := by
    rw [List.length_flatMap, ← sum_map_toNat, ← sum_map_toNat, ← List.sum_map_add,
      ← t.map_snd_numberedLines, List.map_map]
    exact congrArg List.sum (List.map_congr_left fun p _ => p.2.length_findings codes t.name p.1)
  rw [findings, List.length_append, hempty]
  exact congrArg (t.lines.isEmpty.toNat + ·) hlines

namespace Seed

variable (s : Seed)

/-- The lines of all templates. -/
def lines : List TemplateLine :=
  s.templates.flatMap JournalTemplate.lines

/-- The number of problems, kind by kind: a value that occurs several times counts once, and an
account or a line counts for each of its flaws. -/
def problems : Nat :=
  repeatedCount s.codes +
    s.accounts.countP Account.typeUnknown +
    s.accounts.countP Account.balanceUnknown +
    s.accounts.countP (Account.parentUnknown s.codes) +
    repeatedCount s.names +
    s.templates.countP (fun t => t.lines.isEmpty) +
    s.lines.countP TemplateLine.positionUnknown +
    s.lines.countP (TemplateLine.accountUnknown s.codes)

theorem length_findings : s.findings.length = s.problems := by
  have haccounts : (s.accounts.flatMap (Account.findings s.codes)).length =
      s.accounts.countP Account.typeUnknown + s.accounts.countP Account.balanceUnknown +
        s.accounts.countP (Account.parentUnknown s.codes) := by
    rw [List.length_flatMap, ← sum_map_toNat, ← sum_map_toNat, ← sum_map_toNat,
      ← List.sum_map_add, ← List.sum_map_add]
    exact congrArg List.sum (List.map_congr_left fun a _ => a.length_findings s.codes)
  have htemplates : (s.templates.flatMap (JournalTemplate.findings s.codes)).length =
      s.templates.countP (fun t => t.lines.isEmpty) +
        (s.lines.countP TemplateLine.positionUnknown +
          s.lines.countP (TemplateLine.accountUnknown s.codes)) := by
    rw [List.length_flatMap, lines, List.countP_flatMap, List.countP_flatMap, ← sum_map_toNat,
      ← List.sum_map_add, ← List.sum_map_add]
    exact congrArg List.sum (List.map_congr_left fun t _ => t.length_findings s.codes)
  rw [findings, List.length_append, List.length_append, List.length_append, List.length_map,
    List.length_map, length_duplicates, length_duplicates, haccounts, htemplates, problems]
  omega

/-- What the importer relies on. -/
structure Sound : Prop where
  codes_distinct : s.codes.Nodup
  parents_known : ∀ a ∈ s.accounts, ∀ parent, a.parent? = some parent → parent ≠ "" →
    ∃ b ∈ s.accounts, b.code = parent
  types_recognised : ∀ a ∈ s.accounts, ∀ t, a.type? = some t → t.isRecognised = true
  balances_recognised : ∀ a ∈ s.accounts, a.balance.isRecognised = true
  names_distinct : s.names.Nodup
  templates_filled : ∀ t ∈ s.templates, t.lines ≠ []
  positions_recognised : ∀ t ∈ s.templates, ∀ l ∈ t.lines, l.position.isRecognised = true
  accounts_known : ∀ t ∈ s.templates, ∀ l ∈ t.lines, l.account ≠ "" →
    ∃ a ∈ s.accounts, a.code = l.account

theorem mem_codes_iff {code : String} : code ∈ s.codes ↔ ∃ a ∈ s.accounts, a.code = code :=
  List.mem_map

theorem clean_iff_sound : s.Clean ↔ s.Sound := by
  constructor
  · intro h
    constructor
    case codes_distinct => exact h.nodup_codes
    case names_distinct => exact h.nodup_names
    case parents_known =>
      intro a ha parent hp hblank
      rw [← mem_codes_iff]
      have hparent := (h.accounts a ha).2
      rw [Account.parentText, hp] at hparent
      exact hparent.resolve_left hblank
    case types_recognised =>
      intro a ha
      exact (a.unrecognised_eq_nil_iff.mp (h.accounts a ha).1).1
    case balances_recognised =>
      intro a ha
      exact (a.unrecognised_eq_nil_iff.mp (h.accounts a ha).1).2
    case templates_filled => exact fun t ht => (h.templates t ht).1
    case positions_recognised => exact fun t ht l hl => ((h.templates t ht).2 l hl).1
    case accounts_known =>
      intro t ht l hl hblank
      rw [← mem_codes_iff]
      exact ((h.templates t ht).2 l hl).2.resolve_left hblank
  · intro h
    refine ⟨h.codes_distinct, h.names_distinct, fun a ha => ⟨?_, ?_⟩, fun t ht => ⟨?_, ?_⟩⟩
    · exact a.unrecognised_eq_nil_iff.mpr ⟨h.types_recognised a ha, h.balances_recognised a ha⟩
    · cases hp : a.parent? with
      | none => exact .inl (by simp [Account.parentText, hp])
      | some parent =>
        have htext : a.parentText = parent := by simp [Account.parentText, hp]
        rw [htext, mem_codes_iff, or_iff_not_imp_left]
        exact h.parents_known a ha parent hp
    · exact h.templates_filled t ht
    · intro l hl
      rw [mem_codes_iff, or_iff_not_imp_left]
      exact ⟨h.positions_recognised t ht l hl, h.accounts_known t ht l hl⟩

/-- The check lets exactly the sound seeds pass. Any other is refused with the number of its
problems, which is also what a check that is not strict answers. -/
theorem check_counts_problems :
    ((∃ n, s.check true = .ok n) ↔ s.Sound) ∧
      (s.Sound ∨ ∃ found, s.check true = .error found ∧ found.length = s.problems ∧
        (Failure.findings found).category = .validation ∧
        (Failure.findings found).text =
          s!"{s.problems} problem(s) in seed data: " ++
            "; ".intercalate (found.map Finding.text)) ∧
      s.check false = .ok s.problems := by
  have hsound : s.findings = [] ↔ s.Sound := s.findings_eq_nil_iff.trans s.clean_iff_sound
  refine ⟨⟨?_, ?_⟩, ?_, ?_⟩
  · rintro ⟨n, hn⟩
    exact s.clean_iff_sound.mp (s.clean_of_check hn)
  · intro h
    exact ⟨0, s.check_of_eq_nil (hsound.mpr h) true⟩
  · rw [or_iff_not_imp_left, ← hsound]
    intro hne
    refine ⟨s.findings, s.check_true_of_ne_nil hne, s.length_findings, rfl, ?_⟩
    rw [← s.length_findings]
    rfl
  · rw [s.check_false, s.length_findings]

/-- A code that occurs three times is one problem, and each flaw of the last account another. -/
example : problems ⟨[⟨"1", "", none, none, .debit⟩, ⟨"1", "", none, some "", .debit⟩,
    ⟨"1", "", some (.other ""), some "2", .other "debit"⟩], [⟨"", "", "", "", [], []⟩]⟩ = 5 := by
  decide

end Seed

end SeedArchive
