import Mathlib
import SeedArchive.Proofs.Json.Numerals
import SeedArchive.Proofs.Text.Utf8

namespace SeedArchive.Numeral

/-- The number that digits stand for, the leading one first. -/
def ofDigits (ds : List Nat) : Nat :=
  Nat.ofDigits 10 ds.reverse

@[simp]
theorem ofDigits_nil : ofDigits [] = 0 :=
  rfl

@[simp]
theorem ofDigits_append_singleton (ds : List Nat) (d : Nat) :
    ofDigits (ds ++ [d]) = ofDigits ds * 10 + d := by
  rw [ofDigits, List.reverse_append, List.reverse_singleton, List.singleton_append,
    Nat.ofDigits_cons, ofDigits, add_comm, mul_comm]

theorem ofDigits_append (as bs : List Nat) :
    ofDigits (as ++ bs) = ofDigits as * 10 ^ bs.length + ofDigits bs := by
  rw [ofDigits, List.reverse_append, Nat.ofDigits_append, List.length_reverse, add_comm, mul_comm,
    ofDigits, ofDigits]

theorem ofDigits_cons (d : Nat) (ds : List Nat) :
    ofDigits (d :: ds) = d * 10 ^ ds.length + ofDigits ds := by
  have hd : ofDigits [d] = d := by
    simp [ofDigits]
  rw [← List.singleton_append, ofDigits_append, hd]

/-- Reading one digit more onto a number. -/
theorem ofDigits_cons_onto (n d : Nat) (ds : List Nat) :
    n * 10 ^ (d :: ds).length + ofDigits (d :: ds) =
      (n * 10 + d) * 10 ^ ds.length + ofDigits ds := by
  rw [ofDigits_cons, List.length_cons, pow_succ]
  ring

theorem le_ofDigits_onto (n : Nat) (ds : List Nat) : n ≤ n * 10 ^ ds.length + ofDigits ds :=
  Nat.le_add_right_of_le (Nat.le_mul_of_pos_right n (by positivity))

@[simp]
theorem ofDigits_replicate_zero (k : Nat) : ofDigits (List.replicate k 0) = 0 := by
  rw [ofDigits, List.reverse_replicate, Nat.ofDigits_replicate_zero]

theorem ofDigits_lt {ds : List Nat} (hds : ∀ d ∈ ds, d < 10) : ofDigits ds < 10 ^ ds.length := by
  rw [ofDigits, ← List.length_reverse]
  exact Nat.ofDigits_lt_base_pow_length (by norm_num) fun d hd => hds d (List.mem_reverse.mp hd)

/-- Digits of one length are known from their number. -/
theorem eq_of_ofDigits_eq_of_length {as bs : List Nat} (has : ∀ d ∈ as, d < 10)
    (hbs : ∀ d ∈ bs, d < 10) (hlength : as.length = bs.length)
    (h : ofDigits as = ofDigits bs) : as = bs := by
  refine List.reverse_injective (Nat.ofDigits_inj_of_len_eq (b := 10) (by norm_num) ?_ ?_ ?_ h)
  · rw [List.length_reverse, List.length_reverse, hlength]
  · exact fun d hd => has d (List.mem_reverse.mp hd)
  · exact fun d hd => hbs d (List.mem_reverse.mp hd)

theorem Whole.head_pos {ds : List Nat} (h : Whole ds) (hne : ds ≠ [0]) :
    10 ^ (ds.length - 1) ≤ ofDigits ds := by
  obtain ⟨d, ds, rfl⟩ := List.exists_cons_of_ne_nil h.ne_nil
  have hd : d ≠ 0 := by
    rintro rfl
    exact hne (h.leading_zero rfl)
  rw [ofDigits_cons, List.length_cons, Nat.add_sub_cancel]
  exact Nat.le_add_right_of_le (Nat.le_mul_of_pos_left _ (Nat.pos_of_ne_zero hd))

theorem Whole.ofDigits_eq_zero_iff {ds : List Nat} (h : Whole ds) : ofDigits ds = 0 ↔ ds = [0] := by
  constructor
  · intro hzero
    by_contra hne
    have hpos := h.head_pos hne
    rw [hzero] at hpos
    exact absurd hpos (by simp)
  · rintro rfl
    rfl

/-- Digits that are written for an integer are known from it. -/
theorem Whole.eq_of_ofDigits_eq {as bs : List Nat} (has : Whole as) (hbs : Whole bs)
    (h : ofDigits as = ofDigits bs) : as = bs := by
  by_cases hzero : as = [0]
  · have hb := hbs.ofDigits_eq_zero_iff.mp (h.symm.trans (has.ofDigits_eq_zero_iff.mpr hzero))
    rw [hzero, hb]
  have hzero' : bs ≠ [0] := by
    intro hb
    exact hzero (has.ofDigits_eq_zero_iff.mp (h.trans (hbs.ofDigits_eq_zero_iff.mpr hb)))
  have hlength {ds ds' : List Nat} (hds : Whole ds) (hds' : Whole ds') (hne : ds ≠ [0])
      (heq : ofDigits ds = ofDigits ds') : ds.length ≤ ds'.length := by
    have hlow := hds.head_pos hne
    have hhigh := ofDigits_lt hds'.lt
    have := (Nat.pow_lt_pow_iff_right (by norm_num : 1 < 10)).mp (hlow.trans_lt (heq ▸ hhigh))
    omega
  exact eq_of_ofDigits_eq_of_length has.lt hbs.lt
    (le_antisymm (hlength has hbs hzero h) (hlength hbs has hzero' h.symm)) h

/-- A natural number is written with digits that are written for an integer. -/
theorem exists_whole (n : Nat) : ∃ ds, Whole ds ∧ ofDigits ds = n ∧
    Nat.toDigits 10 n = ds.map Nat.digitChar := by
  induction n using Nat.strong_induction_on with
  | _ n ih =>
    by_cases hn : n < 10
    · refine ⟨[n], ⟨by simp, by simpa using hn, by simp⟩, by simp [ofDigits], ?_⟩
      exact Nat.toDigits_of_lt_base hn
    · obtain ⟨ds, hds, hvalue, hdigits⟩ := ih (n / 10) (by omega)
      have hne : ds ≠ [0] := by
        intro hzero
        rw [hds.ofDigits_eq_zero_iff.mpr hzero] at hvalue
        omega
      refine ⟨ds ++ [n % 10], ⟨by simp, ?_, fun hhead => ?_⟩, ?_, ?_⟩
      · rw [List.forall_mem_append]
        exact ⟨hds.lt, by simpa using Nat.mod_lt n (by norm_num)⟩
      · rw [List.head?_append_of_ne_nil _ hds.ne_nil] at hhead
        exact absurd (hds.leading_zero hhead) hne
      · rw [ofDigits_append_singleton, hvalue]
        omega
      · rw [Nat.toDigits_of_base_le (by norm_num) (not_lt.mp hn), hdigits, List.map_append]
        rfl

theorem Whole.toDigits {ds : List Nat} (h : Whole ds) :
    Nat.toDigits 10 (ofDigits ds) = ds.map Nat.digitChar := by
  obtain ⟨ds', hds', hvalue, hdigits⟩ := exists_whole (ofDigits ds)
  rw [hdigits, hds'.eq_of_ofDigits_eq h hvalue]

theorem bytes_digits {ds : List Nat} (hds : ∀ d ∈ ds, d < 10) :
    Utf8.bytes (String.ofList (ds.map Nat.digitChar)) = ds.map Json.digitByte := by
  have hchar : ∀ d < 10, String.utf8EncodeChar (Nat.digitChar d) = [Json.digitByte d] := by
    decide
  rw [Utf8.bytes, String.toList_ofList, Utf8.encode, List.flatMap_map]
  induction ds with
  | nil => rfl
  | cons d ds ih =>
    obtain ⟨hd, hds⟩ := List.forall_mem_cons.mp hds
    rw [List.flatMap_cons, ih hds, hchar d hd, List.map_cons, List.singleton_append]

theorem accumulate_eq {ds : List Nat} : ∀ {n : Nat},
    n * 10 ^ ds.length + ofDigits ds < 1 <<< 64 →
      accumulate n ds = (n * 10 ^ ds.length + ofDigits ds, []) := by
  induction ds with
  | nil =>
    intro n _
    simp [accumulate]
  | cons d ds ih =>
    intro n h
    rw [ofDigits_cons_onto] at h ⊢
    have hfits := (le_ofDigits_onto (n * 10 + d) ds).trans_lt h
    rw [accumulate, if_pos hfits, ih h]

/-- Digits that leave nothing over make a number of 64 bits. -/
theorem lt_of_accumulate {ds : List Nat} : ∀ {n : Nat}, n < 1 <<< 64 →
    (accumulate n ds).2 = [] → n * 10 ^ ds.length + ofDigits ds < 1 <<< 64 := by
  induction ds with
  | nil =>
    intro n hn _
    simpa using hn
  | cons d ds ih =>
    intro n _ h
    rw [accumulate] at h
    rw [ofDigits_cons_onto]
    split at h
    next hfits => exact ih hfits h
    next => cases h

theorem exponentValue_eq {ds : List Nat} : ∀ {n seen : Nat},
    n * 10 ^ ds.length + ofDigits ds < 1 <<< 31 →
      exponentValue n seen ds = .ok (n * 10 ^ ds.length + ofDigits ds) := by
  induction ds with
  | nil =>
    intro n _ _
    simp [exponentValue]
  | cons d ds ih =>
    intro n seen h
    rw [ofDigits_cons_onto] at h ⊢
    have hfits := (le_ofDigits_onto (n * 10 + d) ds).trans_lt h
    rw [exponentValue, if_pos (.inr hfits), ih h]

end SeedArchive.Numeral
