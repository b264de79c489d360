import SeedArchive.Proofs.Number.Rounding

namespace SeedArchive.Decimal

open Binary64

/-- The number as a fraction. -/
def toRat (d : Decimal) : ℚ :=
  d.digits * 10 ^ d.scale

theorem ten_zpow_pos (p : Int) : (0 : ℚ) < 10 ^ p :=
  zpow_pos (by norm_num) p

/-- A number of a grid is one of every finer grid. -/
theorem mul_ten_zpow_add (n k : Nat) (p : Int) :
    (n * 10 ^ (p + k) : ℚ) = (n * 10 ^ k : Nat) * 10 ^ p := by
  rw [zpow_add₀ (by norm_num), zpow_natCast]
  push_cast
  ring

theorem fraction_pos (a : Nat) (k p : Int) : 0 < (fraction a k p).2 := by
  have htwo : 0 < (shiftFraction a 1 k).2 := shiftFraction_pos one_pos k
  unfold fraction
  dsimp only
  split
  · exact htwo
  · exact Nat.mul_pos htwo (Nat.pow_pos (by norm_num))

theorem fraction_eq (a : Nat) (k p : Int) :
    ((fraction a k p).1 : ℚ) / (fraction a k p).2 = a * 2 ^ k * 10 ^ p := by
  have htwo := shiftFraction_eq a 1 k
  rw [Nat.cast_one, div_one] at htwo
  unfold fraction
  dsimp only
  rw [Nat.pow_eq, Nat.pow_eq]
  split
  next hp =>
    obtain ⟨n, rfl⟩ := Int.eq_ofNat_of_zero_le hp
    push_cast
    rw [Int.toNat_natCast, zpow_natCast, ← htwo, div_mul_eq_mul_div]
  next hp =>
    obtain ⟨n, rfl⟩ : ∃ n : Nat, p = -n := ⟨(-p).toNat, by omega⟩
    push_cast
    rw [neg_neg, Int.toNat_natCast, zpow_neg, zpow_natCast, ← htwo, div_mul_eq_div_div,
      div_eq_mul_inv _ (_ ^ n)]

/-- Comparing with a fraction is comparing with the number, on a grid of powers of ten. -/
theorem fraction_le_iff (a : Nat) (k p : Int) (c : Nat) :
    (fraction a k (-p)).1 ≤ c * (fraction a k (-p)).2 ↔ (a * 2 ^ k : ℚ) ≤ c * 10 ^ p := by
  have hpos : (0 : ℚ) < (fraction a k (-p)).2 := by exact_mod_cast fraction_pos a k (-p)
  have heq := fraction_eq a k (-p)
  rw [zpow_neg, ← div_eq_mul_inv] at heq
  rw [← div_le_iff₀ (ten_zpow_pos p), ← heq, div_le_iff₀ hpos]
  exact_mod_cast Iff.rfl

theorem le_fraction_iff (a : Nat) (k p : Int) (c : Nat) :
    c * (fraction a k (-p)).2 ≤ (fraction a k (-p)).1 ↔ (c * 10 ^ p : ℚ) ≤ a * 2 ^ k := by
  have hpos : (0 : ℚ) < (fraction a k (-p)).2 := by exact_mod_cast fraction_pos a k (-p)
  have heq := fraction_eq a k (-p)
  rw [zpow_neg, ← div_eq_mul_inv] at heq
  rw [← le_div_iff₀ (ten_zpow_pos p), ← heq, le_div_iff₀ hpos]
  exact_mod_cast Iff.rfl

theorem reads_iff (x : Binary64) (c : Nat) (p : Int) :
    reads x c p = true ↔ x.Takes (c * 10 ^ p) := by
  unfold reads Takes
  dsimp only
  split
  · rw [Bool.and_eq_true, decide_eq_true_iff, decide_eq_true_iff, fraction_le_iff, le_fraction_iff]
  · rw [Bool.and_eq_true, decide_eq_true_iff, decide_eq_true_iff, ← not_le, ← not_le,
      le_fraction_iff, fraction_le_iff, not_le, not_le]

theorem takes_of_onGrid {x : Binary64} {p : Int} {c : Nat} (h : onGrid x p = some c) :
    x.Takes (c * 10 ^ p) := by
  rw [← reads_iff]
  unfold onGrid at h
  dsimp only at h
  split at h
  next hdown hup =>
    cases h
    obtain heq | heq := divNearest_cases (fraction x.mantissa x.exponent (-p)).1
      (fraction x.mantissa x.exponent (-p)).2
    · rw [heq, hdown]
    · rw [heq, hup]
  next hdown hup =>
    cases h
    exact hdown
  next hdown hup =>
    cases h
    exact hup
  next => cases h

/-- A number of the grid that is taken and is not a whole step away makes the grid one that has
one. -/
theorem exists_onGrid {x : Binary64} {p : Int} {d : Nat} (h : x.Takes (d * 10 ^ p))
    (hnear : |d * 10 ^ p - x.toRat| < 10 ^ p) : ∃ c, onGrid x p = some c := by
  rw [← reads_iff] at h
  rw [abs_lt] at hnear
  obtain ⟨hlow, hhigh⟩ := hnear
  have hpos := fraction_pos x.mantissa x.exponent (-p)
  have hle := le_fraction_iff x.mantissa x.exponent p
  unfold onGrid
  dsimp only
  generalize fraction x.mantissa x.exponent (-p) = f at hpos hle
  have hdown : f.1 / f.2 < d + 1 := by
    rw [Nat.div_lt_iff_lt_mul hpos, ← not_le, hle, not_le]
    push_cast
    rw [Binary64.toRat] at hlow
    linarith
  have hup : d < f.1 / f.2 + 2 := by
    by_contra hfar
    have hcast : (f.1 / f.2 : Nat) + 2 ≤ (d : ℚ) := by exact_mod_cast not_lt.mp hfar
    have hstep : (f.1 / f.2 + 1) * f.2 ≤ f.1 := by
      rw [hle]
      push_cast
      have := mul_le_mul_of_nonneg_right hcast (ten_zpow_pos p).le
      rw [Binary64.toRat] at hhigh
      linarith
    have := (Nat.le_div_iff_mul_le hpos).mpr hstep
    omega
  obtain heq | heq : d = f.1 / f.2 ∨ d = f.1 / f.2 + 1 := by omega
  · rw [heq] at h
    rw [h]
    cases reads x (f.1 / f.2 + 1) p <;> exact ⟨_, rfl⟩
  · rw [heq] at h
    rw [h]
    cases reads x (f.1 / f.2) p <;> exact ⟨_, rfl⟩

/-- Two numbers of a grid that are not a whole step apart are one. -/
theorem eq_of_abs_sub_lt {a b : Nat} {p : Int}
    (h : |(a * 10 ^ p - b * 10 ^ p : ℚ)| < 10 ^ p) : a = b := by
  have hp := ten_zpow_pos p
  rw [← sub_mul, abs_mul, abs_of_pos hp, mul_lt_iff_lt_one_left hp, abs_lt] at h
  have hlow : (b : ℚ) < a + 1 := by linarith [h.1]
  have hhigh : (a : ℚ) < b + 1 := by linarith [h.2]
  have hlow' : b < a + 1 := by exact_mod_cast hlow
  have hhigh' : a < b + 1 := by exact_mod_cast hhigh
  omega

section Search

variable {x : Binary64} {t : Nat} {q : Int}

/-- A number of a grid coarser than a unit of the last place is found on no grid but as itself. -/
theorem eq_of_onGrid (hfull : x.Full) (h : x.Takes (t * 10 ^ q)) {p : Int} {c : Nat}
    (hunit : (2 : ℚ) ^ x.exponent < 10 ^ min p q) (hc : onGrid x p = some c) :
    (c * 10 ^ p : ℚ) = t * 10 ^ q := by
  have hnear := h.abs_sub_le hfull
  have hnear' := (takes_of_onGrid hc).abs_sub_le hfull
  have hdist : |(c * 10 ^ p - t * 10 ^ q : ℚ)| < 10 ^ min p q := by
    refine lt_of_le_of_lt ?_ hunit
    have := abs_sub_le (c * 10 ^ p : ℚ) x.toRat (t * 10 ^ q)
    rw [abs_sub_comm x.toRat] at this
    rw [two_zpow_half]
    linarith
  -- both are numbers of the finer one of the two grids
  obtain ⟨i, hi⟩ : ∃ i : Nat, p = min p q + i := ⟨(p - min p q).toNat, by omega⟩
  obtain ⟨j, hj⟩ : ∃ j : Nat, q = min p q + j := ⟨(q - min p q).toNat, by omega⟩
  generalize min p q = r at hi hj hdist
  rw [hi, hj, mul_ten_zpow_add, mul_ten_zpow_add] at hdist ⊢
  rw [eq_of_abs_sub_lt hdist]

theorem exists_onGrid_of_le (hfull : x.Full) (h : x.Takes (t * 10 ^ q)) {p : Int} (hp : p ≤ q)
    (hunit : (2 : ℚ) ^ x.exponent < 10 ^ p) : ∃ c, onGrid x p = some c := by
  have hnear := h.abs_sub_le hfull
  obtain ⟨j, rfl⟩ : ∃ j : Nat, q = p + j := ⟨(q - p).toNat, by omega⟩
  rw [mul_ten_zpow_add] at h hnear
  refine exists_onGrid h (lt_of_le_of_lt hnear (lt_of_le_of_lt ?_ hunit))
  exact zpow_le_zpow_right₀ one_le_two (by omega)

/-- The search stops at the first grid that has the number that was rounded. -/
theorem search_eq (hfull : x.Full) (h : x.Takes (t * 10 ^ q)) :
    ∀ {fuel : Nat} {p : Int}, (2 : ℚ) ^ x.exponent < 10 ^ min p q → p - q < fuel → 0 < fuel →
      (search x p fuel).toRat = t * 10 ^ q := by
  intro fuel
  induction fuel with
  | zero => exact fun _ _ hpos => absurd hpos (lt_irrefl 0)
  | succ fuel ih =>
    intro p hunit hfuel _
    rw [search]
    cases hgrid : onGrid x p with
    | some c => exact eq_of_onGrid hfull h hunit hgrid
    | none =>
      have hlt : q < p := by
        by_contra hge
        rw [min_eq_left (not_lt.mp hge)] at hunit
        obtain ⟨c, hc⟩ := exists_onGrid_of_le hfull h (not_lt.mp hge) hunit
        rw [hc] at hgrid
        cases hgrid
      rw [min_eq_right hlt.le] at hunit
      push_cast at hfuel
      exact ih (by rw [min_eq_right (by omega)]; exact hunit) (by omega) (by omega)

end Search

/-- The estimate of a decimal logarithm is at most one off in the range of the format. -/
theorem estimate_near {l : Int} (hlow : -1074 ≤ l) (hhigh : l ≤ 1023) :
    (10 : ℚ) ^ (l * 30103 / 100000 - 1) ≤ 2 ^ l ∧
      (2 : ℚ) ^ (l + 1) ≤ 10 ^ (l * 30103 / 100000 + 2) := by
  have htable : ∀ i : Nat, i < 2098 →
      10 ^ ((i - 1074 : Int) * 30103 / 100000 + 324).toNat * 2 ^ 1074 ≤ 2 ^ i * 10 ^ 325 ∧
        2 ^ (i + 1) * 10 ^ 325 ≤
          10 ^ ((i - 1074 : Int) * 30103 / 100000 + 327).toNat * 2 ^ 1074 := by
    decide +kernel
  obtain ⟨i, rfl⟩ : ∃ i : Nat, l = i - 1074 := ⟨(l + 1074).toNat, by omega⟩
  obtain ⟨hle, hle'⟩ := htable i (by omega)
  have hplace : -324 ≤ (i - 1074 : Int) * 30103 / 100000 := by omega
  generalize (i - 1074 : Int) * 30103 / 100000 = p at hle hle' hplace
  obtain ⟨j, rfl⟩ : ∃ j : Nat, p = j - 324 := ⟨(p + 324).toNat, by omega⟩
  rw [sub_add_cancel, Int.toNat_natCast] at hle
  rw [show (j - 324 + 327 : Int) = (j + 3 : Nat) by push_cast; ring, Int.toNat_natCast] at hle'
  have hle : (10 ^ j * 2 ^ 1074 : ℚ) ≤ 2 ^ i * 10 ^ 325 := by exact_mod_cast hle
  have hle' : (2 ^ (i + 1) * 10 ^ 325 : ℚ) ≤ 10 ^ (j + 3) * 2 ^ 1074 := by exact_mod_cast hle'
  constructor
  · rw [show (j - 324 - 1 : Int) = j - (325 : Nat) by push_cast; ring,
      show (i - 1074 : Int) = i - (1074 : Nat) by rfl, zpow_sub₀ (by norm_num),
      zpow_sub₀ (by norm_num), zpow_natCast, zpow_natCast, zpow_natCast, zpow_natCast,
      div_le_div_iff₀ (by positivity) (by positivity)]
    exact hle
  · rw [show (j - 324 + 2 : Int) = (j + 3 : Nat) - (325 : Nat) by push_cast; ring,
      show (i - 1074 + 1 : Int) = (i + 1 : Nat) - (1074 : Nat) by push_cast; ring,
      zpow_sub₀ (by norm_num), zpow_sub₀ (by norm_num), zpow_natCast, zpow_natCast, zpow_natCast,
      zpow_natCast, div_le_div_iff₀ (by positivity) (by positivity)]
    exact hle'

theorem leadingPlace_spec {x : Binary64} (hnormal : x.Normal) (hpos : 0 < x.mantissa) :
    (10 : ℚ) ^ leadingPlace x.mantissa x.exponent ≤ x.toRat ∧
      x.toRat < 10 ^ (leadingPlace x.mantissa x.exponent + 1) := by
  obtain ⟨hm, hlow, hhigh, -⟩ := hnormal
  have hlog : 2 ^ x.mantissa.log2 ≤ x.mantissa := Nat.log2_self_le hpos.ne'
  have hlog' : x.mantissa < 2 ^ (x.mantissa.log2 + 1) := Nat.lt_log2_self
  have hbits : x.mantissa.log2 < 53 :=
    (Nat.pow_lt_pow_iff_right (by norm_num : 1 < 2)).mp (hlog.trans_lt hm)
  obtain ⟨hbelow, habove⟩ := estimate_near (l := x.exponent + x.mantissa.log2) (by omega) (by omega)
  have hreaches (p : Int) : (fraction x.mantissa x.exponent (-p)).2 ≤
      (fraction x.mantissa x.exponent (-p)).1 ↔ (10 : ℚ) ^ p ≤ x.toRat := by
    have h := le_fraction_iff x.mantissa x.exponent p 1
    rw [one_mul, Nat.cast_one, one_mul] at h
    exact h
  have hunit := two_zpow_pos x.exponent
  have hle : (2 : ℚ) ^ (x.exponent + x.mantissa.log2) ≤ x.toRat := by
    have hlog : (2 ^ x.mantissa.log2 : ℚ) ≤ x.mantissa := by exact_mod_cast hlog
    rw [zpow_add₀ two_ne_zero, mul_comm, zpow_natCast, Binary64.toRat]
    gcongr
  have hlt : x.toRat < 2 ^ (x.exponent + x.mantissa.log2 + 1) := by
    have hlog' : (x.mantissa : ℚ) < 2 ^ (x.mantissa.log2 + 1) := by exact_mod_cast hlog'
    rw [add_assoc, zpow_add₀ two_ne_zero, mul_comm, Binary64.toRat]
    gcongr
    exact_mod_cast hlog'
  unfold leadingPlace
  dsimp only
  simp only [decide_eq_true_iff, hreaches]
  generalize (x.exponent + x.mantissa.log2) * 30103 / 100000 = p at hbelow habove
  split
  next hup =>
    refine ⟨hup, ?_⟩
    rw [show p + 1 + 1 = p + 2 by ring]
    exact hlt.trans_le habove
  next hup =>
    split
    next hmid => exact ⟨hmid, not_le.mp hup⟩
    next hmid =>
      rw [sub_add_cancel]
      exact ⟨hbelow.trans hle, not_le.mp hmid⟩

/-- No grid that is tried is so fine that the number has more than seventeen digits on it. -/
theorem search_digits {x : Binary64} (hpos : 0 < x.mantissa) {start : Int}
    (hstart : x.toRat < 10 ^ (start + 1)) :
    ∀ {fuel : Nat} {p : Int}, start - p + fuel ≤ 17 →
      (search x p fuel).digits < 10 ^ 20 ∧
        ((search x p fuel).digits = 0 → search x p fuel = ⟨0, 0⟩) := by
  intro fuel
  induction fuel with
  | zero => exact fun _ => ⟨(by norm_num : 0 < 10 ^ 20), fun _ => rfl⟩
  | succ fuel ih =>
    intro p hp
    rw [search]
    cases hgrid : onGrid x p with
    | none => exact ih (by push_cast at hp ⊢; omega)
    | some c =>
      obtain ⟨hlow, hhigh⟩ := (takes_of_onGrid hgrid).bounds hpos
      have hten := ten_zpow_pos p
      have hfine : (10 : ℚ) ^ (start + 1) ≤ 10 ^ (17 : Int) * 10 ^ p := by
        rw [← zpow_add₀ (by norm_num)]
        exact zpow_le_zpow_right₀ (by norm_num) (by push_cast at hp; omega)
      have hlt : (c : ℚ) * 10 ^ p < 10 ^ 20 * 10 ^ p := by
        norm_num at hfine ⊢
        linarith
      have hc : (c : ℚ) < 10 ^ 20 := lt_of_mul_lt_mul_right hlt hten.le
      refine ⟨by exact_mod_cast hc, fun hzero => ?_⟩
      rw [show c = 0 from hzero, Nat.cast_zero, zero_mul] at hlow
      exact absurd hlow (lt_irrefl 0)

theorem shortest_digits {x : Binary64} (hnormal : x.Normal) :
    (shortest x).digits < 10 ^ 20 ∧ ((shortest x).digits = 0 → shortest x = ⟨0, 0⟩) := by
  rw [shortest]
  split
  next => exact ⟨by decide, fun _ => rfl⟩
  next hzero =>
    have hpos := Nat.pos_of_ne_zero hzero
    exact search_digits hpos (leadingPlace_spec hnormal hpos).2 (by push_cast; omega)

section Rounded

variable {x : Binary64} (hnormal : x.Normal) (hfull : x.Full)

include hnormal hfull

variable {s : Nat} (hs : s < 10 ^ 15) {p : Int} (h : x.Takes (s * 10 ^ p))

include hs h

/-- The number is printed from at most fifteen places above the last one that was given. -/
theorem leadingPlace_near :
    let start := leadingPlace x.mantissa x.exponent
    (2 : ℚ) ^ x.exponent < 10 ^ (start - 14) ∧ start - 14 ≤ p := by
  have hten := ten_zpow_pos p
  have hs' : (s : ℚ) ≤ 10 ^ 15 - 1 := by
    have : (s + 1 : ℚ) ≤ 10 ^ 15 := by exact_mod_cast hs
    linarith
  obtain ⟨hstart, hstart'⟩ := leadingPlace_spec hnormal hfull.mantissa_pos
  have hle := hfull.two_zpow_le
  have hnear := (abs_le.mp (h.abs_sub_le hfull)).1
  have hhalf := two_zpow_half x.exponent
  dsimp only
  generalize leadingPlace x.mantissa x.exponent = start at hstart hstart'
  have hsplit : (10 : ℚ) ^ (start + 1) = 10 ^ 15 * 10 ^ (start - 14) := by
    rw [← zpow_natCast, ← zpow_add₀ (by norm_num)]
    congr 1
    push_cast
    ring
  rw [hsplit] at hstart'
  constructor
  · norm_num at hle hstart' ⊢
    linarith [two_zpow_pos x.exponent]
  · by_contra hless
    -- fifteen digits would fall short of the leading place by more than rounding adds
    have hcarry : (10 : ℚ) ^ 15 * 10 ^ p ≤ 10 ^ start := by
      rw [← zpow_natCast, ← zpow_add₀ (by norm_num)]
      exact zpow_le_zpow_right₀ (by norm_num) (by push_cast; omega)
    have hv := mul_le_mul_of_nonneg_right hs' hten.le
    norm_num at hle hcarry hv
    linarith

/-- The decimal that is printed is the one that was rounded. -/
theorem toRat_shortest : (shortest x).toRat = s * 10 ^ p := by
  obtain ⟨hunit, hplace⟩ := leadingPlace_near hnormal hfull hs h
  rw [shortest, if_neg hfull.mantissa_pos.ne']
  generalize leadingPlace x.mantissa x.exponent = start at hunit hplace
  have hfine : (10 : ℚ) ^ (start - 14) ≤ 10 ^ min start p :=
    zpow_le_zpow_right₀ (by norm_num) (le_min (by omega) hplace)
  exact search_eq hfull h (hunit.trans_le hfine) (by omega : start - p < (17 : Nat)) (by norm_num)

end Rounded

/-- A decimal without a zero at its end. -/
def Stripped (d : Decimal) : Prop :=
  d.digits % 10 ≠ 0

theorem Stripped.toRat_pos {d : Decimal} (h : d.Stripped) : 0 < d.toRat := by
  have hpos : 0 < d.digits := Nat.pos_of_ne_zero fun hzero => h (by rw [hzero])
  exact mul_pos (by exact_mod_cast hpos) (ten_zpow_pos d.scale)

theorem digits_pos_of_toRat_pos {d : Decimal} (h : 0 < d.toRat) : 0 < d.digits := by
  refine Nat.pos_of_ne_zero fun hzero => ?_
  rw [toRat, hzero, Nat.cast_zero, zero_mul] at h
  exact lt_irrefl 0 h

theorem Stripped.strip_eq {d : Decimal} (h : d.Stripped) (fuel : Nat) : d.strip fuel = d := by
  cases fuel with
  | zero => rfl
  | succ fuel => rw [strip, if_neg fun hzero => h hzero.1]

theorem toRat_strip (fuel : Nat) : ∀ d : Decimal, (d.strip fuel).toRat = d.toRat := by
  induction fuel with
  | zero => exact fun _ => rfl
  | succ fuel ih =>
    intro d
    rw [strip]
    split
    next hzero =>
      have hsplit : d.digits = d.digits / 10 * 10 := by omega
      have hsplit' : (d.digits : ℚ) = (d.digits / 10 : Nat) * 10 := by exact_mod_cast hsplit
      rw [ih, toRat, toRat, hsplit', zpow_add₀ (by norm_num), zpow_one]
      ring
    next => rfl

theorem strip_stripped {fuel : Nat} : ∀ {d : Decimal}, 0 < d.digits → d.digits < 10 ^ fuel →
    (d.strip fuel).Stripped := by
  induction fuel with
  | zero =>
    intro d hpos hlt
    omega
  | succ fuel ih =>
    intro d hpos hlt
    rw [strip]
    split
    next hzero =>
      refine ih (d := ⟨d.digits / 10, d.scale + 1⟩) ?_ ?_
      · show 0 < d.digits / 10
        omega
      · show d.digits / 10 < 10 ^ fuel
        rw [Nat.pow_succ] at hlt
        omega
    next hlast => exact fun hzero => hlast ⟨hzero, hpos.ne'⟩

/-- A decimal without a zero at its end has the largest scale of those with its value. -/
theorem Stripped.scale_le {d d' : Decimal} (h : d.Stripped) (heq : d.toRat = d'.toRat) :
    d'.scale ≤ d.scale := by
  by_contra hlt
  obtain ⟨k, hk⟩ : ∃ k : Nat, d'.scale = d.scale + (k + 1 : Nat) :=
    ⟨(d'.scale - d.scale - 1).toNat, by omega⟩
  rw [toRat, toRat, hk, zpow_add₀ (by norm_num), zpow_natCast, mul_comm (_ ^ d.scale),
    ← mul_assoc] at heq
  have hdigits := mul_right_cancel₀ (ten_zpow_pos d.scale).ne' heq
  have hdigits' : d.digits = d'.digits * 10 ^ (k + 1) := by exact_mod_cast hdigits
  apply h
  rw [hdigits', Nat.pow_succ, ← Nat.mul_assoc]
  exact Nat.mul_mod_left _ _

theorem Stripped.eq_of_toRat_eq {d d' : Decimal} (h : d.Stripped) (h' : d'.Stripped)
    (heq : d.toRat = d'.toRat) : d = d' := by
  have hscale : d.scale = d'.scale := le_antisymm (h'.scale_le heq.symm) (h.scale_le heq)
  obtain ⟨digits, scale⟩ := d
  obtain ⟨digits', scale'⟩ := d'
  dsimp only at hscale
  subst hscale
  have hdigits := mul_right_cancel₀ (ten_zpow_pos scale).ne' heq
  have hdigits' : digits = digits' := by exact_mod_cast hdigits
  rw [hdigits']

/-- A positive decimal of at most twenty digits is printed as the one of its value that has no zero
at its end. -/
theorem text_eq_of_toRat_eq {d d' : Decimal} (hlt : d.digits < 10 ^ 20) (h' : d'.Stripped)
    (heq : d.toRat = d'.toRat) : d.text = d'.text := by
  have hpos : 0 < d.digits := digits_pos_of_toRat_pos (heq ▸ h'.toRat_pos)
  have hstrip : d.strip 20 = d'.strip 20 := by
    rw [h'.strip_eq]
    exact (strip_stripped hpos hlt).eq_of_toRat_eq h' (by rw [toRat_strip, heq])
  rw [text, text, hstrip]

end SeedArchive.Decimal
