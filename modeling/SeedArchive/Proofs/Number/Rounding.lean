import Mathlib
import SeedArchive.Number.Numeral

namespace SeedArchive.Binary64

/-- The number as a fraction. -/
def toRat (x : Binary64) : ℚ :=
  x.mantissa * 2 ^ x.exponent

/-- The mantissa has 53 bits. -/
structure Full (x : Binary64) : Prop where
  le_mantissa : 2 ^ 52 ≤ x.mantissa
  mantissa_lt : x.mantissa < 2 ^ 53

/-- The numbers that round to `x`: the bounds belong to it if its mantissa is even. -/
def Takes (x : Binary64) (v : ℚ) : Prop :=
  let unit : ℚ := 2 ^ (x.exponent - 2)
  let bounds := Decimal.roundingBounds x
  if x.mantissa % 2 = 0 then bounds.1 * unit ≤ v ∧ v ≤ bounds.2 * unit
  else bounds.1 * unit < v ∧ v < bounds.2 * unit

theorem two_zpow_pos (k : Int) : (0 : ℚ) < 2 ^ k :=
  zpow_pos two_pos k

theorem two_zpow_half (e : Int) : (2 : ℚ) ^ e = 2 * 2 ^ (e - 1) := by
  rw [zpow_sub₀ two_ne_zero]
  ring

theorem two_zpow_quarter (e : Int) : (2 : ℚ) ^ e = 4 * 2 ^ (e - 2) := by
  rw [two_zpow_half e, two_zpow_half (e - 1), show e - 1 - 1 = e - 2 by ring]
  ring

/-- What is taken lies within half a unit of the last place. -/
theorem Takes.abs_sub_le {x : Binary64} (hfull : x.Full) {v : ℚ} (h : x.Takes v) :
    |v - x.toRat| ≤ 2 ^ (x.exponent - 1) := by
  obtain ⟨hm, -⟩ := hfull
  have hu := two_zpow_pos (x.exponent - 2)
  have hhalf : (2 : ℚ) ^ (x.exponent - 1) = 2 * 2 ^ (x.exponent - 2) := by
    rw [two_zpow_half, show x.exponent - 1 - 1 = x.exponent - 2 by ring]
  have hlow : (4 * x.mantissa - 2 : ℚ) ≤ (Decimal.roundingBounds x).1 := by
    rw [Decimal.roundingBounds]
    split
    · rw [Nat.cast_sub (by omega)]
      push_cast
      linarith
    · rw [Nat.cast_sub (by omega)]
      push_cast
      exact le_rfl
  have hhigh : ((Decimal.roundingBounds x).2 : ℚ) = 4 * x.mantissa + 2 := by
    rw [Decimal.roundingBounds]
    push_cast
    rfl
  have hbounds : ((Decimal.roundingBounds x).1 * 2 ^ (x.exponent - 2) : ℚ) ≤ v ∧
      v ≤ (Decimal.roundingBounds x).2 * 2 ^ (x.exponent - 2) := by
    rw [Takes] at h
    split at h
    · exact h
    · exact ⟨h.1.le, h.2.le⟩
  have hlow' := mul_le_mul_of_nonneg_right hlow hu.le
  rw [hhigh] at hbounds
  rw [toRat, two_zpow_quarter x.exponent, hhalf, abs_le]
  constructor <;> linarith [hbounds.1, hbounds.2]

/-- What is taken is not far from the number, however few bits it has. -/
theorem Takes.bounds {x : Binary64} (hpos : 0 < x.mantissa) {v : ℚ} (h : x.Takes v) :
    0 < v ∧ v ≤ 2 * x.toRat := by
  have hu := two_zpow_pos (x.exponent - 2)
  have hlow : 0 < (Decimal.roundingBounds x).1 := by
    unfold Decimal.roundingBounds
    split <;> omega
  have hlow' : (0 : ℚ) < (Decimal.roundingBounds x).1 * 2 ^ (x.exponent - 2) :=
    mul_pos (by exact_mod_cast hlow) hu
  have hhigh : (Decimal.roundingBounds x).2 * (2 : ℚ) ^ (x.exponent - 2) ≤ 2 * x.toRat := by
    have hbound : ((Decimal.roundingBounds x).2 : ℚ) ≤ 2 * x.mantissa * 4 := by
      have : (Decimal.roundingBounds x).2 ≤ 2 * x.mantissa * 4 := by
        show 4 * x.mantissa + 2 ≤ _
        omega
      exact_mod_cast this
    rw [toRat, two_zpow_quarter x.exponent]
    calc (Decimal.roundingBounds x).2 * (2 : ℚ) ^ (x.exponent - 2)
        ≤ 2 * x.mantissa * 4 * 2 ^ (x.exponent - 2) := by gcongr
      _ = 2 * (x.mantissa * (4 * 2 ^ (x.exponent - 2))) := by ring
  unfold Takes at h
  dsimp only at h
  split at h
  · exact ⟨hlow'.trans_le h.1, h.2.trans hhigh⟩
  · exact ⟨hlow'.trans h.1, h.2.le.trans hhigh⟩

theorem Full.two_zpow_le {x : Binary64} (hfull : x.Full) :
    (2 : ℚ) ^ 52 * 2 ^ x.exponent ≤ x.toRat := by
  have hm : (2 ^ 52 : ℚ) ≤ x.mantissa := by exact_mod_cast hfull.le_mantissa
  have := two_zpow_pos x.exponent
  rw [toRat]
  gcongr

theorem Full.mantissa_pos {x : Binary64} (hfull : x.Full) : 0 < x.mantissa :=
  lt_of_lt_of_le (by norm_num) hfull.le_mantissa

theorem divNearest_cases (a b : Nat) : divNearest a b = a / b ∨ divNearest a b = a / b + 1 := by
  unfold divNearest
  dsimp only
  split
  · exact .inr rfl
  · exact .inl rfl

theorem shiftFraction_pos {a b : Nat} (hb : 0 < b) (k : Int) : 0 < (shiftFraction a b k).2 := by
  unfold shiftFraction
  split
  · exact hb
  · rw [Nat.shiftLeft_eq]
    positivity

theorem shiftFraction_eq (a b : Nat) (k : Int) :
    ((shiftFraction a b k).1 : ℚ) / (shiftFraction a b k).2 = a / b * 2 ^ k := by
  unfold shiftFraction
  split
  next hk =>
    obtain ⟨n, rfl⟩ := Int.eq_ofNat_of_zero_le hk
    rw [Nat.shiftLeft_eq]
    push_cast
    rw [Int.toNat_natCast, zpow_natCast, div_mul_eq_mul_div]
  next hk =>
    obtain ⟨n, rfl⟩ : ∃ n : Nat, k = -n := ⟨(-k).toNat, by omega⟩
    rw [Nat.shiftLeft_eq]
    push_cast
    rw [neg_neg, Int.toNat_natCast, zpow_neg, zpow_natCast, div_mul_eq_div_div,
      div_eq_mul_inv _ (_ ^ n)]

theorem shiftFraction_mul (a b : Nat) (k e : Int) :
    ((shiftFraction a b (k - e)).1 / (shiftFraction a b (k - e)).2 : ℚ) * 2 ^ e =
      a / b * 2 ^ k := by
  rw [shiftFraction_eq, mul_assoc, ← zpow_add₀ two_ne_zero, sub_add_cancel]

theorem divNearest_tie {a b : Nat} (hb : 0 < b)
    (h : 2 * a = 2 * (divNearest a b * b) + b ∨ 2 * a + b = 2 * (divNearest a b * b)) :
    divNearest a b % 2 = 0 := by
  have hd : b * (a / b) + a % b = a := Nat.div_add_mod a b
  have hr : a % b < b := Nat.mod_lt a hb
  have hc : (a / b + 1) * b = b * (a / b) + b := by rw [Nat.add_mul, Nat.mul_comm, Nat.one_mul]
  have hq : a / b * b = b * (a / b) := Nat.mul_comm _ _
  simp only [divNearest] at h ⊢
  split at h
  next hup =>
    rw [if_pos hup]
    rw [hc] at h
    omega
  next hdown =>
    rw [if_neg hdown]
    rw [hq] at h
    omega

theorem divNearest_mul (c : Nat) {b : Nat} (hb : 0 < b) : divNearest (c * b) b = c := by
  simp [divNearest, Nat.mul_div_cancel c hb, hb.ne]

/-- The rounded quotient is at most a half away, and even if it is so far. -/
theorem divNearest_spec (a : Nat) {b : Nat} (hb : 0 < b) :
    let m := divNearest a b
    let w : ℚ := a / b
    m - 1 / 2 ≤ w ∧ w ≤ m + 1 / 2 ∧ (m % 2 = 1 → m - 1 / 2 < w ∧ w < m + 1 / 2) := by
  have hb' : (0 : ℚ) < b := by exact_mod_cast hb
  obtain ⟨hlow, hhigh⟩ := divNearest_bounds a hb
  have htie := divNearest_tie (a := a) hb
  dsimp only
  generalize divNearest a b = m at hlow hhigh htie
  have hlow' : (2 * (m * b) : ℚ) ≤ 2 * a + b := by exact_mod_cast hlow
  have hhigh' : (2 * a : ℚ) ≤ 2 * (m * b) + b := by exact_mod_cast hhigh
  refine ⟨?_, ?_, fun hodd => ⟨?_, ?_⟩⟩
  · rw [le_div_iff₀ hb']
    linarith
  · rw [div_le_iff₀ hb']
    linarith
  · have hne : (2 * a + b : ℚ) ≠ 2 * (m * b) := by
      intro heq
      have := htie (.inr (by exact_mod_cast heq))
      omega
    have hlt := lt_of_le_of_ne hlow' hne.symm
    rw [lt_div_iff₀ hb']
    linarith
  · have hne : (2 * a : ℚ) ≠ 2 * (m * b) + b := by
      intro heq
      have := htie (.inl (by exact_mod_cast heq))
      omega
    have hlt := lt_of_le_of_ne hhigh' hne
    rw [div_lt_iff₀ hb']
    linarith

theorem le_divNearest {a b n : Nat} (hb : 0 < b) (h : (n : ℚ) ≤ a / b) : n ≤ divNearest a b := by
  have hnear := (divNearest_spec a hb).2.1
  have hlt : (n : ℚ) < divNearest a b + 1 := by linarith
  have : n < divNearest a b + 1 := by exact_mod_cast hlt
  omega

theorem divNearest_le {a b n : Nat} (hb : 0 < b) (h : (a / b : ℚ) < n) : divNearest a b ≤ n := by
  have hnear := (divNearest_spec a hb).1
  have hlt : (divNearest a b : ℚ) < n + 1 := by linarith
  have : divNearest a b < n + 1 := by exact_mod_cast hlt
  omega

section Round

variable {a b : Nat} (ha : 0 < a) (hb : 0 < b) {k : Int}

include ha hb

theorem estimate_bounds (k : Int) :
    let e := k + a.log2 - b.log2 - 52
    (2 : ℚ) ^ (51 : Int) * 2 ^ e < a / b * 2 ^ k ∧
      a / b * 2 ^ k < (2 : ℚ) ^ (53 : Int) * 2 ^ e := by
  have hb' : (0 : ℚ) < b := by exact_mod_cast hb
  have hlow {n : Nat} (hn : 0 < n) : (2 : ℚ) ^ (n.log2 : Int) ≤ n := by
    rw [zpow_natCast]
    exact_mod_cast Nat.log2_self_le hn.ne'
  have hhigh (n : Nat) : (n : ℚ) < 2 ^ (n.log2 + 1 : Int) := by
    have h : (n : ℚ) < 2 ^ (n.log2 + 1) := by exact_mod_cast Nat.lt_log2_self
    exact_mod_cast h
  have hk := two_zpow_pos k
  dsimp only
  constructor
  · rw [div_mul_eq_mul_div, lt_div_iff₀ hb']
    calc (2 : ℚ) ^ (51 : Int) * 2 ^ (k + a.log2 - b.log2 - 52) * b
        < 2 ^ (51 : Int) * 2 ^ (k + a.log2 - b.log2 - 52) * 2 ^ (b.log2 + 1 : Int) := by
          have := hhigh b
          gcongr
      _ = 2 ^ (a.log2 : Int) * 2 ^ k := by
          rw [← zpow_add₀ two_ne_zero, ← zpow_add₀ two_ne_zero, ← zpow_add₀ two_ne_zero]
          congr 1
          ring
      _ ≤ a * 2 ^ k := by
          have := hlow ha
          gcongr
  · rw [div_mul_eq_mul_div, div_lt_iff₀ hb']
    calc (a : ℚ) * 2 ^ k < 2 ^ (a.log2 + 1 : Int) * 2 ^ k := by
          have := hhigh a
          gcongr
      _ = 2 ^ (53 : Int) * 2 ^ (k + a.log2 - b.log2 - 52) * 2 ^ (b.log2 : Int) := by
          rw [← zpow_add₀ two_ne_zero, ← zpow_add₀ two_ne_zero, ← zpow_add₀ two_ne_zero]
          congr 1
          ring
      _ ≤ 2 ^ (53 : Int) * 2 ^ (k + a.log2 - b.log2 - 52) * b := by
          have := hlow hb
          gcongr

omit ha in
theorem shiftFraction_lt_iff (e : Int) :
    (shiftFraction a b (k - e)).1 < (shiftFraction a b (k - e)).2 <<< 52 ↔
      a / b * 2 ^ k < (2 : ℚ) ^ (52 : Int) * 2 ^ e := by
  have hpos := shiftFraction_pos (a := a) hb (k - e)
  have hpos' : (0 : ℚ) < (shiftFraction a b (k - e)).2 := by exact_mod_cast hpos
  rw [← shiftFraction_mul a b k e, mul_lt_mul_iff_left₀ (two_zpow_pos e), div_lt_iff₀ hpos',
    Nat.shiftLeft_eq, mul_comm _ (2 ^ 52)]
  exact_mod_cast Iff.rfl

/-- A quotient is cut to 53 bits, or to fewer at the least exponent. -/
theorem exponentFor_spec :
    (a / b * 2 ^ k : ℚ) < 2 ^ (53 : Int) * 2 ^ exponentFor a b k ∧
      (exponentFor a b k = -1074 ∨
        (2 : ℚ) ^ (52 : Int) * 2 ^ exponentFor a b k ≤ a / b * 2 ^ k) := by
  obtain ⟨hlow, hhigh⟩ := estimate_bounds ha hb k
  have hmax {e : Int} (hle : (2 : ℚ) ^ (52 : Int) * 2 ^ e ≤ a / b * 2 ^ k)
      (hlt : (a / b * 2 ^ k : ℚ) < 2 ^ (53 : Int) * 2 ^ e) :
      (a / b * 2 ^ k : ℚ) < 2 ^ (53 : Int) * 2 ^ max (-1074) e ∧
        (max (-1074) e = -1074 ∨ (2 : ℚ) ^ (52 : Int) * 2 ^ max (-1074) e ≤ a / b * 2 ^ k) := by
    obtain h | h := le_total (-1074) e
    · rw [max_eq_right h]
      exact ⟨hlt, .inr hle⟩
    · rw [max_eq_left h]
      refine ⟨hlt.trans_le ?_, .inl rfl⟩
      gcongr
      exact one_le_two
  unfold exponentFor
  dsimp only
  generalize k + a.log2 - b.log2 - 52 = e at hlow hhigh
  split
  next hless =>
    rw [shiftFraction_lt_iff hb] at hless
    have hstep (i : Int) : (2 : ℚ) ^ i * 2 ^ e = 2 ^ (i + 1) * 2 ^ (e - 1) := by
      rw [← zpow_add₀ two_ne_zero, ← zpow_add₀ two_ne_zero]
      congr 1
      ring
    rw [hstep] at hlow hless
    exact hmax hlow.le hless
  next hmore =>
    rw [shiftFraction_lt_iff hb] at hmore
    exact hmax (not_lt.mp hmore) hhigh

/-- Far from the least exponent a quotient is cut to 53 bits. -/
theorem exponentFor_bounds (hv : (2 : ℚ) ^ (-200 : Int) ≤ a / b * 2 ^ k) :
    (2 : ℚ) ^ (52 : Int) * 2 ^ exponentFor a b k ≤ a / b * 2 ^ k ∧
      a / b * 2 ^ k < (2 : ℚ) ^ (53 : Int) * 2 ^ exponentFor a b k := by
  obtain ⟨hlt, hleast | hle⟩ := exponentFor_spec ha hb (k := k)
  · have hsmall := hv.trans_lt hlt
    rw [hleast, ← zpow_add₀ two_ne_zero] at hsmall
    have := (zpow_lt_zpow_iff_right₀ one_lt_two).mp hsmall
    omega
  · exact ⟨hle, hlt⟩

end Round

/-- What is rounded has a normal form. -/
theorem round_normal {a b : Nat} {k : Int} {x : Binary64} (hb : 0 < b)
    (h : round a b k = some x) : x.Normal := by
  by_cases hzero : a = 0
  · rw [round, if_pos hzero] at h
    cases h
    decide
  obtain ⟨hlt, hcut⟩ := exponentFor_spec (Nat.pos_of_ne_zero hzero) hb (k := k)
  have hleast : -1074 ≤ exponentFor a b k := le_max_left _ _
  have hpos := shiftFraction_pos (a := a) hb (k - exponentFor a b k)
  have hunit := two_zpow_pos (exponentFor a b k)
  rw [round, if_neg hzero] at h
  dsimp only at h
  rw [← shiftFraction_mul a b k (exponentFor a b k)] at hlt hcut
  generalize shiftFraction a b (k - exponentFor a b k) = f at hlt hcut hpos h
  generalize exponentFor a b k = e at hlt hcut hleast hunit h
  have hm : divNearest f.1 f.2 ≤ 2 ^ 53 :=
    divNearest_le hpos (by exact_mod_cast lt_of_mul_lt_mul_right hlt hunit.le)
  have hm' : 2 ^ 52 ≤ divNearest f.1 f.2 ∨ e = -1074 :=
    hcut.symm.imp_left fun hle =>
      le_divNearest hpos (by exact_mod_cast le_of_mul_le_mul_right hle hunit)
  by_cases hcarry : divNearest f.1 f.2 = 1 <<< 53
  · rw [if_pos hcarry] at h
    split at h
    · cases h
    next hrange =>
      cases h
      exact ⟨(by decide : 1 <<< 52 < 1 <<< 53), by dsimp only; omega, not_lt.mp hrange,
        .inl le_rfl⟩
  · rw [if_neg hcarry] at h
    split at h
    · cases h
    next hrange =>
      cases h
      exact ⟨lt_of_le_of_ne hm hcarry, hleast, not_lt.mp hrange, hm'⟩

/-- What is nearest to a full mantissa is taken by it. -/
theorem takes_of_near {m : Nat} {e : Int} {w : ℚ} (hm : 2 ^ 52 ≤ m) (hw : 2 ^ 52 ≤ w)
    (hlow : m - 1 / 2 ≤ w) (hhigh : w ≤ m + 1 / 2)
    (hodd : m % 2 = 1 → m - 1 / 2 < w ∧ w < m + 1 / 2) : Takes ⟨m, e⟩ (w * 2 ^ e) := by
  have hu := two_zpow_pos (e - 2)
  rw [Takes, two_zpow_quarter e, ← mul_assoc]
  dsimp only [Decimal.roundingBounds]
  have hcast (n : Nat) (hn : n ≤ 4 * m) : ((4 * m - n : Nat) : ℚ) = 4 * m - n := by
    push_cast [Nat.cast_sub hn]
    ring
  split
  next heven =>
    rw [mul_le_mul_iff_left₀ hu, mul_le_mul_iff_left₀ hu]
    refine ⟨?_, ?_⟩
    · split
      next hleast =>
        rw [hcast 1 (by omega), show m = 2 ^ 52 from hleast.1]
        push_cast
        linarith
      next =>
        rw [hcast 2 (by omega)]
        push_cast
        linarith
    · push_cast
      linarith
  next hne =>
    rw [mul_lt_mul_iff_left₀ hu, mul_lt_mul_iff_left₀ hu]
    obtain ⟨hlow, hhigh⟩ := hodd (by omega)
    refine ⟨?_, ?_⟩
    · split
      next hleast =>
        rw [hleast.1] at hne
        exact absurd rfl hne
      next =>
        rw [hcast 2 (by omega)]
        push_cast
        linarith
    · push_cast
      linarith

/-- What is so near to the next power of two is taken by it. -/
theorem takes_of_carry {e : Int} {w : ℚ} (hlow : 2 ^ 53 - 1 / 2 ≤ w) (hw : w < 2 ^ 53) :
    Takes ⟨2 ^ 52, e + 1⟩ (w * 2 ^ e) := by
  have hu := two_zpow_pos (e - 1)
  rw [Takes, two_zpow_half e, ← mul_assoc]
  dsimp only [Decimal.roundingBounds]
  rw [if_pos (by norm_num), show e + 1 - 2 = e - 1 by ring, mul_le_mul_iff_left₀ hu,
    mul_le_mul_iff_left₀ hu]
  refine ⟨?_, ?_⟩
  · split <;> (norm_num; linarith)
  · norm_num
    linarith

section Round

variable {a b : Nat} (ha : 0 < a) (hb : 0 < b) {k : Int}
  (hlow : (2 : ℚ) ^ (-200 : Int) ≤ a / b * 2 ^ k) (hhigh : (a / b * 2 ^ k : ℚ) ≤ 2 ^ (200 : Int))

include ha hb hlow

theorem scaled_bounds :
    let f := shiftFraction a b (k - exponentFor a b k)
    (2 : ℚ) ^ 52 ≤ f.1 / f.2 ∧ (f.1 / f.2 : ℚ) < 2 ^ 53 ∧
      (f.1 / f.2 : ℚ) * 2 ^ exponentFor a b k = a / b * 2 ^ k := by
  obtain ⟨hle, hlt⟩ := exponentFor_bounds ha hb hlow
  have hpos := two_zpow_pos (exponentFor a b k)
  dsimp only
  rw [← shiftFraction_mul a b k (exponentFor a b k)] at hle hlt
  exact ⟨by exact_mod_cast le_of_mul_le_mul_right hle hpos,
    by exact_mod_cast lt_of_mul_lt_mul_right hlt hpos.le, shiftFraction_mul a b k _⟩

/-- Far from the least exponent a quotient is rounded to a number that takes it. -/
theorem takes_of_round {x : Binary64} (h : round a b k = some x) :
    x.Full ∧ x.Takes (a / b * 2 ^ k) := by
  obtain ⟨hle, hlt, heq⟩ := scaled_bounds ha hb hlow
  have hpos := shiftFraction_pos (a := a) hb (k - exponentFor a b k)
  rw [round, if_neg ha.ne'] at h
  dsimp only at hle hlt heq h
  generalize shiftFraction a b (k - exponentFor a b k) = f at hle hlt heq hpos h
  generalize exponentFor a b k = e at heq h
  have hm : 2 ^ 52 ≤ divNearest f.1 f.2 := le_divNearest hpos (by exact_mod_cast hle)
  have hm' : divNearest f.1 f.2 ≤ 2 ^ 53 := divNearest_le hpos (by exact_mod_cast hlt)
  obtain ⟨hnearLow, hnearHigh, hodd⟩ := divNearest_spec f.1 hpos
  generalize divNearest f.1 f.2 = m at hm hm' hnearLow hnearHigh hodd h
  generalize (f.1 / f.2 : ℚ) = w at hle hlt heq hnearLow hnearHigh hodd
  rw [← heq]
  by_cases hcarry : m = 1 <<< 53
  · rw [if_pos hcarry] at h
    split at h
    · cases h
    cases h
    refine ⟨⟨le_rfl, (by norm_num : 2 ^ 52 < 2 ^ 53)⟩, takes_of_carry ?_ hlt⟩
    rw [hcarry] at hnearLow
    exact_mod_cast hnearLow
  · rw [if_neg hcarry] at h
    split at h
    · cases h
    cases h
    exact ⟨⟨hm, lt_of_le_of_ne hm' hcarry⟩, takes_of_near hm hle hnearLow hnearHigh hodd⟩

include hhigh

theorem exponentFor_lt : exponentFor a b k < 971 := by
  have hle := (exponentFor_bounds ha hb hlow).1.trans hhigh
  rw [← zpow_add₀ two_ne_zero] at hle
  have := (zpow_le_zpow_iff_right₀ one_lt_two).mp hle
  omega

/-- Away from the ends of the range a quotient is rounded to a number that takes it. -/
theorem round_takes : ∃ x, round a b k = some x ∧ x.Full ∧ x.Takes (a / b * 2 ^ k) := by
  have hexp := exponentFor_lt ha hb hlow hhigh
  obtain ⟨x, hx⟩ : ∃ x, round a b k = some x := by
    rw [round, if_neg ha.ne']
    dsimp only
    rw [if_neg (by split <;> (dsimp only; omega))]
    exact ⟨_, rfl⟩
  exact ⟨x, hx, takes_of_round ha hb hlow hx⟩

/-- What has a mantissa of 53 bits is not changed. -/
theorem round_exact {n : Nat} {e : Int} (hn : n < 2 ^ 53)
    (hv : (a / b * 2 ^ k : ℚ) = n * 2 ^ e) :
    ∃ x, round a b k = some x ∧ x.toRat = a / b * 2 ^ k := by
  obtain ⟨hle, hlt, heq⟩ := scaled_bounds ha hb hlow
  have hexp := exponentFor_lt ha hb hlow hhigh
  have hpos := shiftFraction_pos (a := a) hb (k - exponentFor a b k)
  rw [round, if_neg ha.ne']
  dsimp only at hle hlt heq ⊢
  generalize shiftFraction a b (k - exponentFor a b k) = f at hle hlt heq hpos
  generalize exponentFor a b k = e' at heq hexp
  -- the mantissa is the integer that was given, moved to the left
  have hexp' : e' ≤ e := by
    have hlt' : (2 : ℚ) ^ (52 : Int) * 2 ^ e' < 2 ^ (53 : Int) * 2 ^ e := by
      calc (2 : ℚ) ^ (52 : Int) * 2 ^ e' ≤ f.1 / f.2 * 2 ^ e' := by
            have := two_zpow_pos e'
            gcongr
            exact_mod_cast hle
        _ = n * 2 ^ e := heq.trans hv
        _ < 2 ^ (53 : Int) * 2 ^ e := by
            have := two_zpow_pos e
            gcongr
            exact_mod_cast hn
    rw [← zpow_add₀ two_ne_zero, ← zpow_add₀ two_ne_zero] at hlt'
    have := (zpow_lt_zpow_iff_right₀ one_lt_two).mp hlt'
    omega
  obtain ⟨j, rfl⟩ : ∃ j : Nat, e = e' + j := ⟨(e - e').toNat, by omega⟩
  have hw : (f.1 / f.2 : ℚ) = (n * 2 ^ j : Nat) := by
    have h := heq.trans hv
    rw [zpow_add₀ two_ne_zero, zpow_natCast, mul_left_comm, mul_comm] at h
    have := mul_left_cancel₀ (two_zpow_pos e').ne' h
    rw [this]
    push_cast
    ring
  have hf : f.1 = n * 2 ^ j * f.2 := by
    have hpos' : (f.2 : ℚ) ≠ 0 := by exact_mod_cast hpos.ne'
    rw [div_eq_iff hpos'] at hw
    exact_mod_cast hw
  rw [hw] at hlt heq
  have hlt : n * 2 ^ j < 2 ^ 53 := by exact_mod_cast hlt
  rw [hf, divNearest_mul _ hpos, if_neg (show n * 2 ^ j ≠ 1 <<< 53 from hlt.ne),
    if_neg (by dsimp only; omega)]
  exact ⟨_, rfl, heq⟩

end Round

theorem mantissa_pos_of_toRat_pos {x : Binary64} (h : 0 < x.toRat) : 0 < x.mantissa := by
  refine Nat.pos_of_ne_zero fun hzero => ?_
  rw [toRat, hzero, Nat.cast_zero, zero_mul] at h
  exact lt_irrefl 0 h

theorem mul_value (x y : Binary64) :
    ((x.mantissa * y.mantissa : Nat) : ℚ) / (1 : Nat) * 2 ^ (x.exponent + y.exponent) =
      x.toRat * y.toRat := by
  rw [toRat, toRat, zpow_add₀ two_ne_zero]
  push_cast
  ring

theorem div_value (x y : Binary64) :
    (x.mantissa / y.mantissa * 2 ^ (x.exponent - y.exponent) : ℚ) = x.toRat / y.toRat := by
  rw [toRat, toRat, zpow_sub₀ two_ne_zero]
  exact div_mul_div_comm _ _ _ _

/-- Integers of 53 bits are not changed. -/
theorem ofNat_exact {n : Nat} (hpos : 0 < n) (hn : n < 2 ^ 53) :
    ∃ x, ofNat n = some x ∧ x.toRat = n := by
  have hvalue : (n / (1 : Nat) * 2 ^ (0 : Int) : ℚ) = n := by simp
  have hlow : (1 : ℚ) ≤ n := by exact_mod_cast hpos
  have hhigh : (n : ℚ) ≤ 2 ^ (53 : Int) := by exact_mod_cast hn.le
  obtain ⟨x, hx, heq⟩ := round_exact (e := 0) hpos one_pos (k := 0)
    (by rw [hvalue]; exact le_trans (by norm_num) hlow)
    (by rw [hvalue]; exact hhigh.trans (by norm_num)) hn (by rw [hvalue]; simp)
  exact ⟨x, hx, heq.trans hvalue⟩

/-- The powers of ten up to the 22nd have mantissas of 53 bits. -/
theorem powerOfTen_value (k : Nat) :
    ((Nat.pow 10 k : Nat) / (1 : Nat) * 2 ^ (0 : Int) : ℚ) = 10 ^ k := by
  simp [Nat.pow_eq]

theorem powerOfTen_exact {k : Nat} (hk : k ≤ 22) :
    ∃ x, Numeral.powerOfTen k = some x ∧ x.toRat = 10 ^ k := by
  have hsplit : (10 ^ k : ℚ) = (5 ^ k : Nat) * 2 ^ (k : Int) := by
    push_cast
    rw [zpow_natCast, ← mul_pow]
    norm_num
  have hlow : (1 : ℚ) ≤ 10 ^ k := one_le_pow₀ (by norm_num)
  have hhigh : (10 ^ k : ℚ) ≤ 10 ^ 22 := pow_le_pow_right₀ (by norm_num) hk
  have hfive : 5 ^ k < 2 ^ 53 :=
    (Nat.pow_le_pow_right (by norm_num) hk).trans_lt (by norm_num)
  obtain ⟨x, hx, heq⟩ := round_exact (a := Nat.pow 10 k) (Nat.pow_pos (by norm_num)) one_pos
    (by rw [powerOfTen_value]; exact le_trans (by norm_num) hlow)
    (by rw [powerOfTen_value]; exact hhigh.trans (by norm_num)) hfive
    (by rw [powerOfTen_value]; exact hsplit)
  exact ⟨x, hx, heq.trans (powerOfTen_value k)⟩

/-- With a significand of fifteen digits and a small power of ten nothing but the result is
rounded. -/
theorem scaled_takes {s : Nat} {p : Int} (hpos : 0 < s) (hs : s < 10 ^ 15) (hlow : -22 ≤ p)
    (hhigh : p ≤ 22) :
    ∃ x, Numeral.scaled s p = some x ∧ x.Full ∧ x.Takes (s * 10 ^ p) := by
  obtain ⟨x, hx, hxs⟩ := ofNat_exact hpos (hs.trans (by norm_num))
  have hpos' : (0 : ℚ) < s := by exact_mod_cast hpos
  have hxpos := mantissa_pos_of_toRat_pos (hxs ▸ hpos')
  have hs' : (s : ℚ) < 10 ^ 15 := by exact_mod_cast hs
  have hone : (1 : ℚ) ≤ s := by exact_mod_cast hpos
  have hpower {k : Nat} (hk : k ≤ 22) : ∃ y, Numeral.powerOfTen k = some y ∧
      y.toRat = 10 ^ k ∧ 0 < y.mantissa ∧ (1 : ℚ) ≤ 10 ^ k ∧ (10 ^ k : ℚ) ≤ 10 ^ 22 := by
    obtain ⟨y, hy, hyk⟩ := powerOfTen_exact hk
    exact ⟨y, hy, hyk, mantissa_pos_of_toRat_pos (hyk ▸ by positivity),
      one_le_pow₀ (by norm_num), pow_le_pow_right₀ (by norm_num) hk⟩
  rw [Numeral.scaled, hx]
  simp only [Option.bind_eq_bind, Option.bind_some]
  split
  next hneg =>
    obtain ⟨k, rfl⟩ : ∃ k : Nat, p = -k := ⟨(-p).toNat, by omega⟩
    obtain ⟨y, hy, hyk, hypos, hten, hten'⟩ := hpower (k := k) (by omega)
    have hvalue : (x.mantissa / y.mantissa * 2 ^ (x.exponent - y.exponent) : ℚ) =
        s * 10 ^ (-k : Int) := by
      rw [div_value, hxs, hyk, zpow_neg, zpow_natCast, div_eq_mul_inv]
    rw [neg_neg, Int.toNat_natCast, Numeral.scaleDown, if_pos (by omega), hy, Option.bind_some, div,
      ← hvalue]
    refine round_takes hxpos hypos ?_ ?_
    · rw [div_value, hxs, hyk, le_div_iff₀ (by positivity)]
      calc (2 : ℚ) ^ (-200 : Int) * 10 ^ k ≤ 2 ^ (-200 : Int) * 10 ^ 22 := by gcongr
        _ ≤ 1 := by norm_num
        _ ≤ s := hone
    · rw [div_value, hxs, hyk, div_le_iff₀ (by positivity)]
      calc (s : ℚ) ≤ 10 ^ 15 := hs'.le
        _ ≤ 2 ^ (200 : Int) * 1 := by norm_num
        _ ≤ 2 ^ (200 : Int) * 10 ^ k := by gcongr
  next hneg =>
    obtain ⟨k, rfl⟩ : ∃ k : Nat, p = k := ⟨p.toNat, by omega⟩
    obtain ⟨y, hy, hyk, hypos, hten, hten'⟩ := hpower (k := k) (by omega)
    have hvalue := (mul_value x y).trans (by rw [hxs, hyk] : x.toRat * y.toRat = s * 10 ^ k)
    rw [if_pos (by omega), Int.toNat_natCast, hy, Option.bind_some, mul, zpow_natCast, ← hvalue]
    refine round_takes (Nat.mul_pos hxpos hypos) one_pos ?_ ?_
    · rw [hvalue]
      calc (2 : ℚ) ^ (-200 : Int) ≤ 1 * 1 := by norm_num
        _ ≤ s * 10 ^ k := by gcongr
    · rw [hvalue]
      calc (s * 10 ^ k : ℚ) ≤ 10 ^ 15 * 10 ^ 22 := by gcongr
        _ ≤ 2 ^ (200 : Int) := by norm_num

theorem scaled_zero {p : Int} (hlow : -22 ≤ p) (hhigh : p ≤ 22) :
    Numeral.scaled 0 p = some zero := by
  have hzero : ofNat 0 = some zero := by
    rfl
  rw [Numeral.scaled, hzero]
  simp only [Option.bind_eq_bind, Option.bind_some]
  split
  next hneg =>
    obtain ⟨y, hy, -⟩ := powerOfTen_exact (k := (-p).toNat) (by omega)
    rw [Numeral.scaleDown, if_pos (by omega), hy, Option.bind_some, div, round,
      if_pos (show zero.mantissa = 0 from rfl)]
  next hneg =>
    obtain ⟨y, hy, -⟩ := powerOfTen_exact (k := p.toNat) (by omega)
    rw [if_pos (by omega), hy, Option.bind_some, mul, round,
      if_pos (show zero.mantissa * y.mantissa = 0 from Nat.zero_mul _)]

theorem powerOfTen_pos {k : Nat} {y : Binary64} (h : Numeral.powerOfTen k = some y) :
    0 < y.mantissa := by
  have hone : (1 : ℚ) ≤ 10 ^ k := one_le_pow₀ (by norm_num)
  exact (takes_of_round (a := Nat.pow 10 k) (Nat.pow_pos (by norm_num)) one_pos
    (by rw [powerOfTen_value]; exact le_trans (by norm_num) hone) h).1.mantissa_pos

theorem scaleDown_normal {steps : Nat} : ∀ {x y : Binary64} {e : Nat}, x.Normal →
    Numeral.scaleDown x e steps = some y → y.Normal := by
  induction steps with
  | zero =>
    intro x y e _ h
    cases h
    decide
  | succ steps ih =>
    intro x y e hx h
    rw [Numeral.scaleDown] at h
    split at h
    · obtain ⟨z, hz, h⟩ := Option.bind_eq_some_iff.mp h
      exact round_normal (powerOfTen_pos hz) h
    split at h
    · cases h
      exact hx
    · obtain ⟨w, hw, h⟩ := Option.bind_eq_some_iff.mp h
      obtain ⟨z, hz, hw⟩ := Option.bind_eq_some_iff.mp hw
      exact ih (round_normal (powerOfTen_pos hz) hw) h

theorem scaled_normal {s : Nat} {p : Int} {x : Binary64} (h : Numeral.scaled s p = some x) :
    x.Normal := by
  rw [Numeral.scaled] at h
  obtain ⟨y, hy, h⟩ := Option.bind_eq_some_iff.mp h
  have hnormal : y.Normal := round_normal one_pos hy
  split at h
  · exact scaleDown_normal hnormal h
  split at h
  · obtain ⟨z, -, h⟩ := Option.bind_eq_some_iff.mp h
    exact round_normal one_pos h
  split at h
  · cases h
    exact hnormal
  · cases h

theorem magnitude_normal {n : Numeral} {x : Binary64} (h : n.magnitude = .ok x) : x.Normal := by
  rw [Numeral.magnitude] at h
  dsimp only at h
  split at h
  · split at h
    next hx =>
      cases h
      exact scaled_normal hx
    next => cases h
  split at h
  · split at h
    next hx =>
      cases h
      exact scaled_normal hx
    next => cases h
  split at h
  · cases h
  · cases h
    decide

/-- A real number that is read has a normal form. -/
theorem normal_of_value {n : Numeral} {negative : Bool} {x : Binary64}
    (h : n.value = .ok (.real negative x)) : x.Normal := by
  have hmap {sign : Bool} (h : Number.real sign <$> n.magnitude = .ok (.real negative x)) :
      x.Normal := by
    cases hmagnitude : n.magnitude with
    | error =>
      rw [hmagnitude] at h
      cases h
    | ok y =>
      rw [hmagnitude] at h
      cases h
      exact magnitude_normal hmagnitude
  rw [Numeral.value] at h
  split at h
  · exact hmap h
  dsimp only at h
  split at h
  · cases h
  split at h
  · cases h
  · exact hmap h

end SeedArchive.Binary64
