import SeedArchive.Proofs.Json.Blanks
import SeedArchive.Proofs.Json.Shape
import SeedArchive.Proofs.Number.Decimals

namespace SeedArchive

namespace Numeral

/-- Neither a fraction nor an exponent is written. -/
def Integral (n : Numeral) : Prop :=
  n.fraction = none ∧ n.exponent = none

/-- An integer of 64 bits; zero has no sign. -/
def Fits (n : Numeral) : Prop :=
  if n.negative then 0 < ofDigits n.whole ∧ ofDigits n.whole ≤ 1 <<< 63
  else ofDigits n.whole < 1 <<< 64

/-- A real number of fifteen digits at most, near enough to the point for exact powers of ten. -/
structure Short (n : Numeral) : Prop where
  not_integral : ¬n.Integral
  digits_lt : ofDigits n.digits < 10 ^ 15
  exponent_lt : ∀ negative ds, n.exponent = some (negative, ds) → ofDigits ds < 2 ^ 31
  le_power : -22 ≤ n.power
  power_le : n.power ≤ 22

/-- An integer of 64 bits or a numeral that is printed for a real number, spelled as printing does
it. -/
def AsWritten (n : Numeral) (written : List UInt8) : Prop :=
  (n.Integral ∧ n.Fits ∨ n.Canonical) ∧ written = n.printed

theorem Canonical.not_integral {n : Numeral} (h : n.Canonical) : ¬n.Integral := by
  rintro ⟨hfraction, hexponent⟩
  cases h with
  | zero => cases hfraction
  | nonzero _ h =>
    generalize n.negative = negative at h
    cases h with
    | padded | pointed | small => cases hfraction
    | scientific => cases hexponent

section Short

variable {n : Numeral} (h : n.Short)

include h

theorem Short.significand_eq :
    n.significand = (ofDigits n.digits, -((n.fraction.getD []).length : Int)) := by
  have hdigits := h.digits_lt
  rw [digits, ofDigits_append] at hdigits ⊢
  have hwhole := le_ofDigits_onto (ofDigits n.whole) (n.fraction.getD [])
  have hleft : accumulate 0 n.whole = (ofDigits n.whole, []) := by
    rw [accumulate_eq (by omega), Nat.zero_mul, Nat.zero_add]
  have hright : accumulate (ofDigits n.whole) (n.fraction.getD []) =
      (ofDigits n.whole * 10 ^ (n.fraction.getD []).length + ofDigits (n.fraction.getD []), []) :=
    accumulate_eq (by omega)
  rw [significand, hleft]
  dsimp only
  rw [hright]
  simp

theorem Short.magnitude_eq {x : Binary64} (hx : scaled (ofDigits n.digits) n.power = some x) :
    n.magnitude = .ok x := by
  have hlow := h.le_power
  have hhigh := h.power_le
  have hsaturate : saturate n.power = n.power := by
    rw [saturate]
    omega
  rw [magnitude, h.significand_eq]
  dsimp only
  cases hexponent : n.exponent with
  | none =>
    have hpower : -((n.fraction.getD []).length : Int) = n.power := by
      rw [power, hexponent, signedExponent, zero_sub]
    dsimp only
    rw [hpower, hsaturate, hx]
  | some exponent =>
    obtain ⟨negative, ds⟩ := exponent
    have hlt := h.exponent_lt _ _ hexponent
    have hvalue : exponentValue 0 0 ds = .ok (ofDigits ds) := by
      rw [exponentValue_eq (by omega), Nat.zero_mul, Nat.zero_add]
    have hpower : (if negative then -((n.fraction.getD []).length : Int) - ofDigits ds
        else -((n.fraction.getD []).length : Int) + ofDigits ds) = n.power := by
      rw [power, hexponent, signedExponent]
      split <;> ring
    dsimp only
    rw [hvalue]
    dsimp only
    rw [hpower, hsaturate, hx]

theorem Short.value_eq {x : Binary64} (hx : scaled (ofDigits n.digits) n.power = some x) :
    n.value = .ok (.real n.negative x) := by
  have hreal : n.isReal = true := by
    have hnot := h.not_integral
    rw [Integral, not_and_or, ← ne_eq, Option.ne_none_iff_isSome, ← ne_eq,
      Option.ne_none_iff_isSome] at hnot
    rw [isReal, Bool.or_eq_true, Bool.or_eq_true]
    exact .inl hnot
  rw [value, if_pos hreal, h.magnitude_eq hx]
  rfl

/-- The number of a short numeral is printed as the canonical numeral of the same amount. -/
theorem Short.exists_canonical : ∃ x n₀, n.value = .ok (.real n.negative x) ∧ Canonical n₀ ∧
    n₀.negative = n.negative ∧ n₀.amount = n.amount ∧
    Utf8.bytes (Number.real n.negative x).text = n₀.printed := by
  obtain ⟨x, hx, hshortest⟩ : ∃ x, scaled (ofDigits n.digits) n.power = some x ∧
      (Decimal.shortest x).toRat = n.amount := by
    by_cases hzero : ofDigits n.digits = 0
    · refine ⟨.zero, by rw [hzero, Binary64.scaled_zero h.le_power h.power_le], ?_⟩
      rw [amount, hzero, Nat.cast_zero, zero_mul, Decimal.toRat]
      exact zero_mul _
    · obtain ⟨x, hx, hfull, htakes⟩ := Binary64.scaled_takes (Nat.pos_of_ne_zero hzero)
        h.digits_lt h.le_power h.power_le
      exact ⟨x, hx,
        Decimal.toRat_shortest (Binary64.scaled_normal hx) hfull h.digits_lt htakes⟩
  obtain ⟨n₀, hcanonical, hnegative, hamount, hbytes⟩ :=
    Canonical.exists_printed n.negative (Binary64.scaled_normal hx)
  exact ⟨x, n₀, h.value_eq hx, hcanonical, hnegative, hamount.trans hshortest, hbytes⟩

end Short

theorem bytes_toString (n : Nat) {ds : List Nat} (hds : Whole ds) (h : ofDigits ds = n) :
    Utf8.bytes (toString n) = ds.map Json.digitByte := by
  rw [Nat.toString_eq_ofList_toDigits, ← h, hds.toDigits, bytes_digits hds.lt]

section Integral

variable {n : Numeral} (hwhole : Whole n.whole) (h : n.Integral)

include h

theorem Integral.isReal_eq : n.isReal = !(accumulate 0 n.whole).2.isEmpty := by
  rw [isReal, h.1, h.2]
  rfl

theorem Integral.bytes_eq :
    n.bytes = (if n.negative then [45] else []) ++ n.whole.map Json.digitByte := by
  rw [bytes, h.1, Json.fractionBytes, List.append_nil]

include hwhole

/-- An integer of 64 bits is printed with the digits that were written. -/
theorem Integral.exists_int (hfits : n.Fits) :
    ∃ k, n.value = .ok (.int k) ∧ Utf8.bytes (Number.int k).text = n.bytes := by
  have hlt : 0 * 10 ^ n.whole.length + ofDigits n.whole < 1 <<< 64 := by
    rw [Fits] at hfits
    split at hfits <;> omega
  rw [value, h.isReal_eq, accumulate_eq hlt, h.bytes_eq, Nat.zero_mul, Nat.zero_add]
  rw [Fits] at hfits
  cases hnegative : n.negative with
  | false => exact ⟨_, rfl, bytes_toString _ hwhole rfl⟩
  | true =>
    rw [hnegative, if_pos rfl] at hfits
    obtain ⟨m, hm⟩ := Nat.exists_eq_succ_of_ne_zero hfits.1.ne'
    have htext : toString (-(ofDigits n.whole : Int)) = "-" ++ toString (ofDigits n.whole) := by
      rw [hm]
      rfl
    refine ⟨-(ofDigits n.whole), ?_, ?_⟩
    · dsimp only
      rw [if_neg (by simp), if_neg (by simp), if_pos hfits]
    · rw [Number.text, htext, Utf8.bytes_append, bytes_toString _ hwhole rfl]
      rfl

end Integral

/-- Only an integer of 64 bits is read as one. -/
theorem fits_of_value_int {n : Numeral} {k : Int} (h : n.value = .ok (.int k)) :
    n.Integral ∧ n.Fits := by
  have hmap {negative : Bool} : Number.real negative <$> n.magnitude ≠ .ok (.int k) := by
    intro h
    cases hmagnitude : n.magnitude <;> (rw [hmagnitude] at h; cases h)
  rw [value] at h
  split at h
  next => exact absurd h hmap
  next hreal =>
    simp only [isReal, Bool.or_eq_true, not_or, Bool.not_eq_true, Option.isSome_eq_false_iff,
      Option.isNone_iff_eq_none, Bool.not_eq_false', List.isEmpty_iff] at hreal
    obtain ⟨⟨hfraction, hexponent⟩, hnil⟩ := hreal
    refine ⟨⟨hfraction, hexponent⟩, ?_⟩
    have hlt := lt_of_accumulate (by norm_num) hnil
    rw [accumulate_eq hlt, Nat.zero_mul, Nat.zero_add] at h
    rw [Nat.zero_mul, Nat.zero_add] at hlt
    dsimp only at h
    rw [Fits]
    split at h
    next hpositive =>
      rw [if_neg (by simpa using hpositive)]
      exact hlt
    next hnegative =>
      rw [if_pos (by simpa using hnegative)]
      split at h
      next hfits => exact hfits
      next => exact absurd h hmap

end Numeral

namespace Json

theorem starts_of_scanNumber {n : Nat} {b : UInt8} {bytes : List UInt8} {s : ScannedNumber}
    (h : scanNumber n (b :: bytes) = .ok s) : b = 45 ∨ isDigit b = true := by
  by_contra hb
  obtain ⟨hminus, hdigit⟩ := not_or.mp hb
  rw [scanNumber, scanWhole.eq_def] at h
  simp [hminus, hdigit, bind, Except.bind] at h

theorem documentNode_literal {literal : List UInt8} {s : ScannedNumber}
    (hplain : ∀ b ∈ literal, IsPlain b) (hs : scanNumber 0 literal = .ok s) (hrest : s.rest = []) :
    documentNode literal = (.number s.number s.after, .finish s.stop) := by
  cases literal with
  | nil => cases hs
  | cons b bytes =>
    obtain ⟨hspace, hquote⟩ := hplain b List.mem_cons_self
    have hscan : tokens (b :: bytes) = .next (.number s.number) 0 s.after (.finish s.stop) := by
      rw [tokens, List.length_cons, scan, hspace, if_neg (by simp), scanToken, if_neg hquote,
        if_pos (starts_of_scanNumber hs), hs]
      show Tokens.next _ _ _ (scan s.stop s.rest _) = _
      rw [hrest]
      rfl
    rw [documentNode, hscan]
    rfl

/-- A document that is one numeral has the number of the numeral. -/
theorem decode_literal {source : Source} {n : Numeral} {literal : List UInt8}
    (h : n.Spells literal) {v : Json} :
    decode source (fun depth node => node.value depth) literal = .ok v ↔
      ∃ k, n.value = .ok k ∧ v = .number k := by
  obtain ⟨s, hs, rfl, hrest⟩ := scanNumber_spelled 0 h endsNumeral_nil
  rw [List.append_nil] at hs
  have hdocument := documentNode_literal (isPlain_of_spells h) hs hrest
  have hvalue : Node.value 128 (.number s.number s.after) = s.number.map .number := by
    rw [Node.value]
  rw [decode_eq_ok_iff, hdocument, and_iff_left ⟨_, rfl⟩, hvalue, ScannedNumber.number]
  cases hnumeral : s.numeral.value with
  | ok k =>
    refine ⟨fun hv => ⟨k, rfl, (Except.ok.inj hv).symm⟩, ?_⟩
    rintro ⟨k', hk, rfl⟩
    cases hk
    rfl
  | error tooLarge =>
    refine iff_of_false (fun hv => ?_) (fun hk => ?_)
    · cases tooLarge <;> cases hv
    · obtain ⟨k, hk, -⟩ := hk
      cases hk

end Json

end SeedArchive
