import SeedArchive.Proofs.Number.Digits
import SeedArchive.Proofs.Number.Shortest

namespace SeedArchive

namespace Numeral

/-- The digits before the exponent. -/
def digits (n : Numeral) : List Nat :=
  n.whole ++ n.fraction.getD []

/-- The value of an exponent with its sign. -/
def signedExponent : Option (Bool × List Nat) → Int
  | none => 0
  | some (negative, ds) => if negative then -ofDigits ds else ofDigits ds

/-- The power of ten that the last digit counts. -/
def power (n : Numeral) : Int :=
  signedExponent n.exponent - (n.fraction.getD []).length

/-- The number that is written, without its sign. -/
def amount (n : Numeral) : ℚ :=
  ofDigits n.digits * 10 ^ n.power

/-- Digits with no zero at either end. -/
structure Significant (ds : List Nat) : Prop where
  whole : Whole ds
  last : ds.getLast? ≠ some 0

/-- How `ds * 10 ^ scale` is printed: zeros fill the gap to the point, and far from the point an
exponent does. -/
inductive Layout (negative : Bool) : List Nat → Int → Numeral → Prop
  | padded {ds : List Nat} {k : Nat} (hplace : ds.length + k ≤ 16) :
      Layout negative ds k ⟨negative, ds ++ List.replicate k 0, some [0], none⟩
  | pointed {as bs : List Nat} (has : as ≠ []) (hbs : bs ≠ []) (hplace : as.length ≤ 16) :
      Layout negative (as ++ bs) (-bs.length) ⟨negative, as, some bs, none⟩
  | small {ds : List Nat} {k : Nat} (hplace : k < 5) :
      Layout negative ds (-(k + ds.length : Nat))
        ⟨negative, [0], some (List.replicate k 0 ++ ds), none⟩
  | scientific {d : Nat} {ds es : List Nat} {down : Bool} (hes : Whole es)
      (hplace : (if down then 5 else 15) < ofDigits es) :
      Layout negative (d :: ds) (signedExponent (some (down, es)) - ds.length)
        ⟨negative, [d], if ds = [] then none else some ds, some (down, es)⟩

/-- Numerals that are printed for real numbers. -/
inductive Canonical : Numeral → Prop
  | zero (negative : Bool) : Canonical ⟨negative, [0], some [0], none⟩
  | nonzero {ds : List Nat} {scale : Int} {n : Numeral} (hds : Significant ds)
      (h : Layout n.negative ds scale n) : Canonical n

/-- An exponent is printed with a sign. -/
def printedExponent : Option (Bool × List Nat) → List UInt8
  | none => []
  | some (negative, ds) => 101 :: (if negative then 45 else 43) :: ds.map Json.digitByte

def printed (n : Numeral) : List UInt8 :=
  n.bytes ++ printedExponent n.exponent

theorem spellsExponent_printed (exponent : Option (Bool × List Nat)) :
    Json.SpellsExponent exponent (printedExponent exponent) :=
  match exponent with
  | none => .none
  | some (false, ds) => .positive (.inl rfl) ds
  | some (true, ds) => .negative (.inl rfl) ds

theorem WellFormed.spells_printed {n : Numeral} (h : n.WellFormed) : n.Spells n.printed :=
  ⟨h, _, spellsExponent_printed n.exponent, rfl⟩

/-- What is written is one numeral. -/
theorem Spells.eq {n n' : Numeral} {written : List UInt8} (h : n.Spells written)
    (h' : n'.Spells written) : n = n' := by
  obtain ⟨s, hs, rfl, -⟩ := Json.scanNumber_spelled 0 h Json.endsNumeral_nil
  obtain ⟨s', hs', rfl, -⟩ := Json.scanNumber_spelled 0 h' Json.endsNumeral_nil
  rw [hs] at hs'
  cases hs'
  rfl

namespace Significant

theorem ne_zero {ds : List Nat} (h : Significant ds) : ds ≠ [0] := by
  rintro rfl
  exact h.last rfl

theorem head_ne {ds : List Nat} (h : Significant ds) : ds.head? ≠ some 0 := by
  intro hzero
  exact h.ne_zero (h.whole.leading_zero hzero)

theorem stripped {ds : List Nat} (h : Significant ds) (scale : Int) :
    Decimal.Stripped ⟨ofDigits ds, scale⟩ := by
  obtain hnil | ⟨as, d, rfl⟩ := List.eq_nil_or_concat' ds
  · exact absurd hnil h.whole.ne_nil
  intro hzero
  have hd : d < 10 := h.whole.lt d (by simp)
  have hlast : d = 0 := by
    have hmod : (ofDigits as * 10 + d) % 10 = 0 := by
      rw [← ofDigits_append_singleton]
      exact hzero
    omega
  exact h.last (by rw [List.getLast?_concat, hlast])

/-- A positive decimal is a number of significant digits. -/
theorem exists_toRat_eq {d : Decimal} (hpos : 0 < d.digits) (hlt : d.digits < 10 ^ 20) :
    ∃ ds scale, Significant ds ∧ (⟨ofDigits ds, scale⟩ : Decimal).toRat = d.toRat := by
  have hstripped := Decimal.strip_stripped hpos hlt
  obtain ⟨ds, hds, hvalue, -⟩ := exists_whole (d.strip 20).digits
  refine ⟨ds, (d.strip 20).scale, ⟨hds, fun hlast => hstripped ?_⟩, ?_⟩
  · obtain ⟨as, rfl⟩ := List.getLast?_eq_some_iff.mp hlast
    rw [← hvalue, ofDigits_append_singleton, Nat.add_zero, Nat.mul_mod_left]
  · rw [hvalue, Decimal.toRat_strip]

end Significant

theorem whole_zero : Whole [0] :=
  ⟨by simp, by simp, by simp⟩

theorem replicate_zero_lt (k : Nat) : ∀ d ∈ List.replicate k 0, d < 10 := by
  simp +contextual [List.mem_replicate]

/-- An exponent that is far from the point. -/
theorem signedExponent_far {down : Bool} {es : List Nat}
    (h : (if down then 5 else 15) < ofDigits es) :
    ¬(-5 ≤ signedExponent (some (down, es)) ∧ signedExponent (some (down, es)) ≤ 15) ∧
      (signedExponent (some (down, es))).natAbs = ofDigits es ∧
      (if 0 ≤ signedExponent (some (down, es)) then "+" else "-") = if down then "-" else "+" := by
  cases down with
  | false =>
    rw [if_neg Bool.false_ne_true] at h
    have hvalue : signedExponent (some (false, es)) = ofDigits es := rfl
    rw [hvalue, if_pos (by omega)]
    exact ⟨by omega, by omega, rfl⟩
  | true =>
    rw [if_pos rfl] at h
    have hvalue : signedExponent (some (true, es)) = -ofDigits es := rfl
    rw [hvalue, if_neg (by omega)]
    exact ⟨by omega, by omega, rfl⟩

/-- Near the point all digits are written out. -/
theorem text_near {ds : List Nat} (hds : Significant ds) {scale : Int}
    (hplace : -5 ≤ scale + ds.length - 1 ∧ scale + ds.length - 1 ≤ 15) :
    (⟨ofDigits ds, scale⟩ : Decimal).text =
      if 0 ≤ scale then
        String.ofList ((ds ++ List.replicate scale.toNat 0).map Nat.digitChar) ++ ".0"
      else if 0 ≤ scale + ds.length - 1 then
        let whole := (scale + ds.length - 1).toNat + 1
        String.ofList ((ds.take whole).map Nat.digitChar) ++ "." ++
          String.ofList ((ds.drop whole).map Nat.digitChar)
      else
        "0." ++ String.ofList
          ((List.replicate (-(scale + ds.length - 1) - 1).toNat 0 ++ ds).map Nat.digitChar) := by
  rw [Decimal.text, (hds.stripped _).strip_eq]
  dsimp only
  rw [hds.whole.toDigits, List.length_map, if_pos hplace]
  simp only [List.map_append, List.map_replicate, List.map_take, List.map_drop]
  rfl

/-- Far from the point one digit stands before it. -/
theorem bytes_text_far {d : Nat} {ds es : List Nat} {down : Bool} (hds : Significant (d :: ds))
    (hes : Whole es) (hplace : (if down then 5 else 15) < ofDigits es) :
    Utf8.bytes (⟨ofDigits (d :: ds), signedExponent (some (down, es)) - ds.length⟩ : Decimal).text =
      [d].map Json.digitByte ++ Json.fractionBytes (if ds = [] then none else some ds) ++
        printedExponent (some (down, es)) := by
  obtain ⟨hd, htail⟩ := List.forall_mem_cons.mp hds.whole.lt
  obtain ⟨hfar, hexponent, hmark⟩ := signedExponent_far hplace
  have hplace' : signedExponent (some (down, es)) - ds.length + (d :: ds).length - 1 =
      signedExponent (some (down, es)) := by
    rw [List.length_cons]
    omega
  have hfirst : Utf8.bytes (String.ofList ([d].map Nat.digitChar)) = [d].map Json.digitByte :=
    bytes_digits (List.forall_mem_singleton.mpr hd)
  have htake : ((d :: ds).map Nat.digitChar).take 1 = [d].map Nat.digitChar := rfl
  have hdrop : ((d :: ds).map Nat.digitChar).drop 1 = ds.map Nat.digitChar := rfl
  have hrest : Utf8.bytes (if (ds.map Nat.digitChar).isEmpty then "" else
      "." ++ String.ofList (ds.map Nat.digitChar)) =
        Json.fractionBytes (if ds = [] then none else some ds) := by
    cases ds with
    | nil => rfl
    | cons =>
      rw [if_neg (by simp), if_neg (by simp), Utf8.bytes_append, bytes_digits htail]
      rfl
  have hsign : Utf8.bytes (if down then "-" else "+") = [if down then 45 else 43] := by
    cases down <;> rfl
  rw [Decimal.text, (hds.stripped _).strip_eq]
  dsimp only
  rw [hds.whole.toDigits, List.length_map, hplace', if_neg hfar, hexponent, hmark,
    Nat.toString_eq_ofList_toDigits, hes.toDigits, htake, hdrop, Utf8.bytes_append,
    Utf8.bytes_append, Utf8.bytes_append, Utf8.bytes_append, bytes_digits hes.lt, hfirst, hrest,
    hsign, List.append_assoc, List.append_assoc]
  rfl

section Layout

variable {negative : Bool} {ds : List Nat} {scale : Int} {n : Numeral} (hds : Significant ds)
  (h : Layout negative ds scale n)

include h

theorem Layout.negative_eq : n.negative = negative := by
  cases h <;> rfl

include hds

theorem Layout.wellFormed : n.WellFormed := by
  have hlt := hds.whole.lt
  have hhead := hds.head_ne
  cases h with
  | padded =>
    refine ⟨⟨by simp [hds.whole.ne_nil], List.forall_mem_append.mpr ⟨hlt, replicate_zero_lt _⟩, ?_⟩,
      by simp, by simp⟩
    intro hzero
    rw [List.head?_append_of_ne_nil _ hds.whole.ne_nil] at hzero
    exact absurd hzero hhead
  | pointed has hbs =>
    obtain ⟨hltAs, hltBs⟩ := List.forall_mem_append.mp hlt
    refine ⟨⟨has, hltAs, ?_⟩, ?_, by simp⟩
    · intro hzero
      rw [List.head?_append_of_ne_nil _ has] at hhead
      exact absurd hzero hhead
    · rintro _ ⟨⟩
      exact ⟨hbs, hltBs⟩
  | small =>
    refine ⟨whole_zero, ?_, by simp⟩
    rintro _ ⟨⟩
    exact ⟨by simp [hds.whole.ne_nil], List.forall_mem_append.mpr ⟨replicate_zero_lt _, hlt⟩⟩
  | scientific hes =>
    obtain ⟨hd, htail⟩ := List.forall_mem_cons.mp hlt
    refine ⟨⟨by simp, by simpa using hd, ?_⟩, ?_, ?_⟩
    · intro hzero
      exact absurd hzero hhead
    · intro fraction hfraction
      dsimp only at hfraction
      split at hfraction
      · cases hfraction
      next hne =>
        cases hfraction
        exact ⟨hne, htail⟩
    · rintro _ _ ⟨⟩
      exact ⟨hes.ne_nil, hes.lt⟩

theorem Layout.amount_eq : n.amount = (⟨ofDigits ds, scale⟩ : Decimal).toRat := by
  rw [amount, Decimal.toRat]
  cases h with
  | padded =>
    show (ofDigits (ds ++ List.replicate _ 0 ++ [0]) : ℚ) * 10 ^ (0 - (1 : Int)) = _
    rw [ofDigits_append_singleton, ofDigits_append, ofDigits_replicate_zero, List.length_replicate]
    push_cast
    rw [zpow_natCast, zpow_neg_one]
    ring
  | pointed =>
    show _ * (10 : ℚ) ^ (0 - _ : Int) = _
    rw [zero_sub]
    rfl
  | @small _ k =>
    show (ofDigits ([0] ++ (List.replicate k 0 ++ ds)) : ℚ) *
      10 ^ (0 - ((List.replicate k 0 ++ ds).length : Int)) = _
    rw [ofDigits_append, ofDigits_append, ofDigits_replicate_zero, List.length_append,
      List.length_replicate, zero_sub]
    simp [ofDigits]
  | @scientific d ds =>
    have hfraction : (if ds = [] then none else some ds : Option (List Nat)).getD [] = ds := by
      split
      next hnil => exact hnil.symm
      next => rfl
    rw [digits, power]
    dsimp only
    rw [hfraction]
    rfl

/-- The text of a decimal is written as the layout has it. -/
theorem Layout.bytes_text :
    Utf8.bytes ((if negative then "-" else "") ++ (⟨ofDigits ds, scale⟩ : Decimal).text) =
      n.printed := by
  have hsign : n.printed = (if negative then [45] else []) ++
      (n.whole.map Json.digitByte ++ Json.fractionBytes n.fraction ++
        printedExponent n.exponent) := by
    rw [printed, bytes, h.negative_eq, List.append_assoc, List.append_assoc, List.append_assoc]
  have hsign' : Utf8.bytes (if negative then "-" else "") = if negative then [45] else [] := by
    cases negative <;> rfl
  rw [hsign, Utf8.bytes_append, hsign']
  congr 1
  have hlt := hds.whole.lt
  have hpos : 0 < ds.length := List.length_pos_of_ne_nil hds.whole.ne_nil
  cases h with
  | @padded _ k hplace =>
    rw [text_near hds (by omega), if_pos (by omega), Int.toNat_natCast, Utf8.bytes_append,
      bytes_digits (List.forall_mem_append.mpr ⟨hlt, replicate_zero_lt k⟩), printedExponent,
      List.append_nil]
    rfl
  | @pointed as bs has hbs hplace =>
    have hasPos : 0 < as.length := List.length_pos_of_ne_nil has
    have hbsPos : 0 < bs.length := List.length_pos_of_ne_nil hbs
    obtain ⟨hltAs, hltBs⟩ := List.forall_mem_append.mp hlt
    have hlength : (as ++ bs).length = as.length + bs.length := List.length_append
    have hwhole : (-(bs.length : Int) + (as ++ bs).length - 1).toNat + 1 = as.length := by omega
    rw [text_near hds (by omega), if_neg (by omega), if_pos (by omega), hwhole]
    dsimp only
    rw [List.take_left, List.drop_left, Utf8.bytes_append, Utf8.bytes_append, bytes_digits hltAs,
      bytes_digits hltBs, printedExponent, List.append_nil, List.append_assoc]
    rfl
  | @small _ k hplace =>
    have hgap : (-(-((k + ds.length : Nat) : Int) + ds.length - 1) - 1).toNat = k := by omega
    rw [text_near hds (by omega), if_neg (by omega), if_neg (by omega), hgap, Utf8.bytes_append,
      bytes_digits (List.forall_mem_append.mpr ⟨replicate_zero_lt k, hlt⟩), printedExponent,
      List.append_nil]
    rfl
  | scientific hes hplace => exact bytes_text_far hds hes hplace

end Layout

theorem exists_exponent {place : Int} (hplace : place < -5 ∨ 15 < place) :
    ∃ down es, Whole es ∧ (if down then 5 else 15) < ofDigits es ∧
      signedExponent (some (down, es)) = place := by
  obtain ⟨es, hes, hvalue, -⟩ := exists_whole place.natAbs
  obtain hdown | hup := hplace
  · refine ⟨true, es, hes, ?_, ?_⟩
    · rw [hvalue, if_pos rfl]
      omega
    · rw [signedExponent, if_pos rfl, hvalue]
      omega
  · refine ⟨false, es, hes, ?_, ?_⟩
    · rw [hvalue, if_neg Bool.false_ne_true]
      omega
    · rw [signedExponent, if_neg Bool.false_ne_true, hvalue]
      omega

/-- Every decimal has a layout. -/
theorem exists_layout (negative : Bool) {ds : List Nat} (hds : Significant ds) (scale : Int) :
    ∃ n, Layout negative ds scale n := by
  by_cases hfar : scale + ds.length - 1 < -5 ∨ 15 < scale + ds.length - 1
  · obtain ⟨down, es, hes, hplace, hvalue⟩ := exists_exponent hfar
    obtain ⟨d, ds, rfl⟩ := List.exists_cons_of_ne_nil hds.whole.ne_nil
    have hscale : scale = signedExponent (some (down, es)) - ds.length := by
      rw [hvalue, List.length_cons]
      omega
    rw [hscale]
    exact ⟨_, .scientific hes hplace⟩
  by_cases hscale : 0 ≤ scale
  · obtain ⟨k, rfl⟩ := Int.eq_ofNat_of_zero_le hscale
    exact ⟨_, .padded (by omega)⟩
  by_cases hplace : 0 < scale + ds.length
  · obtain ⟨as, bs, rfl, hbs⟩ : ∃ as bs, ds = as ++ bs ∧ (bs.length : Int) = -scale := by
      refine ⟨_, _, (List.take_append_drop (scale + ds.length).toNat ds).symm, ?_⟩
      rw [List.length_drop]
      omega
    rw [List.length_append] at hfar hplace
    have hscale' : scale = -bs.length := by omega
    rw [hscale']
    exact ⟨_, .pointed (List.ne_nil_of_length_pos (by omega))
      (List.ne_nil_of_length_pos (by omega)) (by omega)⟩
  · obtain ⟨k, hk⟩ : ∃ k : Nat, scale = -(k + ds.length : Nat) :=
      ⟨(-scale - ds.length).toNat, by omega⟩
    rw [hk]
    exact ⟨_, .small (by omega)⟩

namespace Canonical

theorem wellFormed {n : Numeral} (h : n.Canonical) : n.WellFormed := by
  cases h with
  | zero =>
    refine ⟨whole_zero, ?_, by simp⟩
    rintro _ ⟨⟩
    simp
  | nonzero hds h => exact h.wellFormed hds

theorem amount_zero (negative : Bool) : amount ⟨negative, [0], some [0], none⟩ = 0 := by
  rw [amount, show ofDigits _ = 0 from rfl, Nat.cast_zero, zero_mul]

/-- There is one way in which a number is printed. -/
theorem eq_of_amount_eq {n n' : Numeral} (h : n.Canonical) (h' : n'.Canonical)
    (hnegative : n.negative = n'.negative) (hamount : n.amount = n'.amount) : n = n' := by
  cases h with
  | zero negative =>
    cases h' with
    | zero => rw [show negative = _ from hnegative]
    | nonzero hds' h' =>
      rw [amount_zero, h'.amount_eq hds'] at hamount
      exact absurd hamount (hds'.stripped _).toRat_pos.ne
  | nonzero hds h =>
    cases h' with
    | zero =>
      rw [amount_zero, h.amount_eq hds] at hamount
      exact absurd hamount (hds.stripped _).toRat_pos.ne'
    | nonzero hds' h' =>
      rw [h.amount_eq hds, h'.amount_eq hds'] at hamount
      have hdecimal := (hds.stripped _).eq_of_toRat_eq (hds'.stripped _) hamount
      have hbytes := h.bytes_text hds
      rw [hdecimal, hnegative, h'.bytes_text hds'] at hbytes
      exact ((h.wellFormed hds).spells_printed).eq (hbytes ▸ (h'.wellFormed hds').spells_printed)

/-- A real number is printed as a canonical numeral. -/
theorem exists_printed (negative : Bool) {x : Binary64} (hnormal : x.Normal) :
    ∃ n, Canonical n ∧ n.negative = negative ∧ n.amount = (Decimal.shortest x).toRat ∧
      Utf8.bytes (Number.real negative x).text = n.printed := by
  obtain ⟨hlt, hnone⟩ := Decimal.shortest_digits hnormal
  by_cases hzero : (Decimal.shortest x).digits = 0
  · have hshortest := hnone hzero
    refine ⟨_, .zero negative, rfl, ?_, ?_⟩
    · rw [amount_zero, hshortest, Decimal.toRat, Nat.cast_zero, zero_mul]
    · have htext : x.text = "0.0" := by
        rw [Binary64.text, hshortest]
        split <;> rfl
      rw [Number.text, htext]
      cases negative <;> rfl
  · obtain ⟨ds, scale, hds, hvalue⟩ :=
      Significant.exists_toRat_eq (Nat.pos_of_ne_zero hzero) hlt
    obtain ⟨n, hlayout⟩ := exists_layout negative hds scale
    have hnegative := hlayout.negative_eq
    have hnonzero : ¬x.isZero = true := by
      intro hx
      rw [Binary64.isZero, beq_iff_eq] at hx
      rw [Decimal.shortest, if_pos hx] at hzero
      exact hzero rfl
    refine ⟨n, .nonzero hds (hnegative ▸ hlayout), hnegative, ?_, ?_⟩
    · rw [hlayout.amount_eq hds, hvalue]
    · rw [← hlayout.bytes_text hds, Number.text, Binary64.text, if_neg hnonzero,
        Decimal.text_eq_of_toRat_eq hlt (hds.stripped scale) hvalue.symm]

end Canonical

end Numeral

end SeedArchive
