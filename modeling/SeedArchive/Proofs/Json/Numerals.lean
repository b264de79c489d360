import Mathlib.Data.List.TakeWhile
import SeedArchive.Json.Token
import SeedArchive.Proofs.Control.Except

namespace SeedArchive

namespace Json

/-- The byte of a digit that is given by value. -/
def digitByte (d : Nat) : UInt8 :=
  UInt8.ofNat (48 + d)

theorem toNat_digitByte {d : Nat} (h : d < 10) : (digitByte d).toNat = 48 + d := by
  rw [digitByte, UInt8.toNat_ofNat']
  omega

theorem isDigit_iff (b : UInt8) : isDigit b = true ↔ 48 ≤ b.toNat ∧ b.toNat ≤ 57 := by
  simp [isDigit, UInt8.le_iff_toNat_le]

theorem isDigit_digitByte {d : Nat} (h : d < 10) : isDigit (digitByte d) = true := by
  rw [isDigit_iff, toNat_digitByte h]
  omega

theorem isDigit_of_mem_map {ds : List Nat} (h : ∀ d ∈ ds, d < 10) :
    ∀ b ∈ ds.map digitByte, isDigit b = true :=
  List.forall_mem_map.mpr fun d hd => isDigit_digitByte (h d hd)

theorem digitValues_map_digitByte {ds : List Nat} (h : ∀ d ∈ ds, d < 10) :
    digitValues (ds.map digitByte) = ds := by
  rw [digitValues, List.map_map]
  refine (List.map_congr_left fun d hd => ?_).trans (List.map_id ds)
  show (digitByte d).toNat - 48 = d
  rw [toNat_digitByte (h d hd)]
  omega

theorem map_digitByte_digitValues {bs : List UInt8} (h : ∀ b ∈ bs, isDigit b = true) :
    (digitValues bs).map digitByte = bs := by
  rw [digitValues, List.map_map]
  refine (List.map_congr_left fun b hb => ?_).trans (List.map_id bs)
  have hdigit := (isDigit_iff b).mp (h b hb)
  apply UInt8.toNat.inj
  show (digitByte (b.toNat - 48)).toNat = b.toNat
  rw [toNat_digitByte (by omega)]
  omega

theorem lt_of_mem_digitValues {bs : List UInt8} (h : ∀ b ∈ bs, isDigit b = true) :
    ∀ d ∈ digitValues bs, d < 10 := by
  refine List.forall_mem_map.mpr fun b hb => ?_
  have hdigit := (isDigit_iff b).mp (h b hb)
  omega

/-- No digit comes next. -/
def NoDigit (bytes : List UInt8) : Prop :=
  ∀ b ∈ bytes.head?, isDigit b = false

/-- Nothing comes next that could go on with a numeral. -/
def EndsNumeral (bytes : List UInt8) : Prop :=
  ∀ b ∈ bytes.head?, isDigit b = false ∧ b ≠ 46 ∧ b ≠ 101 ∧ b ≠ 69

theorem endsNumeral_nil : EndsNumeral [] := by
  intro b hb
  cases hb

theorem EndsNumeral.noDigit {bytes : List UInt8} (h : EndsNumeral bytes) : NoDigit bytes :=
  fun b hb => (h b hb).1

theorem NoDigit.takeWhile_eq_nil {bytes : List UInt8} (h : NoDigit bytes) :
    bytes.takeWhile isDigit = [] := by
  cases bytes with
  | nil => rfl
  | cons b rest => rw [List.takeWhile_cons, h b rfl, if_neg Bool.false_ne_true]

theorem NoDigit.dropWhile_eq_self {bytes : List UInt8} (h : NoDigit bytes) :
    bytes.dropWhile isDigit = bytes := by
  cases bytes with
  | nil => rfl
  | cons b rest => rw [List.dropWhile_cons, h b rfl, if_neg Bool.false_ne_true]

theorem noDigit_dropWhile (bytes : List UInt8) : NoDigit (bytes.dropWhile isDigit) := by
  intro b hb
  have hnot := List.head?_dropWhile_not isDigit bytes
  rw [Option.mem_def.mp hb] at hnot
  simpa using hnot

theorem all_takeWhile (bytes : List UInt8) : ∀ b ∈ bytes.takeWhile isDigit, isDigit b = true :=
  fun _ hb => List.mem_takeWhile_imp hb

section Digits

variable {ds : List Nat} (hds : ∀ d ∈ ds, d < 10) {rest : List UInt8} (hrest : NoDigit rest)

include hds hrest

theorem takeWhile_digits : (ds.map digitByte ++ rest).takeWhile isDigit = ds.map digitByte := by
  rw [List.takeWhile_append_of_pos (isDigit_of_mem_map hds), hrest.takeWhile_eq_nil,
    List.append_nil]

theorem dropWhile_digits : (ds.map digitByte ++ rest).dropWhile isDigit = rest := by
  rw [List.dropWhile_append_of_pos (isDigit_of_mem_map hds), hrest.dropWhile_eq_self]

theorem digitValues_takeWhile_digits :
    digitValues ((ds.map digitByte ++ rest).takeWhile isDigit) = ds := by
  rw [takeWhile_digits hds hrest, digitValues_map_digitByte hds]

end Digits

theorem digits_takeWhile_ne_nil {b : UInt8} {rest : List UInt8} (h : isDigit b = true) :
    digitValues ((b :: rest).takeWhile isDigit) ≠ [] := by
  rw [List.takeWhile_cons, if_pos h]
  exact List.cons_ne_nil _ _

/-- What was read as digits, and what is left. -/
theorem eq_digits_append (bytes : List UInt8) :
    bytes = (digitValues (bytes.takeWhile isDigit)).map digitByte ++ bytes.dropWhile isDigit := by
  rw [map_digitByte_digitValues (all_takeWhile bytes), List.takeWhile_append_dropWhile]

/-- The bytes of the digits after a point. -/
def fractionBytes : Option (List Nat) → List UInt8
  | none => []
  | some ds => 46 :: ds.map digitByte

/-- An exponent is marked by a letter of either case and may have a plus sign. -/
inductive SpellsExponent : Option (Bool × List Nat) → List UInt8 → Prop
  | none : SpellsExponent none []
  | unsigned {mark : UInt8} (hmark : mark = 101 ∨ mark = 69) (ds : List Nat) :
      SpellsExponent (some (false, ds)) (mark :: ds.map digitByte)
  | positive {mark : UInt8} (hmark : mark = 101 ∨ mark = 69) (ds : List Nat) :
      SpellsExponent (some (false, ds)) (mark :: 43 :: ds.map digitByte)
  | negative {mark : UInt8} (hmark : mark = 101 ∨ mark = 69) (ds : List Nat) :
      SpellsExponent (some (true, ds)) (mark :: 45 :: ds.map digitByte)

end Json

namespace Numeral

/-- Digits that are written for an integer: a zero in front stands alone. -/
structure Whole (ds : List Nat) : Prop where
  ne_nil : ds ≠ []
  lt : ∀ d ∈ ds, d < 10
  leading_zero : ds.head? = some 0 → ds = [0]

/-- There are digits before the point, after it and in the exponent. -/
structure WellFormed (n : Numeral) : Prop where
  whole : Whole n.whole
  fraction : ∀ ds, n.fraction = some ds → ds ≠ [] ∧ ∀ d ∈ ds, d < 10
  exponent : ∀ negative ds, n.exponent = some (negative, ds) → ds ≠ [] ∧ ∀ d ∈ ds, d < 10

/-- The bytes before the exponent. -/
def bytes (n : Numeral) : List UInt8 :=
  (if n.negative then [45] else []) ++ n.whole.map Json.digitByte ++ Json.fractionBytes n.fraction

/-- What is written is the numeral. -/
structure Spells (n : Numeral) (written : List UInt8) : Prop where
  wellFormed : n.WellFormed
  written_eq : ∃ exponent, Json.SpellsExponent n.exponent exponent ∧ written = n.bytes ++ exponent

end Numeral

namespace Json

section Whole

variable {ds : List Nat} {rest : List UInt8} {n : Nat}

theorem scanWhole_digits (h : Numeral.Whole ds) (hrest : NoDigit rest) :
    scanWhole n (ds.map digitByte ++ rest) = .ok (ds, n + ds.length, rest) := by
  obtain ⟨hne, hds, hzero⟩ := h
  obtain ⟨d, ds, rfl⟩ := List.exists_cons_of_ne_nil hne
  have hd : d < 10 := hds d List.mem_cons_self
  have hlone : ¬(digitByte d = 48 ∧ (ds.map digitByte ++ rest).head?.any isDigit = true) := by
    rintro ⟨hbyte, hnext⟩
    have hd0 : d = 0 := by
      have hnat := congrArg UInt8.toNat hbyte
      rw [toNat_digitByte hd] at hnat
      exact Nat.add_left_cancel hnat
    cases hzero (by rw [List.head?_cons, hd0])
    cases hhead : rest.head? with
    | none => simp [hhead] at hnext
    | some b =>
      have hb := hrest b hhead
      simp [hhead, hb] at hnext
  have htake := digitValues_takeWhile_digits hds hrest
  have hdrop := dropWhile_digits hds hrest
  have hlength := congrArg List.length (takeWhile_digits hds hrest)
  rw [List.map_cons, List.cons_append] at htake hdrop hlength ⊢
  rw [scanWhole, isDigit_digitByte hd, if_neg (by simp), if_neg hlone]
  simp only [htake, hdrop, hlength, List.length_cons, List.length_map]

theorem of_scanWhole {bytes : List UInt8} {n' : Nat}
    (h : scanWhole n bytes = .ok (ds, n', rest)) :
    Numeral.Whole ds ∧ bytes = ds.map digitByte ++ rest ∧ NoDigit rest := by
  cases bytes with
  | nil => cases h
  | cons b bytes =>
    rw [scanWhole] at h
    split at h
    · cases h
    next hdigit =>
      split at h
      · cases h
      next hlone =>
        have hb : isDigit b = true := by simpa using hdigit
        simp only [Except.ok.injEq, Prod.mk.injEq] at h
        obtain ⟨rfl, -, rfl⟩ := h
        refine ⟨⟨digits_takeWhile_ne_nil hb, lt_of_mem_digitValues (all_takeWhile _),
          fun hzero => ?_⟩, eq_digits_append _, noDigit_dropWhile _⟩
        rw [List.takeWhile_cons, if_pos hb] at hzero ⊢
        have hb0 : b = 48 := by
          have hnat := (isDigit_iff b).mp hb
          have hvalue : b.toNat - 48 = 0 := by simpa [digitValues] using hzero
          apply UInt8.toNat.inj
          show b.toNat = 48
          omega
        have hnext : NoDigit bytes := by
          intro c hc
          rw [not_and] at hlone
          have hnone := hlone hb0
          rw [Option.mem_def.mp hc] at hnone
          simpa using hnone
        rw [hnext.takeWhile_eq_nil, hb0]
        rfl

end Whole

theorem scanFraction_digits {fraction : Option (List Nat)} {rest : List UInt8} {n : Nat}
    (hds : ∀ ds, fraction = some ds → ds ≠ [] ∧ ∀ d ∈ ds, d < 10) (hrest : NoDigit rest)
    (hpoint : ∀ b ∈ rest.head?, b ≠ 46) :
    ∃ n', scanFraction n (fractionBytes fraction ++ rest) = .ok (fraction, n', rest) := by
  cases fraction with
  | none =>
    rw [fractionBytes, List.nil_append]
    cases rest with
    | nil => exact ⟨n, rfl⟩
    | cons b rest => exact ⟨n, by rw [scanFraction, if_pos (hpoint b rfl)]⟩
  | some ds =>
    obtain ⟨hne, hds⟩ := hds ds rfl
    refine ⟨n + 1 + ds.length, ?_⟩
    have hempty : (ds.map digitByte).isEmpty = false := by simpa using hne
    rw [fractionBytes, List.cons_append, scanFraction, if_neg (by simp), takeWhile_digits hds hrest,
      dropWhile_digits hds hrest]
    dsimp only
    rw [hempty, if_neg Bool.false_ne_true, digitValues_map_digitByte hds, List.length_map]

theorem of_scanFraction {bytes rest : List UInt8} {n n' : Nat} {fraction : Option (List Nat)}
    (hbytes : NoDigit bytes) (h : scanFraction n bytes = .ok (fraction, n', rest)) :
    (∀ ds, fraction = some ds → ds ≠ [] ∧ ∀ d ∈ ds, d < 10) ∧
      bytes = fractionBytes fraction ++ rest ∧ NoDigit rest := by
  cases bytes with
  | nil =>
    cases h
    exact ⟨nofun, rfl, nofun⟩
  | cons b bytes =>
    rw [scanFraction] at h
    split at h
    · cases h
      exact ⟨nofun, rfl, hbytes⟩
    next hb =>
      have hb : b = 46 := by simpa using hb
      dsimp only at h
      split at h
      · cases h
      next hempty =>
        cases h
        refine ⟨fun ds hds => ?_, ?_, noDigit_dropWhile _⟩
        · cases hds
          refine ⟨fun hnil => hempty ?_, lt_of_mem_digitValues (all_takeWhile _)⟩
          rw [List.map_eq_nil_iff.mp hnil]
          rfl
        · rw [fractionBytes, hb, List.cons_append, ← eq_digits_append]

theorem mark_ne {mark : UInt8} (hmark : mark = 101 ∨ mark = 69) :
    isDigit mark = false ∧ mark ≠ 46 := by
  rcases hmark with rfl | rfl <;> decide

theorem scanExponent_digits {exponent : Option (Bool × List Nat)} {written rest : List UInt8}
    {n : Nat} (hspells : SpellsExponent exponent written)
    (hds : ∀ negative ds, exponent = some (negative, ds) → ds ≠ [] ∧ ∀ d ∈ ds, d < 10)
    (hrest : EndsNumeral rest) :
    ∃ n', scanExponent n (written ++ rest) = .ok (exponent, n', rest) := by
  -- the digits are read alike, whatever sign stands before them
  have hdigits {mark : UInt8} (hmark : mark = 101 ∨ mark = 69) {sign : List UInt8} {ds : List Nat}
      (hds : ds ≠ [] ∧ ∀ d ∈ ds, d < 10) (hsign : sign = [] ∨ sign = [43] ∨ sign = [45]) :
      ∃ n', scanExponent n (mark :: (sign ++ (ds.map digitByte ++ rest))) =
        .ok (some (sign == [45], ds), n', rest) := by
    obtain ⟨hne, hds⟩ := hds
    obtain ⟨d, ds, rfl⟩ := List.exists_cons_of_ne_nil hne
    have hd : isDigit (digitByte d) = true := isDigit_digitByte (hds d List.mem_cons_self)
    have hplain : digitByte d ≠ 43 ∧ digitByte d ≠ 45 := by
      constructor <;> (intro heq; rw [heq] at hd; revert hd; decide)
    have htake := digitValues_takeWhile_digits hds hrest.noDigit
    have hdrop := dropWhile_digits hds hrest.noDigit
    rw [List.map_cons, List.cons_append] at htake hdrop ⊢
    rw [List.takeWhile_cons, if_pos hd] at htake
    have hmark' : ¬(mark ≠ 101 ∧ mark ≠ 69) := by
      rintro ⟨h101, h69⟩
      exact hmark.elim h101 h69
    rw [scanExponent, if_neg hmark']
    rcases hsign with rfl | rfl | rfl <;> simp [hd, htake, hdrop, hplain]
  cases hspells with
  | none =>
    rw [List.nil_append]
    cases rest with
    | nil => exact ⟨n, rfl⟩
    | cons b rest =>
      obtain ⟨-, -, h101, h69⟩ := hrest b rfl
      exact ⟨n, by rw [scanExponent, if_pos ⟨h101, h69⟩]⟩
  | unsigned hmark ds => exact hdigits hmark (hds _ _ rfl) (.inl rfl)
  | positive hmark ds => exact hdigits hmark (hds _ _ rfl) (.inr (.inl rfl))
  | negative hmark ds => exact hdigits hmark (hds _ _ rfl) (.inr (.inr rfl))

theorem of_scanExponent {bytes rest : List UInt8} {n n' : Nat}
    {exponent : Option (Bool × List Nat)} (h : scanExponent n bytes = .ok (exponent, n', rest)) :
    (∀ negative ds, exponent = some (negative, ds) → ds ≠ [] ∧ ∀ d ∈ ds, d < 10) ∧
      ∃ written, SpellsExponent exponent written ∧ bytes = written ++ rest := by
  cases bytes with
  | nil =>
    cases h
    exact ⟨nofun, [], .none, rfl⟩
  | cons b bytes =>
    rw [scanExponent] at h
    split at h
    · cases h
      exact ⟨nofun, [], .none, rfl⟩
    next hb =>
      have hmark : b = 101 ∨ b = 69 := by
        by_contra hne
        exact hb (not_or.mp hne)
      dsimp only at h
      split at h
      · cases h
      next d ds hrest' =>
        split at h
        next hd =>
          simp only [Except.ok.injEq, Prod.mk.injEq] at h
          obtain ⟨rfl, -, rfl⟩ := h
          rw [hrest']
          have hds := lt_of_mem_digitValues (all_takeWhile (d :: ds))
          refine ⟨fun _ _ heq => ?_, ?_⟩
          · cases heq
            exact ⟨digits_takeWhile_ne_nil hd, hds⟩
          · have hsplit := eq_digits_append (d :: ds)
            by_cases hplus : bytes.head? = some 43
            · obtain ⟨tail, rfl⟩ := List.head?_eq_some_iff.mp hplus
              have htail : tail = d :: ds := by simpa using hrest'
              refine ⟨_, .positive hmark _, ?_⟩
              rw [htail, List.cons_append, List.cons_append, ← hsplit]
            by_cases hminus : bytes.head? = some 45
            · obtain ⟨tail, rfl⟩ := List.head?_eq_some_iff.mp hminus
              have htail : tail = d :: ds := by simpa using hrest'
              refine ⟨_, .negative hmark _, ?_⟩
              rw [htail, List.cons_append, List.cons_append, ← hsplit]
            · have hbytes : bytes = d :: ds := by simpa [hplus, hminus] using hrest'
              rw [decide_eq_false hminus]
              refine ⟨_, .unsigned hmark _, ?_⟩
              rw [hbytes, List.cons_append, ← hsplit]
        · cases h

theorem head?_digits_ne {ds : List Nat} (hne : ds ≠ []) (hds : ∀ d ∈ ds, d < 10)
    (rest : List UInt8) : (ds.map digitByte ++ rest).head? ≠ some 45 := by
  obtain ⟨d, ds, rfl⟩ := List.exists_cons_of_ne_nil hne
  have hd := isDigit_digitByte (hds d List.mem_cons_self)
  intro h
  rw [List.map_cons, List.cons_append, List.head?_cons, Option.some.injEq] at h
  rw [h] at hd
  revert hd
  decide

theorem noDigit_exponent {exponent : Option (Bool × List Nat)} {written rest : List UInt8}
    (hspells : SpellsExponent exponent written) (hrest : EndsNumeral rest) :
    NoDigit (written ++ rest) ∧ ∀ b ∈ (written ++ rest).head?, b ≠ 46 := by
  cases hspells with
  | none => exact ⟨hrest.noDigit, fun b hb => (hrest b hb).2.1⟩
  | unsigned hmark | positive hmark | negative hmark =>
    constructor <;> (rintro b hb; cases hb)
    · exact (mark_ne hmark).1
    · exact (mark_ne hmark).2

theorem noDigit_fraction {fraction : Option (List Nat)} {rest : List UInt8} (hrest : NoDigit rest) :
    NoDigit (fractionBytes fraction ++ rest) := by
  cases fraction with
  | none => exact hrest
  | some ds =>
    rintro b hb
    cases hb
    rfl

theorem scanNumber_of_parts {negative : Bool} {digits : List UInt8} {n n₁ n₂ n₃ : Nat}
    {whole : List Nat} {fraction : Option (List Nat)} {exponent : Option (Bool × List Nat)}
    {rest₁ rest₂ rest₃ : List UInt8} (hhead : digits.head? ≠ some 45)
    (hwhole : scanWhole (if negative then n + 1 else n) digits = .ok (whole, n₁, rest₁))
    (hfraction : scanFraction n₁ rest₁ = .ok (fraction, n₂, rest₂))
    (hexponent : scanExponent n₂ rest₂ = .ok (exponent, n₃, rest₃)) :
    scanNumber n ((if negative then [45] else []) ++ digits) =
      .ok ⟨⟨negative, whole, fraction, exponent⟩, n₃, n₃ + (exponent.elim 0 fun e => e.2.length),
        rest₃⟩ := by
  rw [scanNumber]
  cases negative with
  | true =>
    simp only [if_true] at hwhole
    simp [hwhole, hfraction, hexponent, bind, Except.bind, pure, Except.pure]
  | false =>
    simp only [Bool.false_eq_true, if_false] at hwhole
    simp [hhead, hwhole, hfraction, hexponent, bind, Except.bind, pure, Except.pure]

/-- A numeral is read as far as it goes. -/
theorem scanNumber_spelled {numeral : Numeral} {written rest : List UInt8} (n : Nat)
    (hspells : numeral.Spells written) (hrest : EndsNumeral rest) :
    ∃ s, scanNumber n (written ++ rest) = .ok s ∧ s.numeral = numeral ∧ s.rest = rest := by
  obtain ⟨hwell, mark, hmark, rfl⟩ := hspells
  obtain ⟨hdigit, hpoint⟩ := noDigit_exponent hmark hrest
  have hdigit' : NoDigit (fractionBytes numeral.fraction ++ (mark ++ rest)) :=
    noDigit_fraction hdigit
  let start := if numeral.negative then n + 1 else n
  have hwhole := scanWhole_digits (n := start) hwell.whole hdigit'
  obtain ⟨n₁, hfraction⟩ := scanFraction_digits (n := start + numeral.whole.length)
    hwell.fraction hdigit hpoint
  obtain ⟨n₂, hexponent⟩ := scanExponent_digits (n := n₁) hmark hwell.exponent hrest
  have hsplit : numeral.bytes ++ mark ++ rest = (if numeral.negative then [45] else []) ++
      (numeral.whole.map digitByte ++ (fractionBytes numeral.fraction ++ (mark ++ rest))) := by
    simp only [Numeral.bytes, List.append_assoc]
  rw [hsplit]
  exact ⟨_, scanNumber_of_parts (head?_digits_ne hwell.whole.ne_nil hwell.whole.lt _) hwhole
    hfraction hexponent, rfl, rfl⟩

/-- What was read is a numeral, and the rest follows it. -/
theorem of_scanNumber {bytes : List UInt8} {n : Nat} {s : ScannedNumber}
    (h : scanNumber n bytes = .ok s) :
    ∃ written, s.numeral.Spells written ∧ bytes = written ++ s.rest := by
  rw [scanNumber] at h
  obtain ⟨⟨whole, n₁, rest₁⟩, hwhole, h⟩ := bind_eq_ok_iff.mp h
  obtain ⟨⟨fraction, n₂, rest₂⟩, hfraction, h⟩ := bind_eq_ok_iff.mp h
  obtain ⟨⟨exponent, n₃, rest₃⟩, hexponent, h⟩ := bind_eq_ok_iff.mp h
  cases h
  obtain ⟨hdigits, hbytes, hdigit⟩ := of_scanWhole hwhole
  obtain ⟨hfractionLt, rfl, -⟩ := of_scanFraction hdigit hfraction
  obtain ⟨hexponentLt, mark, hmark, rfl⟩ := of_scanExponent hexponent
  refine ⟨_, ⟨⟨hdigits, hfractionLt, hexponentLt⟩, mark, hmark, rfl⟩, ?_⟩
  rw [Numeral.bytes, List.append_assoc, List.append_assoc, List.append_assoc, ← hbytes]
  by_cases hminus : bytes.head? = some 45
  · obtain ⟨tail, rfl⟩ := List.head?_eq_some_iff.mp hminus
    rfl
  · simp [hminus]

end Json

end SeedArchive
