import SeedArchive.Archive.Manifest
import SeedArchive.Proofs.Seed.References
import SeedArchive.Proofs.Text.Split

namespace SeedArchive

namespace Timestamp

theorem toList_padded (width n : Nat) :
    (padded width n).toList =
      List.replicate (width - (Nat.toDigits 10 n).length) '0' ++ Nat.toDigits 10 n :=
  String.toList_ofList

theorem ofDigitChars_padded (width n : Nat) :
    Nat.ofDigitChars 10 (padded width n).toList 0 = n := by
  rw [toList_padded, Nat.ofDigitChars_append, Nat.ofDigitChars_replicate_zero, Nat.mul_zero,
    Nat.ofDigitChars_ten_toDigits]

theorem padded_injective (width : Nat) : Function.Injective (padded width) := by
  intro m n h
  rw [← ofDigitChars_padded width m, h, ofDigitChars_padded]

theorem isDigit_of_mem_padded {width n : Nat} {c : Char} (h : c ∈ (padded width n).toList) :
    c.isDigit = true := by
  rw [toList_padded, List.mem_append] at h
  rcases h with h | h
  · rw [List.eq_of_mem_replicate h]
    rfl
  · exact Nat.isDigit_of_mem_toDigits (by decide) (by decide) h

theorem length_padded {width n : Nat} (hwidth : 0 < width) (hn : n < 10 ^ width) :
    (padded width n).toList.length = width := by
  have hle := (Nat.length_toDigits_le_iff (by decide) hwidth).mpr hn
  rw [toList_padded, List.length_append, List.length_replicate]
  omega

/-- Numbers of two digits are known from the text that they are in. -/
theorem padded_append_inj {m n : Nat} (hm : m < 100) (hn : n < 100) {as bs : List Char}
    (h : (padded 2 m).toList ++ as = (padded 2 n).toList ++ bs) : m = n ∧ as = bs := by
  have hlength : (padded 2 m).toList.length = (padded 2 n).toList.length := by
    rw [length_padded (by decide) hm, length_padded (by decide) hn]
  obtain ⟨hdigits, hrest⟩ := List.append_inj h hlength
  exact ⟨padded_injective 2 (String.toList_injective hdigits), hrest⟩

/-- The sign of a year that has one. -/
def sign (year : Int) : Char :=
  if year < 0 then '-' else '+'

theorem toList_yearText (year : Int) :
    (yearText year).toList =
      if 0 ≤ year ∧ year ≤ 9999 then (padded 4 year.toNat).toList
      else sign year :: (padded 4 year.natAbs).toList := by
  unfold yearText sign
  split
  · rfl
  · split <;> simp

theorem sign_notMem_padded (year : Int) (width n : Nat) : sign year ∉ (padded width n).toList := by
  intro h
  have hdigit := isDigit_of_mem_padded h
  unfold sign at hdigit
  split at hdigit <;> exact absurd hdigit (by decide)

theorem sign_eq_iff (y z : Int) : sign y = sign z ↔ (y < 0 ↔ z < 0) := by
  unfold sign
  split <;> split <;> simp [*]

theorem yearText_injective : Function.Injective yearText := by
  intro y z h
  have hchars := congrArg String.toList h
  rw [toList_yearText, toList_yearText] at hchars
  -- a year has a sign in both texts or in none
  split at hchars
  next hy =>
    split at hchars
    next hz =>
      have habs := padded_injective 4 (String.toList_injective hchars)
      omega
    next hz =>
      exact absurd (hchars ▸ List.mem_cons_self) (sign_notMem_padded z 4 y.toNat)
  next hy =>
    split at hchars
    next hz =>
      exact absurd (hchars ▸ List.mem_cons_self) (sign_notMem_padded y 4 z.toNat)
    next hz =>
      obtain ⟨hsign, hdigits⟩ := List.cons.inj hchars
      have habs := padded_injective 4 (String.toList_injective hdigits)
      rw [sign_eq_iff] at hsign
      omega

/-- What follows the year. -/
def afterYear (t : Timestamp) : List Char :=
  '-' :: ((padded 2 t.month).toList ++ '-' :: ((padded 2 t.day).toList ++
    ' ' :: ((padded 2 t.hour).toList ++ ':' :: ((padded 2 t.minute).toList ++
      ':' :: ((padded 2 t.second).toList ++ [])))))

theorem toList_text (t : Timestamp) : t.text.toList = (yearText t.year).toList ++ t.afterYear := by
  simp only [text, afterYear, String.toList_append, List.append_assoc, List.append_nil]
  rfl

theorem lt_hundred (t : Timestamp) :
    t.month < 100 ∧ t.day < 100 ∧ t.hour < 100 ∧ t.minute < 100 ∧ t.second < 100 := by
  have hdays : daysInMonth t.year t.month ≤ 31 := by
    unfold daysInMonth
    split_ifs <;> omega
  have hmonth := t.month_bounds
  have hday := t.day_bounds
  have hhour := t.hour_lt
  have hminute := t.minute_lt
  have hsecond := t.second_lt
  omega

theorem length_afterYear (t : Timestamp) : t.afterYear.length = 15 := by
  obtain ⟨hmonth, hday, hhour, hminute, hsecond⟩ := t.lt_hundred
  have htwo {n : Nat} (hn : n < 100) : (padded 2 n).toList.length = 2 :=
    length_padded (by decide) hn
  simp only [afterYear, List.length_cons, List.length_append, List.length_nil, htwo hmonth,
    htwo hday, htwo hhour, htwo hminute, htwo hsecond]

theorem text_injective : Function.Injective text := by
  intro t u h
  have hchars := congrArg String.toList h
  rw [toList_text, toList_text] at hchars
  -- the year may have any length and any sign, so the text is cut at its length from the end
  obtain ⟨hyear, hafter⟩ :=
    List.append_inj' hchars (t.length_afterYear.trans u.length_afterYear.symm)
  obtain ⟨hmonth, hday, hhour, hminute, hsecond⟩ := t.lt_hundred
  obtain ⟨hmonth', hday', hhour', hminute', hsecond'⟩ := u.lt_hundred
  obtain ⟨hmonths, hafter⟩ := padded_append_inj hmonth hmonth' (List.cons.inj hafter).2
  obtain ⟨hdays, hafter⟩ := padded_append_inj hday hday' (List.cons.inj hafter).2
  obtain ⟨hhours, hafter⟩ := padded_append_inj hhour hhour' (List.cons.inj hafter).2
  obtain ⟨hminutes, hafter⟩ := padded_append_inj hminute hminute' (List.cons.inj hafter).2
  obtain ⟨hseconds, -⟩ := padded_append_inj hsecond hsecond' (List.cons.inj hafter).2
  have hyears := yearText_injective (String.toList_injective hyear)
  cases t
  cases u
  simp_all

theorem lineFeed_notMem_text (t : Timestamp) : '\n' ∉ t.text.toList := by
  have hpadded (width n : Nat) : '\n' ∉ (padded width n).toList := fun h =>
    absurd (isDigit_of_mem_padded h) (by decide)
  have hsign : '\n' ≠ sign t.year := by
    unfold sign
    split <;> decide
  rw [toList_text, toList_yearText, afterYear]
  split <;> simp [hpadded, hsign]

end Timestamp

namespace Manifest

theorem space_notMem_toString (n : Nat) : ' ' ∉ (toString n).toList := by
  rw [Nat.toString_eq_repr, Nat.toList_repr]
  intro h
  exact absurd (Nat.isDigit_of_mem_toDigits (by decide) (by decide) h) (by decide)

theorem toString_append_inj {m n : Nat} {as bs : List Char}
    (h : (toString m).toList ++ ' ' :: as = (toString n).toList ++ ' ' :: bs) :
    m = n ∧ as = bs := by
  obtain ⟨hdigits, hrest⟩ :=
    eq_of_append_cons_eq (space_notMem_toString m) (space_notMem_toString n) h
  exact ⟨toString_injective (String.toList_injective hdigits), hrest⟩

/-- Around the date and the two numbers, the text of any manifest is that of `m₀`. -/
theorem exists_toList_text (s : Settings) (m₀ : Manifest) :
    ∃ opening company between closing : List Char, ∀ m : Manifest, (m.text s).toList =
      opening ++ (m.exportedAt.text.toList ++ '\n' :: (company ++
        ((toString m.accounts).toList ++ ' ' :: (between ++
          ((toString m.templates).toList ++ ' ' :: closing))))) := by
  let written (lines : List String) : String := String.join (lines.map (· ++ "\n"))
  refine ⟨(written ((m₀.lines s).take 2) ++ dateLabel).toList,
    (written (((m₀.lines s).drop 3).take 8) ++ "- Chart of Accounts: ").toList,
    ("records" ++ "\n" ++ "- Journal Templates: ").toList,
    ("records" ++ "\n" ++ written ((m₀.lines s).drop 13)).toList, fun m => ?_⟩
  simp only [written, text, lines, List.cons_append, List.nil_append, List.map_cons,
    String.join_cons, String.append_assoc, List.take_succ_cons, List.take_zero,
    List.drop_succ_cons, List.drop_zero, List.map_nil, String.join_nil, String.append_empty,
    String.toList_append, List.append_assoc]
  rfl

/-- With the same settings, a manifest tells when an archive was made and how much is in it,
whatever the settings say. -/
theorem text_eq_iff (s : Settings) (m n : Manifest) : m.text s = n.text s ↔ m = n := by
  refine ⟨fun h => ?_, fun h => h ▸ rfl⟩
  obtain ⟨opening, company, between, closing, htext⟩ := exists_toList_text s m
  have hchars := congrArg String.toList h
  rw [htext, htext] at hchars
  obtain ⟨hdate, hrest⟩ := eq_of_append_cons_eq m.exportedAt.lineFeed_notMem_text
    n.exportedAt.lineFeed_notMem_text (List.append_cancel_left hchars)
  obtain ⟨haccounts, hrest⟩ := toString_append_inj (List.append_cancel_left hrest)
  obtain ⟨htemplates, -⟩ := toString_append_inj (List.append_cancel_left hrest)
  have hexported := Timestamp.text_injective (String.toList_injective hdate)
  cases m
  cases n
  simp_all

end Manifest

end SeedArchive
