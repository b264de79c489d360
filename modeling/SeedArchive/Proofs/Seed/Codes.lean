import SeedArchive.Proofs.Json.Literals
import SeedArchive.Seed.Account

namespace SeedArchive

namespace Json

section Spelled

variable {source : Source} {n : Numeral} {literal : List UInt8} (h : n.Spells literal)

include h

theorem eq_printed_of_integral (hintegral : n.Integral) : literal = n.printed := by
  obtain ⟨-, exponent, hexponent, rfl⟩ := h
  rw [hintegral.2] at hexponent
  cases hexponent
  rw [Numeral.printed, hintegral.2, Numeral.printedExponent]

/-- Whatever comes back as it was written is an integer of 64 bits or a canonical numeral. -/
theorem asWritten_of_text {v : Json}
    (hv : decode source (fun depth node => node.value depth) literal = .ok v)
    (htext : Utf8.bytes v.text = literal) : n.AsWritten literal := by
  obtain ⟨k, hk, rfl⟩ := (decode_literal h).mp hv
  cases k with
  | int k =>
    have hfits := Numeral.fits_of_value_int hk
    exact ⟨.inl hfits, eq_printed_of_integral h hfits.1⟩
  | real negative x =>
    obtain ⟨n₀, hcanonical, -, -, hbytes⟩ :=
      Numeral.Canonical.exists_printed negative (Binary64.normal_of_value hk)
    have hprinted : literal = n₀.printed := htext.symm.trans hbytes
    have hspells := hcanonical.wellFormed.spells_printed
    rw [← hprinted] at hspells
    rw [h.eq hspells]
    exact ⟨.inr hcanonical, hprinted⟩

theorem text_of_asWritten (hn : n.Integral ∨ n.Short) (hwritten : n.AsWritten literal) :
    ∃ v, decode source (fun depth node => node.value depth) literal = .ok v ∧
      Utf8.bytes v.text = literal := by
  obtain ⟨⟨hintegral, hfits⟩ | hcanonical, hliteral⟩ := hwritten
  · obtain ⟨k, hk, htext⟩ := hintegral.exists_int h.wellFormed.whole hfits
    refine ⟨_, (decode_literal h).mpr ⟨_, hk, rfl⟩, ?_⟩
    rw [hliteral, Numeral.printed, hintegral.2, Numeral.printedExponent, List.append_nil]
    exact htext
  · obtain ⟨x, n₀, hvalue, hcanonical₀, hnegative, hamount, hbytes⟩ :=
      (hn.resolve_left hcanonical.not_integral).exists_canonical
    refine ⟨_, (decode_literal h).mpr ⟨_, hvalue, rfl⟩, ?_⟩
    rw [hliteral, ← hbytes.trans (congrArg Numeral.printed
      (hcanonical₀.eq_of_amount_eq hcanonical hnegative hamount))]
    rfl

theorem text_eq_iff_of_short {n' : Numeral} {literal' : List UInt8} (h' : n'.Spells literal')
    (hshort : n.Short) (hshort' : n'.Short) :
    ∃ v v', decode source (fun depth node => node.value depth) literal = .ok v ∧
      decode source (fun depth node => node.value depth) literal' = .ok v' ∧
      (v.text = v'.text ↔ n.negative = n'.negative ∧ n.amount = n'.amount) := by
  obtain ⟨x, n₀, hvalue, hcanonical, hnegative, hamount, hbytes⟩ := hshort.exists_canonical
  obtain ⟨x', n₀', hvalue', hcanonical', hnegative', hamount', hbytes'⟩ :=
    hshort'.exists_canonical
  refine ⟨_, _, (decode_literal h).mpr ⟨_, hvalue, rfl⟩,
    (decode_literal h').mpr ⟨_, hvalue', rfl⟩, ?_⟩
  show (Number.real n.negative x).text = (Number.real n'.negative x').text ↔ _
  rw [← Utf8.bytes_injective.eq_iff, hbytes, hbytes', ← hnegative, ← hnegative', ← hamount,
    ← hamount']
  constructor
  · intro hprinted
    have hspells := hcanonical'.wellFormed.spells_printed
    rw [← hprinted] at hspells
    rw [hcanonical.wellFormed.spells_printed.eq hspells]
    exact ⟨rfl, rfl⟩
  · rintro ⟨hsign, hvalue⟩
    rw [hcanonical.eq_of_amount_eq hcanonical' hsign hvalue]

/-- Only integers of 64 bits and canonical numerals come back as they are written. All such integers
do, and the others if they are short. Short numerals have one text just if they have one sign and
one amount. -/
theorem text_literal (source : Source) :
    (∀ v, decode source (fun depth node => node.value depth) literal = .ok v →
      Utf8.bytes v.text = literal → n.AsWritten literal) ∧
    (n.Integral ∨ n.Short → n.AsWritten literal →
      ∃ v, decode source (fun depth node => node.value depth) literal = .ok v ∧
        Utf8.bytes v.text = literal) ∧
    ∀ (n' : Numeral) (literal' : List UInt8), n'.Spells literal' → n.Short → n'.Short →
      ∃ v v', decode source (fun depth node => node.value depth) literal = .ok v ∧
        decode source (fun depth node => node.value depth) literal' = .ok v' ∧
        (v.text = v'.text ↔ n.negative = n'.negative ∧ n.amount = n'.amount) :=
  ⟨fun _ => asWritten_of_text h, text_of_asWritten h, fun _ _ h' => text_eq_iff_of_short h h'⟩

end Spelled

/-- The numeral `1.10`. -/
def paddedCode : Numeral :=
  ⟨false, [1], some [1, 0], none⟩

/-- The numeral `1.1`. -/
def plainCode : Numeral :=
  ⟨false, [1], some [1], none⟩

theorem spells_codes :
    paddedCode.Spells (Utf8.bytes "1.10") ∧ plainCode.Spells (Utf8.bytes "1.1") := by
  have hpoint {ds : List Nat} (hne : ds ≠ []) (hlt : ∀ d ∈ ds, d < 10) :
      Numeral.WellFormed ⟨false, [1], some ds, none⟩ := by
    refine ⟨⟨by simp, by simp, by simp⟩, ?_, nofun⟩
    rintro _ ⟨⟩
    exact ⟨hne, hlt⟩
  exact ⟨⟨hpoint (by simp) (by simp), [], .none, by rfl⟩,
    ⟨hpoint (by simp) (by simp), [], .none, by rfl⟩⟩

theorem short_codes : paddedCode.Short ∧ plainCode.Short :=
  ⟨⟨nofun, by decide, nofun, by decide, by decide⟩, ⟨nofun, by decide, nofun, by decide, by decide⟩⟩

theorem amount_codes : paddedCode.amount = plainCode.amount := by
  have hpadded : paddedCode.amount = (110 : Nat) * 10 ^ (-2 : Int) := by rfl
  have hplain : plainCode.amount = (11 : Nat) * 10 ^ (-1 : Int) := by rfl
  rw [hpadded, hplain]
  norm_num

theorem canonical_plainCode : plainCode.Canonical := by
  have hds : Numeral.Significant ([1] ++ [1]) := ⟨⟨by simp, by simp, by simp⟩, by simp⟩
  exact .nonzero hds (.pointed (by simp) (by simp) (by simp))

theorem not_asWritten_paddedCode (written : List UInt8) : ¬paddedCode.AsWritten written := by
  rintro ⟨⟨hintegral, -⟩ | hcanonical, -⟩
  · exact short_codes.1.not_integral hintegral
  · exact absurd (hcanonical.eq_of_amount_eq canonical_plainCode rfl amount_codes) (by decide)

theorem text_literal_codes :
    paddedCode.Spells (Utf8.bytes "1.10") ∧ plainCode.Spells (Utf8.bytes "1.1") ∧
    (∃ v, decode .streamed (fun depth node => node.value depth) (Utf8.bytes "1.1") = .ok v ∧
      Utf8.bytes v.text = Utf8.bytes "1.1") ∧
    ∃ v v', decode .streamed (fun depth node => node.value depth) (Utf8.bytes "1.10") = .ok v ∧
      decode .streamed (fun depth node => node.value depth) (Utf8.bytes "1.1") = .ok v' ∧
      v.text = v'.text ∧ Utf8.bytes v.text ≠ Utf8.bytes "1.10" := by
  obtain ⟨hpadded, hplain⟩ := spells_codes
  obtain ⟨hshort, hshort'⟩ := short_codes
  obtain ⟨honly, -, hmerged⟩ := text_literal hpadded .streamed
  obtain ⟨v, v', hv, hv', htext⟩ := hmerged _ _ hplain hshort hshort'
  have hkept :=
    (text_literal hplain .streamed).2.1 (.inr hshort') ⟨.inr canonical_plainCode, by rfl⟩
  refine ⟨hpadded, hplain, hkept, v, v', hv, hv', htext.mpr ⟨rfl, amount_codes⟩, fun hsame => ?_⟩
  exact not_asWritten_paddedCode _ (honly v hv hsame)

/-- Two accounts whose codes are spelled differently have one code. -/
theorem decode_codes :
    decode .streamed Account.chart.read
        (Utf8.bytes "\x7b\"accounts\":[\x7b\"code\":1.10\x7d,\x7b\"code\":1.1\x7d]\x7d") =
      .ok [{ code := "1.1" }, { code := "1.1" }] := by
  apply eq_ok_of_toOption
  decide +kernel

end Json

end SeedArchive
