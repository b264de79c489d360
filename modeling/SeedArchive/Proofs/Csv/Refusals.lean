import SeedArchive.Proofs.Csv.Bytes

namespace SeedArchive.Csv

/-- The records of a content with its header, whether the last one is ended or not. -/
def rawRecords (content : List UInt8) : List RawRecord :=
  (records content).ended ++ (records content).last.toList

/-- A record is refused if it has another number of fields than the header, or if a field is no
text. -/
def RawRecord.Refused (r header : RawRecord) : Prop :=
  r.fields.length ≠ header.fields.length ∨ ∃ field ∈ r.fields, Utf8.text? field = none

/-- A content is refused for any record after its header. -/
def Refused (content : List UInt8) : Prop :=
  ∃ header rest, rawRecords content = header :: rest ∧ ∃ r ∈ rest, r.Refused header

theorem exists_fieldTexts_eq_ok_iff {spot : Spot} {i : Nat} {fields : List (List UInt8)} :
    (∃ texts, fieldTexts spot i fields = .ok texts) ↔
      ∀ field ∈ fields, Utf8.text? field ≠ none := by
  induction fields generalizing i with
  | nil => simp [fieldTexts]
  | cons field fields ih =>
    rw [List.forall_mem_cons, ← ih (i := i + 1), fieldTexts, Utf8.text?]
    cases Utf8.decode field with
    | error valid => simp [bind, Except.bind]
    | ok chars =>
      cases fieldTexts spot (i + 1) fields <;> simp [bind, Except.bind, pure, Except.pure]

theorem exists_texts_eq_ok_iff {header : RawRecord} {n : Nat} {raws : List RawRecord} :
    (∃ rows, texts header.fields.length n raws = .ok rows) ↔ ∀ r ∈ raws, ¬ r.Refused header := by
  induction raws generalizing n with
  | nil => simp [texts]
  | cons r raws ih =>
    have hread : ¬ r.Refused header ↔ r.fields.length = header.fields.length ∧
        ∃ fields, fieldTexts (if n = 1 then ⟨0, 1, 0⟩ else r.spot n) 0 r.fields = .ok fields := by
      rw [exists_fieldTexts_eq_ok_iff, RawRecord.Refused, not_or, not_not]
      simp
    rw [List.forall_mem_cons, hread, ← ih (n := n + 1)]
    constructor
    · rintro ⟨rows, hrows⟩
      obtain ⟨hlength, fields, more, hfields, hmore, -⟩ := texts_cons_eq_ok_iff.mp hrows
      exact ⟨⟨hlength, fields, hfields⟩, more, hmore⟩
    · rintro ⟨⟨hlength, fields, hfields⟩, more, hmore⟩
      exact ⟨_, texts_cons_eq_ok_iff.mpr ⟨hlength, fields, more, hfields, hmore, rfl⟩⟩

theorem length_of_texts_eq_ok {width n : Nat} {raws : List RawRecord} {rows : List (List String)}
    (h : texts width n raws = .ok rows) : rows.length = raws.length := by
  induction raws generalizing n rows with
  | nil =>
    cases h
    rfl
  | cons r raws ih =>
    obtain ⟨-, fields, more, -, hmore, rfl⟩ := texts_cons_eq_ok_iff.mp h
    rw [List.length_cons, List.length_cons, ih hmore]

/-- A content that is not refused is read, and all its records but the header are told. -/
theorem read_cases (content : List UInt8) :
    (Refused content ∧ ∃ fault, read content = .error fault) ∨
      ¬ Refused content ∧ ∃ rows, read content = .ok rows ∧
        rows.length = (rawRecords content).length - 1 := by
  have hread : read content = checked (rawRecords content) := rfl
  rw [hread, Refused]
  cases hraw : rawRecords content with
  | nil => exact .inr ⟨by simp, [], rfl, rfl⟩
  | cons header rest =>
    have hrefused : (∃ header' rest', header :: rest = header' :: rest' ∧
        ∃ r ∈ rest', r.Refused header') ↔ ∃ r ∈ rest, r.Refused header := by
      constructor
      · rintro ⟨header', rest', heq, h⟩
        cases heq
        exact h
      · exact fun h => ⟨header, rest, rfl, h⟩
    rw [hrefused, checked]
    cases htexts : texts header.fields.length 1 rest with
    | error fault =>
      refine .inl ⟨?_, fault, rfl⟩
      by_contra hnone
      obtain ⟨rows, hrows⟩ := exists_texts_eq_ok_iff.mpr fun r hr hbad => hnone ⟨r, hr, hbad⟩
      cases htexts.symm.trans hrows
    | ok rows =>
      refine .inr ⟨?_, rows, rfl, length_of_texts_eq_ok htexts⟩
      rintro ⟨r, hr, hbad⟩
      exact exists_texts_eq_ok_iff.mp ⟨rows, htexts⟩ r hr hbad

end SeedArchive.Csv
