import SeedArchive.Csv.Records
import SeedArchive.Proofs.Csv.Returns
import SeedArchive.Proofs.Text.Utf8

namespace SeedArchive.Csv

/-- A draft of characters as the draft of their bytes. -/
def Draft.bytes (d : Draft Char) : Draft UInt8 :=
  ⟨d.stand, d.fields.map Utf8.encode, (Utf8.encode d.field.reverse).reverse⟩

def Progress.bytes (p : Progress Char) : Progress UInt8 :=
  ⟨p.ended.map (·.map Utf8.encode), p.draft.bytes⟩

@[simp]
theorem bytes_finish (d : Draft Char) : d.bytes.finish = d.finish.map Utf8.encode := by
  simp [Draft.bytes, Draft.finish]

theorem bytes_push (d : Draft Char) (c : Char) (stand : Stand) :
    (d.push c stand).bytes =
      { d.bytes with stand, field := (String.utf8EncodeChar c).reverse ++ d.bytes.field } := by
  simp [Draft.bytes, Draft.push]

theorem toNat_ofNat_ascii {c : Char} (h : c.toNat < 0x80) :
    (UInt8.ofNat c.toNat).toNat = c.toNat := by
  rw [UInt8.toNat_ofNat']
  omega

theorem ofNat_ascii_eq_iff {c d : Char} (hc : c.toNat < 0x80) (hd : d.toNat < 0x80) :
    UInt8.ofNat c.toNat = UInt8.ofNat d.toNat ↔ c = d := by
  rw [← UInt8.toNat_inj, toNat_ofNat_ascii hc, toNat_ofNat_ascii hd, Char.toNat_inj]

/-- An ASCII character is one byte, which means the same to a reader of bytes. -/
theorem step_bytes_ascii (p : Progress Char) {c : Char} (h : c.toNat < 0x80) :
    Marks.bytes.step p.bytes (UInt8.ofNat c.toNat) = (Marks.lineEnds.step p c).bytes := by
  have hcomma : UInt8.ofNat c.toNat = Marks.bytes.comma ↔ c = Marks.lineEnds.comma :=
    ofNat_ascii_eq_iff h (d := ',') (by decide)
  have hquote : UInt8.ofNat c.toNat = Marks.bytes.quote ↔ c = Marks.lineEnds.quote :=
    ofNat_ascii_eq_iff h (d := '"') (by decide)
  have hends : Marks.bytes.ends (UInt8.ofNat c.toNat) = Marks.lineEnds.ends c := by
    have hfeed : UInt8.ofNat c.toNat = 10 ↔ c = '\n' :=
      ofNat_ascii_eq_iff h (d := '\n') (by decide)
    have hreturn : UInt8.ofNat c.toNat = 13 ↔ c = '\r' :=
      ofNat_ascii_eq_iff h (d := '\r') (by decide)
    simp [Marks.bytes, Marks.lineEnds, hfeed, hreturn]
  have hpush (stand : Stand) :
      p.draft.bytes.push (UInt8.ofNat c.toNat) stand = (p.draft.push c stand).bytes := by
    rw [bytes_push, Utf8.encodeChar_ascii h]
    rfl
  have houtside : p.draft.bytes.outsideQuotes Marks.bytes (UInt8.ofNat c.toNat) =
      (p.draft.outsideQuotes Marks.lineEnds c).bytes := by
    simp only [Draft.outsideQuotes, hcomma, hpush]
    split
    · simp [Draft.bytes, Draft.endField]
    · rfl
  have hread : p.draft.bytes.read Marks.bytes (UInt8.ofNat c.toNat) =
      (p.draft.read Marks.lineEnds c).bytes := by
    have hstand : p.draft.bytes.stand = p.draft.stand := rfl
    simp only [Draft.read, hstand, hquote, houtside, hpush]
    cases p.draft.stand <;> simp only <;> split <;> rfl
  have hstand : p.bytes.draft.stand = p.draft.stand := rfl
  have hlines : Marks.bytes.blankLines = Marks.lineEnds.blankLines := rfl
  simp only [Marks.step, hends, hstand, hlines]
  split
  · split
    · rfl
    · simp [Progress.bytes, Draft.bytes, Draft.finish]
  · exact congrArg (Progress.mk p.bytes.ended) hread

theorem foldl_encodeChar (p : Progress Char) (c : Char) :
    (String.utf8EncodeChar c).foldl Marks.bytes.step p.bytes = (Marks.lineEnds.step p c).bytes := by
  by_cases h : c.toNat < 0x80
  · rw [Utf8.encodeChar_ascii h]
    exact step_bytes_ascii p h
  · have hhigh : ∀ b ∈ String.utf8EncodeChar c, 0x80 ≤ b.toNat :=
      fun b hb => Utf8.le_of_mem_encodeChar (by omega) hb
    have hbytes : ∀ b ∈ String.utf8EncodeChar c,
        b ≠ Marks.bytes.comma ∧ b ≠ Marks.bytes.quote ∧ Marks.bytes.ends b = false := by
      intro b hb
      have hle := hhigh b hb
      refine ⟨?_, ?_, ?_⟩
      · rintro rfl
        exact absurd hle (by decide)
      · rintro rfl
        exact absurd hle (by decide)
      · have hfeed : b ≠ 10 := by rintro rfl; exact absurd hle (by decide)
        have hreturn : b ≠ 13 := by rintro rfl; exact absurd hle (by decide)
        simp [Marks.bytes, hfeed, hreturn]
    have hcomma : c ≠ Marks.lineEnds.comma := by rintro rfl; exact h (by decide)
    have hquote : c ≠ Marks.lineEnds.quote := by rintro rfl; exact h (by decide)
    have hends : Marks.lineEnds.ends c = false := by
      have hfeed : c ≠ '\n' := by rintro rfl; exact h (by decide)
      have hreturn : c ≠ '\r' := by rintro rfl; exact h (by decide)
      simp [Marks.lineEnds, hfeed, hreturn]
    by_cases hs : p.draft.stand = .quoted
    · rw [Marks.bytes.foldl_quoted (fun b hb => (hbytes b hb).2.1) hs,
        Marks.lineEnds.step_of_quoted hquote hs]
      simp only [Progress.bytes, bytes_push]
      simp [Draft.bytes, hs]
    · rw [Marks.bytes.foldl_ordinary String.utf8EncodeChar_ne_nil hbytes hs,
        Marks.lineEnds.step_of_ordinary hcomma hquote hends hs]
      simp only [Progress.bytes, bytes_push]

/-- Reading bytes is reading the characters that they store. -/
theorem foldl_encode (p : Progress Char) (cs : List Char) :
    (Utf8.encode cs).foldl Marks.bytes.step p.bytes = (cs.foldl Marks.lineEnds.step p).bytes := by
  induction cs generalizing p with
  | nil => rfl
  | cons c cs ih => rw [Utf8.encode_cons, List.foldl_append, foldl_encodeChar, ih, List.foldl_cons]

theorem records_bytes (p : Progress Char) :
    p.bytes.records = p.records.map (·.map Utf8.encode) := by
  have hstand : p.bytes.draft.stand = p.draft.stand := rfl
  have hfinish : p.bytes.draft.finish = p.draft.finish.map Utf8.encode := bytes_finish p.draft
  simp only [Progress.records, hstand, hfinish]
  split <;> simp [Progress.bytes]

theorem records_encode (cs : List Char) :
    Marks.bytes.records (Utf8.encode cs) =
      (Marks.lineEnds.records cs).map (·.map Utf8.encode) := by
  have hread : (Utf8.encode cs).foldl Marks.bytes.step {} =
      (cs.foldl Marks.lineEnds.step {}).bytes := foldl_encode {} cs
  rw [Marks.records, Marks.records, hread, records_bytes]

/-- The places that `split` keeps have no influence on the records. -/
theorem split_spec (n feeds start startFeeds : Nat) (d : Draft UInt8)
    (ended : List (List (List UInt8))) (content : List UInt8) :
    (content.foldl Marks.bytes.step ⟨ended, d⟩).ended =
        ((split n feeds start startFeeds d content).ended.map RawRecord.fields).reverse ++ ended ∧
      ((split n feeds start startFeeds d content).last.map RawRecord.fields) =
        if (content.foldl Marks.bytes.step ⟨ended, d⟩).draft.stand = .outside then none
        else some (content.foldl Marks.bytes.step ⟨ended, d⟩).draft.finish := by
  -- both readers go through the bytes with the same draft; the places are carried along only
  induction content generalizing n feeds start startFeeds d ended with
  | nil => by_cases ho : d.stand = .outside <;> simp [split, ho]
  | cons b content ih =>
    by_cases hends : Marks.bytes.ends b = true ∧ d.stand ≠ .quoted
    · by_cases ho : d.stand = .outside
      · have hblank : d.stand = .outside ∧ ¬ Marks.bytes.blankLines = true :=
          ⟨ho, by simp [Marks.bytes]⟩
        simp only [List.foldl_cons, Marks.step, split, if_pos hends, if_pos hblank, if_pos ho]
        exact ih _ _ _ _ _ _
      · have hblank : ¬ (d.stand = .outside ∧ ¬ Marks.bytes.blankLines = true) := fun h => ho h.1
        simp only [List.foldl_cons, Marks.step, split, if_pos hends, if_neg hblank, if_neg ho]
        obtain ⟨hended, hlast⟩ := ih (n + 1) (if b = 10 then feeds + 1 else feeds) (n + 1)
          (if b = 10 then feeds + 1 else feeds) {} (d.finish :: ended)
        refine ⟨?_, hlast⟩
        rw [hended]
        simp
    · simp only [List.foldl_cons, Marks.step, split, if_neg hends]
      exact ih _ _ _ _ _ _

theorem records_split (content : List UInt8) :
    ((split 0 0 0 0 {} content).ended ++ (split 0 0 0 0 {} content).last.toList).map
      RawRecord.fields = Marks.bytes.records content := by
  obtain ⟨hended, hlast⟩ := split_spec 0 0 0 0 {} [] content
  rw [Marks.records, Progress.records, hended, List.map_append]
  congr 1
  · simp
  · rw [← Option.toList_map, hlast]
    split <;> simp

theorem records_of_ascii {c : Char} (h : c.toNat < 0x80) (cs : List Char) :
    records (Utf8.encode (c :: cs)) = split 0 0 0 0 {} (Utf8.encode (c :: cs)) := by
  rw [Utf8.encode_cons, Utf8.encodeChar_ascii h, List.singleton_append]
  unfold records
  split
  next heq =>
    have hb := congrArg UInt8.toNat (List.cons.inj heq).1
    rw [toNat_ofNat_ascii h] at hb
    exact absurd (hb ▸ h) (by decide)
  next => rfl

theorem fieldTexts_encode (spot : Spot) (i : Nat) (fields : List (List Char)) :
    fieldTexts spot i (fields.map Utf8.encode) = .ok (fields.map String.ofList) := by
  induction fields generalizing i with
  | nil => rfl
  | cons f fields ih =>
    simp only [List.map_cons, fieldTexts, Utf8.decode_encode, ih]
    rfl

theorem texts_cons_eq_ok_iff {width n : Nat} {raw : RawRecord} {raws : List RawRecord}
    {rows : List (List String)} :
    texts width n (raw :: raws) = .ok rows ↔
      raw.fields.length = width ∧ ∃ fields more,
        fieldTexts (if n = 1 then ⟨0, 1, 0⟩ else raw.spot n) 0 raw.fields = .ok fields ∧
          texts width (n + 1) raws = .ok more ∧ rows = fields :: more := by
  by_cases hwidth : raw.fields.length = width
  · simp only [texts, hwidth, ne_eq, not_true_eq_false, if_false]
    cases fieldTexts (if n = 1 then ⟨0, 1, 0⟩ else raw.spot n) 0 raw.fields with
    | error fault => simp [bind, Except.bind]
    | ok fields =>
      cases texts width (n + 1) raws with
      | error fault => simp [bind, Except.bind]
      | ok more => simp [bind, Except.bind, pure, Except.pure, eq_comm]
  · simp [texts, hwidth, throw, throwThe, MonadExceptOf.throw, bind, Except.bind]

theorem texts_eq_ok_iff {width n : Nat} {raws : List RawRecord}
    {records : List (List (List Char))} {rows : List (List String)}
    (h : raws.map RawRecord.fields = records.map (·.map Utf8.encode)) :
    texts width n raws = .ok rows ↔
      (∀ r ∈ records, r.length = width) ∧ rows = records.map (·.map String.ofList) := by
  induction raws generalizing n records rows with
  | nil =>
    have hnil : records = [] := by simpa using h.symm
    simp [texts, hnil, eq_comm]
  | cons raw raws ih =>
    cases records with
    | nil => simp at h
    | cons r records =>
      obtain ⟨hraw, hraws⟩ := List.cons.inj h
      have hlength : raw.fields.length = r.length := by rw [hraw, List.length_map]
      rw [texts_cons_eq_ok_iff, hlength, hraw, fieldTexts_encode]
      simp only [ih hraws, List.forall_mem_cons, List.map_cons]
      constructor
      · rintro ⟨hwidth, fields, more, hfields, ⟨hall, rfl⟩, rfl⟩
        cases hfields
        exact ⟨⟨hwidth, hall⟩, rfl⟩
      · rintro ⟨⟨hwidth, hall⟩, rfl⟩
        exact ⟨hwidth, _, _, rfl, ⟨hall, rfl⟩, rfl⟩

/-- A table is read if all its records are as long as the first. -/
theorem read_encode_eq_ok_iff {c : Char} {cs : List Char} (hc : c.toNat < 0x80)
    {header : List (List Char)} {records : List (List (List Char))}
    (h : Marks.lineEnds.records (c :: cs) = header :: records) {rows : List (List String)} :
    read (Utf8.encode (c :: cs)) = .ok rows ↔
      (∀ r ∈ records, r.length = header.length) ∧ rows = records.map (·.map String.ofList) := by
  have hraws := records_split (Utf8.encode (c :: cs))
  rw [records_encode, h] at hraws
  rw [read, records_of_ascii hc]
  generalize (split 0 0 0 0 {} (Utf8.encode (c :: cs))).ended ++
    (split 0 0 0 0 {} (Utf8.encode (c :: cs))).last.toList = raws at hraws
  cases raws with
  | nil => simp at hraws
  | cons raw raws =>
    obtain ⟨hraw, hraws⟩ := List.cons.inj hraws
    have hlength : raw.fields.length = header.length := by rw [hraw, List.length_map]
    simp only [checked, hlength]
    exact texts_eq_ok_iff hraws

end SeedArchive.Csv
