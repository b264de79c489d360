import SeedArchive.Csv.Draft
import SeedArchive.Csv.Table

namespace SeedArchive.Csv

namespace Marks

section Steps

variable {α : Type} [DecidableEq α] (m : Marks α) {p : Progress α} {b : α}

theorem step_of_ends (hb : m.ends b = true) (hq : p.draft.stand ≠ .quoted)
    (ho : p.draft.stand = .outside → m.blankLines = true) :
    m.step p b = ⟨p.draft.finish :: p.ended, {}⟩ := by
  have hblank : ¬ (p.draft.stand = .outside ∧ ¬ m.blankLines) := by
    rintro ⟨h, hl⟩
    exact hl (ho h)
  simp only [step, hb, hq, ne_eq, not_false_eq_true, and_self, if_true, if_neg hblank]

theorem step_of_blank (hb : m.ends b = true) (ho : p.draft.stand = .outside)
    (hl : m.blankLines = false) : m.step p b = p := by
  simp [step, hb, ho, hl]

theorem step_comma (hq : p.draft.stand ≠ .quoted) :
    m.step p m.comma = { p with draft := p.draft.endField } := by
  have hc := m.comma_ne_quote
  cases hs : p.draft.stand <;>
    simp_all [step, Draft.read, Draft.outsideQuotes, m.ends_comma]

theorem step_of_ordinary (hc : b ≠ m.comma) (hq : b ≠ m.quote) (he : m.ends b = false)
    (hs : p.draft.stand ≠ .quoted) : m.step p b = { p with draft := p.draft.push b .plain } := by
  cases h : p.draft.stand <;> simp_all [step, Draft.read, Draft.outsideQuotes]

theorem step_of_quoted (hq : b ≠ m.quote) (hs : p.draft.stand = .quoted) :
    m.step p b = { p with draft := p.draft.push b .quoted } := by
  simp [step, Draft.read, hs, hq]

theorem step_opening (hs : p.draft.stand = .outside ∨ p.draft.stand = .fieldStart) :
    m.step p m.quote = { p with draft := { p.draft with stand := .quoted } } := by
  rcases hs with hs | hs <;> simp [step, Draft.read, hs, m.ends_quote]

theorem step_closing (hs : p.draft.stand = .quoted) :
    m.step p m.quote = { p with draft := { p.draft with stand := .afterQuote } } := by
  simp [step, Draft.read, hs]

theorem step_doubled (hs : p.draft.stand = .afterQuote) :
    m.step p m.quote = { p with draft := p.draft.push m.quote .quoted } := by
  simp [step, Draft.read, hs, m.ends_quote]

theorem foldl_ordinary {bs : List α} (hne : bs ≠ [])
    (hb : ∀ b ∈ bs, b ≠ m.comma ∧ b ≠ m.quote ∧ m.ends b = false)
    (hs : p.draft.stand ≠ .quoted) :
    bs.foldl m.step p =
      { p with
        draft := { p.draft with stand := .plain, field := bs.reverse ++ p.draft.field } } := by
  induction bs generalizing p with
  | nil => exact absurd rfl hne
  | cons b bs ih =>
    obtain ⟨hc, hq, he⟩ := hb b (by simp)
    rw [List.foldl_cons, m.step_of_ordinary hc hq he hs]
    by_cases hbs : bs = []
    · simp [hbs, Draft.push]
    · rw [ih hbs (fun c h => hb c (List.mem_cons_of_mem b h)) (by simp [Draft.push])]
      simp [Draft.push]

theorem foldl_quoted {bs : List α} (hb : ∀ b ∈ bs, b ≠ m.quote) (hs : p.draft.stand = .quoted) :
    bs.foldl m.step p =
      { p with draft := { p.draft with field := bs.reverse ++ p.draft.field } } := by
  induction bs generalizing p with
  | nil => rfl
  | cons b bs ih =>
    rw [List.foldl_cons, m.step_of_quoted (hb b (by simp)) hs,
      ih (fun c h => hb c (List.mem_cons_of_mem b h)) (by simp [Draft.push])]
    simp [Draft.push, hs]

/-- Records that are ended stay as they are. -/
theorem ended_suffix_foldl (p : Progress α) (bs : List α) :
    p.ended <:+ (bs.foldl m.step p).ended := by
  induction bs generalizing p with
  | nil => exact List.suffix_refl p.ended
  | cons b bs ih =>
    have hstep : p.ended <:+ (m.step p b).ended := by
      unfold step
      split
      · split
        · exact List.suffix_refl p.ended
        · exact List.suffix_cons p.draft.finish p.ended
      · exact List.suffix_refl p.ended
    exact hstep.trans (ih (m.step p b))

end Steps

/-- The marks of the tables that are written here. -/
structure OfTables (m : Marks Char) : Prop where
  comma : m.comma = ','
  quote : m.quote = '"'
  ends_lineFeed : m.ends '\n' = true

/-- A field that is read as one: it is quoted, or nothing in it ends a record. -/
def Spares (m : Marks Char) (s : String) : Prop :=
  s.toList.any needsQuotes = true ∨ ∀ c ∈ s.toList, m.ends c = false

end Marks

/-- A field is about to start. -/
def Progress.AtField {α : Type} (p : Progress α) : Prop :=
  (p.draft.stand = .outside ∨ p.draft.stand = .fieldStart) ∧ p.draft.field = []

/-- A row as it is written: its fields are escaped. -/
def rowText (row : List String) : List Char :=
  (join (row.map escape)).toList ++ ['\n']

theorem toList_escape (s : String) :
    (escape s).toList =
      if s.toList.any needsQuotes then '"' :: s.toList.flatMap double ++ ['"'] else s.toList := by
  unfold escape
  split <;> simp

theorem rowText_singleton (s : String) : rowText [s] = (escape s).toList ++ ['\n'] := rfl

theorem rowText_cons_cons (s t : String) (row : List String) :
    rowText (s :: t :: row) = (escape s).toList ++ ',' :: rowText (t :: row) := by
  simp [rowText, join]

namespace Marks

variable {m : Marks Char} {p : Progress Char}

theorem foldl_double (hm : m.OfTables) (cs : List Char) (hs : p.draft.stand = .quoted) :
    (cs.flatMap double).foldl m.step p =
      { p with draft := { p.draft with field := cs.reverse ++ p.draft.field } } := by
  induction cs generalizing p with
  | nil => rfl
  | cons c cs ih =>
    rw [List.flatMap_cons, List.foldl_append]
    by_cases hc : c = '"'
    · have htwice : (double c).foldl m.step p = { p with draft := p.draft.push c .quoted } := by
        have hq : c = m.quote := hc.trans hm.quote.symm
        simp only [double, hc, if_true, List.foldl_cons, List.foldl_nil]
        rw [← hm.quote, m.step_closing hs, m.step_doubled rfl]
        simp [Draft.push]
      rw [htwice, ih rfl]
      simp [Draft.push, hs]
    · have honce : (double c).foldl m.step p = { p with draft := p.draft.push c .quoted } := by
        have hq : c ≠ m.quote := by rw [hm.quote]; exact hc
        simp only [double, hc, if_false, List.foldl_cons, List.foldl_nil]
        exact m.step_of_quoted hq hs
      rw [honce, ih rfl]
      simp [Draft.push, hs]

/-- Reading an escaped field gives the field back. What follows it shows that it has ended. -/
theorem foldl_escape (hm : m.OfTables) {s : String} (hs : m.Spares s) (hp : p.AtField) :
    ∃ stand, (escape s).toList.foldl m.step p =
        { p with draft := { p.draft with stand, field := s.toList.reverse } } ∧
      stand ≠ .quoted ∧ (stand = .outside → p.draft.stand = .outside ∧ s = "") := by
  obtain ⟨hstand, hfield⟩ := hp
  rw [toList_escape]
  split
  next hquotes =>
    refine ⟨.afterQuote, ?_, by simp, by simp⟩
    rw [List.cons_append, List.foldl_cons, List.foldl_append, ← hm.quote, m.step_opening hstand,
      foldl_double hm _ rfl, List.foldl_cons, List.foldl_nil, m.step_closing rfl]
    simp [hfield]
  next hquotes =>
    -- an empty field without quotes is not seen at all: the reader stays where it stands
    by_cases hne : s.toList = []
    · have hempty : s = "" := String.toList_eq_nil_iff.mp hne
      refine ⟨p.draft.stand, ?_, ?_, fun h => ⟨h, hempty⟩⟩
      · rw [hne, List.foldl_nil, List.reverse_nil, ← hfield]
      · rcases hstand with h | h <;> simp [h]
    · refine ⟨.plain, ?_, by simp, by simp⟩
      have hordinary : ∀ c ∈ s.toList, c ≠ m.comma ∧ c ≠ m.quote ∧ m.ends c = false := by
        intro c hc
        have hends := hs.resolve_left hquotes c hc
        have hneeds : ¬ needsQuotes c = true := fun h => hquotes (List.any_eq_true.mpr ⟨c, hc, h⟩)
        simp only [needsQuotes, decide_eq_true_eq, not_or] at hneeds
        rw [hm.comma, hm.quote]
        exact ⟨hneeds.1, hneeds.2.1, hends⟩
      have hnot : p.draft.stand ≠ .quoted := by rcases hstand with h | h <;> simp [h]
      rw [m.foldl_ordinary hne hordinary hnot]
      simp [hfield]

/-- Reading a row gives its fields back as one record. -/
theorem foldl_rowText (hm : m.OfTables) {row : List String} (hne : row ≠ [])
    (hs : ∀ s ∈ row, m.Spares s) (hp : p.AtField)
    (hb : p.draft.stand = .outside → row = [""] → m.blankLines = true) :
    (rowText row).foldl m.step p =
      ⟨(p.draft.fields.reverse ++ row.map String.toList) :: p.ended, {}⟩ := by
  induction row generalizing p with
  | nil => exact absurd rfl hne
  | cons s row ih =>
    obtain ⟨stand, hread, hq, ho⟩ := foldl_escape hm (hs s (by simp)) hp
    cases row with
    | nil =>
      rw [rowText_singleton, List.foldl_append, hread, List.foldl_cons, List.foldl_nil,
        m.step_of_ends hm.ends_lineFeed hq]
      · simp [Draft.finish]
      · intro h
        exact hb (ho h).1 (by rw [(ho h).2])
    | cons t row =>
      rw [rowText_cons_cons, List.foldl_append, hread, List.foldl_cons, ← hm.comma, m.step_comma hq,
        ih (by simp) (fun u h => hs u (List.mem_cons_of_mem s h)) ⟨Or.inr rfl, rfl⟩
          (by simp [Draft.endField])]
      simp [Draft.endField]

theorem foldl_rows (hm : m.OfTables) {rows : List (List String)} (hne : ∀ row ∈ rows, row ≠ [])
    (hs : ∀ row ∈ rows, ∀ s ∈ row, m.Spares s) (hb : [""] ∈ rows → m.blankLines = true)
    (ended : List (List (List Char))) :
    (rows.flatMap rowText).foldl m.step ⟨ended, {}⟩ =
      ⟨(rows.map (·.map String.toList)).reverse ++ ended, {}⟩ := by
  induction rows generalizing ended with
  | nil => rfl
  | cons row rows ih =>
    rw [List.flatMap_cons, List.foldl_append,
      foldl_rowText hm (hne row (by simp)) (hs row (by simp)) ⟨Or.inl rfl, rfl⟩
        (fun _ h => hb (by simp [h])),
      ih (fun r h => hne r (List.mem_cons_of_mem row h))
        (fun r h => hs r (List.mem_cons_of_mem row h)) (fun h => hb (List.mem_cons_of_mem row h))]
    simp

/-- A reader that spares the fields of rows finds the rows in their text. -/
theorem records_flatMap_rowText (hm : m.OfTables) {rows : List (List String)}
    (hne : ∀ row ∈ rows, row ≠ []) (hs : ∀ row ∈ rows, ∀ s ∈ row, m.Spares s)
    (hb : [""] ∈ rows → m.blankLines = true) :
    m.records (rows.flatMap rowText) = rows.map (·.map String.toList) := by
  rw [records, foldl_rows hm hne hs hb []]
  simp [Progress.records]

end Marks

end SeedArchive.Csv
