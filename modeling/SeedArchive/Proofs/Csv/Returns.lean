import Mathlib.Algebra.Ring.Nat
import SeedArchive.Proofs.Csv.Rows

namespace SeedArchive.Csv

/-- A line feed and a carriage return end a record, and blank lines are passed over. -/
def Marks.lineEnds : Marks Char where
  comma := ','
  quote := '"'
  ends c := c = '\n' || c = '\r'
  blankLines := false
  comma_ne_quote := Csv.comma_ne_quote
  ends_comma := by decide
  ends_quote := by decide

theorem lineEnds_ofTables : Marks.lineEnds.OfTables :=
  ⟨rfl, rfl, rfl⟩

theorem any_needsQuotes_iff (s : String) :
    s.toList.any needsQuotes = true ↔ ',' ∈ s.toList ∨ '"' ∈ s.toList ∨ '\n' ∈ s.toList := by
  simp only [List.any_eq_true, needsQuotes, decide_eq_true_eq]
  constructor
  · rintro ⟨c, hc, rfl | rfl | rfl⟩ <;> simp [hc]
  · rintro (h | h | h)
    · exact ⟨',', h, by simp⟩
    · exact ⟨'"', h, by simp⟩
    · exact ⟨'\n', h, by simp⟩

theorem lineEnds_spares_iff (s : String) : Marks.lineEnds.Spares s ↔ ¬ BareReturn s := by
  unfold Marks.Spares
  rw [any_needsQuotes_iff]
  constructor
  · rintro (h | h) ⟨hr, hc, hq, hn⟩
    · simp_all
    · simpa [Marks.lineEnds] using h '\r' hr
  · intro h
    by_cases hq : ',' ∈ s.toList ∨ '"' ∈ s.toList ∨ '\n' ∈ s.toList
    · exact Or.inl hq
    · right
      intro c hc
      simp only [not_or] at hq
      have hn : c ≠ '\n' := by rintro rfl; exact hq.2.2 hc
      have hr : c ≠ '\r' := by rintro rfl; exact h ⟨hc, hq.1, hq.2.1, hq.2.2⟩
      simp [Marks.lineEnds, hn, hr]

theorem not_bareReturn_of_notMem {s : String} (h : '\r' ∉ s.toList) : ¬ BareReturn s :=
  fun hb => h hb.1

/-- The commas between fields so far. -/
def Progress.commas {α : Type} (p : Progress α) : Nat :=
  (p.ended.map fun r => r.length - 1).sum + p.draft.fields.length

/-- What holds of a reader between the fields of a table when `n` commas have passed: it found each
of them, and no field that it read has a bare return. -/
structure Fair (n : Nat) (p : Progress Char) : Prop where
  commas : p.commas = n
  ended : ∀ r ∈ p.ended, ∀ f ∈ r, ¬ BareReturn (String.ofList f)
  fields : ∀ f ∈ p.draft.fields, ¬ BareReturn (String.ofList f)
  field : ¬ BareReturn (String.ofList p.draft.field.reverse)
  stand : p.draft.stand ≠ .quoted
  fresh : p.draft.stand = .outside → p.draft = {}

namespace Fair

variable {n : Nat} {p : Progress Char} {c : Char}

theorem finish (h : Fair n p) : ∀ f ∈ p.draft.finish, ¬ BareReturn (String.ofList f) := by
  intro f hf
  simp only [Draft.finish, List.mem_reverse, List.mem_cons] at hf
  rcases hf with rfl | hf
  · exact h.field
  · exact h.fields f hf

/-- A line end gives no field and takes none away: it ends a record or is passed over. -/
theorem lineEnd (h : Fair n p) (hc : Marks.lineEnds.ends c = true) :
    Fair n (Marks.lineEnds.step p c) ∧ (Marks.lineEnds.step p c).draft = {} := by
  by_cases ho : p.draft.stand = .outside
  · rw [Marks.lineEnds.step_of_blank hc ho rfl]
    exact ⟨h, h.fresh ho⟩
  · rw [Marks.lineEnds.step_of_ends hc h.stand (fun h => absurd h ho)]
    refine ⟨⟨?_, ?_, by simp, by simp [BareReturn], by simp, fun _ => rfl⟩, rfl⟩
    · have hcommas := h.commas
      simp only [Progress.commas, Draft.finish, List.map_cons, List.sum_cons, List.length_reverse,
        List.length_cons, List.length_nil] at hcommas ⊢
      omega
    · intro r hr
      rcases List.mem_cons.mp hr with rfl | hr
      · exact h.finish
      · exact h.ended r hr

theorem comma (h : Fair n p) :
    Fair (n + 1) (Marks.lineEnds.step p ',') ∧ (Marks.lineEnds.step p ',').AtField := by
  have hstep : Marks.lineEnds.step p ',' = { p with draft := p.draft.endField } :=
    Marks.lineEnds.step_comma h.stand
  rw [hstep]
  refine ⟨⟨?_, h.ended, ?_, by simp [BareReturn, Draft.endField], by simp [Draft.endField],
    by simp [Draft.endField]⟩, Or.inr rfl, rfl⟩
  · have hcommas := h.commas
    simp only [Progress.commas, Draft.endField, List.length_cons] at hcommas ⊢
    omega
  · intro f hf
    rcases List.mem_cons.mp hf with rfl | hf
    · exact h.field
    · exact h.fields f hf

/-- Characters that are written without quotes. A carriage return among them ends a record, so none
gets into a field. -/
theorem unquoted (h : Fair n p) (hr : '\r' ∉ p.draft.field) {cs : List Char}
    (hcs : ∀ c ∈ cs, c ≠ ',' ∧ c ≠ '"') : Fair n (cs.foldl Marks.lineEnds.step p) := by
  induction cs generalizing p with
  | nil => exact h
  | cons c cs ih =>
    obtain ⟨hcomma, hquote⟩ := hcs c (by simp)
    have hrest := fun d hd => hcs d (List.mem_cons_of_mem c hd)
    rw [List.foldl_cons]
    -- a line end closes the field before the return gets into it, and the next one starts empty
    cases hends : Marks.lineEnds.ends c with
    | true =>
      obtain ⟨hfair, hdraft⟩ := h.lineEnd hends
      exact ih hfair (by simp [hdraft]) hrest
    | false =>
      rw [Marks.lineEnds.step_of_ordinary hcomma hquote hends h.stand]
      have hne : '\r' ≠ c := by
        rintro rfl
        simp [Marks.lineEnds] at hends
      have hr' : '\r' ∉ (p.draft.push c .plain).field := by simp [Draft.push, hne, hr]
      refine ih ⟨h.commas, h.ended, h.fields, ?_, by simp [Draft.push], by simp [Draft.push]⟩ hr'
        hrest
      exact not_bareReturn_of_notMem (by simpa using hr')

theorem escape (h : Fair n p) (hp : p.AtField) (s : String) :
    Fair n ((escape s).toList.foldl Marks.lineEnds.step p) := by
  by_cases hs : Marks.lineEnds.Spares s
  · obtain ⟨stand, hread, hq, ho⟩ := Marks.foldl_escape lineEnds_ofTables hs hp
    rw [hread]
    refine ⟨h.commas, h.ended, h.fields, ?_, hq, ?_⟩
    · simpa using (lineEnds_spares_iff s).mp hs
    · intro hout
      obtain ⟨hpo, rfl⟩ := ho hout
      have hdraft := h.fresh hpo
      simp only at hout
      simp [hdraft, hout]
  · have hquotes : ¬ s.toList.any needsQuotes = true := fun hq => hs (Or.inl hq)
    rw [toList_escape, if_neg hquotes]
    apply h.unquoted (by simp [hp.2])
    rw [any_needsQuotes_iff] at hquotes
    simp only [not_or] at hquotes
    intro c hc
    exact ⟨by rintro rfl; exact hquotes.1 hc, by rintro rfl; exact hquotes.2.1 hc⟩

theorem row (h : Fair n p) (hp : p.AtField) {row : List String} (hne : row ≠ []) :
    Fair (n + (row.length - 1)) ((rowText row).foldl Marks.lineEnds.step p) ∧
      ((rowText row).foldl Marks.lineEnds.step p).draft = {} := by
  induction row generalizing n p with
  | nil => exact absurd rfl hne
  | cons s row ih =>
    have hfield := h.escape hp s
    cases row with
    | nil =>
      have hend : Marks.lineEnds.ends '\n' = true := rfl
      rw [rowText_singleton, List.foldl_append, List.foldl_cons, List.foldl_nil]
      exact hfield.lineEnd hend
    | cons t row =>
      obtain ⟨hcomma, hat⟩ := hfield.comma
      rw [rowText_cons_cons, List.foldl_append, List.foldl_cons]
      have hlength : n + ((s :: t :: row).length - 1) = n + 1 + ((t :: row).length - 1) := by
        simp only [List.length_cons]
        omega
      rw [hlength]
      exact ih hcomma hat (by simp)

theorem rows (h : Fair n p) (hp : p.draft = {}) {rows : List (List String)}
    (hne : ∀ row ∈ rows, row ≠ []) :
    Fair (n + (rows.map fun row => row.length - 1).sum)
        ((rows.flatMap rowText).foldl Marks.lineEnds.step p) ∧
      ((rows.flatMap rowText).foldl Marks.lineEnds.step p).draft = {} := by
  induction rows generalizing n p with
  | nil => exact ⟨h, hp⟩
  | cons row rows ih =>
    obtain ⟨hrow, hdraft⟩ := h.row (by simp [Progress.AtField, hp]) (hne row (by simp))
    rw [List.flatMap_cons, List.foldl_append, List.map_cons, List.sum_cons, ← Nat.add_assoc]
    exact ih hrow hdraft (fun r hr => hne r (List.mem_cons_of_mem row hr))

end Fair

end SeedArchive.Csv
