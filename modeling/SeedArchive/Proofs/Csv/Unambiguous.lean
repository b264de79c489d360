import SeedArchive.Proofs.Seed.Tables

namespace SeedArchive.Csv

/-- The line feeds of a text that stand outside of quoted fields, if what comes before the text has
been read as `p`. -/
def outerFeeds (p : Progress Char) : List Char → Nat
  | [] => 0
  | c :: rest =>
    (if c = '\n' ∧ p.draft.stand ≠ .quoted then 1 else 0) + outerFeeds (Marks.lineFeeds.step p c) rest

/-- A line feed ends a record unless it stands in a quoted field, and nothing else ends one. -/
theorem length_ended_step (p : Progress Char) (c : Char) :
    (Marks.lineFeeds.step p c).ended.length =
      p.ended.length + if c = '\n' ∧ p.draft.stand ≠ .quoted then 1 else 0 := by
  by_cases h : c = '\n' ∧ p.draft.stand ≠ .quoted
  · obtain ⟨rfl, hstand⟩ := h
    rw [Marks.lineFeeds.step_of_ends rfl hstand fun _ => rfl, if_pos ⟨rfl, hstand⟩,
      List.length_cons]
  · have hends : ¬ (Marks.lineFeeds.ends c = true ∧ p.draft.stand ≠ .quoted) := by
      simpa [Marks.lineFeeds] using h
    rw [Marks.step, if_neg hends, if_neg h, Nat.add_zero]

theorem length_ended_foldl (p : Progress Char) (text : List Char) :
    (text.foldl Marks.lineFeeds.step p).ended.length = p.ended.length + outerFeeds p text := by
  induction text generalizing p with
  | nil => rfl
  | cons c text ih =>
    rw [List.foldl_cons, ih, length_ended_step, outerFeeds, Nat.add_assoc]

section Rows

variable {rows rows' : List (List String)} (h : ∀ row ∈ rows, row ≠ [])
include h

theorem records_rows :
    Marks.lineFeeds.records (rows.flatMap rowText) = rows.map (·.map String.toList) :=
  Marks.records_flatMap_rowText lineFeeds_ofTables h (fun _ _ s _ => lineFeeds_spares s)
    fun _ => rfl

/-- Every row ends with the one line feed of it that is not quoted. -/
theorem outerFeeds_rows : outerFeeds {} (rows.flatMap rowText) = rows.length := by
  have hread := Marks.foldl_rows lineFeeds_ofTables h (fun _ _ s _ => lineFeeds_spares s)
    (fun _ => rfl) []
  have hcount := length_ended_foldl {} (rows.flatMap rowText)
  rw [hread] at hcount
  simpa using hcount.symm

theorem eq_of_flatMap_rowText_eq (h' : ∀ row ∈ rows', row ≠ [])
    (heq : rows.flatMap rowText = rows'.flatMap rowText) : rows = rows' := by
  have hrecords : rows.map (·.map String.toList) = rows'.map (·.map String.toList) := by
    rw [← records_rows h, heq, records_rows h']
  have htoList : Function.Injective String.toList := fun _ _ => String.toList_injective
  exact List.map_injective_iff.mpr (List.map_injective_iff.mpr htoList) hrecords

end Rows

/-- Tables of escaped rows under one header are different if their rows are, and the number of rows
can be counted in the text. -/
theorem table_unambiguous (columns : String) {rows rows' : List (List String)}
    (h : ∀ row ∈ rows, row ≠ []) (h' : ∀ row ∈ rows', row ≠ []) :
    ((Seed.table columns rows).text = (Seed.table columns rows').text → rows = rows') ∧
      (Seed.table columns rows).rows = rows.length ∧
      ∃ body, (Seed.table columns rows).text.toList = columns.toList ++ '\n' :: body ∧
        outerFeeds {} body = rows.length := by
  refine ⟨fun htext => ?_, ?_, rows.flatMap rowText, toList_table_eq columns rows,
    outerFeeds_rows h⟩
  · have hlists := congrArg String.toList htext
    rw [toList_table_eq, toList_table_eq] at hlists
    have hbodies := (List.cons.inj (List.append_cancel_left hlists)).2
    exact eq_of_flatMap_rowText_eq h h' hbodies
  · rw [Seed.table, rows_pushAll, List.length_map]
    exact Nat.zero_add rows.length

/-- A quoted line feed, a blank line and a field of quotes. -/
def brokenRows : List (List String) :=
  [["a\n\"", ""], [""], ["\",\"", "b"]]

/-- The same fields with the line end at another place. -/
def shiftedRows : List (List String) :=
  [["a\n\""], ["", ""], ["\",\"", "b"]]

theorem table_unambiguous_broken :
    ((∀ row ∈ brokenRows, row ≠ []) ∧ ∀ row ∈ shiftedRows, row ≠ []) ∧
      (Seed.table "x,y" brokenRows).text ≠ (Seed.table "x,y" shiftedRows).text ∧
      ∃ body, (Seed.table "x,y" brokenRows).text.toList = "x,y".toList ++ '\n' :: body ∧
        outerFeeds {} body = 3 := by
  have hbroken : ∀ row ∈ brokenRows, row ≠ [] := by decide
  have hshifted : ∀ row ∈ shiftedRows, row ≠ [] := by decide
  obtain ⟨hsame, -, hcount⟩ := table_unambiguous "x,y" hbroken hshifted
  exact ⟨⟨hbroken, hshifted⟩, fun htext => absurd (hsame htext) (by decide), hcount⟩

end SeedArchive.Csv
