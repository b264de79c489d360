import SeedArchive.Csv.Sheet
import SeedArchive.Proofs.Csv.Bytes
import SeedArchive.Proofs.Text.Split
import SeedArchive.Seed.Tables

namespace SeedArchive

namespace Csv

theorem toList_join (fields : List String) :
    (join fields).toList = [','].intercalate (fields.map String.toList) := by
  induction fields with
  | nil => rfl
  | cons f fields ih =>
    cases fields with
    | nil => simp [join]
    | cons g fields => simp_all [join]

theorem toList_pushAll (t : Table) (rows : List (List String)) :
    (t.pushAll rows).text.toList =
      t.text.toList ++ rows.flatMap fun row => (join row).toList ++ ['\n'] := by
  induction rows generalizing t with
  | nil => simp [Table.pushAll]
  | cons row rows ih =>
    have hpush : (t.push row).text.toList = t.text.toList ++ ((join row).toList ++ ['\n']) := by
      simp [Table.push]
    have hrest := ih (t.push row)
    simp only [Table.pushAll, List.foldl_cons, List.flatMap_cons] at hrest ⊢
    rw [hrest, hpush, List.append_assoc]

theorem rows_pushAll (t : Table) (rows : List (List String)) :
    (t.pushAll rows).rows = t.rows + rows.length := by
  induction rows generalizing t with
  | nil => rfl
  | cons row rows ih =>
    have hrest := ih (t.push row)
    simp only [Table.pushAll, List.foldl_cons, List.length_cons, Table.push] at hrest ⊢
    omega

/-- The rows of a table follow its header, whatever the header is. -/
theorem toList_table_eq (columns : String) (rows : List (List String)) :
    (Seed.table columns rows).text.toList = columns.toList ++ '\n' :: rows.flatMap rowText := by
  rw [Seed.table, toList_pushAll, List.flatMap_map, Table.header, String.toList_append,
    List.append_assoc]
  rfl

/-- A header of two columns at least that no reader has trouble with: ASCII without quotes and line
ends. -/
def plainHeader (columns : List Char) : Bool :=
  ',' ∈ columns ∧ columns.all fun c => c.toNat < 0x80 ∧ c ≠ '"' ∧ c ≠ '\n' ∧ c ≠ '\r'

/-- The names between the commas of a header. -/
def columnNames (columns : String) : List String :=
  (columns.toList.splitOn ',').map String.ofList

theorem columnNames_ne_nil (columns : String) : columnNames columns ≠ [] := by
  simp [columnNames]

section Header

variable {columns : String} (h : plainHeader columns.toList = true)
include h

theorem plainHeader_mem {c : Char} (hc : c ∈ columns.toList) :
    c.toNat < 0x80 ∧ c ≠ '"' ∧ c ≠ '\n' ∧ c ≠ '\r' := by
  simp only [plainHeader, decide_eq_true_eq, List.all_eq_true] at h
  exact h.2 c hc

theorem columnNames_mem {name : String} (hn : name ∈ columnNames columns) {c : Char}
    (hc : c ∈ name.toList) : c ≠ ',' ∧ c ≠ '"' ∧ c ≠ '\n' ∧ c ≠ '\r' := by
  obtain ⟨piece, hpiece, rfl⟩ := List.mem_map.mp hn
  rw [String.toList_ofList] at hc
  obtain ⟨hmem, hcomma⟩ := mem_of_mem_splitOn hpiece hc
  exact ⟨hcomma, (plainHeader_mem h hmem).2⟩

theorem escape_columnName {name : String} (hn : name ∈ columnNames columns) :
    escape name = name := by
  have hplain : ¬ name.toList.any needsQuotes = true := by
    rw [any_needsQuotes_iff]
    rintro (hc | hc | hc)
    · exact (columnNames_mem h hn hc).1 rfl
    · exact (columnNames_mem h hn hc).2.1 rfl
    · exact (columnNames_mem h hn hc).2.2.1 rfl
  rw [escape, if_neg hplain]

/-- A header is written like a row of its column names. -/
theorem rowText_columnNames : rowText (columnNames columns) = columns.toList ++ ['\n'] := by
  have hescape : (columnNames columns).map escape = columnNames columns := by
    rw [List.map_congr_left fun name hn => escape_columnName h hn, List.map_id']
  rw [rowText, hescape, toList_join, columnNames, List.map_map]
  have htoList : String.toList ∘ String.ofList = id := by
    funext cs
    simp
  rw [htoList, List.map_id, List.intercalate_splitOn]

theorem two_le_length_columnNames : 2 ≤ (columnNames columns).length := by
  have hcomma : ',' ∈ columns.toList := by
    simp only [plainHeader, decide_eq_true_eq] at h
    exact h.1
  rw [columnNames, List.length_map]
  obtain ⟨first, rest, hsplit⟩ :=
    List.exists_cons_of_ne_nil (List.splitOn_ne_nil ',' columns.toList)
  cases rest with
  | nil =>
    -- a single piece would be the whole header, and there is no comma in a piece
    have hwhole : first = columns.toList := by
      have hjoin : [','].intercalate (columns.toList.splitOn ',') = columns.toList :=
        List.intercalate_splitOn _
      simpa [hsplit] using hjoin
    have hmem : first ∈ columns.toList.splitOn ',' := by
      rw [hsplit]
      exact List.mem_singleton_self first
    rw [← hwhole] at hcomma
    exact absurd rfl (mem_of_mem_splitOn hmem hcomma).2
  | cons second rest => simp [hsplit]

theorem columnNames_ne_blank : columnNames columns ≠ [""] := by
  intro hblank
  have htwo := two_le_length_columnNames h
  simp [hblank] at htwo

/-- The text of a table is that of its column names and its rows. -/
theorem toList_table (rows : List (List String)) :
    (Seed.table columns rows).text.toList = (columnNames columns :: rows).flatMap rowText := by
  rw [toList_table_eq, List.flatMap_cons, rowText_columnNames h, List.append_assoc]
  rfl

theorem not_bareReturn_columnName {name : String} (hn : name ∈ columnNames columns) :
    ¬ BareReturn name :=
  not_bareReturn_of_notMem fun hr => (columnNames_mem h hn hr).2.2.2 rfl

theorem table_starts_ascii (rows : List (List String)) :
    ∃ c cs, (Seed.table columns rows).text.toList = c :: cs ∧ c.toNat < 0x80 := by
  rw [toList_table h, List.flatMap_cons, rowText_columnNames h]
  cases hc : columns.toList with
  | nil => simp [plainHeader, hc] at h
  | cons c cs => exact ⟨c, _, rfl, (plainHeader_mem h (by simp [hc])).1⟩

end Header

/-- Rows that go under a header: they are as long as it is. -/
def Under (columns : String) (rows : List (List String)) : Prop :=
  ∀ row ∈ rows, row.length = (columnNames columns).length

theorem sum_pred_length {α : Type} {rows : List (List α)} {width : Nat}
    (h : ∀ row ∈ rows, row.length = width) :
    (rows.map fun row => row.length - 1).sum = rows.length * (width - 1) := by
  induction rows with
  | nil => simp
  | cons row rows ih =>
    have hrow := h row (by simp)
    have hrest := ih fun r hr => h r (List.mem_cons_of_mem row hr)
    rw [List.map_cons, List.sum_cons, hrest, hrow, List.length_cons, Nat.succ_mul, Nat.add_comm]

section Reading

variable {columns : String} {rows : List (List String)} (h : plainHeader columns.toList = true)
  (hu : Under columns rows)
include h hu

theorem ne_nil_of_under : ∀ row ∈ rows, row ≠ [] := by
  rintro row hr rfl
  have hlength := hu [] hr
  have htwo := two_le_length_columnNames h
  simp only [List.length_nil] at hlength
  omega

theorem notMem_blank_of_under : [""] ∉ rows := by
  intro hr
  have hlength := hu [""] hr
  have htwo := two_le_length_columnNames h
  simp only [List.length_singleton] at hlength
  omega

/-- Whatever stands in the fields, the records found under a header have as many commas between
their fields as the rows that were written, and no bare return. -/
theorem exists_records_table :
    ∃ records, Marks.lineEnds.records (Seed.table columns rows).text.toList =
        (columnNames columns).map String.toList :: records ∧
      (records.map fun r => r.length - 1).sum = (rows.map fun row => row.length - 1).sum ∧
      ∀ r ∈ records, ∀ f ∈ r, ¬ BareReturn (String.ofList f) := by
  -- the header is read as one record; after it, only the commas are kept count of
  have hheader : (rowText (columnNames columns)).foldl Marks.lineEnds.step {} =
      ⟨[(columnNames columns).map String.toList], {}⟩ :=
    Marks.foldl_rowText lineEnds_ofTables (columnNames_ne_nil columns)
      (fun name hn => (lineEnds_spares_iff name).mpr (not_bareReturn_columnName h hn))
      ⟨Or.inl rfl, rfl⟩ (fun _ hb => absurd hb (columnNames_ne_blank h))
  have hfair : Fair ((columnNames columns).length - 1)
      ⟨[(columnNames columns).map String.toList], {}⟩ := by
    refine ⟨by simp [Progress.commas], ?_, by simp, by simp [BareReturn], by simp, fun _ => rfl⟩
    intro r hr f hf
    obtain rfl : r = (columnNames columns).map String.toList := by simpa using hr
    obtain ⟨name, hn, rfl⟩ := List.mem_map.mp hf
    simpa using not_bareReturn_columnName h hn
  obtain ⟨hrows, hdraft⟩ := hfair.rows rfl (ne_nil_of_under h hu)
  obtain ⟨ended, hended⟩ := Marks.lineEnds.ended_suffix_foldl
    ⟨[(columnNames columns).map String.toList], {}⟩ (rows.flatMap rowText)
  have hread : (Seed.table columns rows).text.toList.foldl Marks.lineEnds.step {} =
      (rows.flatMap rowText).foldl Marks.lineEnds.step
        ⟨[(columnNames columns).map String.toList], {}⟩ := by
    rw [toList_table h, List.flatMap_cons, List.foldl_append, hheader]
  refine ⟨ended.reverse, ?_, ?_, ?_⟩
  · rw [Marks.records, hread, Progress.records, hdraft, ← hended]
    simp
  · have hcommas := hrows.commas
    rw [Progress.commas, hdraft, ← hended] at hcommas
    simp only [List.map_append, List.sum_append, List.map_cons, List.map_nil, List.sum_cons,
      List.sum_nil, List.length_map, List.length_nil] at hcommas
    rw [List.map_reverse, List.sum_reverse]
    omega
  · intro r hr f hf
    have hmem : r ∈ ended ++ [(columnNames columns).map String.toList] :=
      List.mem_append_left _ (List.mem_reverse.mp hr)
    rw [hended] at hmem
    exact hrows.ended r hmem f hf

/-- The number of rows is never read wrong. -/
theorem length_of_read_table {found : List (List String)}
    (hread : read (Utf8.bytes (Seed.table columns rows).text) = .ok found) :
    found.length = rows.length := by
  obtain ⟨records, hrecords, hcommas, -⟩ := exists_records_table h hu
  obtain ⟨c, cs, htext, hc⟩ := table_starts_ascii h rows
  rw [htext] at hrecords
  rw [Utf8.bytes, htext, read_encode_eq_ok_iff hc hrecords] at hread
  obtain ⟨hlengths, rfl⟩ := hread
  have htwo := two_le_length_columnNames h
  have hfound := sum_pred_length hlengths
  rw [hcommas, sum_pred_length hu, List.length_map] at hfound
  rw [List.length_map]
  exact (Nat.eq_of_mul_eq_mul_right (by omega) hfound).symm

theorem not_bareReturn_of_read_table
    (hread : read (Utf8.bytes (Seed.table columns rows).text) = .ok rows) :
    ∀ row ∈ rows, ∀ s ∈ row, ¬ BareReturn s := by
  obtain ⟨records, hrecords, -, hbare⟩ := exists_records_table h hu
  obtain ⟨c, cs, htext, hc⟩ := table_starts_ascii h rows
  rw [htext] at hrecords
  rw [Utf8.bytes, htext, read_encode_eq_ok_iff hc hrecords] at hread
  intro row hrow s hs
  rw [hread.2] at hrow
  obtain ⟨r, hr, rfl⟩ := List.mem_map.mp hrow
  obtain ⟨f, hf, rfl⟩ := List.mem_map.mp hs
  exact hbare r hr f hf

theorem read_table_of_not_bareReturn (hs : ∀ row ∈ rows, ∀ s ∈ row, ¬ BareReturn s) :
    read (Utf8.bytes (Seed.table columns rows).text) = .ok rows := by
  have hrecords : Marks.lineEnds.records (Seed.table columns rows).text.toList =
      (columnNames columns).map String.toList :: rows.map (·.map String.toList) := by
    rw [toList_table h]
    apply Marks.records_flatMap_rowText lineEnds_ofTables
    · exact List.forall_mem_cons.mpr ⟨columnNames_ne_nil columns, ne_nil_of_under h hu⟩
    · simp only [lineEnds_spares_iff]
      exact List.forall_mem_cons.mpr ⟨fun name hn => not_bareReturn_columnName h hn, hs⟩
    · intro hblank
      rcases List.mem_cons.mp hblank with hheader | hrow
      · exact absurd hheader.symm (columnNames_ne_blank h)
      · exact absurd hrow (notMem_blank_of_under h hu)
  obtain ⟨c, cs, htext, hc⟩ := table_starts_ascii h rows
  rw [htext] at hrecords
  rw [Utf8.bytes, htext, read_encode_eq_ok_iff hc hrecords]
  constructor
  · intro r hr
    obtain ⟨row, hrow, rfl⟩ := List.mem_map.mp hr
    rw [List.length_map, List.length_map]
    exact hu row hrow
  · simp

/-- A table is read back as it was written if and only if no field has a bare return. -/
theorem read_table_iff :
    read (Utf8.bytes (Seed.table columns rows).text) = .ok rows ↔
      ∀ row ∈ rows, ∀ s ∈ row, ¬ BareReturn s :=
  ⟨not_bareReturn_of_read_table h hu, read_table_of_not_bareReturn h hu⟩

end Reading

theorem lineFeeds_ofTables : Marks.lineFeeds.OfTables :=
  ⟨rfl, rfl, rfl⟩

theorem lineFeeds_spares (s : String) : Marks.lineFeeds.Spares s := by
  by_cases hquotes : s.toList.any needsQuotes = true
  · exact Or.inl hquotes
  · right
    intro c hc
    rw [any_needsQuotes_iff] at hquotes
    have hfeed : c ≠ '\n' := by
      rintro rfl
      exact hquotes (Or.inr (Or.inr hc))
    simp [Marks.lineFeeds, hfeed]

/-- Undoing the quoting of a table gives its rows, whatever stands in them. -/
theorem ofText_table {columns : String} {rows : List (List String)}
    (h : plainHeader columns.toList = true) (hne : ∀ row ∈ rows, row ≠ []) :
    Sheet.ofText (Seed.table columns rows).text = ⟨columnNames columns, rows⟩ := by
  have hrecords : Marks.lineFeeds.records (Seed.table columns rows).text.toList =
      (columnNames columns :: rows).map (·.map String.toList) := by
    rw [toList_table h]
    exact Marks.records_flatMap_rowText lineFeeds_ofTables
      (List.forall_mem_cons.mpr ⟨columnNames_ne_nil columns, hne⟩)
      (fun _ _ s _ => lineFeeds_spares s) (fun _ => rfl)
  rw [Sheet.ofText, hrecords]
  simp

end Csv

end SeedArchive
