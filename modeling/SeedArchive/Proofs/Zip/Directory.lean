import SeedArchive.Proofs.Zip.Headers

namespace SeedArchive.Zip

section Positions

variable (signature : List UInt8)

theorem positions_suffix (n : Nat) (before bytes : List UInt8) :
    positions signature (n + before.length) bytes <:+ positions signature n (before ++ bytes) := by
  induction before generalizing n with
  | nil => exact List.suffix_refl _
  | cons b before ih =>
    have hrest := ih (n + 1)
    rw [Nat.add_right_comm, Nat.add_assoc] at hrest
    rw [List.cons_append, positions]
    split
    · exact hrest.trans (List.suffix_cons n _)
    · exact hrest

theorem le_of_mem_positions {n place : Nat} {bytes : List UInt8}
    (h : place ∈ positions signature n bytes) : n ≤ place := by
  induction bytes generalizing n with
  | nil => simp [positions] at h
  | cons b bytes ih =>
    rw [positions] at h
    split at h
    · rcases List.mem_cons.mp h with rfl | h
      · exact Nat.le_refl place
      · have hrest := ih h
        omega
    · have hrest := ih h
      omega

theorem positions_of_starts (n : Nat) {b : UInt8} {bytes : List UInt8}
    (h : signature <+: b :: bytes) :
    positions signature n (b :: bytes) = n :: positions signature (n + 1) bytes := by
  rw [positions, if_pos (List.isPrefixOf_iff_prefix.mpr h)]

theorem positionsIn_of_starts (before after : List UInt8) {bytes : List UInt8} (hne : bytes ≠ [])
    (h : signature <+: bytes) :
    ∃ more, positionsIn (before ++ (bytes ++ after)) signature before.length
      (before.length + bytes.length) = before.length :: more := by
  obtain ⟨b, rest, rfl⟩ := List.exists_cons_of_ne_nil hne
  refine ⟨positions signature (before.length + 1) rest, ?_⟩
  rw [positionsIn, ← List.append_assoc, List.take_left' List.length_append, List.drop_left,
    positions_of_starts signature before.length h]

end Positions

/-- A place with less than an end record behind it leads nowhere. -/
theorem readFrom_append_of_cutShort (archive : List UInt8) {places : List Nat}
    (h : ∀ place ∈ places, archive.length < place + 22) (fault : Option Fault) (rest : List Nat) :
    ∃ fault', readFrom archive fault (places ++ rest) = readFrom archive fault' rest := by
  induction places generalizing fault with
  | nil => exact ⟨fault, rfl⟩
  | cons place places ih =>
    obtain ⟨hplace, hplaces⟩ := List.forall_mem_cons.mp h
    have hcut : readEnd archive place = .error .cutShort := by
      unfold readEnd
      rw [if_pos (by rw [List.length_drop]; omega)]
    obtain ⟨fault', hrest⟩ := ih hplaces (fault <|> some .cutShort)
    refine ⟨fault', ?_⟩
    rw [List.cons_append, readFrom, hcut]
    exact hrest

/-- The end record that an archive stops with leads to its directory, whatever looks like an end
record before it or in it. -/
theorem readDirectory_of_end {before ending : List UInt8} {e : EndRecord} {d : Directory}
    {headers : List Header} (hending : ending.length = 22) (hstarts : endSignature <+: ending)
    (he : readEnd (before ++ ending) before.length = .ok e)
    (hd : directoryOf (before ++ ending) e = .ok d)
    (hh : d.headers (before ++ ending) = some headers) :
    readDirectory (before ++ ending) = .ok (d, headers) := by
  obtain ⟨early, hearly⟩ := positions_suffix endSignature 0 before ending
  cases ending with
  | nil => simp at hending
  | cons b rest =>
    rw [Nat.zero_add, positions_of_starts endSignature _ hstarts] at hearly
    have hlate : ∀ place ∈ (positions endSignature (before.length + 1) rest).reverse,
        (before ++ b :: rest).length < place + 22 := by
      intro place hp
      have hle := le_of_mem_positions endSignature (List.mem_reverse.mp hp)
      rw [List.length_append, hending]
      omega
    obtain ⟨fault, hskip⟩ := readFrom_append_of_cutShort (before ++ b :: rest) hlate none
      (before.length :: early.reverse)
    rw [readDirectory, ← hearly, List.reverse_append, List.reverse_cons, List.append_assoc,
      List.singleton_append, hskip, readFrom, he]
    simp only [hd, hh]

theorem length_endRecord (count size offset : Nat) : (endRecord count size offset).length = 22 := by
  simp [endRecord, endSignature]

theorem endRecord_starts (count size offset : Nat) :
    endSignature <+: endRecord count size offset := by
  simp only [endRecord, List.append_assoc]
  exact List.prefix_append endSignature _

theorem readEnd_endRecord (before : List UInt8) {count offset : Nat} (hcount : count < 2 ^ 16)
    (hoffset : offset < 2 ^ 32) (size : Nat) :
    readEnd (before ++ endRecord count size offset) before.length =
      .ok ⟨before.length, 0, 0, count, count, offset⟩ := by
  have hfields : field (endRecord count size offset) 4 2 = 0 ∧
      field (endRecord count size offset) 6 2 = 0 ∧
      field (endRecord count size offset) 8 2 = count ∧
      field (endRecord count size offset) 10 2 = count ∧
      field (endRecord count size offset) 16 4 = offset ∧
      field (endRecord count size offset ++ []) 20 2 = 0 := by
    simp only [endRecord, List.append_assoc]
    refine ⟨?_, ?_, ?_, ?_, ?_, ?_⟩
    all_goals
      rw [field_append_right (by decide)]
      repeat rw [field_skip (by decide)]
      exact field_littleEndian_append (by omega) _
  rw [List.append_nil] at hfields
  simp [readEnd, hfields, length_endRecord]

/-- The directory of an archive that `write` makes of `files`. -/
def directoryOfFiles (files : List File) : Directory :=
  ⟨(localRecords files).length, 0, files.length, true⟩

theorem length_directory_eq_zero_iff (offset : Nat) (files : List File) :
    (directory offset files).length = 0 ↔ files = [] := by
  constructor
  · intro h
    have hle := length_directory offset files
    exact List.length_eq_zero_iff.mp (by omega)
  · rintro rfl
    rfl

theorem directory_starts {f : File} {files : List File} (offset : Nat) :
    headerSignature <+: directory offset (f :: files) := by
  simp only [directory, File.header, List.append_assoc]
  exact List.prefix_append headerSignature _

/-- The end record of an archive that is not large leads to the first header. -/
theorem directoryOf_small (files : List File) (after : List UInt8)
    (hcount : files.length < tooMany) (hoffset : (localRecords files).length < tooLong) :
    directoryOf (localRecords files ++ (directory 0 files ++ after))
        ⟨(localRecords files).length + (directory 0 files).length, 0, 0, files.length, files.length,
          (localRecords files).length⟩ =
      .ok (directoryOfFiles files) := by
  have hsmall : files.length ≠ tooMany ∧ (localRecords files).length ≠ tooLong := by omega
  unfold directoryOf EndRecord.locator?
  rw [if_pos (Or.inl hsmall)]
  unfold EndRecord.directory
  cases files with
  | nil => rfl
  | cons f files =>
    have hne : directory 0 (f :: files) ≠ [] := by
      rw [ne_eq, ← List.length_eq_zero_iff, length_directory_eq_zero_iff]
      simp
    have hsize : 0 < (directory 0 (f :: files)).length := List.length_pos_iff.mpr hne
    obtain ⟨more, hfirst⟩ := positionsIn_of_starts headerSignature (localRecords (f :: files)) after
      hne (directory_starts 0)
    rw [if_neg (by simp), if_neg (by simp only; omega)]
    simp only [hfirst]
    simp [directoryOfFiles]

theorem length_longEndRecord (count size offset : Nat) :
    (longEndRecord count size offset).length = 56 := by
  simp [longEndRecord, longEndSignature]

theorem longEndRecord_starts (count size offset : Nat) :
    longEndSignature <+: longEndRecord count size offset := by
  simp only [longEndRecord, List.append_assoc]
  exact List.prefix_append longEndSignature _

theorem length_locatorRecord (place : Nat) : (locatorRecord place).length = 20 := by
  simp [locatorRecord, locatorSignature]

theorem directoryAt_longEndRecord (before after : List UInt8) {count size offset : Nat}
    (hcount : count < 2 ^ 64) (hoffset : offset < 2 ^ 64)
    (hsize : 46 * count + offset ≤ before.length) :
    Locator.directoryAt ⟨before.length + 56, 0, before.length, 1⟩
        (before ++ (longEndRecord count size offset ++ after)) before.length =
      .ok ⟨offset, 0, count, true⟩ := by
  have hfields : field (longEndRecord count size offset ++ after) 4 8 = 44 ∧
      field (longEndRecord count size offset ++ after) 12 2 = 45 ∧
      field (longEndRecord count size offset ++ after) 14 2 = 45 ∧
      field (longEndRecord count size offset ++ after) 16 4 = 0 ∧
      field (longEndRecord count size offset ++ after) 20 4 = 0 ∧
      field (longEndRecord count size offset ++ after) 24 8 = count ∧
      field (longEndRecord count size offset ++ after) 32 8 = count ∧
      field (longEndRecord count size offset ++ after) 48 8 = offset := by
    simp only [longEndRecord, List.append_assoc]
    refine ⟨?_, ?_, ?_, ?_, ?_, ?_, ?_, ?_⟩
    all_goals
      rw [field_append_right (by decide)]
      repeat rw [field_skip (by decide)]
      exact field_littleEndian_append (by omega) _
  simp only [Locator.directoryAt, List.drop_left, hfields, List.length_append,
    length_longEndRecord, Nat.sub_self]
  rw [if_neg (by omega), if_neg (by omega), if_neg (by omega), if_neg (by simp), if_neg (by omega),
    if_neg (by omega)]
  simp

theorem locator?_locatorRecord (before after : List UInt8) {place : Nat} (hplace : place < 2 ^ 64)
    {e : EndRecord} (he : e.place = before.length + 20)
    (hlarge : e.entries = tooMany ∨ e.offset = tooLong) :
    e.locator? (before ++ (locatorRecord place ++ after)) = some ⟨before.length, 0, place, 1⟩ := by
  have hfields : field (locatorRecord place ++ after) 4 4 = 0 ∧
      field (locatorRecord place ++ after) 8 8 = place ∧
      field (locatorRecord place ++ after) 16 4 = 1 := by
    simp only [locatorRecord, List.append_assoc]
    refine ⟨?_, ?_, ?_⟩
    all_goals
      rw [field_append_right (by decide)]
      repeat rw [field_skip (by decide)]
      exact field_littleEndian_append (by omega) _
  have hsignature : (locatorRecord place ++ after).take 4 = locatorSignature := by
    simp only [locatorRecord, List.append_assoc]
    exact List.take_left' rfl
  have hthere : ¬ (e.entries ≠ tooMany ∧ e.offset ≠ tooLong ∨ before.length + 20 < 20 ∨
      locatorSignature ≠ locatorSignature) := by
    rintro (⟨hentries, hoffset⟩ | hshort | hother)
    · exact hlarge.elim hentries hoffset
    · omega
    · exact hother rfl
  simp only [EndRecord.locator?, he, Nat.add_sub_cancel, List.drop_left, hsignature, hfields]
  rw [if_neg hthere]

/-- The end record of a large archive leads to the first header by way of the locator before it. -/
theorem directoryOf_large (files : List File) (after : List UInt8)
    (hlarge : ¬ (files.length < tooMany ∧ (localRecords files).length < tooLong))
    (hlength : (localRecords files).length + (directory 0 files).length < 2 ^ 64) :
    directoryOf (localRecords files ++ (directory 0 files ++
        (longEndRecord files.length (directory 0 files).length (localRecords files).length ++
          (locatorRecord ((localRecords files).length + (directory 0 files).length) ++ after))))
        ⟨(localRecords files).length + (directory 0 files).length + 76, 0, 0,
          min files.length tooMany, min files.length tooMany,
          min (localRecords files).length tooLong⟩ =
      .ok (directoryOfFiles files) := by
  have hcount := length_directory 0 files
  rw [← List.append_assoc (localRecords files)]
  have hbefore : (localRecords files ++ directory 0 files).length =
      (localRecords files).length + (directory 0 files).length := List.length_append
  generalize localRecords files ++ directory 0 files = before at hbefore ⊢
  have hlongEnd : (before ++ longEndRecord files.length (directory 0 files).length
      (localRecords files).length).length = before.length + 56 := by
    rw [List.length_append, length_longEndRecord]
  rw [← hbefore] at hlength ⊢
  unfold directoryOf
  rw [← List.append_assoc before, locator?_locatorRecord _ _ hlength (by simp only; omega)
    (by simp only; omega), List.append_assoc, hlongEnd]
  simp only [Locator.directory]
  have hne : longEndRecord files.length (directory 0 files).length (localRecords files).length ≠
      [] := by
    rw [ne_eq, ← List.length_eq_zero_iff, length_longEndRecord]
    omega
  obtain ⟨more, hfirst⟩ := positionsIn_of_starts longEndSignature before
    (locatorRecord before.length ++ after) hne (longEndRecord_starts _ _ _)
  rw [length_longEndRecord] at hfirst
  rw [if_neg (by omega), if_neg (by omega), hfirst, Locator.directoryFrom,
    directoryAt_longEndRecord before _ (by omega) (by omega) (by omega)]
  rfl

end SeedArchive.Zip
