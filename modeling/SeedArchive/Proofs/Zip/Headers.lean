import SeedArchive.Proofs.Text.Utf8
import SeedArchive.Proofs.Zip.Stored
import SeedArchive.Zip.Entry

namespace SeedArchive.Zip

theorem amendLong_numbers (h : Header) {size packed offset : Nat} (hs : size < 2 ^ 64)
    (hp : packed < 2 ^ 64) (ho : offset < 2 ^ 64) :
    let numbers := [size, packed, offset].filter (tooLong ≤ ·)
    { h with size := min size tooLong, packed := min packed tooLong,
             offset := min offset tooLong : Header }.amendLong (8 * numbers.length)
        (numbers.flatMap (littleEndian 8)) =
      .whole { h with size, packed, offset } := by
  have hread {n : Nat} (hn : n < 2 ^ 64) (rest : List UInt8) :
      field (littleEndian 8 n ++ rest) 0 8 = n :=
    field_littleEndian_append (by omega) rest
  have hlast {n : Nat} (hn : n < 2 ^ 64) : field (littleEndian 8 n) 0 8 = n := by
    simpa using hread hn []
  have hmin (n : Nat) : min n tooLong = if tooLong ≤ n then tooLong else n := by
    split <;> omega
  have hne {n : Nat} (hn : ¬ tooLong ≤ n) : n ≠ tooLong := by omega
  -- a number has eight bytes of its own if and only if the header holds `tooLong` in its place
  by_cases h1 : tooLong ≤ size <;> by_cases h2 : tooLong ≤ packed <;>
    by_cases h3 : tooLong ≤ offset <;>
    simp [Header.amendLong, hmin, hread hs, hread hp, hlast hs, hlast hp, hlast ho, hne, h1, h2, h3,
      field_skip]

theorem amendAll_nil (h : Header) (steps : Nat) : h.amendAll [] steps = some h := by
  cases steps <;> rfl

theorem length_flatMap_littleEndian (width : Nat) (numbers : List Nat) :
    (numbers.flatMap (littleEndian width)).length = width * numbers.length := by
  induction numbers with
  | nil => rfl
  | cons n numbers ih =>
    rw [List.flatMap_cons, List.length_append, ih, length_littleEndian, List.length_cons,
      Nat.mul_succ, Nat.add_comm]

theorem amendAll_extra (h : Header) (f : File) {offset : Nat} (hs : f.bytes.length < 2 ^ 64)
    (hp : f.data.length < 2 ^ 64) (ho : offset < 2 ^ 64) :
    { h with size := min f.bytes.length tooLong, packed := min f.data.length tooLong,
             offset := min offset tooLong : Header }.amendAll (f.extra offset)
        (f.extra offset).length =
      some { h with size := f.bytes.length, packed := f.data.length, offset } := by
  have hamend := amendLong_numbers h hs hp ho
  rw [← File.longNumbers] at hamend
  by_cases hn : f.longNumbers offset = []
  · have hfits : ∀ n ∈ [f.bytes.length, f.data.length, offset], min n tooLong = n := by
      intro n hmem
      have hnot := List.filter_eq_nil_iff.mp hn n hmem
      simp only [decide_eq_true_eq] at hnot
      omega
    have hextra : f.extra offset = [] := by rw [File.extra, hn]
    rw [hextra, amendAll_nil, hfits _ (by simp), hfits _ (by simp), hfits _ (by simp)]
  · have hcount : (f.longNumbers offset).length ≤ 3 := List.length_filter_le _ _
    have hextra : f.extra offset = littleEndian 2 1 ++
        (littleEndian 2 (8 * (f.longNumbers offset).length) ++
          (f.longNumbers offset).flatMap (littleEndian 8)) := by
      unfold File.extra
      split
      next hnil => exact absurd hnil hn
      next => rw [List.append_assoc]
    have hlength : (f.extra offset).length = 3 + 8 * (f.longNumbers offset).length + 1 := by
      rw [hextra, List.length_append, List.length_append, length_littleEndian, length_littleEndian,
        length_flatMap_littleEndian]
      omega
    have hkind : field (f.extra offset) 0 2 = 1 := by
      rw [hextra]
      exact field_littleEndian_append (by decide) _
    have hcountField : field (f.extra offset) 2 2 = 8 * (f.longNumbers offset).length := by
      rw [hextra, field_skip (Nat.le_refl 2)]
      exact field_littleEndian_append (by omega) _
    have hnumbers : (f.extra offset).drop 4 = (f.longNumbers offset).flatMap (littleEndian 8) := by
      rw [hextra, ← List.append_assoc, List.drop_left']
      simp
    rw [hlength, Header.amendAll, if_neg (by omega)]
    simp only [hkind, hcountField, hnumbers, Header.amend, if_true, hamend]
    rw [List.drop_eq_nil_of_le (by omega), amendAll_nil]

namespace File

/-- What a reader finds in the directory header of a file. -/
def headerAt (f : File) (offset : Nat) : Header where
  flags := 0x800
  method := f.method.number
  checksum := (checksum f.bytes).toNat
  packed := f.data.length
  size := f.bytes.length
  offset
  nameBytes := Utf8.bytes f.name
  name := f.name
  comment := ""

theorem length_extra_le (f : File) (offset : Nat) : (f.extra offset).length ≤ 28 := by
  have hcount : (f.longNumbers offset).length ≤ 3 := List.length_filter_le _ _
  unfold extra
  split
  next => simp
  next =>
    simp only [List.length_append, length_littleEndian, length_flatMap_littleEndian]
    omega

theorem length_header (f : File) (offset : Nat) :
    (f.header offset).length = 46 + (Utf8.bytes f.name).length + (f.extra offset).length := by
  simp [header, common, headerSignature]
  omega

theorem method_number_lt (m : Method) : m.number < 99 := by
  cases m <;> decide

theorem field_header (f : File) (offset : Nat) (hname : (Utf8.bytes f.name).length < 2 ^ 16)
    (rest : List UInt8) :
    field (f.header offset ++ rest) 8 2 = 0x800 ∧
      field (f.header offset ++ rest) 10 2 = f.method.number ∧
      field (f.header offset ++ rest) 16 4 = (checksum f.bytes).toNat ∧
      field (f.header offset ++ rest) 20 4 = min f.data.length tooLong ∧
      field (f.header offset ++ rest) 24 4 = min f.bytes.length tooLong ∧
      field (f.header offset ++ rest) 28 2 = (Utf8.bytes f.name).length ∧
      field (f.header offset ++ rest) 30 2 = (f.extra offset).length ∧
      field (f.header offset ++ rest) 32 2 = 0 ∧
      field (f.header offset ++ rest) 42 4 = min offset tooLong := by
  have hextra := f.length_extra_le offset
  have hmethod := method_number_lt f.method
  have hsum := (checksum f.bytes).toNat_lt
  have hlong : tooLong < 256 ^ 4 := by decide
  simp only [header, common, List.append_assoc]
  refine ⟨?_, ?_, ?_, ?_, ?_, ?_, ?_, ?_, ?_⟩
  all_goals
    rw [field_append_right (by decide)]
    repeat rw [field_skip (by decide)]
    exact field_littleEndian_append (by omega) _

/-- After the fields of fixed width come the name and the extra field. -/
theorem exists_header_eq (f : File) (offset : Nat) :
    ∃ fixed, fixed.length = 46 ∧ fixed.take 4 = headerSignature ∧
      f.header offset = fixed ++ (Utf8.bytes f.name ++ f.extra offset) := by
  refine ⟨headerSignature ++ littleEndian 2 0x314 ++ f.common (f.extra offset).length ++
    littleEndian 2 0 ++ littleEndian 2 0 ++ littleEndian 2 0 ++ littleEndian 4 0x81A40000 ++
    littleEndian 4 (min offset tooLong), ?_, ?_, ?_⟩
  · simp [common, headerSignature]
  · simp [headerSignature]
  · simp only [header, List.append_assoc]

theorem headerText_utf8 (s : String) : headerText 0x800 (Utf8.bytes s) = s := by
  rw [headerText, if_pos (by decide), Utf8.textLossy_bytes]

theorem readHeader_header (f : File) {offset : Nat} (hname : (Utf8.bytes f.name).length < 2 ^ 16)
    (hs : f.bytes.length < 2 ^ 64) (hp : f.data.length < 2 ^ 64) (ho : offset < 2 ^ 64)
    (rest : List UInt8) :
    readHeader (f.header offset ++ rest) = some (f.headerAt offset, rest) := by
  obtain ⟨hflags, hmethod, hsum, hpacked, hsize, hnameLength, hextraLength, hcomment, hoffset⟩ :=
    f.field_header offset hname rest
  obtain ⟨fixed, hfixed, hsignature, heq⟩ := f.exists_header_eq offset
  have hbytes : f.header offset ++ rest =
      fixed ++ (Utf8.bytes f.name ++ (f.extra offset ++ rest)) := by
    rw [heq, List.append_assoc, List.append_assoc]
  have htake : (f.header offset ++ rest).take 4 = headerSignature := by
    rw [hbytes, List.take_append_of_le_length (by omega), hsignature]
  have hdrop : (f.header offset ++ rest).drop 46 =
      Utf8.bytes f.name ++ (f.extra offset ++ rest) := by
    rw [hbytes, List.drop_left' hfixed]
  have hdropName : (f.header offset ++ rest).drop (46 + (Utf8.bytes f.name).length) =
      f.extra offset ++ rest := by
    rw [← List.drop_drop, hdrop, List.drop_left]
  have hdropAll : (f.header offset ++ rest).drop
      (46 + (Utf8.bytes f.name).length + (f.extra offset).length) = rest := by
    rw [← List.drop_drop, hdropName, List.drop_left]
  have hlength : (f.header offset ++ rest).length =
      46 + (Utf8.bytes f.name).length + (f.extra offset).length + rest.length := by
    rw [List.length_append, length_header]
  have hmethodNumber := method_number_lt f.method
  have hamend := amendAll_extra (f.headerAt offset) f hs hp ho
  have hempty : headerText 0x800 [] = "" := headerText_utf8 ""
  unfold readHeader
  simp only [hflags, hmethod, hsum, hpacked, hsize, hnameLength, hextraLength, hcomment, hoffset,
    htake, hdrop, hdropName, hdropAll, Nat.add_zero, List.take_left, List.take_zero,
    headerText_utf8, hempty]
  rw [if_neg (by rw [hlength]; simp; omega)]
  simp only [headerAt] at hamend
  simp only [hamend, bind, Option.bind]
  rw [if_neg (by simp [lockedMethod]; omega)]
  rfl

theorem length_localRecord (f : File) :
    f.localRecord.length = 30 + (Utf8.bytes f.name).length + f.data.length := by
  simp [localRecord, common, localSignature]
  omega

/-- What a reader makes of a file. -/
def entry (f : File) : Entry :=
  ⟨f.name, f.bytes.length, f.data.length, (checksum f.bytes).toNat, .ok ⟨f.method, f.data⟩⟩

theorem ofNumber?_number (m : Method) : Method.ofNumber? m.number = some m := by
  cases m <;> rfl

theorem source_headerAt (f : File) (hname : (Utf8.bytes f.name).length < 2 ^ 16)
    (before after : List UInt8) :
    (f.headerAt before.length).source (before ++ (f.localRecord ++ after)) 0 =
      .ok ⟨f.method, f.data⟩ := by
  have hrecord : f.localRecord ++ after = localSignature ++ f.common 0 ++
      (Utf8.bytes f.name ++ (f.data ++ after)) := by
    simp only [localRecord, List.append_assoc]
  have hfixed : (localSignature ++ f.common 0).length = 30 := by
    simp [common, localSignature]
  have hfields : field (f.localRecord ++ after) 26 2 = (Utf8.bytes f.name).length ∧
      field (f.localRecord ++ after) 28 2 = 0 := by
    simp only [localRecord, common, List.append_assoc]
    refine ⟨?_, ?_⟩
    all_goals
      rw [field_append_right (by decide)]
      repeat rw [field_skip (by decide)]
      exact field_littleEndian_append (by omega) _
  have htake : (f.localRecord ++ after).take 4 = localSignature := by
    rw [hrecord, List.append_assoc]
    exact List.take_left' rfl
  have hdrop : (f.localRecord ++ after).drop (30 + (Utf8.bytes f.name).length) =
      f.data ++ after := by
    rw [← List.drop_drop, hrecord, List.drop_left' hfixed, List.drop_left]
  have hlength : ¬ (f.localRecord ++ after).length < 30 := by
    rw [List.length_append, length_localRecord]
    omega
  have hencrypted : ¬ hasFlag 0x800 0 = true := by decide
  simp only [Header.source, headerAt, Nat.add_zero, List.drop_left, hfields, htake, hdrop,
    ofNumber?_number, List.take_left]
  rw [if_neg hencrypted, if_neg hlength]
  rfl

end File

/-- What a reader finds in the headers of files whose local headers start after `offset` bytes. -/
def headersAt (offset : Nat) : List File → List Header
  | [] => []
  | f :: rest => f.headerAt offset :: headersAt (offset + f.localRecord.length) rest

theorem localRecords_cons (f : File) (files : List File) :
    localRecords (f :: files) = f.localRecord ++ localRecords files := rfl

theorem offset_lt_of_mem_headersAt {offset : Nat} {files : List File} {h : Header}
    (hm : h ∈ headersAt offset files) : h.offset < offset + (localRecords files).length := by
  induction files generalizing offset with
  | nil => simp [headersAt] at hm
  | cons f files ih =>
    have hrecord := f.length_localRecord
    rw [localRecords_cons, List.length_append]
    rcases List.mem_cons.mp hm with rfl | hm
    · show offset < _
      omega
    · have hrest := ih hm
      omega

theorem entries_headersAt (before after : List UInt8) {files : List File}
    (hname : ∀ f ∈ files, (Utf8.bytes f.name).length < 2 ^ 16) :
    (headersAt before.length files).map
        (fun h => h.entry (before ++ (localRecords files ++ after)) 0) =
      files.map File.entry := by
  induction files generalizing before with
  | nil => rfl
  | cons f files ih =>
    obtain ⟨hf, hfiles⟩ := List.forall_mem_cons.mp hname
    have hrest := ih (before ++ f.localRecord) hfiles
    have hsource := f.source_headerAt hf before (localRecords files ++ after)
    rw [List.length_append, List.append_assoc] at hrest
    rw [headersAt, localRecords_cons, List.append_assoc, List.map_cons, List.map_cons, hrest,
      Header.entry, hsource]
    rfl

theorem File.length_bytes_le (f : File) : f.bytes.length ≤ f.data.length := by
  unfold File.data
  split
  · exact Nat.le_refl f.bytes.length
  · rw [length_deflate]
    omega

/-- Files up to 2 GiB fit, packed or not. -/
theorem File.fits_of_length_lt {f : File} (h : f.bytes.length < 2 ^ 31) : f.fits = true := by
  have hdata : f.data.length < 2 ^ 32 := by
    unfold File.data
    split
    · omega
    · rw [length_deflate]
      omega
  rw [File.fits, decide_eq_true_eq]
  unfold tooLong
  omega

theorem readHeaders_directory {offset : Nat} {files : List File}
    (hname : ∀ f ∈ files, (Utf8.bytes f.name).length < 2 ^ 16)
    (hsize : offset + (localRecords files).length < 2 ^ 64) (rest : List UInt8) :
    readHeaders (directory offset files ++ rest) files.length = some (headersAt offset files) := by
  induction files generalizing offset with
  | nil => rfl
  | cons f files ih =>
    obtain ⟨hf, hfiles⟩ := List.forall_mem_cons.mp hname
    rw [localRecords_cons, List.length_append] at hsize
    have hrecord := f.length_localRecord
    have hbytes := f.length_bytes_le
    have hheader : readHeader (f.header offset ++
        (directory (offset + f.localRecord.length) files ++ rest)) =
        some (f.headerAt offset, directory (offset + f.localRecord.length) files ++ rest) :=
      f.readHeader_header hf (by omega) (by omega) (by omega) _
    have hrest : readHeaders (directory (offset + f.localRecord.length) files ++ rest)
        files.length = some (headersAt (offset + f.localRecord.length) files) :=
      ih hfiles (by omega)
    rw [directory, List.append_assoc, List.length_cons, readHeaders, hheader]
    simp only [bind, Option.bind, hrest]
    rfl

theorem length_directory (offset : Nat) (files : List File) :
    46 * files.length ≤ (directory offset files).length := by
  induction files generalizing offset with
  | nil => simp
  | cons f files ih =>
    have hrest := ih (offset + f.localRecord.length)
    have hheader := f.length_header offset
    rw [directory, List.length_append, List.length_cons]
    omega

end SeedArchive.Zip
