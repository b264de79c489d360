import SeedArchive.Proofs.Control.Except
import SeedArchive.Proofs.Lists.Firsts
import SeedArchive.Proofs.Zip.Directory

namespace SeedArchive.Zip

theorem find?_eq_some_of_nodup {α β : Type} [DecidableEq β] {f : α → β} {as : List α}
    (h : (as.map f).Nodup) {a : α} (ha : a ∈ as) : as.find? (fun b => f b = f a) = some a := by
  induction as with
  | nil => simp at ha
  | cons b as ih =>
    obtain ⟨hb, has⟩ := List.nodup_cons.mp h
    rcases List.mem_cons.mp ha with rfl | ha
    · exact List.find?_cons_of_pos (by simp)
    · have hne : f b ≠ f a := by
        intro heq
        exact hb (heq ▸ List.mem_map_of_mem ha)
      rw [List.find?_cons_of_neg (by simpa using hne)]
      exact ih has ha

/-- Of those with one name the last, in the place of the first. -/
def lastOfEach {α : Type} (name : α → String) (as : List α) : List α :=
  (as.map name).eraseDups.filterMap fun n => as.reverse.find? fun a => name a = n

section LastOfEach

variable {α β : Type} (name : α → String)

theorem map_lastOfEach (as : List α) : (lastOfEach name as).map name = (as.map name).eraseDups := by
  rw [lastOfEach, List.map_filterMap]
  calc _ = (as.map name).eraseDups.filterMap some := by
        refine List.filterMap_congr fun n hn => ?_
        obtain ⟨a, ha, rfl⟩ := List.mem_map.mp (List.mem_eraseDups.mp hn)
        cases hfind : as.reverse.find? fun b => name b = name a with
        | none =>
          have hnone := List.find?_eq_none.mp hfind a (List.mem_reverse.mpr ha)
          simp at hnone
        | some b =>
          have hname := List.find?_some hfind
          simpa using hname
    _ = _ := List.filterMap_some

theorem lastOfEach_of_nodup {as : List α} (h : (as.map name).Nodup) : lastOfEach name as = as := by
  have hreverse : (as.reverse.map name).Nodup := by
    rw [List.map_reverse]
    exact (List.reverse_perm _).nodup_iff.mpr h
  rw [lastOfEach, eraseDups_of_nodup h, List.filterMap_map]
  calc as.filterMap ((fun n => as.reverse.find? fun b => name b = n) ∘ name)
      = as.filterMap some := List.filterMap_congr fun a ha =>
        find?_eq_some_of_nodup hreverse (List.mem_reverse.mpr ha)
    _ = as := List.filterMap_some

/-- What has the same names has the last of each in the same places. -/
theorem lastOfEach_map (f : β → α) (bs : List β) :
    lastOfEach name (bs.map f) = (lastOfEach (name ∘ f) bs).map f := by
  rw [lastOfEach, lastOfEach, List.map_filterMap, List.map_map]
  refine List.filterMap_congr fun n _ => ?_
  rw [← List.map_reverse, List.find?_map]
  rfl

end LastOfEach

/-- The entries that the directory of an archive lists, also those of names that it repeats. -/
def listed (archive : List UInt8) : Except Fault (List Entry) := do
  let (d, headers) ← readDirectory archive
  return headers.map fun h => h.entry archive d.shift

/-- Of the entries that are listed with one name a reader sees the last, in the place of the
first. -/
theorem read_eq_map_listed (archive : List UInt8) :
    read archive = (listed archive).map (lastOfEach Entry.name) := by
  rw [read, listed]
  cases readDirectory archive with
  | error fault => rfl
  | ok found => exact congrArg Except.ok (lastOfEach_map Entry.name _ found.2).symm

/-- No two entries that are read have the same name. -/
theorem nodup_name_of_read {archive : List UInt8} {entries : List Entry}
    (h : read archive = .ok entries) : (entries.map Entry.name).Nodup := by
  rw [read_eq_map_listed] at h
  cases hlisted : listed archive with
  | error fault =>
    rw [hlisted] at h
    cases h
  | ok all =>
    rw [hlisted] at h
    obtain rfl := Except.ok.inj h
    rw [map_lastOfEach]
    exact nodup_eraseDups _

/-- What a reader needs of files: names that fit into a header, and no two alike. -/
structure Writable (files : List File) : Prop where
  name_lt : ∀ f ∈ files, (Utf8.bytes f.name).length < 2 ^ 16
  nodup : (files.map File.name).Nodup
  size_lt : (write files).length < 2 ^ 64

theorem length_flatMap_le {α β : Type} {as : List α} {g : α → List β} {bound : Nat}
    (h : ∀ a ∈ as, (g a).length ≤ bound) : (as.flatMap g).length ≤ as.length * bound := by
  induction as with
  | nil => simp
  | cons a as ih =>
    obtain ⟨ha, has⟩ := List.forall_mem_cons.mp h
    have hrest := ih has
    rw [List.flatMap_cons, List.length_append, List.length_cons, Nat.succ_mul]
    omega

theorem length_directory_le {offset bound : Nat} {files : List File}
    (h : ∀ f ∈ files, (Utf8.bytes f.name).length ≤ bound) :
    (directory offset files).length ≤ files.length * (74 + bound) := by
  induction files generalizing offset with
  | nil => simp [directory]
  | cons f files ih =>
    obtain ⟨hf, hfiles⟩ := List.forall_mem_cons.mp h
    have hrest : (directory (offset + f.localRecord.length) files).length ≤
        files.length * (74 + bound) := ih hfiles
    have hheader := f.length_header offset
    have hextra := f.length_extra_le offset
    rw [directory, List.length_append, List.length_cons, Nat.succ_mul]
    omega

theorem length_ending_le (count size offset : Nat) : (ending count size offset).length ≤ 98 := by
  rw [ending, longEnding, List.length_append, length_endRecord]
  split
  · simp
  · rw [List.length_append, length_longEndRecord, length_locatorRecord]

/-- Files that fit make an archive that is not too long, if there are not very many of them. -/
theorem length_write_lt {files : List File}
    (hname : ∀ f ∈ files, (Utf8.bytes f.name).length < 2 ^ 16)
    (hfits : ∀ f ∈ files, f.fits = true) (hcount : files.length < 2 ^ 16) :
    (write files).length < 2 ^ 64 := by
  have hrecords : (localRecords files).length ≤ files.length * (30 + 2 ^ 16 + 2 ^ 32) := by
    apply length_flatMap_le
    intro f hf
    have hdata := hfits f hf
    have hlt := hname f hf
    rw [File.fits, decide_eq_true_eq] at hdata
    unfold tooLong at hdata
    rw [File.length_localRecord]
    omega
  have hheaders : (directory 0 files).length ≤ files.length * (74 + 2 ^ 16) :=
    length_directory_le fun f hf => Nat.le_of_lt (hname f hf)
  have hending := length_ending_le files.length (directory 0 files).length
    (localRecords files).length
  simp only [write, List.length_append]
  omega

theorem writable_of_fits {files : List File}
    (hname : ∀ f ∈ files, (Utf8.bytes f.name).length < 2 ^ 16)
    (hnodup : (files.map File.name).Nodup) (hfits : ∀ f ∈ files, f.fits = true)
    (hcount : files.length < 2 ^ 16) : Writable files :=
  ⟨hname, hnodup, length_write_lt hname hfits hcount⟩

section Writing

variable {files : List File} (hname : ∀ f ∈ files, (Utf8.bytes f.name).length < 2 ^ 16)
  (hwrite : (write files).length < 2 ^ 64)
include hname hwrite

theorem headers_directoryOfFiles (after : List UInt8) :
    (directoryOfFiles files).headers (localRecords files ++ (directory 0 files ++ after)) =
      some (headersAt 0 files) := by
  have hsize : 0 + (localRecords files).length < 2 ^ 64 := by
    simp only [write, List.length_append] at hwrite
    omega
  have hheaders := readHeaders_directory hname hsize after
  have hoffsets : (headersAt 0 files).all fun header =>
      header.offset + 0 < (localRecords files).length := by
    rw [List.all_eq_true]
    intro header hm
    have hlt := offset_lt_of_mem_headersAt hm
    simpa using hlt
  simp only [Directory.headers, directoryOfFiles, List.drop_left, hheaders, bind, Option.bind]
  rw [if_pos ⟨trivial, hoffsets⟩]

theorem readDirectory_write :
    readDirectory (write files) = .ok (directoryOfFiles files, headersAt 0 files) := by
  have hlength : (localRecords files).length + (directory 0 files).length < 2 ^ 64 := by
    simp only [write, List.length_append] at hwrite
    omega
  by_cases hlarge : files.length < tooMany ∧ (localRecords files).length < tooLong
  · obtain ⟨hcount, hoffset⟩ := hlarge
    have htext : write files = (localRecords files ++ directory 0 files) ++
        endRecord files.length (directory 0 files).length (localRecords files).length := by
      rw [write, ending, longEnding, if_pos ⟨hcount, hoffset⟩, List.nil_append,
        Nat.min_eq_left (Nat.le_of_lt hcount), Nat.min_eq_left (Nat.le_of_lt hoffset)]
    have hcountLt : files.length < 2 ^ 16 := by unfold tooMany at hcount; omega
    have hoffsetLt : (localRecords files).length < 2 ^ 32 := by unfold tooLong at hoffset; omega
    rw [htext]
    apply readDirectory_of_end (length_endRecord _ _ _) (endRecord_starts _ _ _)
      (readEnd_endRecord _ hcountLt hoffsetLt _)
    · rw [List.append_assoc, List.length_append]
      exact directoryOf_small files _ hcount hoffset
    · rw [List.append_assoc]
      exact headers_directoryOfFiles hname hwrite _
  · have htext : write files = (localRecords files ++ (directory 0 files ++
        (longEndRecord files.length (directory 0 files).length (localRecords files).length ++
          locatorRecord ((localRecords files).length + (directory 0 files).length)))) ++
        endRecord (min files.length tooMany) (directory 0 files).length
          (min (localRecords files).length tooLong) := by
      rw [write, ending, longEnding, if_neg hlarge]
      simp only [List.append_assoc]
    have hcountLt : min files.length tooMany < 2 ^ 16 := by unfold tooMany; omega
    have hoffsetLt : min (localRecords files).length tooLong < 2 ^ 32 := by unfold tooLong; omega
    rw [htext]
    apply readDirectory_of_end (length_endRecord _ _ _) (endRecord_starts _ _ _)
      (readEnd_endRecord _ hcountLt hoffsetLt _)
    · have hplace : (localRecords files ++ (directory 0 files ++
          (longEndRecord files.length (directory 0 files).length (localRecords files).length ++
            locatorRecord ((localRecords files).length + (directory 0 files).length)))).length =
          (localRecords files).length + (directory 0 files).length + 76 := by
        simp only [List.length_append, length_longEndRecord, length_locatorRecord]
        omega
      rw [hplace]
      simp only [List.append_assoc]
      exact directoryOf_large files _ hlarge hlength
    · simp only [List.append_assoc]
      exact headers_directoryOfFiles hname hwrite _

theorem listed_write : listed (write files) = .ok (files.map File.entry) := by
  have hentries := entries_headersAt [] (directory 0 files ++
    ending files.length (directory 0 files).length (localRecords files).length) hname
  rw [List.nil_append, List.length_nil, ← List.append_assoc] at hentries
  rw [listed, readDirectory_write hname hwrite]
  exact congrArg Except.ok hentries

end Writing

/-- Names, sizes and packed bytes of files are read from an archive as they were written to it, and
in the same order. -/
theorem read_write {files : List File} (h : Writable files) :
    read (write files) = .ok (files.map File.entry) := by
  have hnodup : ((files.map File.entry).map Entry.name).Nodup := by
    rw [List.map_map]
    exact h.nodup
  rw [read_eq_map_listed, listed_write h.name_lt h.size_lt]
  exact congrArg Except.ok (lastOfEach_of_nodup Entry.name hnodup)

/-- The bytes of a file are unpacked whole. -/
theorem contents_entry (f : File) :
    (Source.mk f.method f.data).contents (checksum f.bytes).toNat = ⟨f.bytes, none⟩ := by
  cases hm : f.method with
  | stored => simp [Source.contents, File.data, hm]
  | deflated => simp [Source.contents, File.data, hm, inflate_deflate]

end SeedArchive.Zip
