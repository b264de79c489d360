import SeedArchive.Files.Machine
import SeedArchive.Files.Replace
import SeedArchive.Proofs.Text.Split

namespace SeedArchive

namespace Path

theorem parts_ne_nil (p : String) : parts p ≠ [] := by
  simp [parts]

theorem slash_notMem_of_mem_parts {p part : String} (h : part ∈ parts p) : '/' ∉ part.toList := by
  obtain ⟨piece, hpiece, rfl⟩ := List.mem_map.mp h
  rw [String.toList_ofList]
  exact fun hslash => (mem_of_mem_splitOn hpiece hslash).2 rfl

theorem parts_of_notMem {name : String} (h : '/' ∉ name.toList) : parts name = [name] := by
  rw [parts, List.splitOn_eq_singleton h, List.map_singleton, String.ofList_toList]

theorem parts_append_slash_append (a b : String) : parts (a ++ "/" ++ b) = parts a ++ parts b := by
  have hlist : (a ++ "/" ++ b).toList = a.toList ++ '/' :: b.toList := by
    simp
  rw [parts, hlist, List.splitOn_append_cons_self, List.map_append]
  rfl

theorem parts_intercalate {ps : List String} (hne : ps ≠ []) (h : ∀ p ∈ ps, '/' ∉ p.toList) :
    parts ("/".intercalate ps) = ps := by
  have hlist : ("/".intercalate ps).toList = ['/'].intercalate (ps.map String.toList) :=
    String.toList_intercalate
  have hpieces : ∀ piece ∈ ps.map String.toList, '/' ∉ piece := by
    simpa using h
  rw [parts, hlist, List.splitOn_intercalate '/' hpieces (by simpa using hne), List.map_map]
  simp

theorem isAbsolute_iff {p : String} :
    isAbsolute p = true ↔ ∃ rest, rest ≠ [] ∧ parts p = "" :: rest := by
  rw [isAbsolute, parts, decide_eq_true_eq]
  cases hp : p.toList with
  | nil => simp
  | cons c cs =>
    rw [List.splitOn_cons_eq_if_modifyHead]
    obtain ⟨first, rest, hsplit⟩ := List.exists_cons_of_ne_nil (List.splitOn_ne_nil '/' cs)
    by_cases hc : c = '/'
    · simp [hc, hsplit]
    · have hne : String.ofList (c :: first) ≠ "" := by
        intro h
        have hlist := congrArg String.toList h
        simp at hlist
      simp [hc, hsplit]

/-- The parts that `trim` drops are those that do not lead on. -/
theorem exists_reverse_trim (reversed : List String) :
    ∃ dropped, reversed.reverse = (trim reversed).reverse ++ dropped ∧
      ∀ part ∈ dropped, part = "" ∨ part = "." := by
  fun_induction trim reversed with
  | case1 part next rest hpart ih =>
    obtain ⟨dropped, hdropped, hneutral⟩ := ih
    refine ⟨dropped ++ [part], ?_, ?_⟩
    · rw [List.reverse_cons, hdropped, List.append_assoc]
    · intro other hother
      rcases List.mem_append.mp hother with hother | hother
      · exact hneutral other hother
      · rwa [List.mem_singleton.mp hother]
  | case2 | case3 => exact ⟨[], by simp, by simp⟩

theorem trim_ne_nil {reversed : List String} (h : reversed ≠ []) : trim reversed ≠ [] := by
  fun_induction trim reversed with
  | case1 part next rest hpart ih => exact ih (by simp)
  | case2 | case3 => exact h

theorem eq_cons_of_fileName? {p name : String} (h : fileName? p = some name) :
    (∃ rest, trim (parts p).reverse = name :: rest) ∧ name ∉ ["", ".", ".."] := by
  unfold fileName? at h
  cases htrim : trim (parts p).reverse with
  | nil => simp [htrim] at h
  | cons last rest =>
    simp only [htrim, List.head?_cons] at h
    split at h
    · simp at h
    · cases Option.some.inj h
      exact ⟨⟨rest, rfl⟩, ‹_›⟩

theorem parent?_of_trim_singleton {p last : String} (h : trim (parts p).reverse = [last])
    (hlast : last ≠ "") : parent? p = some "" := by
  simp [parent?, h]

theorem parent?_of_trim_cons {p last : String} {rest : List String}
    (h : trim (parts p).reverse = last :: rest) (hrest : rest ≠ []) :
    parent? p = some (ofParts (trim rest)) := by
  simp [parent?, h, hrest]

theorem not_isAbsolute_of_trim_singleton {p last : String} (h : trim (parts p).reverse = [last])
    (hlast : last ≠ "") : ¬isAbsolute p = true := by
  obtain ⟨dropped, hdropped, -⟩ := exists_reverse_trim (parts p).reverse
  rw [List.reverse_reverse, h] at hdropped
  rw [isAbsolute_iff, hdropped]
  rintro ⟨_, -, heq⟩
  exact hlast (List.cons.inj heq).1

theorem slash_notMem_of_fileName? {p name : String} (h : fileName? p = some name) :
    '/' ∉ name.toList := by
  obtain ⟨⟨rest, htrim⟩, -⟩ := eq_cons_of_fileName? h
  obtain ⟨dropped, hdropped, -⟩ := exists_reverse_trim (parts p).reverse
  rw [List.reverse_reverse, htrim] at hdropped
  have hmem : name ∈ parts p := by
    rw [hdropped]
    simp
  exact slash_notMem_of_mem_parts hmem

end Path

namespace Machine

/-- Where a part of a path leads if nothing stands in the way. -/
def turn (l : Location) (part : String) : Location :=
  if part = "" ∨ part = "." then l else if part = ".." then l.tail else part :: l

/-- Where the parts of a path lead if nothing stands in the way. -/
def lead (l : Location) (parts : List String) : Location :=
  parts.foldl turn l

/-- The directory that a path starts from. -/
def origin (m : Machine) (path : String) : Location :=
  if Path.isAbsolute path then [] else m.current

/-- The place that a path stands for, once the directories that it goes through are there. -/
def place (m : Machine) (path : String) : Location :=
  lead (m.origin path) (Path.parts path)

/-- The path goes through a place on its way: some of its parts lead there, and more follow. -/
def Passes (m : Machine) (path : String) (l : Location) : Prop :=
  ∃ before after, after ≠ [] ∧ Path.parts path = before ++ after ∧ l = lead (m.origin path) before

theorem lead_append (l : Location) (before after : List String) :
    lead l (before ++ after) = lead (lead l before) after :=
  List.foldl_append

theorem lead_neutral (l : Location) {parts : List String}
    (h : ∀ part ∈ parts, part = "" ∨ part = ".") : lead l parts = l := by
  induction parts with
  | nil => rfl
  | cons part parts ih =>
    rw [lead, List.foldl_cons, turn, if_pos (h part List.mem_cons_self)]
    exact ih fun other hother => h other (List.mem_cons_of_mem part hother)

theorem lead_append_neutral (l : Location) (before : List String) {after : List String}
    (h : ∀ part ∈ after, part = "" ∨ part = ".") : lead l (before ++ after) = lead l before := by
  rw [lead_append, lead_neutral _ h]

/-- A part that is a name leads to a place in the directory. -/
theorem lead_append_name (l : Location) (before : List String) {name : String}
    (h : name ∉ ["", ".", ".."]) : lead l (before ++ [name]) = name :: lead l before := by
  simp only [List.mem_cons, List.not_mem_nil, or_false, not_or] at h
  simp [lead, turn, h]

/-- A walk that succeeds arrives where the parts lead. -/
theorem eq_lead_of_walk {t : Tree} {l l' : Location} {parts : List String}
    (h : walk t l parts = .ok l') : l' = lead l parts := by
  fun_induction walk t l parts with
  | case1 l => exact (Except.ok.inj h).symm
  | case2 | case3 => cases h
  | case4 l part rest hl hpart ih =>
    rw [ih h, lead, lead, List.foldl_cons, turn, if_pos hpart]
  | case5 l rest hl hpart ih =>
    rw [ih h, lead, lead, List.foldl_cons, turn, if_neg hpart, if_pos rfl]
  | case6 => cases h
  | case7 l part rest hl hpart hdots hlong ih =>
    rw [ih h, lead, lead, List.foldl_cons, turn, if_neg hpart, if_neg hdots]

variable (m : Machine)

theorem place_eq_lead_trim (path : String) :
    m.place path = lead (m.origin path) (Path.trim (Path.parts path).reverse).reverse := by
  obtain ⟨dropped, hdropped, hneutral⟩ := Path.exists_reverse_trim (Path.parts path).reverse
  rw [List.reverse_reverse] at hdropped
  rw [place, hdropped, lead_append_neutral _ _ hneutral, ← hdropped]

section FirstParts

variable {path : String} {reversed after : List String}
  (h : Path.parts path = reversed.reverse ++ after) (hreversed : reversed ≠ [])
include h hreversed

/-- The root is written with a slash, so it has one part more than the first part of a path. -/
theorem parts_ofParts :
    reversed ≠ [""] ∧ Path.parts (Path.ofParts reversed) = reversed.reverse ∨
      reversed = [""] ∧ Path.parts (Path.ofParts reversed) = ["", ""] := by
  by_cases hroot : reversed = [""]
  · exact .inr ⟨hroot, by rw [hroot]; decide⟩
  · refine .inl ⟨hroot, ?_⟩
    rw [Path.ofParts, if_neg hroot, Path.parts_intercalate (by simpa using hreversed)]
    intro part hpart
    apply Path.slash_notMem_of_mem_parts (p := path)
    rw [h]
    exact List.mem_append_left after hpart

variable (hafter : after ≠ [])
include hafter

theorem origin_ofParts : m.origin (Path.ofParts reversed) = m.origin path := by
  have habsolute : Path.isAbsolute (Path.ofParts reversed) = Path.isAbsolute path := by
    rw [Bool.eq_iff_iff, Path.isAbsolute_iff, Path.isAbsolute_iff, h]
    rcases parts_ofParts h hreversed with ⟨hroot, hparts⟩ | ⟨hroot, hparts⟩
    · obtain ⟨first, rest, hfirst⟩ := List.exists_cons_of_ne_nil
        (show reversed.reverse ≠ [] by simpa using hreversed)
      have hrest : first = "" → rest ≠ [] := by
        rintro rfl rfl
        exact hroot (List.reverse_eq_iff.mp hfirst)
      rw [hparts, hfirst]
      simp only [List.cons_append, List.cons.injEq, exists_eq_right_right']
      exact ⟨fun hf => ⟨by simp [hafter], hf.2⟩, fun hf => ⟨hrest hf.2, hf.2⟩⟩
    · rw [hparts, hroot]
      simp [hafter]
  rw [origin, habsolute, origin]

theorem place_ofParts :
    m.place (Path.ofParts reversed) = lead (m.origin path) reversed.reverse := by
  rw [place, m.origin_ofParts h hreversed hafter]
  rcases parts_ofParts h hreversed with ⟨-, hparts⟩ | ⟨hroot, hparts⟩
  · rw [hparts]
  · rw [hparts, hroot, lead_neutral _ (by simp), lead_neutral _ (by simp)]

theorem passes_ofParts {l : Location}
    (hl : m.Passes (Path.ofParts reversed) l ∨ l = m.place (Path.ofParts reversed)) :
    m.Passes path l := by
  rcases hl with ⟨before, between, hbetween, hparts', rfl⟩ | rfl
  · rw [m.origin_ofParts h hreversed hafter]
    rcases parts_ofParts h hreversed with ⟨-, hparts⟩ | ⟨hroot, hparts⟩
    · refine ⟨before, between ++ after, by simp [hafter], ?_, rfl⟩
      rw [h, ← hparts, hparts', List.append_assoc]
    · -- both parts of the root are empty, so it goes through the origin only
      refine ⟨[], Path.parts path, Path.parts_ne_nil path, rfl, ?_⟩
      apply lead_neutral
      intro part hpart
      have hmem : part ∈ ["", ""] := by
        rw [← hparts, hparts']
        exact List.mem_append_left between hpart
      exact .inl (by simpa using hmem)
  · exact ⟨reversed.reverse, after, hafter, h, m.place_ofParts h hreversed hafter⟩

end FirstParts

theorem place_empty : m.place "" = m.current := by
  rfl

/-- The parent of a path leads to a place that the path goes through, as do all places on its
way. -/
theorem passes_of_parent {path parent : String} (h : Path.parent? path = some parent) {l : Location}
    (hl : m.Passes parent l ∨ l = m.place parent) : m.Passes path l := by
  obtain ⟨dropped, hdropped, -⟩ := Path.exists_reverse_trim (Path.parts path).reverse
  rw [List.reverse_reverse] at hdropped
  cases htrim : Path.trim (Path.parts path).reverse with
  | nil => simp [Path.parent?, htrim] at h
  | cons last rest =>
    by_cases hrest : rest = []
    · by_cases hlast : last = ""
      · simp [Path.parent?, htrim, hrest, hlast] at h
      · -- the path is one name, and its parent is the current directory
        rw [hrest] at htrim
        rw [Path.parent?_of_trim_singleton htrim hlast] at h
        cases Option.some.inj h
        have hcurrent : l = m.current := by
          rcases hl with ⟨before, after, hafter, hparts, rfl⟩ | rfl
          · have hone : before ++ after = [""] := hparts.symm
            have hbefore : before = [] := by
              cases before with
              | nil => rfl
              | cons part before => simp_all
            rw [hbefore]
            rfl
          · rfl
        refine ⟨[], Path.parts path, Path.parts_ne_nil path, rfl, ?_⟩
        rw [hcurrent, origin, if_neg (Path.not_isAbsolute_of_trim_singleton htrim hlast)]
        rfl
    · rw [Path.parent?_of_trim_cons htrim hrest] at h
      cases Option.some.inj h
      obtain ⟨between, hbetween, -⟩ := Path.exists_reverse_trim rest
      have hparts : Path.parts path =
          (Path.trim rest).reverse ++ (between ++ [last] ++ dropped) := by
        rw [hdropped, htrim, List.reverse_cons, hbetween]
        simp
      exact m.passes_ofParts hparts (Path.trim_ne_nil hrest) (by simp) hl

/-- A path that ends with a name leads to that name in the directory that its parent leads to. -/
theorem place_eq_cons {path name : String} (h : Path.fileName? path = some name) :
    m.place path = name :: m.place ((Path.parent? path).getD "") := by
  obtain ⟨⟨rest, htrim⟩, hname⟩ := Path.eq_cons_of_fileName? h
  obtain ⟨dropped, hdropped, -⟩ := Path.exists_reverse_trim (Path.parts path).reverse
  rw [List.reverse_reverse, htrim, List.reverse_cons] at hdropped
  have hplace : m.place path = name :: lead (m.origin path) rest.reverse := by
    rw [place_eq_lead_trim, htrim, List.reverse_cons, lead_append_name _ _ hname]
  rw [hplace]
  by_cases hrest : rest = []
  · have hne : name ≠ "" := by
      rintro rfl
      simp at hname
    rw [hrest] at htrim
    rw [Path.parent?_of_trim_singleton htrim hne, hrest, origin,
      if_neg (Path.not_isAbsolute_of_trim_singleton htrim hne)]
    rfl
  · obtain ⟨between, hbetween, hneutral⟩ := Path.exists_reverse_trim rest
    have hparts : Path.parts path =
        (Path.trim rest).reverse ++ (between ++ [name] ++ dropped) := by
      rw [hdropped, hbetween]
      simp
    rw [Path.parent?_of_trim_cons htrim hrest, Option.getD_some,
      m.place_ofParts hparts (Path.trim_ne_nil hrest) (by simp), hbetween,
      lead_append_neutral _ _ hneutral]

theorem place_join_name (base : String) {name : String} (hname : name ∉ ["", ".", ".."])
    (hslash : '/' ∉ name.toList) : m.place (Path.join base name) = name :: m.place base := by
  have hparts := Path.parts_of_notMem hslash
  have hrelative : ¬Path.isAbsolute name = true := by
    rw [Path.isAbsolute_iff, hparts]
    simp +contextual
  have hsame (rest : String) (hbase : base ≠ "") :
      Path.isAbsolute (base ++ rest) = Path.isAbsolute base := by
    obtain ⟨c, cs, hlist⟩ := List.exists_cons_of_ne_nil
      (show base.toList ≠ [] by simpa using hbase)
    simp [Path.isAbsolute, hlist]
  unfold Path.join
  split
  · next h =>
    rw [h.resolve_left hrelative, place_empty, place, origin, if_neg hrelative, hparts]
    exact lead_append_name m.current [] hname
  · next h =>
    have hbase : base ≠ "" := fun hempty => h (.inr hempty)
    split
    · next hlast =>
      obtain ⟨cs, hcs⟩ := List.getLast?_eq_some_iff.mp hlast
      have hends : Path.parts base = (cs.splitOn '/').map String.ofList ++ [""] := by
        rw [Path.parts, hcs, splitOn_append_singleton, List.map_append]
        rfl
      have hjoined : Path.parts (base ++ name) = (cs.splitOn '/').map String.ofList ++ [name] := by
        rw [Path.parts, String.toList_append, hcs, List.append_assoc, List.singleton_append,
          List.splitOn_append_cons_self, List.map_append]
        exact congrArg (_ ++ ·) hparts
      rw [place, place, origin, origin, hsame name hbase, hends, hjoined,
        lead_append_name _ _ hname, lead_append_neutral _ _ (by simp)]
    · rw [place, place, origin, origin, Path.parts_append_slash_append, hparts,
        String.append_assoc, hsame _ hbase, lead_append_name _ _ hname]

theorem temporaryName (name : String) : name ++ ".tmp" ∉ ["", ".", ".."] := by
  intro h
  have hlength : (name ++ ".tmp").length ≤ 2 := by
    simp only [List.mem_cons, List.not_mem_nil, or_false] at h
    rcases h with h | h | h <;> rw [h] <;> decide
  rw [String.length_append] at hlength
  have hfour : ".tmp".length = 4 := by decide
  omega

/-- The file that is written first stands beside the one that it becomes. -/
theorem place_temporaryPath_of_fileName {path name : String} (h : Path.fileName? path = some name) :
    m.place (temporaryPath path) = (name ++ ".tmp") :: (m.place path).tail := by
  have hslash : '/' ∉ (name ++ ".tmp").toList := by
    rw [String.toList_append, List.mem_append]
    exact not_or.mpr ⟨Path.slash_notMem_of_fileName? h, by decide⟩
  rw [temporaryPath, Path.withFileName, h, m.place_eq_cons h, List.tail_cons]
  exact m.place_join_name _ (temporaryName name) hslash

/-- A path that ends with no name leads to a directory, and the file is written there first. -/
theorem place_temporaryPath_of_none {path : String} (h : Path.fileName? path = none) :
    m.place (temporaryPath path) = ".tmp" :: m.place path := by
  rw [temporaryPath, Path.withFileName, h]
  exact m.place_join_name path (by decide) (by decide)

theorem place_temporaryPath_ne (path : String) : m.place (temporaryPath path) ≠ m.place path := by
  intro heq
  cases h : Path.fileName? path with
  | none =>
    have hlength := congrArg List.length heq
    rw [m.place_temporaryPath_of_none h, List.length_cons] at hlength
    omega
  | some name =>
    rw [m.place_temporaryPath_of_fileName h, m.place_eq_cons h, List.tail_cons] at heq
    have hlength := congrArg String.length (List.cons.inj heq).1
    rw [String.length_append] at hlength
    have hfour : ".tmp".length = 4 := by decide
    omega

end Machine

end SeedArchive
