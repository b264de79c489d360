import SeedArchive.Proofs.Control.Except
import SeedArchive.Proofs.Files.Place

namespace SeedArchive.Machine

/-- Paths that start at one place start at the other, and no directory is gone. -/
structure Retains (m m' : Machine) : Prop where
  current : m'.current = m.current
  directory : ∀ l, m.tree.item? l = some .directory → m'.tree.item? l = some .directory

variable {m m' : Machine} {path : String}

theorem Retains.trans {m'' : Machine} (h : m.Retains m') (h' : m'.Retains m'') : m.Retains m'' :=
  ⟨h'.current.trans h.current, fun l hl => h'.directory l (h.directory l hl)⟩

theorem retains_put {l : Location} (hl : l ≠ []) (h : m.tree.item? l ≠ some .directory) (i : Item) :
    m.Retains { m with tree := m.tree.put l i } := by
  refine ⟨rfl, fun k hk => ?_⟩
  have hkl : k ≠ l := by
    rintro rfl
    exact h hk
  rw [Tree.item?_put _ hl, if_neg hkl, hk]

theorem retains_erase {l : Location} (h : m.tree.item? l ≠ some .directory) :
    m.Retains { m with tree := m.tree.erase l } := by
  refine ⟨rfl, fun k hk => ?_⟩
  have hkl : ¬(k = l ∧ k ≠ []) := by
    rintro ⟨rfl, -⟩
    exact h hk
  rw [Tree.item?_erase, if_neg hkl, hk]

theorem origin_eq (h : m'.current = m.current) : m'.origin path = m.origin path := by
  rw [origin, origin, h]

theorem place_eq (h : m'.current = m.current) : m'.place path = m.place path := by
  rw [place, place, origin_eq h]

theorem passes_iff (h : m'.current = m.current) {l : Location} :
    m'.Passes path l ↔ m.Passes path l := by
  rw [Passes, Passes, origin_eq h]

theorem start_eq (h : m'.current = m.current) : m'.start path = m.start path := by
  rw [start, start, h]

theorem eq_origin_of_start {l : Location} (h : m.start path = .ok l) : l = m.origin path := by
  unfold start at h
  split at h
  · cases h
  · split at h
    · cases h
    · split at h
      · cases h
      · exact (Except.ok.inj h).symm

theorem walk_append (t : Tree) (l : Location) (before after : List String) :
    walk t l (before ++ after) = (walk t l before).bind fun l' => walk t l' after := by
  fun_induction walk t l before with
  | case1 => rfl
  | case2 l part rest hl => simp [walk, hl, Except.bind]
  | case3 l part rest bytes hl => simp [walk, hl, Except.bind]
  | case4 l part rest hl hpart ih => simp [walk, hl, hpart, ih]
  | case5 l rest hl hpart ih => simp [walk, hl, ih]
  | case6 l part rest hl hpart hdots hlong => simp [walk, hl, hpart, hdots, hlong, Except.bind]
  | case7 l part rest hl hpart hdots hlong ih => simp [walk, hl, hpart, hdots, hlong, ih]

theorem walk_of_retains (h : m.Retains m') {l l' : Location} {parts : List String}
    (hwalk : walk m.tree l parts = .ok l') : walk m'.tree l parts = .ok l' := by
  fun_induction walk m.tree l parts with
  | case1 => exact hwalk
  | case2 | case3 | case6 => cases hwalk
  | case4 l part rest hl hpart ih =>
    rw [walk, h.directory l hl]
    simpa only [if_pos hpart] using ih hwalk
  | case5 l rest hl hpart ih =>
    rw [walk, h.directory l hl]
    simpa only [if_neg hpart, if_pos] using ih hwalk
  | case7 l part rest hl hpart hdots hlong ih =>
    rw [walk, h.directory l hl]
    simpa only [if_neg hpart, if_neg hdots, if_neg hlong] using ih hwalk

theorem locate_of_retains (h : m.Retains m') {l : Location} (hl : m.locate path = .ok l) :
    m'.locate path = .ok l := by
  obtain ⟨first, hfirst, hwalk⟩ := bind_eq_ok_iff.mp hl
  rw [locate, start_eq h.current, hfirst]
  exact walk_of_retains h hwalk

theorem eq_place_of_locate {l : Location} (h : m.locate path = .ok l) : l = m.place path := by
  obtain ⟨first, hfirst, hwalk⟩ := bind_eq_ok_iff.mp h
  rw [eq_lead_of_walk hwalk, eq_origin_of_start hfirst, place]

theorem find_eq_ok_iff {l : Location} {i : Item} :
    m.find path = .ok (l, i) ↔ m.locate path = .ok l ∧ m.tree.item? l = some i := by
  rw [find, bind_eq_ok_iff]
  constructor
  · rintro ⟨k, hk, hi⟩
    cases hitem : m.tree.item? k with
    | none => simp [hitem] at hi
    | some j =>
      simp only [hitem, Except.ok.injEq, Prod.mk.injEq] at hi
      exact ⟨hi.1 ▸ hk, hi.1 ▸ hi.2 ▸ hitem⟩
  · rintro ⟨hl, hi⟩
    exact ⟨l, hl, by rw [hi]⟩

/-- What the end of a path says if it is a name: its first parts lead to a directory, and only
slashes follow the name. -/
theorem exists_of_slot {s : Slot} {name : String} (h : m.slot path = .ok s)
    (hname : s.name? = some name) :
    ∃ l before after, m.start path = .ok l ∧ Path.parts path = before ++ name :: after ∧
      (∀ part ∈ after, part = "") ∧ (s.slash = false → after = []) ∧ name ∉ ["", ".", ".."] ∧
      walk m.tree l before = .ok s.directory ∧ m.tree.item? s.directory = some .directory := by
  obtain ⟨l, hl, h⟩ := bind_eq_ok_iff.mp h
  have hsplit := List.takeWhile_append_dropWhile (p := (· = "")) (l := (Path.parts path).reverse)
  have hhead := List.head?_dropWhile_not (· = "") (Path.parts path).reverse
  have hblank : ∀ part ∈ (Path.parts path).reverse.takeWhile (· = ""), part = "" := by
    intro part hpart
    simpa using List.all_eq_true.mp List.all_takeWhile part hpart
  generalize (Path.parts path).reverse.takeWhile (· = "") = blanks at hsplit hblank
  cases hnamed : (Path.parts path).reverse.dropWhile (· = "") with
  | nil =>
    simp only [hnamed] at h
    cases Except.ok.inj h
    cases hname
  | cons last before =>
    rw [hnamed] at hsplit hhead
    simp only [hnamed] at h
    obtain ⟨directory, hwalk, h⟩ := bind_eq_ok_iff.mp h
    have hparts : Path.parts path = before.reverse ++ last :: blanks.reverse := by
      rw [← List.reverse_reverse (Path.parts path), ← hsplit]
      simp
    split at h
    · cases h
    · cases h
    · next hdirectory =>
      cases Except.ok.inj h
      split at hname
      · cases hname
      · next hdots =>
        cases Option.some.inj hname
        refine ⟨l, before.reverse, blanks.reverse, hl, hparts, ?_, ?_, ?_, hwalk, hdirectory⟩
        · simpa using hblank
        · intro hslash
          cases blanks with
          | nil => rfl
          | cons part blanks =>
            rw [hblank part List.mem_cons_self] at hsplit
            simp [← hsplit] at hslash
        · simpa [not_or.mp hdots] using hhead

/-- A path that ends with a name leads to that name in the directory of its end. -/
theorem place_of_slot {s : Slot} {name : String} (h : m.slot path = .ok s)
    (hname : s.name? = some name) : m.place path = name :: s.directory := by
  obtain ⟨l, before, after, hl, hparts, hafter, -, hdots, hwalk, -⟩ := exists_of_slot h hname
  have happend : before ++ name :: after = (before ++ [name]) ++ after := by
    simp
  rw [place, hparts, happend, lead_append_neutral _ _ fun part hpart => .inl (hafter part hpart),
    lead_append_name _ _ hdots, ← eq_origin_of_start hl, ← eq_lead_of_walk hwalk]

theorem child_eq_ok_iff {directory l : Location} {name : String} :
    child directory name = .ok l ↔
      ¬longestName < (Utf8.bytes name).length ∧ l = name :: directory := by
  unfold child
  split <;> simp_all [eq_comm]

theorem slot_of_retains (h : m.Retains m') {s : Slot} (hs : m.slot path = .ok s) :
    m'.slot path = .ok s := by
  obtain ⟨l, hl, hs⟩ := bind_eq_ok_iff.mp hs
  simp only [slot, start_eq h.current, hl, bind, Except.bind] at hs ⊢
  cases hnamed : (Path.parts path).reverse.dropWhile (· = "") with
  | nil =>
    rw [hnamed] at hs
    exact hs
  | cons last before =>
    simp only [hnamed] at hs ⊢
    cases hwalk : walk m.tree l before.reverse with
    | error e => simp [hwalk] at hs
    | ok directory =>
      rw [walk_of_retains h hwalk]
      simp only [hwalk] at hs ⊢
      split at hs
      · cases hs
      · cases hs
      · next hdirectory =>
        rw [h.directory directory hdirectory]
        exact hs

/-- The path ends with a name, and no slash after it, that may stand for a file at the place. -/
def EndsAt (m : Machine) (path : String) (l : Location) : Prop :=
  ∃ s name, m.slot path = .ok s ∧ s.name? = some name ∧ s.slash = false ∧
    child s.directory name = .ok l

namespace EndsAt

variable {l : Location} (h : m.EndsAt path l)
include h

theorem eq_place : l = m.place path := by
  obtain ⟨s, name, hs, hname, -, hl⟩ := h
  rw [place_of_slot hs hname, (child_eq_ok_iff.mp hl).2]

theorem ne_nil : l ≠ [] := by
  obtain ⟨s, name, -, -, -, hl⟩ := h
  simp [(child_eq_ok_iff.mp hl).2]

theorem locate : m.locate path = .ok l := by
  obtain ⟨s, name, hs, hname, hslash, hl⟩ := h
  obtain ⟨first, before, after, hfirst, hparts, -, hafter, hdots, hwalk, hdirectory⟩ :=
    exists_of_slot hs hname
  obtain ⟨hlong, rfl⟩ := child_eq_ok_iff.mp hl
  simp only [List.mem_cons, List.not_mem_nil, or_false, not_or] at hdots
  rw [Machine.locate, hfirst, hparts, hafter hslash]
  show walk m.tree first (before ++ [name]) = _
  rw [walk_append, hwalk]
  simp [Except.bind, walk, hdirectory, hdots, hlong]

theorem of_retains (hretains : m.Retains m') : m'.EndsAt path l := by
  obtain ⟨s, name, hs, hname, hslash, hl⟩ := h
  exact ⟨s, name, slot_of_retains hretains hs, hname, hslash, hl⟩

theorem removeFile {bytes : List UInt8} (hfile : m.tree.item? l = some (.file bytes)) :
    m.removeFile path = .ok { m with tree := m.tree.erase l } := by
  obtain ⟨s, name, hs, hname, hslash, hl⟩ := h
  simp [Machine.removeFile, hs, hname, hl, hfile, hslash, bind, Except.bind, pure, Except.pure]

end EndsAt

theorem makeDirectory_eq_ok (h : m.makeDirectory path = .ok m') :
    m.place path ≠ [] ∧ m.tree.item? (m.place path) = none ∧
      m' = { m with tree := m.tree.put (m.place path) .directory } := by
  obtain ⟨s, hs, h⟩ := bind_eq_ok_iff.mp h
  cases hname : s.name? with
  | none => simp [hname] at h
  | some name =>
    simp only [hname] at h
    obtain ⟨l, hl, h⟩ := bind_eq_ok_iff.mp h
    obtain ⟨-, rfl⟩ := child_eq_ok_iff.mp hl
    rw [place_of_slot hs hname]
    split at h
    · cases h
    · next hfree =>
      exact ⟨by simp, by simpa using hfree, (Except.ok.inj h).symm⟩

theorem createFile_eq_ok {l : Location} (h : m.createFile path = .ok (m', l)) :
    m.EndsAt path l ∧ m.tree.item? l ≠ some .directory ∧
      m' = { m with tree := m.tree.put l (.file []) } := by
  obtain ⟨s, hs, h⟩ := bind_eq_ok_iff.mp h
  cases hname : s.name? with
  | none => simp [hname] at h
  | some name =>
    simp only [hname] at h
    split at h
    · cases h
    · next hslash =>
      obtain ⟨k, hk, h⟩ := bind_eq_ok_iff.mp h
      split at h
      · cases h
      · next hfile =>
        cases Except.ok.inj h
        exact ⟨⟨s, name, hs, hname, by simpa using hslash, hk⟩, hfile, rfl⟩

theorem renameFile_eq_ok {old new : String} (h : m.renameFile old new = .ok m') :
    m.EndsAt new (m.place new) ∧ m.tree.item? (m.place new) ≠ some .directory ∧
      ∃ bytes, m.tree.item? (m.place old) = some (.file bytes) ∧
        (m.place old ≠ m.place new →
          m' =
            { m with tree := (m.tree.erase (m.place old)).put (m.place new) (.file bytes) }) := by
  obtain ⟨s, hs, h⟩ := bind_eq_ok_iff.mp h
  obtain ⟨d, hd, h⟩ := bind_eq_ok_iff.mp h
  split at h
  · next oldName newName hold hnew =>
    obtain ⟨l, hl, h⟩ := bind_eq_ok_iff.mp h
    obtain ⟨l', hl', h⟩ := bind_eq_ok_iff.mp h
    have hplace : m.place old = l := by
      rw [place_of_slot hs hold, (child_eq_ok_iff.mp hl).2]
    have hplace' : m.place new = l' := by
      rw [place_of_slot hd hnew, (child_eq_ok_iff.mp hl').2]
    rw [hplace, hplace']
    split at h
    · cases h
    · cases h
    · next bytes hbytes =>
      split at h
      · cases h
      · next hslash =>
        split at h
        · cases h
        · next hfile =>
          refine ⟨⟨d, newName, hd, hnew, by simp_all, hl'⟩, hfile, bytes, hbytes, ?_⟩
          intro hne
          rw [if_neg hne] at h
          exact (Except.ok.inj h).symm
  · cases h

end SeedArchive.Machine
