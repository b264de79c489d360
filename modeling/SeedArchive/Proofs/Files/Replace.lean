import SeedArchive.Proofs.Files.Growth

namespace SeedArchive

/-- The fault comes after the temporary file was made. -/
def ReplaceFault.isLate : ReplaceFault → Bool
  | .noDirectory _ _ | .noTemporary _ => false
  | _ => true

namespace Machine

theorem run_step {α : Type} (fault : SystemError → ReplaceFault)
    (x : StateM Machine (Except SystemError α)) (m : Machine) :
    (step fault x).run m = ((x.run m).1.mapError fault, (x.run m).2) := by
  rfl

theorem grown_makeParent (m : Machine) (path : String) :
    m.Grown (m.Passes path)
      ((makeParent path : ExceptT ReplaceFault (StateM Machine) Unit).run m).2 := by
  rw [makeParent]
  split
  · next parent hparent =>
    split
    · exact .refl m _
    · rw [run_step]
      exact (grown_makeDirectories m parent _).mono fun l hl => m.passes_of_parent hparent hl
  · exact .refl m _

theorem run_createFile (m : Machine) (path : String) :
    (Disk.createFile path : StateM Machine (Except SystemError Location)).run m =
      match m.createFile path with
      | .ok (m', l) => (.ok l, m')
      | .error e => (.error e, m) := by
  show attempt (fun m => m.createFile path) m = _
  rw [attempt]
  cases m.createFile path <;> rfl

theorem run_removeFile (m : Machine) (path : String) :
    (Disk.removeFile path : StateM Machine (Except SystemError Unit)).run m =
      match m.removeFile path with
      | .ok m' => (.ok (), m')
      | .error e => (.error e, m) :=
  run_attemptUnit (fun m => m.removeFile path) m

theorem run_renameFile (m : Machine) (old new : String) :
    (Disk.renameFile old new : StateM Machine (Except SystemError Unit)).run m =
      match m.renameFile old new with
      | .ok m' => (.ok (), m')
      | .error e => (.error e, m) :=
  run_attemptUnit (fun m => m.renameFile old new) m

theorem run_flush (m : Machine) (l : Location) :
    (step .unflushed (Disk.flush l) : ExceptT ReplaceFault (StateM Machine) Unit).run m =
      ((answer m.flushError).mapError .unflushed, m) := by
  rfl

theorem run_sync (m : Machine) (l : Location) :
    (step .unsynced (Disk.sync l) : ExceptT ReplaceFault (StateM Machine) Unit).run m =
      ((answer m.syncError).mapError .unsynced, m) := by
  rfl

theorem run_append (m : Machine) (l : Location) (bytes : List UInt8) :
    (step .unwritten (Disk.append l bytes) : ExceptT ReplaceFault (StateM Machine) Unit).run m =
      match m.writeFault with
      | some fault => (.error (.unwritten fault.error), m.append l (bytes.take fault.taken))
      | none => (.ok (), m.append l bytes) := by
  show ((m.write l bytes).1.mapError ReplaceFault.unwritten, (m.write l bytes).2) = _
  rw [write]
  cases m.writeFault <;> rfl

/-- Some of the bytes are written in any case; all of them are, and the file is moved, if there is
no fault. -/
theorem run_fillAndMove (m : Machine) (l : Location) (temporary path : String) (fill : Fill) :
    (∃ fault bytes, fault.isLate = true ∧
      (fillAndMove l temporary path fill : ExceptT ReplaceFault (StateM Machine) Unit).run m =
        (.error fault, m.append l bytes)) ∨
      ∃ m', (m.append l fill.bytes).renameFile temporary path = .ok m' ∧
        (fillAndMove l temporary path fill : ExceptT ReplaceFault (StateM Machine) Unit).run m =
          (.ok (), m') := by
  rw [fillAndMove, run_bind, run_append]
  cases m.writeFault with
  | some fault => exact .inl ⟨_, _, rfl, rfl⟩
  | none =>
  dsimp only
  cases fill.error with
  | some e => exact .inl ⟨_, _, rfl, rfl⟩
  | none =>
  dsimp only
  rw [run_bind, run_flush]
  cases (m.append l fill.bytes).flushError with
  | some e => exact .inl ⟨_, _, rfl, rfl⟩
  | none =>
  dsimp only [answer, Except.mapError]
  rw [run_bind, run_sync]
  cases (m.append l fill.bytes).syncError with
  | some e => exact .inl ⟨_, _, rfl, rfl⟩
  | none =>
  dsimp only [answer, Except.mapError]
  rw [run_step, run_renameFile]
  cases hrename : (m.append l fill.bytes).renameFile temporary path with
  | error e => exact .inl ⟨_, _, rfl, rfl⟩
  | ok m' => exact .inr ⟨m', rfl, rfl⟩

/-- The machine after a file is made at a place and written. -/
def written (m : Machine) (l : Location) (bytes : List UInt8) : Machine :=
  ({ m with tree := m.tree.put l (.file []) } : Machine).append l bytes

theorem isLate_of_makeParent {m m' : Machine} {path : String} {fault : ReplaceFault}
    (h : (makeParent path : ExceptT ReplaceFault (StateM Machine) Unit).run m =
      (.error fault, m')) :
    fault.isLate = false := by
  rw [makeParent] at h
  split at h
  · split at h
    · cases h
    · rw [run_step] at h
      generalize StateT.run _ m = result at h
      obtain ⟨e | a, m'⟩ := result
      · cases h
        rfl
      · cases h
  · cases h

section Written

variable {m : Machine} {l : Location} (hl : l ≠ []) (bytes : List UInt8)
include hl

theorem written_eq : m.written l bytes =
    { m with tree := (m.tree.put l (.file [])).put l (.file bytes) } := by
  have hempty : (m.tree.put l (.file [])).item? l = some (.file []) := by
    rw [Tree.item?_put _ hl, if_pos rfl]
  simp [written, append, hempty]

theorem item?_written (k : Location) :
    (m.written l bytes).tree.item? k = if k = l then some (.file bytes) else m.tree.item? k := by
  rw [written_eq hl, Tree.item?_put _ hl, Tree.item?_put _ hl]
  split <;> rfl

theorem retains_written (hfree : m.tree.item? l ≠ some .directory) :
    m.Retains (m.written l bytes) := by
  refine ⟨by rw [written_eq hl], fun k hk => ?_⟩
  have hkl : k ≠ l := by
    rintro rfl
    exact hfree hk
  rw [item?_written hl, if_neg hkl, hk]

end Written

/-- What a replacement may leave: the directories that it needs, but neither file; these
directories, and nothing at the place of the file that was written first; or the new file. -/
inductive Replacement (m : Machine) (path : String) (fill : Fill) :
    Except ReplaceFault Unit → Machine → Prop
  | unopened {fault : ReplaceFault} {m' : Machine} (early : fault.isLate = false)
      (grown : m.Grown (m.Passes path) m') : Replacement m path fill (.error fault) m'
  | undone {fault : ReplaceFault} {m₁ m' : Machine} (late : fault.isLate = true)
      (grown : m.Grown (m.Passes path) m₁) (current : m'.current = m.current)
      (free : m₁.tree.item? (m.place (temporaryPath path)) ≠ some .directory)
      (item : ∀ l, m'.tree.item? l =
        if l = m.place (temporaryPath path) then none else m₁.tree.item? l) :
      Replacement m path fill (.error fault) m'
  | done {m₁ m' : Machine} (grown : m.Grown (m.Passes path) m₁) (current : m'.current = m.current)
      (free : m₁.tree.item? (m.place (temporaryPath path)) ≠ some .directory)
      (file : m₁.tree.item? (m.place path) ≠ some .directory)
      (found : m'.locate path = .ok (m.place path))
      (item : ∀ l, m'.tree.item? l =
        if l = m.place path then some (.file fill.bytes)
        else if l = m.place (temporaryPath path) then none else m₁.tree.item? l) :
      Replacement m path fill (.ok ()) m'

section Moved

-- `m₂` is `m₁` with the file that is written first, of which some bytes may be missing
variable {m m₁ m₂ : Machine} {path : String} {fill : Fill} {bytes : List UInt8} (hgrown : m.Grown (m.Passes path) m₁)
  (hends : m₁.EndsAt (temporaryPath path) (m.place (temporaryPath path)))
  (hfree : m₁.tree.item? (m.place (temporaryPath path)) ≠ some .directory)
  (hretains : m₁.Retains m₂)
  (hitem : ∀ l, m₂.tree.item? l =
    if l = m.place (temporaryPath path) then some (.file bytes) else m₁.tree.item? l)
include hgrown hends hfree hretains hitem

theorem replacement_of_removed {fault : ReplaceFault} (hlate : fault.isLate = true) :
    ∃ m', m₂.removeFile (temporaryPath path) = .ok m' ∧
      Replacement m path fill (.error fault) m' := by
  have hremove := (hends.of_retains hretains).removeFile ((hitem _).trans (if_pos rfl))
  refine ⟨_, hremove, .undone hlate hgrown (hretains.current.trans hgrown.current) hfree ?_⟩
  intro l
  rw [Tree.item?_erase, hitem]
  by_cases hl : l = m.place (temporaryPath path)
  · simp [hl, hends.ne_nil]
  · simp [hl]

theorem replacement_of_renamed {m' : Machine} (hbytes : bytes = fill.bytes)
    (hrename : m₂.renameFile (temporaryPath path) path = .ok m') :
    Replacement m path fill (.ok ()) m' := by
  subst hbytes
  have hcurrent := hretains.current.trans hgrown.current
  have hne := m.place_temporaryPath_ne path
  obtain ⟨hends', hdirectory, bytes, hbytes, hmoved⟩ := renameFile_eq_ok hrename
  rw [place_eq hcurrent, place_eq hcurrent] at hmoved
  rw [place_eq hcurrent] at hends' hdirectory hbytes
  have hfile : m₂.tree.item? (m.place (temporaryPath path)) ≠ some .directory := by
    simp [hbytes]
  have herased : (m₂.tree.erase (m.place (temporaryPath path))).item? (m.place path) ≠
      some .directory := by
    rw [Tree.item?_erase, if_neg fun h => hne h.1.symm]
    exact hdirectory
  rw [hitem, if_pos rfl] at hbytes
  cases hbytes
  cases hmoved hne
  have hretains' := (retains_erase hfile).trans
    (retains_put hends'.ne_nil herased (.file fill.bytes))
  rw [hitem, if_neg hne.symm] at hdirectory
  refine .done hgrown hcurrent hfree hdirectory (hends'.of_retains hretains').locate fun l => ?_
  rw [Tree.item?_put _ hends'.ne_nil, Tree.item?_erase, hitem]
  by_cases hl : l = m.place (temporaryPath path)
  · simp [hl, hends.ne_nil]
  · simp [hl]

end Moved

theorem run_undo (m : Machine) (path : String) (fault : ReplaceFault) :
    (do
      let _ ← (Disk.removeFile path : StateM Machine (Except SystemError Unit))
      throw fault : ExceptT ReplaceFault (StateM Machine) Unit).run m =
      (.error fault,
        ((Disk.removeFile path : StateM Machine (Except SystemError Unit)).run m).2) := by
  rfl

theorem replacement_of_run {m m' : Machine} {path : String} {fill : Fill}
    {outcome : Except ReplaceFault Unit}
    (h : (replaceFile path fill : ExceptT ReplaceFault (StateM Machine) Unit).run m =
      (outcome, m')) : Replacement m path fill outcome m' := by
  have hgrown := grown_makeParent m path
  rw [replaceFile, run_bind] at h
  cases hparent : (makeParent path : ExceptT ReplaceFault (StateM Machine) Unit).run m with
  | mk made m₁ =>
  rw [hparent] at hgrown h
  cases made with
  | error fault =>
    cases h
    exact .unopened (isLate_of_makeParent hparent) hgrown
  | ok _ =>
  dsimp only at hgrown h
  rw [run_bind, run_step, run_createFile] at h
  cases hcreate : m₁.createFile (temporaryPath path) with
  | error e =>
    rw [hcreate] at h
    cases h
    exact .unopened rfl hgrown
  | ok opened =>
  obtain ⟨m₂, l⟩ := opened
  rw [hcreate] at h
  obtain ⟨hends, hfree, rfl⟩ := createFile_eq_ok hcreate
  have hl : l = m.place (temporaryPath path) := hends.eq_place.trans (place_eq hgrown.current)
  subst hl
  have hretains (bytes : List UInt8) := retains_written hends.ne_nil bytes hfree
  have hitem (bytes : List UInt8) := item?_written (m := m₁) hends.ne_nil bytes
  dsimp only [Except.mapError] at h
  rw [run_tryCatch] at h
  rcases run_fillAndMove { m₁ with tree := m₁.tree.put (m.place (temporaryPath path)) (.file []) }
      (m.place (temporaryPath path)) (temporaryPath path) path fill with
    ⟨fault, bytes, hlate, hrun⟩ | ⟨m₃, hrename, hrun⟩
  · obtain ⟨m₃, hremove, hreplacement⟩ :=
      replacement_of_removed hgrown hends hfree (hretains bytes) (hitem bytes) hlate
    rw [written] at hremove
    rw [hrun] at h
    dsimp only at h
    rw [run_undo, run_removeFile, hremove] at h
    cases h
    exact hreplacement
  · rw [hrun] at h
    cases h
    exact replacement_of_renamed hgrown hends hfree (hretains fill.bytes) (hitem fill.bytes) rfl
      hrename

theorem replacement (m : Machine) (path : String) (fill : Fill) :
    m.Replacement path fill
      ((replaceFile path fill : ExceptT ReplaceFault (StateM Machine) Unit).run m).1
      ((replaceFile path fill : ExceptT ReplaceFault (StateM Machine) Unit).run m).2 :=
  replacement_of_run rfl

/-- A device takes one byte of two, and the file with it is removed again. -/
example : (replaceFile "a.zip" ⟨[80, 75], none⟩ : ExceptT ReplaceFault (StateM Machine) Unit).run
    { writeFault := some ⟨1, .other "disk full"⟩ } =
      (.error (.unwritten (.other "disk full")),
        { writeFault := some ⟨1, .other "disk full"⟩ }) := by
  rfl

end Machine

end SeedArchive
