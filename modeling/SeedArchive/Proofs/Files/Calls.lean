import SeedArchive.Proofs.Files.Replace

namespace SeedArchive.Machine

variable {m m' : Machine} {path : String}

theorem find_of_sameAt {made : Location → Prop} {l : Location} {i : Item} (h : m.Retains m')
    (hsame : m.SameAt made m' l) (hfind : m.find path = .ok (l, i)) :
    m'.find path = .ok (l, i) := by
  obtain ⟨hlocate, hitem⟩ := find_eq_ok_iff.mp hfind
  exact find_eq_ok_iff.mpr ⟨locate_of_retains h hlocate, hsame.item?_eq_some hitem⟩

/-- The call came as far as to make the file that is written first. -/
def Opened : Except ReplaceFault Unit → Prop
  | .ok _ => True
  | .error fault => fault.isLate = true

/-- What one call promises: the new file, or no change but for directories that the path goes
through. The file that is written first stands beside the other one, and none is left there. -/
structure AllOrNothing (m : Machine) (path : String) (fill : Fill)
    (outcome : Except ReplaceFault Unit) (m' : Machine) : Prop where
  written : outcome = .ok () → m'.find path = .ok (m.place path, .file fill.bytes)
  found : outcome ≠ .ok () → ∀ l i, m.find path = .ok (l, i) → m'.find path = .ok (l, i)
  kept : outcome ≠ .ok () → m.SameAt (m.Passes path) m' (m.place path)
  inside : outcome ≠ .ok () → (Path.fileName? path).isSome → ∀ l, m.place path <:+ l →
    m.SameAt (m.Passes path) m' l
  elsewhere : ∀ l, l ≠ m.place path → l ≠ m.place (temporaryPath path) →
    m.SameAt (m.Passes path) m' l
  temporary : Opened outcome → m'.tree.item? (m.place (temporaryPath path)) = none
  unopened : ¬Opened outcome → m.SameAt (m.Passes path) m' (m.place (temporaryPath path))
  apart : m.place (temporaryPath path) ≠ m.place path
  beside : ∀ name, Path.fileName? path = some name → ∃ directory,
    m.place path = name :: directory ∧
      m.place (temporaryPath path) = (name ++ ".tmp") :: directory

namespace Replacement

variable {fill : Fill} {outcome : Except ReplaceFault Unit}
  (h : m.Replacement path fill outcome m')
include h

theorem retains : m.Retains m' := by
  cases h with
  | unopened early grown => exact grown.retains
  | undone late grown current free item =>
    refine ⟨current, fun l hl => ?_⟩
    have hl₁ := grown.retains.directory l hl
    have hne : l ≠ m.place (temporaryPath path) := fun heq => free (heq ▸ hl₁)
    rw [item, if_neg hne, hl₁]
  | done grown current free file found item =>
    refine ⟨current, fun l hl => ?_⟩
    have hl₁ := grown.retains.directory l hl
    have hne : l ≠ m.place (temporaryPath path) := fun heq => free (heq ▸ hl₁)
    have hne' : l ≠ m.place path := fun heq => file (heq ▸ hl₁)
    rw [item, if_neg hne', if_neg hne, hl₁]

theorem sameAt {l : Location} (hl : l ≠ m.place (temporaryPath path))
    (hfile : outcome = .ok () → l ≠ m.place path) : m.SameAt (m.Passes path) m' l := by
  cases h with
  | unopened early grown => exact grown.item l
  | undone late grown current free item =>
    rw [SameAt, item, if_neg hl]
    exact grown.item l
  | done grown current free file found item =>
    rw [SameAt, item, if_neg (hfile rfl), if_neg hl]
    exact grown.item l

theorem item?_place (hok : outcome = .ok ()) :
    m'.tree.item? (m.place path) = some (.file fill.bytes) := by
  cases h with
  | unopened | undone => cases hok
  | done grown current free file found item => rw [item, if_pos rfl]

theorem allOrNothing : m.AllOrNothing path fill outcome m' := by
  have hapart := m.place_temporaryPath_ne path
  constructor
  case written =>
    intro hok
    have hitem := h.item?_place hok
    cases h with
    | unopened | undone => cases hok
    | done grown current free file found item => exact find_eq_ok_iff.mpr ⟨found, hitem⟩
  case found =>
    intro hfailed l i hfind
    have hl : l ≠ m.place (temporaryPath path) := by
      rw [eq_place_of_locate (find_eq_ok_iff.mp hfind).1]
      exact hapart.symm
    exact find_of_sameAt h.retains (h.sameAt hl fun hok => absurd hok hfailed) hfind
  case kept => exact fun hfailed => h.sameAt hapart.symm fun hok => absurd hok hfailed
  case inside =>
    intro hfailed hname l hl
    refine h.sameAt (fun heq => ?_) fun hok => absurd hok hfailed
    rw [heq] at hl
    -- the two places are of one length, so one can only lie in the other if they are the same
    obtain ⟨name, hname⟩ := Option.isSome_iff_exists.mp hname
    refine hapart (hl.eq_of_length ?_).symm
    rw [m.place_temporaryPath_of_fileName hname, m.place_eq_cons hname, List.length_cons,
      List.length_cons, List.tail_cons]
  case elsewhere => exact fun l hne htemporary => h.sameAt htemporary fun _ => hne
  case temporary =>
    intro hopened
    cases h with
    | unopened early grown => simp [Opened, early] at hopened
    | undone late grown current free item => rw [item, if_pos rfl]
    | done grown current free file found item => rw [item, if_neg hapart, if_pos rfl]
  case unopened =>
    intro hopened
    cases h with
    | unopened early grown => exact grown.item _
    | undone late => exact absurd late hopened
    | done => exact absurd trivial hopened
  case apart => exact hapart
  case beside =>
    intro name hname
    refine ⟨_, m.place_eq_cons hname, ?_⟩
    rw [m.place_temporaryPath_of_fileName hname, m.place_eq_cons hname, List.tail_cons]

end Replacement

/-- Between two calls the path goes on to stand for the same place, and the same stands there.
Other places may change, and whether the devices fail. -/
structure Meanwhile (m : Machine) (path : String) (m' : Machine) : Prop where
  current : m'.current = m.current
  item : m'.tree.item? (m.place path) = m.tree.item? (m.place path)

/-- Calls on one path, one after another, with what each of them wrote and how it ended. -/
inductive Calls (path : String) : Machine → List (Fill × Except ReplaceFault Unit) → Machine → Prop
  | start (m : Machine) : Calls path m [] m
  | call {m m₁ m₂ m₃ : Machine} {calls : List (Fill × Except ReplaceFault Unit)} {fill : Fill}
      {outcome : Except ReplaceFault Unit} (before : Calls path m calls m₁)
      (meanwhile : m₁.Meanwhile path m₂)
      (run : (replaceFile path fill : ExceptT ReplaceFault (StateM Machine) Unit).run m₂ =
        (outcome, m₃)) : Calls path m (calls ++ [(fill, outcome)]) m₃

def lastWritten (calls : List (Fill × Except ReplaceFault Unit)) : Option (List UInt8) :=
  (calls.reverse.find? fun call => call.2.isOk).map fun call => call.1.bytes

theorem lastWritten_append_ok (calls : List (Fill × Except ReplaceFault Unit)) (fill : Fill) :
    lastWritten (calls ++ [(fill, .ok ())]) = some fill.bytes := by
  rw [lastWritten, List.reverse_append]
  rfl

theorem lastWritten_append_error (calls : List (Fill × Except ReplaceFault Unit)) (fill : Fill)
    (fault : ReplaceFault) : lastWritten (calls ++ [(fill, .error fault)]) = lastWritten calls := by
  rw [lastWritten, List.reverse_append]
  rfl

variable {calls : List (Fill × Except ReplaceFault Unit)}

theorem Calls.current (h : Calls path m calls m') : m'.current = m.current := by
  induction h with
  | start => rfl
  | call before meanwhile run ih =>
    exact ((replacement_of_run run).retains.current.trans meanwhile.current).trans ih

/-- After any calls on a path its place holds what the last of them wrote that succeeded. If none
did, it holds what it held before, or a directory that was missing. -/
theorem Calls.item?_place (h : Calls path m calls m') :
    match lastWritten calls with
    | some bytes => m'.tree.item? (m.place path) = some (.file bytes)
    | none => m.SameAt (m.Passes path) m' (m.place path) := by
  induction h with
  | start => exact .inl rfl
  | @call m₁ m₂ m₃ calls fill outcome before meanwhile run ih =>
    have hreplacement := replacement_of_run run
    have hcurrent : m₂.current = m.current := meanwhile.current.trans before.current
    have hplace : m₂.place path = m.place path := place_eq hcurrent
    have hsame : m₂.tree.item? (m.place path) = m₁.tree.item? (m.place path) := by
      rw [← place_eq before.current]
      exact meanwhile.item
    cases outcome with
    | ok _ =>
      rw [lastWritten_append_ok, ← hplace]
      exact hreplacement.item?_place rfl
    | error fault =>
      have hkept := hreplacement.allOrNothing.kept (by simp)
      rw [hplace] at hkept
      rw [lastWritten_append_error]
      cases hlast : lastWritten calls with
      | some bytes =>
        rw [hlast] at ih
        exact hkept.item?_eq_some (hsame.trans ih)
      | none =>
        rw [hlast] at ih
        have hbefore : m.SameAt (m.Passes path) m₂ (m.place path) := by
          rwa [SameAt, hsame]
        exact hbefore.trans (hkept.mono (passes_iff hcurrent).mp)

/-- After any calls on a path its place holds what the last of them wrote that succeeded, or what it
held before; and whatever the next call is to write, it is all or nothing. -/
theorem replaceFile_allOrNothing (h : Calls path m calls m') :
    (match lastWritten calls with
      | some bytes => m'.tree.item? (m.place path) = some (.file bytes)
      | none => m.SameAt (m.Passes path) m' (m.place path)) ∧
    ∀ fill,
      m'.AllOrNothing path fill
        ((replaceFile path fill : ExceptT ReplaceFault (StateM Machine) Unit).run m').1
        ((replaceFile path fill : ExceptT ReplaceFault (StateM Machine) Unit).run m').2 :=
  ⟨h.item?_place, fun fill => (m'.replacement path fill).allOrNothing⟩

/-- A disk that fills up in the second of two calls leaves what the first one wrote. -/
theorem replaceFile_allOrNothing_diskFull :
    ∃ m', Calls "out/a.zip" {}
        [(⟨[80], none⟩, .ok ()),
          (⟨[81], some (.other "disk full")⟩, .error (.unwritten (.other "disk full")))] m' ∧
      m'.tree.item? ["a.zip", "out"] = some (.file [80]) ∧
      m'.AllOrNothing "out/a.zip" ⟨[82], none⟩
        ((replaceFile "out/a.zip" ⟨[82], none⟩ : ExceptT ReplaceFault (StateM Machine) Unit).run
          m').1
        ((replaceFile "out/a.zip" ⟨[82], none⟩ : ExceptT ReplaceFault (StateM Machine) Unit).run
          m').2 := by
  have hcalls : Calls "out/a.zip" {}
      [(⟨[80], none⟩, .ok ()),
        (⟨[81], some (.other "disk full")⟩, .error (.unwritten (.other "disk full")))]
      { tree := ⟨[(["a.zip", "out"], .file [80]), (["out"], .directory)]⟩ } :=
    .call (.call (.start _) ⟨rfl, rfl⟩ rfl) ⟨rfl, rfl⟩ rfl
  obtain ⟨hwritten, hnext⟩ := replaceFile_allOrNothing hcalls
  exact ⟨_, hcalls, hwritten, hnext _⟩

end SeedArchive.Machine
