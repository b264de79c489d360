import SeedArchive.Files.Path
import SeedArchive.Files.SystemError
import SeedArchive.Text.Utf8

namespace SeedArchive

/-- A place in a tree of files: names from the inside out. The root is empty. -/
abbrev Location := List String

theorem lookup_filter_ne {α β : Type} [BEq α] [LawfulBEq α] [DecidableEq α] (items : List (α × β))
    (l k : α) :
    (items.filter fun e => !decide (e.1 = l)).lookup k =
      if k = l then none else items.lookup k := by
  induction items with
  | nil => simp
  | cons e rest ih =>
    obtain ⟨a, b⟩ := e
    by_cases ha : a = l
    · subst ha
      by_cases hk : k = a
      · simpa [hk] using ih
      · have hb : (k == a) = false := by simpa using hk
        simpa [List.lookup_cons, hk, hb] using ih
    · by_cases hk : k = a
      · subst hk
        simp [ha]
      · have hb : (k == a) = false := by simpa using hk
        simpa [List.lookup_cons, ha, hb] using ih

inductive Item
  | directory
  | file (bytes : List UInt8)
  deriving DecidableEq, Repr

/-- Files and directories at their places. The root is always a directory. Links and permissions are
outside the model: two paths lead to one thing only if they lead to one place, and what is there
can be read, changed and removed. -/
structure Tree where
  items : List (Location × Item) := []
  deriving DecidableEq, Repr

namespace Tree

def item? (t : Tree) (l : Location) : Option Item :=
  if l = [] then some .directory else t.items.lookup l

def put (t : Tree) (l : Location) (i : Item) : Tree :=
  ⟨(l, i) :: t.items.filter fun e => e.1 ≠ l⟩

def erase (t : Tree) (l : Location) : Tree :=
  ⟨t.items.filter fun e => e.1 ≠ l⟩

theorem item?_put (t : Tree) {l : Location} (hl : l ≠ []) (i : Item) (k : Location) :
    (t.put l i).item? k = if k = l then some i else t.item? k := by
  by_cases hk : k = []
  · simp [item?, hk, Ne.symm hl]
  · by_cases hkl : k = l
    · simp [item?, put, hkl, hl]
    · have hb : (k == l) = false := by simpa using hkl
      simp [item?, put, hk, hkl, List.lookup_cons, hb, lookup_filter_ne]

theorem item?_erase (t : Tree) (l k : Location) :
    (t.erase l).item? k = if k = l ∧ k ≠ [] then none else t.item? k := by
  by_cases hk : k = [] <;> simp [item?, erase, hk, lookup_filter_ne]

end Tree

/-- How a device fails to write: it takes some bytes first. -/
structure WriteFault where
  taken : Nat
  error : SystemError
  deriving DecidableEq, Repr

/-- A tree of files with a current directory. A device may fail when it is written to, and when it
has to take over what was written. That it fails to remove a file is outside the model: a removal is
refused only for what its path leads to. -/
structure Machine where
  tree : Tree := {}
  current : Location := []
  writeFault : Option WriteFault := none
  flushError : Option SystemError := none
  syncError : Option SystemError := none
  deriving DecidableEq, Repr

namespace Machine

def longestName : Nat := 255

def longestPath : Nat := 4095

/-- Goes from a directory along parts of a path; every part but the last has to lead to a
directory. -/
def walk (t : Tree) (l : Location) : List String → Except SystemError Location
  | [] => .ok l
  | part :: rest =>
    match t.item? l with
    | none => .error .notFound
    | some (.file _) => .error .notDirectory
    | some .directory =>
      if part = "" ∨ part = "." then walk t l rest
      else if part = ".." then walk t l.tail rest
      else if longestName < (Utf8.bytes part).length then .error .nameTooLong
      else walk t (part :: l) rest

def start (m : Machine) (path : String) : Except SystemError Location :=
  if '\x00' ∈ path.toList then .error .zeroInName
  else if path = "" then .error .notFound
  else if longestPath < (Utf8.bytes path).length then .error .nameTooLong
  else .ok (if Path.isAbsolute path then [] else m.current)

/-- The place that a path leads to, where something may be or not. -/
def locate (m : Machine) (path : String) : Except SystemError Location := do
  let l ← m.start path
  walk m.tree l (Path.parts path)

/-- What a path leads to. -/
def find (m : Machine) (path : String) : Except SystemError (Location × Item) := do
  let l ← m.locate path
  match m.tree.item? l with
  | none => .error .notFound
  | some i => .ok (l, i)

/-- The end of a path: a directory, the name in it that the path ends with, unless it ends with dots
or is the root, and whether slashes follow. -/
structure Slot where
  directory : Location
  name? : Option String
  slash : Bool
  deriving DecidableEq, Repr

def slot (m : Machine) (path : String) : Except SystemError Slot := do
  let l ← m.start path
  let reversed := (Path.parts path).reverse
  let named := reversed.dropWhile (· = "")
  match named with
  | [] => return ⟨[], none, false⟩
  | last :: before =>
    let directory ← walk m.tree l before.reverse
    match m.tree.item? directory with
    | none => .error .notFound
    | some (.file _) => .error .notDirectory
    | some .directory =>
      return ⟨directory, if last = "." ∨ last = ".." then none else some last,
        reversed.head? = some ""⟩

/-- The place of a name in a directory. -/
def child (l : Location) (name : String) : Except SystemError Location :=
  if longestName < (Utf8.bytes name).length then .error .nameTooLong else .ok (name :: l)

def isDirectory (m : Machine) (path : String) : Bool :=
  match m.find path with
  | .ok (_, .directory) => true
  | _ => false

def makeDirectory (m : Machine) (path : String) : Except SystemError Machine := do
  let s ← m.slot path
  match s.name? with
  | none => .error .alreadyExists
  | some name =>
    let l ← child s.directory name
    if (m.tree.item? l).isSome then .error .alreadyExists
    else return { m with tree := m.tree.put l .directory }

/-- Makes an empty file, or empties the one that is there. -/
def createFile (m : Machine) (path : String) : Except SystemError (Machine × Location) := do
  let s ← m.slot path
  match s.name? with
  | none => .error .isDirectory
  | some name =>
    if s.slash then .error .isDirectory
    else
      let l ← child s.directory name
      if m.tree.item? l = some .directory then .error .isDirectory
      else return ({ m with tree := m.tree.put l (.file []) }, l)

def append (m : Machine) (l : Location) (bytes : List UInt8) : Machine :=
  match m.tree.item? l with
  | some (.file old) => { m with tree := m.tree.put l (.file (old ++ bytes)) }
  | _ => m

def contents (m : Machine) (path : String) : Except SystemError (List UInt8) := do
  match ← m.find path with
  | (_, .directory) => .error .isDirectory
  | (_, .file bytes) => return bytes

def removeFile (m : Machine) (path : String) : Except SystemError Machine := do
  let s ← m.slot path
  match s.name? with
  | none => .error .isDirectory
  | some name =>
    let l ← child s.directory name
    match m.tree.item? l with
    | none => .error .notFound
    | some .directory => .error .isDirectory
    | some (.file _) =>
      if s.slash then .error .notDirectory else return { m with tree := m.tree.erase l }

/-- Moves a file; the file that is at its new place is replaced. -/
def renameFile (m : Machine) (old new : String) : Except SystemError Machine := do
  let s ← m.slot old
  let d ← m.slot new
  match s.name?, d.name? with
  | some oldName, some newName =>
    let l ← child s.directory oldName
    let l' ← child d.directory newName
    match m.tree.item? l with
    | none => .error .notFound
    | some .directory => .error .isDirectory
    | some (.file bytes) =>
      if s.slash ∨ d.slash then .error .notDirectory
      else if m.tree.item? l' = some .directory then .error .isDirectory
      else if l = l' then return m
      else return { m with tree := (m.tree.erase l).put l' (.file bytes) }
  | _, _ => .error .busy

end Machine

end SeedArchive
