import SeedArchive.Files.Machine

namespace SeedArchive

/-- Why a file is not read: it cannot be opened, or reading fails. -/
inductive Unread
  | unopened (error : SystemError)
  | broken (error : SystemError)
  deriving DecidableEq, Repr

def Unread.error : Unread → SystemError
  | .unopened e => e
  | .broken e => e

/-- Files and directories as programs use them. A file that was created is written by its handle. -/
class Disk (m : Type → Type) (Handle : outParam Type) where
  present : String → m Bool
  isDirectory : String → m Bool
  makeDirectory : String → m (Except SystemError Unit)
  contents : String → m (Except Unread (List UInt8))
  createFile : String → m (Except SystemError Handle)
  append : Handle → List UInt8 → m (Except SystemError Unit)
  flush : Handle → m (Except SystemError Unit)
  sync : Handle → m (Except SystemError Unit)
  renameFile : String → String → m (Except SystemError Unit)
  removeFile : String → m (Except SystemError Unit)

namespace Machine

/-- An operation that changes the machine if it succeeds. -/
def attempt {α : Type} (f : Machine → Except SystemError (Machine × α)) :
    StateM Machine (Except SystemError α) := fun m =>
  match f m with
  | .ok (m', a) => (.ok a, m')
  | .error e => (.error e, m)

def attemptUnit (f : Machine → Except SystemError Machine) :
    StateM Machine (Except SystemError Unit) :=
  attempt fun m => (f m).map fun m' => (m', ())

/-- The answer of a device that may fail. -/
def answer (error : Option SystemError) : Except SystemError Unit :=
  match error with
  | some e => .error e
  | none => .ok ()

/-- Appends as many of the bytes as the device takes. -/
def write (m : Machine) (l : Location) (bytes : List UInt8) : Except SystemError Unit × Machine :=
  match m.writeFault with
  | some fault => (.error fault.error, m.append l (bytes.take fault.taken))
  | none => (.ok (), m.append l bytes)

instance : Disk (StateM Machine) Location where
  present path := fun m => ((m.find path).toOption.isSome, m)
  isDirectory path := fun m => (m.isDirectory path, m)
  makeDirectory path := attemptUnit fun m => m.makeDirectory path
  contents path := fun m => ((m.contents path).mapError .broken, m)
  createFile path := attempt fun m => m.createFile path
  append l bytes := fun m => m.write l bytes
  flush _ := fun m => (answer m.flushError, m)
  sync _ := fun m => (answer m.syncError, m)
  renameFile old new := attemptUnit fun m => m.renameFile old new
  removeFile path := attemptUnit fun m => m.removeFile path

end Machine

end SeedArchive
