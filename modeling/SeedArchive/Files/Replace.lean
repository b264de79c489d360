import SeedArchive.Files.Disk
import SeedArchive.Files.Path

namespace SeedArchive

variable {m : Type → Type} [Monad m] {Handle : Type} [Disk m Handle]

/-- Makes a directory after its parents, `depth` of them at most. It may be there already. -/
def makeDirectories (path : String) : Nat → m (Except SystemError Unit)
  | 0 => return .error .notFound
  | depth + 1 => do
    if path = "" then return .ok ()
    match ← Disk.makeDirectory path with
    | .ok () => return .ok ()
    | .error .notFound =>
      match Path.parent? path with
      | none => return .error .notFound
      | some parent =>
        match ← makeDirectories parent depth with
        | .error e => return .error e
        | .ok () => again
    | .error e => unlessThere e
where
  unlessThere (e : SystemError) : m (Except SystemError Unit) := do
    return if ← Disk.isDirectory path then .ok () else .error e
  again : m (Except SystemError Unit) := do
    match ← Disk.makeDirectory path with
    | .ok () => return .ok ()
    | .error e => unlessThere e

/-- What is written into a file, and the error that comes after it if writing fails. -/
structure Fill where
  bytes : List UInt8
  error : Option SystemError := none
  deriving DecidableEq, Repr

/-- The step at which a file could not be replaced. -/
inductive ReplaceFault
  | noDirectory (path : String) (error : SystemError)
  | noTemporary (error : SystemError)
  | unwritten (error : SystemError)
  | unflushed (error : SystemError)
  | unsynced (error : SystemError)
  | unmoved (path : String) (error : SystemError)
  deriving DecidableEq, Repr

def ReplaceFault.text : ReplaceFault → String
  | .noDirectory path e => s!"Failed to create directory {path}: {e.text}"
  | .noTemporary e => s!"Failed to create temp file: {e.text}"
  | .unwritten e => s!"Failed to write data: {e.text}"
  | .unflushed e => s!"Failed to flush data: {e.text}"
  | .unsynced e => s!"Failed to sync data: {e.text}"
  | .unmoved path e => s!"Failed to move archive into place at {path}: {e.text}"

/-- The file beside `path` that is written first. -/
def temporaryPath (path : String) : String :=
  Path.withFileName path ((Path.fileName? path).getD "" ++ ".tmp")

/-- A step that fails with a fault of its own. -/
def step {α : Type} (fault : SystemError → ReplaceFault) (x : m (Except SystemError α)) :
    ExceptT ReplaceFault m α :=
  ExceptT.mk do return (← x).mapError fault

/-- Makes the directory that a file at `path` needs. -/
def makeParent (path : String) : ExceptT ReplaceFault m Unit :=
  match Path.parent? path with
  | some parent =>
    if parent = "" then pure ()
    else step (.noDirectory parent) (makeDirectories parent (path.length + 1))
  | none => pure ()

/-- Writes an open file and moves it to its place. -/
def fillAndMove (handle : Handle) (temporary path : String) (fill : Fill) :
    ExceptT ReplaceFault m Unit := do
  step .unwritten (Disk.append handle fill.bytes)
  match fill.error with
  | some e => throw (.unwritten e)
  | none => pure ()
  step .unflushed (Disk.flush handle)
  step .unsynced (Disk.sync handle)
  step (.unmoved path) (Disk.renameFile temporary path)

/-- Puts a new file at `path`. Another file is written beside it and moved there when it is whole,
so the file at `path` is the old one or the new one at any time; if anything fails it is the old
one, and the other file is removed again. -/
def replaceFile (path : String) (fill : Fill) : ExceptT ReplaceFault m Unit := do
  makeParent path
  let temporary := temporaryPath path
  let handle ← step .noTemporary (Disk.createFile temporary)
  tryCatch (fillAndMove handle temporary path fill) fun fault => do
    let _ ← (Disk.removeFile temporary : m _)
    throw fault

end SeedArchive
