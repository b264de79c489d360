import SeedArchive.Command.Run
import Std.Time.Zoned

namespace SeedArchive

def SystemError.ofIO (e : IO.Error) : SystemError :=
  match e with
  | .noFileOrDirectory _ _ _ => .notFound
  | .alreadyExists _ _ _ => .alreadyExists
  | .resourceBusy _ _ => .busy
  | .inappropriateType _ 20 _ => .notDirectory
  | .inappropriateType _ 21 _ => .isDirectory
  | e => .other e.toString

def orSystemError {α : Type} (x : IO α) : IO (Except SystemError α) := do
  match ← x.toBaseIO with
  | .ok a => return .ok a
  | .error e => return .error (.ofIO e)

/-- Something is at a path if the path can be resolved, whether it can be read or not. -/
def leads (path : String) : IO Bool := do
  return (← orSystemError (IO.FS.realPath path)).isOk

instance : Disk IO IO.FS.Handle where
  present := leads
  isDirectory path := leads (path ++ "/.")
  makeDirectory path := orSystemError (IO.FS.createDir path)
  contents path := do
    match ← orSystemError (IO.FS.Handle.mk path .read) with
    | .error e => return .error (.unopened e)
    | .ok handle =>
      match ← orSystemError handle.readBinToEnd with
      | .error e => return .error (.broken e)
      | .ok bytes => return .ok bytes.toList
  createFile path := orSystemError (IO.FS.Handle.mk path .write)
  append handle bytes := orSystemError (handle.write bytes.toByteArray)
  flush handle := orSystemError handle.flush
  sync handle := orSystemError handle.flush
  renameFile old new := orSystemError (IO.FS.rename old new)
  removeFile path := orSystemError (IO.FS.removeFile path)

def currentTime : IO Timestamp := do
  let t ← Std.Time.PlainDateTime.now
  let now? := Timestamp.of? t.date.year t.date.month.toNat t.date.day.toNat t.time.hour.toNat
    t.time.minute.toNat (min t.time.second.toNat 59)
  match now? with
  | some now => return now
  | none => throw (IO.userError "the clock shows no date")

def surroundings : IO Surroundings := do
  return {
    named? := ← IO.getEnv "SEED_EXPORT_DIR"
    current := (← orSystemError IO.currentDir).map toString
    now := ← currentTime }

end SeedArchive

def main (arguments : List String) : IO UInt32 := do
  let surroundings ← SeedArchive.surroundings
  let outcome ← (SeedArchive.run surroundings arguments : IO SeedArchive.Outcome)
  IO.print outcome.output
  IO.eprint outcome.error
  return UInt32.ofNat outcome.code
