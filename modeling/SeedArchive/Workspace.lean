import SeedArchive.Failure
import SeedArchive.Files.Path
import SeedArchive.Text.Utf8

namespace SeedArchive

/-- The directory that seeds are read from and archives are written to. -/
structure Workspace where
  base : String
  deriving DecidableEq, Repr

namespace Workspace

def resolve (w : Workspace) (path : String) : String :=
  Path.join w.base path

def coaFile (w : Workspace) : String :=
  w.resolve "templates/coa.json"

def templatesFile (w : Workspace) : String :=
  w.resolve "templates/journal-templates.json"

def settingsFile (w : Workspace) : String :=
  w.resolve "seed-export.json"

end Workspace

variable {m : Type → Type} [Monad m] {Handle : Type} [Disk m Handle]

def readOrFail (path : String) (failure : Unread → Failure) : ExceptT Failure m (List UInt8) :=
  ExceptT.mk do return (← Disk.contents path).mapError failure

/-- The settings of a workspace. Without a settings file they are the stock settings. -/
def loadSettings (w : Workspace) : ExceptT Failure m Settings := do
  let path := w.settingsFile
  if ← (Disk.present path : m Bool) then
    let document ← readOrFail path fun unread => .settingsUnread unread.error
    if (Utf8.text? document).isNone then throw (.settingsUnread .notText)
    liftExcept ((Settings.ofDocument document).mapError .settings)
  else return {}
where
  liftExcept (x : Except Failure Settings) : ExceptT Failure m Settings := ExceptT.mk (pure x)

/-- Reads the document at a path. -/
def loadRecord {α : Type} (r : Json.Record α) (path : String) : ExceptT Failure m α := do
  if ← (Disk.present path : m Bool) then
    let document ← readOrFail path fun
      | .unopened e => .unopened path e
      | .broken e => .unread path e
    ExceptT.mk (pure ((Json.decode .streamed r.read document).mapError (.malformed path)))
  else throw (.absent path)

/-- Reads the chart of accounts and then the catalog of templates. -/
def loadSeed (coa templates : String) : ExceptT Failure m Seed := do
  let accounts ← loadRecord Account.chart coa
  let templates ← loadRecord JournalTemplate.catalog templates
  return { accounts, templates }

/-- Reports on the archive at a path. -/
def inspectFile (path : String) : ExceptT Failure m Report := do
  if ← (Disk.present path : m Bool) then
    let archive ← readOrFail path fun
      | .unopened e => .unopened path e
      | .broken _ => .report (.unopened .cutShort)
    ExceptT.mk (pure ((Report.ofArchive archive).mapError .report))
  else throw (.absent path)

end SeedArchive
