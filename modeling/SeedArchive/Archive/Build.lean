import SeedArchive.Archive.Layout
import SeedArchive.Archive.Manifest
import SeedArchive.Zip.File

namespace SeedArchive

/-- An archive as it is built, with what a build tells of it. -/
structure Archive where
  bytes : List UInt8
  entries : List String
  accounts : Nat
  templates : Nat
  deriving DecidableEq, Repr

/-- An entry that is too long for its header, so that no archive can be built. -/
structure OversizedEntry where
  name : String
  deriving DecidableEq, Repr

namespace Seed

def manifest (s : Seed) (exportedAt : Timestamp) : Manifest :=
  ⟨exportedAt, s.accounts.length, s.templates.length⟩

/-- The text of an entry. -/
def textOf (s : Seed) (settings : Settings) (exportedAt : Timestamp) : Content → String
  | .manifest => (s.manifest exportedAt).text settings
  | .accounts => s.accountTable.text
  | .templates => s.templateTable.text
  | .templateLines => s.lineTable.text
  | .templateTags => s.tagTable.text
  | .placeholder columns => (Csv.Table.header columns).text

/-- The entries of the archive of a seed, each with its text. -/
def texts (s : Seed) (settings : Settings) (exportedAt : Timestamp) : List (String × String) :=
  Layout.entries.map fun e => (e.name, s.textOf settings exportedAt e.content)

def files (s : Seed) (settings : Settings) (exportedAt : Timestamp) : List Zip.File :=
  (s.texts settings exportedAt).map fun (name, text) => { name, bytes := Utf8.bytes text }

/-- The bytes of the archive of a seed. -/
def archive (s : Seed) (settings : Settings) (exportedAt : Timestamp) : List UInt8 :=
  Zip.write (s.files settings exportedAt)

/-- Builds the archive of a seed, unless an entry is too long. -/
def build (s : Seed) (settings : Settings) (exportedAt : Timestamp) :
    Except OversizedEntry Archive :=
  match (s.files settings exportedAt).find? fun f => ¬ f.fits with
  | some f => .error ⟨f.name⟩
  | none =>
    .ok
      { bytes := s.archive settings exportedAt
        entries := Layout.names
        accounts := s.accounts.length
        templates := s.templates.length }

end Seed

end SeedArchive
