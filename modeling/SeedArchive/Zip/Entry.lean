import SeedArchive.Zip.Directory
import SeedArchive.Zip.File

namespace SeedArchive.Zip

/-- The bytes of an entry as far as they can be read. -/
structure Contents where
  bytes : List UInt8
  damage : Option Damage := none
  deriving DecidableEq

/-- The packed bytes of an entry. -/
structure Source where
  method : Method
  data : List UInt8
  deriving DecidableEq

/-- An entry as a reader sees it. Its lengths and checksum are those of the directory. -/
structure Entry where
  name : String
  size : Nat
  packed : Nat
  checksum : Nat
  source : Except Fault Source

/-- The packed bytes behind the local header of an entry, which lies `shift` bytes after the place
that the directory gives. -/
def Header.source (h : Header) (archive : List UInt8) (shift : Nat) : Except Fault Source :=
  let bytes := archive.drop (h.offset + shift)
  if hasFlag h.flags 0 then .error .encrypted
  else if bytes.length < 30 then .error .cutShort
  else if bytes.take 4 ≠ localSignature then .error .noLocalHeader
  else
    match Method.ofNumber? h.method with
    | none => .error .unknownMethod
    | some method =>
      if h.locked then .error .locked
      else
        .ok ⟨method, (bytes.drop (30 + field bytes 26 2 + field bytes 28 2)).take h.packed⟩

def Header.entry (h : Header) (archive : List UInt8) (shift : Nat) : Entry :=
  ⟨h.name, h.size, h.packed, h.checksum, h.source archive shift⟩

/-- The entries of an archive, one for each name. -/
def read (archive : List UInt8) : Except Fault (List Entry) := do
  let (d, headers) ← readDirectory archive
  return (distinct headers).map fun h => h.entry archive d.shift

/-- The bytes of an entry, checked at their end. -/
def Source.contents (s : Source) (sum : Nat) : Contents :=
  let checked (bytes : List UInt8) : Contents :=
    ⟨bytes, if (checksum bytes).toNat = sum then none else some .checksum⟩
  match s.method with
  | .stored => checked s.data
  | .deflated =>
    match inflate s.data with
    | (bytes, none) => checked bytes
    | (bytes, some .corrupt) => ⟨bytes, some .corrupt⟩
    | (bytes, some .incomplete) => ⟨bytes, some .incomplete⟩

end SeedArchive.Zip
