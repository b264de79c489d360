import SeedArchive.Zip.Deflate
import SeedArchive.Zip.Directory

namespace SeedArchive.Zip

def localSignature : List UInt8 := [0x50, 0x4B, 0x03, 0x04]

/-- How the bytes of an entry are kept. -/
inductive Method
  | stored
  | deflated
  deriving DecidableEq, Repr

def Method.number : Method → Nat
  | .stored => 0
  | .deflated => 8

def Method.ofNumber? (n : Nat) : Option Method :=
  if n = 0 then some .stored else if n = 8 then some .deflated else none

/-- A file to be put into an archive. -/
structure File where
  name : String
  bytes : List UInt8
  method : Method := .deflated
  deriving DecidableEq, Repr

namespace File

def data (f : File) : List UInt8 :=
  match f.method with
  | .stored => f.bytes
  | .deflated => deflate f.bytes

/-- Lengths that a local header can hold: an entry is shorter than 4 GiB, packed or not. -/
def fits (f : File) : Bool :=
  f.bytes.length ≤ tooLong ∧ f.data.length ≤ tooLong

/-- The part that a local header and a directory header have in common: version, flags, of which one
says that the name is in UTF-8, method, the first day of 1980 as the time, checksum and lengths. -/
def common (f : File) (extraLength : Nat) : List UInt8 :=
  littleEndian 2 20 ++ littleEndian 2 0x800 ++ littleEndian 2 f.method.number ++
    littleEndian 2 0 ++ littleEndian 2 0x21 ++ littleEndian 4 (checksum f.bytes).toNat ++
    littleEndian 4 (min f.data.length tooLong) ++ littleEndian 4 (min f.bytes.length tooLong) ++
    littleEndian 2 (Utf8.bytes f.name).length ++ littleEndian 2 extraLength

def localRecord (f : File) : List UInt8 :=
  localSignature ++ f.common 0 ++ Utf8.bytes f.name ++ f.data

/-- The lengths and the place of a file that a header cannot hold. -/
def longNumbers (f : File) (offset : Nat) : List Nat :=
  [f.bytes.length, f.data.length, offset].filter (tooLong ≤ ·)

/-- An extra field for the numbers that a header cannot hold. -/
def extra (f : File) (offset : Nat) : List UInt8 :=
  match f.longNumbers offset with
  | [] => []
  | numbers =>
    littleEndian 2 1 ++ littleEndian 2 (8 * numbers.length) ++ numbers.flatMap (littleEndian 8)

/-- The directory header of a file whose local header comes after `offset` bytes. -/
def header (f : File) (offset : Nat) : List UInt8 :=
  headerSignature ++ littleEndian 2 0x314 ++ f.common (f.extra offset).length ++
    littleEndian 2 0 ++ littleEndian 2 0 ++ littleEndian 2 0 ++ littleEndian 4 0x81A40000 ++
    littleEndian 4 (min offset tooLong) ++ Utf8.bytes f.name ++ f.extra offset

end File

def localRecords (files : List File) : List UInt8 :=
  files.flatMap File.localRecord

/-- The headers of files whose local headers start after `offset` bytes. -/
def directory (offset : Nat) : List File → List UInt8
  | [] => []
  | f :: rest => f.header offset ++ directory (offset + f.localRecord.length) rest

def endRecord (count size offset : Nat) : List UInt8 :=
  endSignature ++ littleEndian 2 0 ++ littleEndian 2 0 ++ littleEndian 2 count ++
    littleEndian 2 count ++ littleEndian 4 size ++ littleEndian 4 offset ++ littleEndian 2 0

/-- The end record of a large archive. -/
def longEndRecord (count size offset : Nat) : List UInt8 :=
  longEndSignature ++ littleEndian 8 44 ++ littleEndian 2 45 ++ littleEndian 2 45 ++
    littleEndian 4 0 ++ littleEndian 4 0 ++ littleEndian 8 count ++ littleEndian 8 count ++
    littleEndian 8 size ++ littleEndian 8 offset

/-- Says where the end record of a large archive is. -/
def locatorRecord (place : Nat) : List UInt8 :=
  locatorSignature ++ littleEndian 4 0 ++ littleEndian 8 place ++ littleEndian 4 1

/-- What comes between the headers of an archive and its end record. -/
def longEnding (count size offset : Nat) : List UInt8 :=
  if count < tooMany ∧ offset < tooLong then []
  else longEndRecord count size offset ++ locatorRecord (offset + size)

/-- What comes after the headers of an archive. -/
def ending (count size offset : Nat) : List UInt8 :=
  longEnding count size offset ++ endRecord (min count tooMany) size (min offset tooLong)

/-- An archive of files. -/
def write (files : List File) : List UInt8 :=
  let records := localRecords files
  let headers := directory 0 files
  records ++ headers ++ ending files.length headers.length records.length

end SeedArchive.Zip
