import SeedArchive.Zip.Fault
import SeedArchive.Zip.Header

namespace SeedArchive.Zip

/-- Where an archive has its headers: the place of the first one, what to add to places that the
archive gives, and their number. It is unusable if the end record contradicts itself. -/
structure Directory where
  start : Nat
  shift : Nat
  count : Nat
  usable : Bool
  deriving DecidableEq, Repr

/-- The numbers of bytes before the places at which `signature` stands, `n` more counted. -/
def positions (signature : List UInt8) (n : Nat) : List UInt8 → List Nat
  | [] => []
  | b :: rest =>
    if signature.isPrefixOf (b :: rest) then n :: positions signature (n + 1) rest
    else positions signature (n + 1) rest

/-- The places from `start` on and before `stop` at which `signature` stands. -/
def positionsIn (archive signature : List UInt8) (start stop : Nat) : List Nat :=
  positions signature start ((archive.take stop).drop start)

def endSignature : List UInt8 := [0x50, 0x4B, 0x05, 0x06]

/-- What the end record at a place says: the disks and the numbers of entries, which are two each,
and the place of the directory. -/
structure EndRecord where
  place : Nat
  disk : Nat
  directoryDisk : Nat
  entriesHere : Nat
  entries : Nat
  offset : Nat

def readEnd (archive : List UInt8) (place : Nat) : Except Fault EndRecord :=
  let bytes := archive.drop place
  if bytes.length < 22 then .error .cutShort
  else if bytes.length < 22 + field bytes 20 2 then .error .commentCutShort
  else
    .ok
      { place
        disk := field bytes 4 2
        directoryDisk := field bytes 6 2
        entriesHere := field bytes 8 2
        entries := field bytes 10 2
        offset := field bytes 16 4 }

/-- The directory starts with the first header after the place that is given for it. -/
def EndRecord.directory (e : EndRecord) (archive : List UInt8) : Except Fault Directory :=
  let found (start shift : Nat) : Directory :=
    ⟨start, shift, e.entriesHere, e.disk = e.directoryDisk⟩
  if e.entries = 0 then .ok (found (max e.offset e.place) (e.place - e.offset))
  else if e.place ≤ e.offset then .error .misplacedDirectory
  else
    match positionsIn archive headerSignature e.offset e.place with
    | [] => .error .noDirectory
    | start :: _ => .ok (found start (start - e.offset))

def locatorSignature : List UInt8 := [0x50, 0x4B, 0x06, 0x07]

/-- The record that says where the end record of a large archive is. -/
structure Locator where
  place : Nat
  disk : Nat
  offset : Nat
  disks : Nat

/-- In place of a number of entries that does not fit into the end record. -/
def tooMany : Nat := 0xFFFF

/-- The locator right before an end record, which looks for one if it cannot hold a number. -/
def EndRecord.locator? (e : EndRecord) (archive : List UInt8) : Option Locator :=
  let place := e.place - 20
  let bytes := archive.drop place
  if e.entries ≠ tooMany ∧ e.offset ≠ tooLong ∨ e.place < 20 ∨ bytes.take 4 ≠ locatorSignature then
    none
  else some ⟨place, field bytes 4 4, field bytes 8 8, field bytes 16 4⟩

def longEndSignature : List UInt8 := [0x50, 0x4B, 0x06, 0x06]

/-- The directory that the end record of a large archive at a place leads to. -/
def Locator.directoryAt (l : Locator) (archive : List UInt8) (place : Nat) :
    Except Fault Directory :=
  let bytes := archive.drop place
  let length := field bytes 4 8 + 12
  let files := field bytes 32 8
  let offset := field bytes 48 8
  let shift := place - l.offset
  if bytes.length < 56 then .error .cutShort
  else if length < 56 then .error .shortLongEnd
  else if l.place < place + length then .error .overlongLongEnd
  else if field bytes 20 4 ≠ l.disk then .error .strayLongEnd
  else if place + length ≠ l.place then .error .unevenLongEnd
  else if place < 46 * files + offset then .error .crowdedLongEnd
  else
    .ok
      { start := offset + shift
        shift
        count := files
        usable := field bytes 16 4 = field bytes 20 4 ∧ field bytes 24 8 ≤ files ∧
          field bytes 14 2 ≤ field bytes 12 2 }

/-- Tries places one after the other. The fault is that of the last one. -/
def Locator.directoryFrom (l : Locator) (archive : List UInt8) (fault : Fault) :
    List Nat → Except Fault Directory
  | [] => .error fault
  | place :: rest =>
    match l.directoryAt archive place with
    | .ok d => .ok d
    | .error f => l.directoryFrom archive f rest

/-- The end record of a large archive stands between the place that is given for it and the
locator. -/
def Locator.directory (l : Locator) (archive : List UInt8) : Except Fault Directory :=
  if l.place ≤ l.offset then .error .misplacedLongEnd
  else if 1 < l.disks then .error .severalDisks
  else
    l.directoryFrom archive .noLongEnd (positionsIn archive longEndSignature l.offset l.place)

def directoryOf (archive : List UInt8) (e : EndRecord) : Except Fault Directory :=
  match e.locator? archive with
  | none => e.directory archive
  | some l => l.directory archive

/-- The headers of a directory. All entries start before it. -/
def Directory.headers (d : Directory) (archive : List UInt8) : Option (List Header) := do
  let headers ← readHeaders (archive.drop d.start) d.count
  if d.usable ∧ headers.all fun h => h.offset + d.shift < d.start then some headers else none

/-- Tries end records one after the other. The fault is that of an end record that leads to no
directory, if there was one since the last that led to a broken directory. -/
def readFrom (archive : List UInt8) (fault : Option Fault) :
    List Nat → Except Fault (Directory × List Header)
  | [] => .error (fault.getD .noEnd)
  | place :: rest =>
    match readEnd archive place with
    | .error f => readFrom archive (fault <|> some f) rest
    | .ok e =>
      match directoryOf archive e with
      | .error f => readFrom archive (some f) rest
      | .ok d =>
        match d.headers archive with
        | some headers => .ok (d, headers)
        | none => readFrom archive none rest

/-- The directory of an archive and its headers. The last end record counts; what stands before
the archive and after it does not matter. -/
def readDirectory (archive : List UInt8) : Except Fault (Directory × List Header) :=
  readFrom archive none (positions endSignature 0 archive).reverse

end SeedArchive.Zip
