import SeedArchive.Text.CodePage437
import SeedArchive.Text.Utf8
import SeedArchive.Zip.Bytes
import SeedArchive.Zip.Checksum

namespace SeedArchive.Zip

/-- What a directory header says. A locked entry needs a password, whatever its flags say. -/
structure Header where
  flags : Nat
  method : Nat
  checksum : Nat
  packed : Nat
  size : Nat
  offset : Nat
  nameBytes : List UInt8
  name : String
  comment : String
  locked : Bool := false
  deriving DecidableEq

def hasFlag (flags bit : Nat) : Bool :=
  flags.testBit bit

/-- A text of a header is UTF-8 if a flag says so, and else in the code page of old. -/
def headerText (flags : Nat) (bytes : List UInt8) : String :=
  if hasFlag flags 11 then Utf8.textLossy bytes else CodePage437.text bytes

/-- What comes of an extra field. The fields after one that is cut short do not count, but what it
says before that does. -/
inductive Amended
  | whole (h : Header)
  | cutShort (h : Header)
  | wrong

/-- In place of a number that does not fit into the header. -/
def tooLong : Nat := 0xFFFFFFFF

namespace Header

/-- Lengths and place of a large entry: those that do not fit into the header, or all of them. -/
def amendLong (h : Header) (length : Nat) (bytes : List UInt8) : Amended :=
  let width (n : Nat) : Nat := if 24 ≤ length ∨ n = tooLong then 8 else 0
  let packedAt := width h.size
  let offsetAt := packedAt + width h.packed
  let stop := offsetAt + width h.offset
  let value (old start stop : Nat) : Nat :=
    if start < stop ∧ stop ≤ bytes.length then field bytes start 8 else old
  let h := { h with
    size := value h.size 0 packedAt
    packed := value h.packed packedAt offsetAt
    offset := value h.offset offsetAt stop }
  if bytes.length < stop then .cutShort h
  else if length < stop then .wrong
  else if bytes.length < length then .cutShort h
  else .whole h

/-- Times in one format: four bytes for later use, a tag, a length and three times. -/
def amendTimes (h : Header) (length : Nat) (bytes : List UInt8) : Amended :=
  if length ≠ 32 then .wrong
  else if bytes.length < 6 then .cutShort h
  else if field bytes 4 2 ≠ 1 then .wrong
  else if bytes.length < 8 then .cutShort h
  else if field bytes 6 2 ≠ 24 then .wrong
  else if bytes.length < 32 then .cutShort h
  else .whole h

/-- Times in another format: the lowest three flags say which of them there are. -/
def amendStamps (h : Header) (length : Nat) (bytes : List UInt8) : Amended :=
  match bytes with
  | [] => .cutShort h
  | b :: _ =>
    let count := ((List.range 8).filter b.toNat.testBit).length
    if length ≠ 5 ∧ length ≠ 1 + 4 * count ∨ 8 ≤ b.toNat then .wrong
    else if bytes.length < length then .cutShort h
    else .whole h

/-- Encryption: a version, a vendor, a strength and the method that was used before. -/
def amendLock (h : Header) (length : Nat) (bytes : List UInt8) : Amended :=
  if length ≠ 7 then .wrong
  else if bytes.length < 7 then .cutShort h
  else if field bytes 2 2 ≠ 0x4541 ∨ field bytes 0 2 ∉ [1, 2] ∨ field bytes 4 1 ∉ [1, 2, 3] then
    .wrong
  else .whole { h with method := field bytes 5 2, locked := true }

/-- A text in UTF-8 after a version and the checksum of the text that it stands for. -/
def amendText (h : Header) (length : Nat) (bytes old : List UInt8)
    (put : List UInt8 → String → Header) : Amended :=
  if bytes.length < 5 then .cutShort h
  else if length < 5 then .wrong
  else if bytes.length < length then .cutShort h
  else if field bytes 1 4 ≠ (Zip.checksum old).toNat then .wrong
  else
    let new := (bytes.take length).drop 5
    match Utf8.text? new with
    | none => .wrong
    | some text => .whole (put new text)

/-- Takes over what an extra field of some kind says; `bytes` are those of the field and of the
fields after it. -/
def amend (h : Header) (kind length : Nat) (bytes : List UInt8) : Amended :=
  if kind = 0x0001 then h.amendLong length bytes
  else if kind = 0x000A then h.amendTimes length bytes
  else if kind = 0x5455 then h.amendStamps length bytes
  else if kind = 0x9901 then h.amendLock length bytes
  else if kind = 0x7075 then
    h.amendText length bytes h.nameBytes fun new text => { h with nameBytes := new, name := text }
  else if kind = 0x6375 then
    h.amendText length bytes (Utf8.bytes h.comment) fun _ text => { h with comment := text }
  else if bytes.length < length then .cutShort h
  else .whole h

/-- Takes over what extra fields say, which have a kind and a length of two bytes each. -/
def amendAll (h : Header) (bytes : List UInt8) : Nat → Option Header
  | 0 => some h
  | steps + 1 =>
    if bytes.length < 4 then some h
    else
      let length := field bytes 2 2
      match h.amend (field bytes 0 2) length (bytes.drop 4) with
      | .whole h => h.amendAll (bytes.drop (4 + length)) steps
      | .cutShort h => some h
      | .wrong => none

end Header

def headerSignature : List UInt8 := [0x50, 0x4B, 0x01, 0x02]

/-- The number that an encrypted entry has for a method. -/
def lockedMethod : Nat := 99

/-- The directory header that the bytes start with, and what comes after it. -/
def readHeader (bytes : List UInt8) : Option (Header × List UInt8) :=
  let nameLength := field bytes 28 2
  let extraLength := field bytes 30 2
  let commentLength := field bytes 32 2
  let length := 46 + nameLength + extraLength + commentLength
  if bytes.length < 46 ∨ bytes.take 4 ≠ headerSignature ∨ bytes.length < length then none
  else do
    let flags := field bytes 8 2
    let nameBytes := (bytes.drop 46).take nameLength
    let extra := (bytes.drop (46 + nameLength)).take extraLength
    let comment := (bytes.drop (46 + nameLength + extraLength)).take commentLength
    let h : Header :=
      { flags
        method := field bytes 10 2
        checksum := field bytes 16 4
        packed := field bytes 20 4
        size := field bytes 24 4
        offset := field bytes 42 4
        nameBytes
        name := headerText flags nameBytes
        comment := headerText flags comment }
    let h ← h.amendAll extra extraLength
    if h.method = lockedMethod ∧ ¬ h.locked then none
    return (h, bytes.drop length)

def readHeaders (bytes : List UInt8) : Nat → Option (List Header)
  | 0 => some []
  | count + 1 => do
    let (h, rest) ← readHeader bytes
    let more ← readHeaders rest count
    return h :: more

/-- One header for each name, in the order of the first headers: the last header of the name. -/
def distinct (headers : List Header) : List Header :=
  (headers.map Header.name).eraseDups.filterMap fun name =>
    headers.reverse.find? fun h => h.name = name

end SeedArchive.Zip
