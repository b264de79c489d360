import SeedArchive.Zip.Bytes

namespace SeedArchive.Zip

/-- Why compressed bytes give no further output: there are no more of them, or they mean nothing. -/
inductive Stop
  | incomplete
  | corrupt
  deriving DecidableEq

/-- What is left of a stream of bits: bytes, of which the first has lost its lowest `used` bits. -/
structure Bits where
  bytes : List UInt8
  used : Nat := 0

namespace Bits

def next (s : Bits) : Except Stop (Bool × Bits) :=
  match s.bytes with
  | [] => .error .incomplete
  | b :: rest =>
    .ok (b.toNat.testBit s.used, if s.used < 7 then ⟨b :: rest, s.used + 1⟩ else ⟨rest, 0⟩)

/-- A number of `count` bits, lowest first. -/
def number (s : Bits) : Nat → Except Stop (Nat × Bits)
  | 0 => .ok (0, s)
  | count + 1 => do
    let (bit, s) ← s.next
    let (high, s) ← s.number count
    return (bit.toNat + 2 * high, s)

def aligned (s : Bits) : List UInt8 :=
  if s.used = 0 then s.bytes else s.bytes.drop 1

end Bits

/-- A code: bits lead from the root to symbols. -/
inductive Code
  | none
  | symbol (value : Nat)
  | branch (zero one : Code)

namespace Code

def read : Code → Bits → Except Stop (Nat × Bits)
  | .none, _ => .error .corrupt
  | .symbol value, s => .ok (value, s)
  | .branch zero one, s =>
    match s.next with
    | .error stop => .error stop
    | .ok (bit, s) => if bit then one.read s else zero.read s

/-- The code under a node at `depth` whose symbols come first in `pending`, a list of lengths and
symbols in the order of their codes, and what is left of the list. -/
def grow (pending : List (Nat × Nat)) (depth : Nat) : Nat → Code × List (Nat × Nat)
  | 0 => (.none, pending)
  | levels + 1 =>
    match pending with
    | [] => (.none, [])
    | (length, value) :: rest =>
      if length ≤ depth then (.symbol value, rest)
      else
        let (zero, pending) := grow pending (depth + 1) levels
        let (one, pending) := grow pending (depth + 1) levels
        (.branch zero one, pending)

def longest : Nat := 15

/-- The code whose symbols have the given lengths; a symbol of length zero is not used. It has to be
complete, unless no symbol is used, or only one, of one bit, where `lone` allows that. -/
def ofLengths (lengths : List Nat) (lone : Bool) : Except Stop Code :=
  let pending : List (Nat × Nat) := (List.range longest).flatMap fun n =>
    lengths.zipIdx.filter fun (length, _) => length = n + 1
  let share : Nat := pending.foldl (fun n (length, _) => n + 1 <<< (longest - length)) 0
  if pending = [] then .ok (.branch .none .none)
  else if share = 1 <<< longest ∨ lone ∧ pending.map Prod.fst = [1] then
    .ok (grow pending 0 (longest + 1)).1
  else .error .corrupt

end Code

def endOfBlock : Nat := 256

/-- The smallest length of a copy and the number of extra bits that are added to it. -/
def copyLengths : List (Nat × Nat) := [
  (3, 0), (4, 0), (5, 0), (6, 0), (7, 0), (8, 0), (9, 0), (10, 0), (11, 1), (13, 1), (15, 1),
  (17, 1), (19, 2), (23, 2), (27, 2), (31, 2), (35, 3), (43, 3), (51, 3), (59, 3), (67, 4),
  (83, 4), (99, 4), (115, 4), (131, 5), (163, 5), (195, 5), (227, 5), (258, 0)]

/-- The same for the distance of a copy. -/
def copyDistances : List (Nat × Nat) := [
  (1, 0), (2, 0), (3, 0), (4, 0), (5, 1), (7, 1), (9, 2), (13, 2), (17, 3), (25, 3), (33, 4),
  (49, 4), (65, 5), (97, 5), (129, 6), (193, 6), (257, 7), (385, 7), (513, 8), (769, 8),
  (1025, 9), (1537, 9), (2049, 10), (3073, 10), (4097, 11), (6145, 11), (8193, 12), (12289, 12),
  (16385, 13), (24577, 13)]

def readAmount (table : List (Nat × Nat)) (i : Nat) (s : Bits) : Except Stop (Nat × Bits) :=
  match table[i]? with
  | none => .error .corrupt
  | some (base, extra) => do
    let (more, s) ← s.number extra
    return (base + more, s)

def copy (out : Array UInt8) (distance : Nat) : Nat → Array UInt8
  | 0 => out
  | n + 1 => copy (out.push (out.getD (out.size - distance) 0)) distance n

/-- The output so far, and the input that is left or why there is no more output. -/
abbrev Inflating := Array UInt8 × Except Stop Bits

/-- Length and distance of the copy that a symbol announces. -/
def readCopy (distances : Code) (symbol : Nat) (s : Bits) : Except Stop (Nat × Nat × Bits) := do
  let (length, s) ← readAmount copyLengths (symbol - 257) s
  let (i, s) ← distances.read s
  let (distance, s) ← readAmount copyDistances i s
  return (length, distance, s)

/-- Reads symbols up to the end of a block; every symbol takes one bit at least. A copy from before
the start fails at its first byte. -/
def readSymbols (literals distances : Code) (out : Array UInt8) (s : Bits) : Nat → Inflating
  | 0 => (out, .error .incomplete)
  | steps + 1 =>
    match literals.read s with
    | .error stop => (out, .error stop)
    | .ok (symbol, s) =>
      if symbol < 256 then
        readSymbols literals distances (out.push (UInt8.ofNat symbol)) s steps
      else if symbol = endOfBlock then (out, .ok s)
      else
        match readCopy distances symbol s with
        | .error stop => (out, .error stop)
        | .ok (length, distance, s) =>
          if out.size < distance then (out.push 0, .error .corrupt)
          else readSymbols literals distances (copy out distance length) s steps

/-- Reads the lengths of `count` symbols, which repeat the last one or zero to save bits. -/
def readLengths (code : Code) (count : Nat) (lengths : List Nat) (s : Bits) :
    Nat → Except Stop (List Nat × Bits)
  | 0 => .error .incomplete
  | steps + 1 =>
    if lengths.length = count then .ok (lengths.reverse, s)
    else if count < lengths.length then .error .corrupt
    else do
      let (symbol, s) ← code.read s
      if symbol < 16 then readLengths code count (symbol :: lengths) s steps
      else if symbol = 16 then
        let (n, s) ← s.number 2
        match lengths with
        | [] => .error .corrupt
        | last :: _ => readLengths code count (List.replicate (n + 3) last ++ lengths) s steps
      else do
        let (base, extra) := if symbol = 17 then (3, 3) else (11, 7)
        let (n, s) ← s.number extra
        readLengths code count (List.replicate (n + base) 0 ++ lengths) s steps

/-- The symbols of the code for lengths in the order in which their own lengths are written. -/
def lengthOrder : List Nat :=
  [16, 17, 18, 0, 8, 7, 9, 6, 10, 5, 11, 4, 12, 3, 13, 2, 14, 1, 15]

def readThrees (s : Bits) : Nat → Except Stop (List Nat × Bits)
  | 0 => .ok ([], s)
  | n + 1 => do
    let (length, s) ← s.number 3
    let (more, s) ← readThrees s n
    return (length :: more, s)

/-- The code for lengths. If it has no symbols, every bit stands for zero. -/
def lengthCode (threes : List Nat) : Except Stop Code :=
  let found := lengthOrder.zip threes
  if threes.all (· = 0) then .ok (.branch (.symbol 0) (.symbol 0))
  else Code.ofLengths ((List.range 19).map fun i => (found.lookup i).getD 0) false

/-- The codes for literals and lengths and for distances that a block brings along. A block has to
have an end. -/
def readCodes (s : Bits) : Except Stop (Code × Code × Bits) := do
  let (literals, s) ← s.number 5
  let (distances, s) ← s.number 5
  let (written, s) ← s.number 4
  if 286 < literals + 257 ∨ 30 < distances + 1 then throw .corrupt
  let (threes, s) ← readThrees s (written + 4)
  let code ← lengthCode threes
  let count := literals + 257 + (distances + 1)
  let (lengths, s) ← readLengths code count [] s (count + 1)
  if lengths[endOfBlock]? = some 0 then throw .corrupt
  let literalCode ← Code.ofLengths (lengths.take (literals + 257)) true
  let distanceCode ← Code.ofLengths (lengths.drop (literals + 257)) true
  return (literalCode, distanceCode, s)

/-- The codes of blocks that bring none along. -/
def fixedCodes : Except Stop (Code × Code) := do
  let literals ← Code.ofLengths
    (List.replicate 144 8 ++ List.replicate 112 9 ++ List.replicate 24 7 ++ List.replicate 8 8)
    false
  let distances ← Code.ofLengths (List.replicate 32 5) false
  return (literals, distances)

/-- A stored block: its length, the same inverted, and its bytes. -/
def readStored (out : Array UInt8) (s : Bits) : Inflating :=
  let bytes := s.aligned
  if bytes.length < 4 then (out, .error .incomplete)
  else
    let length := field bytes 0 2
    if length + field bytes 2 2 ≠ 65535 then (out, .error .corrupt)
    else
      let data := bytes.drop 4
      let out := out ++ data.take length
      if data.length < length then (out, .error .incomplete) else (out, .ok ⟨data.drop length, 0⟩)

def readCoded (codes : Except Stop (Code × Code × Bits)) (out : Array UInt8) : Inflating :=
  match codes with
  | .error stop => (out, .error stop)
  | .ok (literals, distances, s) =>
    readSymbols literals distances out s (8 * s.bytes.length + 1)

def readBlock (kind : Nat) (out : Array UInt8) (s : Bits) : Inflating :=
  if kind = 0 then readStored out s
  else if kind = 1 then
    readCoded (fixedCodes.map fun (literals, distances) => (literals, distances, s)) out
  else if kind = 2 then readCoded (readCodes s) out
  else (out, .error .corrupt)

/-- Reads blocks up to the one that is marked as the last; every block takes three bits at least. -/
def readBlocks (out : Array UInt8) (s : Bits) : Nat → Array UInt8 × Option Stop
  | 0 => (out, some .incomplete)
  | steps + 1 =>
    match s.number 3 with
    | .error stop => (out, some stop)
    | .ok (header, s) =>
      match readBlock (header / 2) out s with
      | (out, .error stop) => (out, some stop)
      | (out, .ok s) => if header % 2 = 1 then (out, none) else readBlocks out s steps

def piece : Nat := 8192

/-- The bytes that a deflate stream stands for, as far as they come out, and what stops it short. Of
a corrupt stream the last piece does not come out. -/
def inflate (bytes : List UInt8) : List UInt8 × Option Stop :=
  let (out, stop) := readBlocks #[] ⟨bytes, 0⟩ (8 * bytes.length + 1)
  match stop with
  | some .corrupt => (out.toList.take ((out.size - 1) / piece * piece), stop)
  | _ => (out.toList, stop)

def storedBlock (last : Bool) (data : List UInt8) : List UInt8 :=
  (if last then 1 else 0) ::
    littleEndian 2 data.length ++ littleEndian 2 (65535 - data.length) ++ data

/-- A deflate stream of stored blocks for `bytes`, which fit in `more` blocks and a last one. -/
def storeBlocks (bytes : List UInt8) : Nat → List UInt8
  | 0 => storedBlock true bytes
  | more + 1 => storedBlock false (bytes.take 65535) ++ storeBlocks (bytes.drop 65535) more

/-- A deflate stream for `bytes`. It is one of many, and not the shortest: nothing is compressed, so
only what comes out of it again is meant to agree with other writers, and not its length. -/
def deflate (bytes : List UInt8) : List UInt8 :=
  storeBlocks bytes ((bytes.length - 1) / 65535)

end SeedArchive.Zip
