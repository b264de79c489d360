import SeedArchive.Csv.Draft
import SeedArchive.Text.Utf8

namespace SeedArchive.Csv

/-- A record as its bytes, with the bytes and line feeds before it. -/
structure RawRecord where
  start : Nat
  feeds : Nat
  fields : List (List UInt8)
  deriving DecidableEq

/-- The records that are ended, and the one that the content stops in. -/
structure Split where
  ended : List RawRecord
  last : Option RawRecord
  deriving DecidableEq

/-- In bytes, a line feed and a carriage return end a record, and blank lines are passed over. -/
def Marks.bytes : Marks UInt8 where
  comma := 44
  quote := 34
  ends b := b = 10 || b = 13
  blankLines := false
  comma_ne_quote := by decide
  ends_comma := by decide
  ends_quote := by decide

/-- Splits what comes after `n` bytes with `feeds` line feeds. The draft was begun after `start`
bytes with `startFeeds` line feeds; lines without a byte in them are passed over. -/
def split (n feeds start startFeeds : Nat) (draft : Draft UInt8) : List UInt8 → Split
  | [] =>
    ⟨[], if draft.stand = .outside then none else some ⟨start, startFeeds, draft.finish⟩⟩
  | b :: rest =>
    let feeds' := if b = 10 then feeds + 1 else feeds
    if Marks.bytes.ends b ∧ draft.stand ≠ .quoted then
      if draft.stand = .outside then split (n + 1) feeds' start startFeeds draft rest
      else
        let more := split (n + 1) feeds' (n + 1) feeds' {} rest
        ⟨⟨start, startFeeds, draft.finish⟩ :: more.ended, more.last⟩
    else split (n + 1) feeds' start startFeeds (draft.read Marks.bytes b) rest

/-- The records of a content, whose first three bytes may be a byte order mark. -/
def records : List UInt8 → Split
  | 0xEF :: 0xBB :: 0xBF :: rest => split 3 0 0 0 {} rest
  | content => split 0 0 0 0 {} content

/-- The number of a record, of its line and of the byte that it starts with. -/
structure Spot where
  record : Nat
  line : Nat
  byte : Nat
  deriving DecidableEq

def RawRecord.spot (r : RawRecord) (record : Nat) : Spot :=
  ⟨record, r.feeds + 1, r.start⟩

/-- Why a content is refused: a record has another number of fields than the header, or a field is
no text after its first `valid` bytes. -/
inductive Fault
  | unequalLengths (spot : Spot) (found header : Nat)
  | notText (spot : Spot) (field valid : Nat)
  deriving DecidableEq

def Fault.text : Fault → String
  | .unequalLengths spot found header =>
    s!"CSV error: record {spot.record} (line: {spot.line}, byte: {spot.byte}): " ++
      s!"found record with {found} fields, but the previous record has {header} fields"
  | .notText spot field valid =>
    s!"CSV parse error: record {spot.record} " ++
      s!"(line {spot.line}, field: {field}, byte: {spot.byte}): " ++
      s!"invalid utf-8: invalid UTF-8 in field {field} near byte index {valid}"

/-- The texts of fields, of which the first has the number `i`. -/
def fieldTexts (spot : Spot) (i : Nat) : List (List UInt8) → Except Fault (List String)
  | [] => .ok []
  | field :: rest => do
    let text ←
      match Utf8.decode field with
      | .ok chars => .ok (String.ofList chars)
      | .error valid => .error (.notText spot i valid)
    let more ← fieldTexts spot (i + 1) rest
    return text :: more

/-- The texts of the records after the header, which has `width` fields. The first of them gives the
start of the content as the spot of bytes that are no text. -/
def texts (width : Nat) (number : Nat) : List RawRecord → Except Fault (List (List String))
  | [] => .ok []
  | r :: rest => do
    if r.fields.length ≠ width then
      throw (.unequalLengths (r.spot number) r.fields.length width)
    let fields ← fieldTexts (if number = 1 then ⟨0, 1, 0⟩ else r.spot number) 0 r.fields
    let more ← texts width (number + 1) rest
    return fields :: more

def checked : List RawRecord → Except Fault (List (List String))
  | [] => .ok []
  | header :: rest => texts header.fields.length 1 rest

/-- The records of a content after its header. -/
def read (content : List UInt8) : Except Fault (List (List String)) :=
  let found := records content
  checked (found.ended ++ found.last.toList)

end SeedArchive.Csv
