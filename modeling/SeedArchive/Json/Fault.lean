import SeedArchive.Json.Value
import SeedArchive.Text.Quoted

namespace SeedArchive.Json

/-- What stands where something else was expected. -/
inductive Found
  | null
  | bool (value : Bool)
  | number (value : Number)
  | string (value : String)
  | list
  | object

def Found.text : Found → String
  | .null => "null"
  | .bool true => "boolean `true`"
  | .bool false => "boolean `false`"
  | .number (.int n) => s!"integer `{n}`"
  | .number n => s!"floating point `{n.text}`"
  | .string s => "string " ++ Quoted.quote s
  | .list => "sequence"
  | .object => "map"

/-- Why a document is refused. -/
inductive Cause
  | endInValue
  | endInString
  | endInList
  | endInObject
  | expectedValue
  | expectedIdent
  | invalidNumber
  | numberOutOfRange
  | controlCharacter
  | invalidEscape
  | endOfHexEscape
  | loneSurrogate
  | invalidUnicode
  | keyNotString
  | expectedColon
  | expectedListSeparator
  | expectedObjectSeparator
  | trailingComma
  | trailingCharacters
  | tooDeep
  | wrongType (found : Found) (expected : String)
  | duplicateField (name : String)
  | missingField (name : String)
  | wrongLength (length : Nat) (record : String) (fields : Nat)
  | notList (found : Json)

def Cause.text : Cause → String
  | .endInValue => "EOF while parsing a value"
  | .endInString => "EOF while parsing a string"
  | .endInList => "EOF while parsing a list"
  | .endInObject => "EOF while parsing an object"
  | .expectedValue => "expected value"
  | .expectedIdent => "expected ident"
  | .invalidNumber => "invalid number"
  | .numberOutOfRange => "number out of range"
  | .controlCharacter => "control character (\\u0000-\\u001F) found while parsing a string"
  | .invalidEscape => "invalid escape"
  | .endOfHexEscape => "unexpected end of hex escape"
  | .loneSurrogate => "lone leading surrogate in hex escape"
  | .invalidUnicode => "invalid unicode code point"
  | .keyNotString => "key must be a string"
  | .expectedColon => "expected `:`"
  | .expectedListSeparator => "expected `,` or `]`"
  | .expectedObjectSeparator => "expected `,` or `\x7d`"
  | .trailingComma => "trailing comma"
  | .trailingCharacters => "trailing characters"
  | .tooDeep => "recursion limit exceeded"
  | .wrongType found expected => s!"invalid type: {found.text}, expected {expected}"
  | .duplicateField name => s!"duplicate field `{name}`"
  | .missingField name => s!"missing field `{name}`"
  | .wrongLength length record fields =>
    s!"invalid length {length}, expected {record} with {fields} element" ++
      (if fields = 1 then "" else "s")
  | .notList found => s!"expected a list, found {found.compact}"

/-- How many bytes count as read: by a reader that holds the whole document, and by one that
takes it from a stream and has fetched the next byte if it had to look at it. -/
structure Place where
  held : Nat
  streamed : Nat
  deriving DecidableEq, Repr

/-- Both readers count the same. -/
def Place.at (n : Nat) : Place :=
  ⟨n, n⟩

structure Fault where
  cause : Cause
  place : Place

/-- How a document comes to its reader. -/
inductive Source
  | held
  | streamed
  deriving DecidableEq

def Place.count (p : Place) : Source → Nat
  | .held => p.held
  | .streamed => p.streamed

/-- A document's fault with its line, counted from 1, and the bytes that count as read on it. -/
structure Refusal where
  cause : Cause
  line : Nat
  column : Nat

def Refusal.text (r : Refusal) : String :=
  s!"{r.cause.text} at line {r.line} column {r.column}"

/-- Lines and columns are those of the bytes that count as read. -/
def Fault.locate (f : Fault) (source : Source) (document : List UInt8) : Refusal :=
  let read := document.take (f.place.count source)
  { cause := f.cause
    line := 1 + read.count 10
    column := (read.reverse.takeWhile (· ≠ 10)).length }

end SeedArchive.Json
