import SeedArchive.Json.Fault
import SeedArchive.Text.Utf8

namespace SeedArchive.Json

/-- What a broken piece of text means to a reader that wants its value, and to one that skips it. -/
structure Break where
  wanted : Fault
  skipped : Fault

def Break.both (cause : Cause) (n : Nat) : Break :=
  ⟨⟨cause, .at n⟩, ⟨cause, .at n⟩⟩

def isDigit (b : UInt8) : Bool :=
  48 ≤ b && b ≤ 57

def isSpace (b : UInt8) : Bool :=
  b == 32 || b == 9 || b == 10 || b == 13

def hexValue (b : UInt8) : Option Nat :=
  if isDigit b then some (b.toNat - 48)
  else if 97 ≤ b && b ≤ 102 then some (b.toNat - 87)
  else if 65 ≤ b && b ≤ 70 then some (b.toNat - 55)
  else none

def hex4 (a b c d : UInt8) : Option Nat := do
  return (((← hexValue a) * 16 + (← hexValue b)) * 16 + (← hexValue c)) * 16 + (← hexValue d)

def escaped (b : UInt8) : Option UInt8 :=
  if b = 34 ∨ b = 92 ∨ b = 47 then some b
  else if b = 98 then some 8
  else if b = 102 then some 12
  else if b = 110 then some 10
  else if b = 114 then some 13
  else if b = 116 then some 9
  else none

def isHighSurrogate (n : Nat) : Bool :=
  0xD800 ≤ n && n ≤ 0xDBFF

def isLowSurrogate (n : Nat) : Bool :=
  0xDC00 ≤ n && n ≤ 0xDFFF

/-- The bytes of a character, last first. -/
def pushChar (n : Nat) (content : List UInt8) : List UInt8 :=
  (String.utf8EncodeChar (Char.ofNat n)).reverse ++ content

/-- How far a string has come: in plain text, after a backslash, among the digits of a hex escape,
which are kept last first, or the same three after a high surrogate. -/
inductive Inside
  | plain
  | escape
  | hex (digits : List UInt8)
  | high (unit : Nat)
  | highEscape (unit : Nat)
  | highHex (unit : Nat) (digits : List UInt8)

/-- A string that is not closed yet: `content` holds the bytes of its text, last first, and `flaw`
the first lone surrogate, which only matters if the text is wanted. -/
structure Unclosed where
  content : List UInt8 := []
  flaw : Option Fault := none
  inside : Inside := .plain

inductive Turn
  | close
  | stop (cut : Break)
  | more (s : Unclosed)

namespace Unclosed

def broken (s : Unclosed) (cause : Cause) (n : Nat) : Break :=
  ⟨s.flaw.getD ⟨cause, .at n⟩, ⟨cause, .at n⟩⟩

/-- A lone surrogate is found with the byte that makes `n`. -/
def flawed (s : Unclosed) (cause : Cause) (n : Nat) : Unclosed :=
  { s with flaw := s.flaw <|> some ⟨cause, .at n⟩, inside := .plain }

def pushed (s : Unclosed) (unit : Nat) : Unclosed :=
  { s with content := pushChar unit s.content, inside := .plain }

/-- A control character is refused before it is read if the text is not wanted. -/
def plain (s : Unclosed) (n : Nat) (b : UInt8) : Turn :=
  if b = 34 then .close
  else if b = 92 then .more { s with inside := .escape }
  else if b < 32 then
    .stop ⟨s.flaw.getD ⟨.controlCharacter, .at (n + 1)⟩, ⟨.controlCharacter, ⟨n, n + 1⟩⟩⟩
  else .more { s with content := b :: s.content, inside := .plain }

def escape (s : Unclosed) (n : Nat) (b : UInt8) : Turn :=
  if b = 117 then .more { s with inside := .hex [] }
  else
    match escaped b with
    | some c => .more { s with content := c :: s.content, inside := .plain }
    | none => .stop (s.broken .invalidEscape (n + 1))

/-- The unit of a whole hex escape. -/
def unit (s : Unclosed) (n : Nat) (u : Nat) : Unclosed :=
  if isLowSurrogate u then s.flawed .loneSurrogate n
  else if isHighSurrogate u then { s with inside := .high u }
  else s.pushed u

/-- The unit of a whole hex escape that follows a high surrogate. -/
def lowUnit (s : Unclosed) (n : Nat) (high u : Nat) : Unclosed :=
  if isLowSurrogate u then s.pushed (0x10000 + (high - 0xD800) * 1024 + (u - 0xDC00))
  else s.flawed .loneSurrogate n

def turn (s : Unclosed) (n : Nat) (b : UInt8) : Turn :=
  match s.inside with
  | .plain => s.plain n b
  | .escape => s.escape n b
  | .hex [d, e, f] =>
    match hex4 f e d b with
    | some u => .more (s.unit (n + 1) u)
    | none => .stop (s.broken .invalidEscape (n + 1))
  | .hex digits => .more { s with inside := .hex (b :: digits) }
  | .high u =>
    if b = 92 then .more { s with inside := .highEscape u }
    else (s.flawed .endOfHexEscape (n + 1)).plain n b
  | .highEscape u =>
    if b = 117 then .more { s with inside := .highHex u [] }
    else (s.flawed .endOfHexEscape (n + 1)).escape n b
  | .highHex u [d, e, f] =>
    match hex4 f e d b with
    | some low => .more (s.lowUnit (n + 1) u low)
    | none => .stop (s.broken .invalidEscape (n + 1))
  | .highHex u digits => .more { s with inside := .highHex u (b :: digits) }

/-- The text of a string that is closed with the byte that makes `n`, or why it has none. -/
def text (s : Unclosed) (n : Nat) : Except Fault String :=
  match s.flaw with
  | some fault => .error fault
  | none =>
    match Utf8.decode s.content.reverse with
    | .ok chars => .ok (String.ofList chars)
    | .error valid => .error ⟨.invalidUnicode, .at (n - (s.content.length - valid))⟩

/-- The state in which a quote closes the string: a high surrogate right before it is lone. -/
def last (s : Unclosed) (n : Nat) : Unclosed :=
  match s.inside with
  | .high _ => s.flawed .endOfHexEscape n
  | _ => s

end Unclosed

/-- A string that was closed: its text or why it has none, the bytes up to its end, the rest. -/
structure ScannedString where
  text : Except Fault String
  stop : Nat
  rest : List UInt8

def scanString (n : Nat) (s : Unclosed) : List UInt8 → Except Break ScannedString
  | [] => .error (s.broken .endInString n)
  | b :: rest =>
    match s.turn n b with
    | .close => .ok ⟨(s.last (n + 1)).text (n + 1), n + 1, rest⟩
    | .stop cut => .error cut
    | .more s => scanString (n + 1) s rest

/-- A numeral that was read: `exponentAt` bytes come before the digits of its exponent. -/
structure ScannedNumber where
  numeral : Numeral
  exponentAt : Nat
  stop : Nat
  rest : List UInt8

def digitValues (bytes : List UInt8) : List Nat :=
  bytes.map fun b => b.toNat - 48

/-- The document ends where a digit has to follow. -/
def endInNumber (n : Nat) : Break :=
  ⟨⟨.endInValue, .at n⟩, ⟨.invalidNumber, .at n⟩⟩

/-- The digits after a point, with the bytes read and the rest. -/
def scanFraction (n : Nat) : List UInt8 → Except Break (Option (List Nat) × Nat × List UInt8)
  | [] => .ok (none, n, [])
  | b :: rest =>
    if b ≠ 46 then .ok (none, n, b :: rest)
    else
      let digits := rest.takeWhile isDigit
      if digits.isEmpty then
        .error (if rest.isEmpty then endInNumber (n + 1) else .both .invalidNumber (n + 2))
      else .ok (some (digitValues digits), n + 1 + digits.length, rest.dropWhile isDigit)

/-- The sign and the digits of an exponent, with the bytes before the digits and the rest. -/
def scanExponent (n : Nat) : List UInt8 →
    Except Break (Option (Bool × List Nat) × Nat × List UInt8)
  | [] => .ok (none, n, [])
  | b :: rest =>
    if b ≠ 101 ∧ b ≠ 69 then .ok (none, n, b :: rest)
    else
      let signed := rest.head? = some 43 ∨ rest.head? = some 45
      let first := if signed then n + 2 else n + 1
      let rest' := if signed then rest.drop 1 else rest
      match rest' with
      | [] => .error (endInNumber first)
      | d :: _ =>
        if isDigit d then
          .ok (some (rest.head? = some 45, digitValues (rest'.takeWhile isDigit)), first,
            rest'.dropWhile isDigit)
        else .error (.both .invalidNumber (first + 1))

/-- The digits before the point. A zero in front stands alone. -/
def scanWhole (n : Nat) : List UInt8 → Except Break (List Nat × Nat × List UInt8)
  | [] => .error (endInNumber n)
  | d :: rest =>
    if !isDigit d then .error (.both .invalidNumber (n + 1))
    else if d = 48 ∧ rest.head?.any isDigit then .error (.both .invalidNumber (n + 2))
    else
      let digits := (d :: rest).takeWhile isDigit
      .ok (digitValues digits, n + digits.length, (d :: rest).dropWhile isDigit)

def scanNumber (n : Nat) (bytes : List UInt8) : Except Break ScannedNumber := do
  let negative := bytes.head? = some 45
  let (whole, n, rest) ←
    scanWhole (if negative then n + 1 else n) (if negative then bytes.drop 1 else bytes)
  let (fraction, n, rest) ← scanFraction n rest
  let (exponent, n, rest) ← scanExponent n rest
  let stop := n + (exponent.elim 0 fun e => e.2.length)
  return ⟨⟨negative, whole, fraction, exponent⟩, n, stop, rest⟩

/-- After a numeral the byte that ends it has been looked at. -/
def ScannedNumber.after (s : ScannedNumber) : Place :=
  ⟨s.stop, if s.rest.isEmpty then s.stop else s.stop + 1⟩

def ScannedNumber.number (s : ScannedNumber) : Except Fault Number :=
  match s.numeral.value with
  | .ok n => .ok n
  | .error (.inExponent digits) => .error ⟨.numberOutOfRange, .at (s.exponentAt + digits)⟩
  | .error .atEnd => .error ⟨.numberOutOfRange, s.after⟩

def scanWord (n : Nat) : List UInt8 → List UInt8 → Except Break (Nat × List UInt8)
  | [], rest => .ok (n, rest)
  | _ :: _, [] => .error (.both .endInValue n)
  | w :: word, b :: rest =>
    if b = w then scanWord (n + 1) word rest else .error (.both .expectedIdent (n + 1))

inductive Lexeme
  | openList
  | closeList
  | openObject
  | closeObject
  | comma
  | colon
  | null
  | bool (value : Bool)
  | number (value : Except Fault Number)
  | string (value : Except Fault String)

/-- The tokens of a document up to its end or to the first broken one, which may be a string.
`start` counts the bytes before a token, `after` is the place reached with it. -/
inductive Tokens
  | finish (start : Nat)
  | broken (start : Nat) (quoted : Bool) (cut : Break)
  | next (lexeme : Lexeme) (start : Nat) (after : Place) (rest : Tokens)

namespace Tokens

def size : Tokens → Nat
  | .next _ _ _ rest => rest.size + 1
  | _ => 0

/-- The place at which the next byte, if there is one, has been looked at and is to blame. -/
def blamed : Tokens → Place
  | .finish start => .at start
  | .broken start _ _ => .at (start + 1)
  | .next _ start _ _ => .at (start + 1)

/-- The place at which the next byte, if there is one, has been looked at and not read. -/
def ahead : Tokens → Place
  | .finish start => .at start
  | .broken start _ _ => ⟨start, start + 1⟩
  | .next _ start _ _ => ⟨start, start + 1⟩

def start : Tokens → Nat
  | .finish start => start
  | .broken start _ _ => start
  | .next _ start _ _ => start

def fault (tokens : Tokens) (cause : Cause) : Fault :=
  ⟨cause, tokens.blamed⟩

/-- The fault of tokens that do not go on as they should, or do not go on at all. -/
def unfit (tokens : Tokens) (cause atEnd : Cause) : Fault :=
  match tokens with
  | .finish n => ⟨atEnd, .at n⟩
  | tokens => tokens.fault cause

end Tokens

def punctuation (b : UInt8) : Option Lexeme :=
  if b = 91 then some .openList
  else if b = 93 then some .closeList
  else if b = 123 then some .openObject
  else if b = 125 then some .closeObject
  else if b = 44 then some .comma
  else if b = 58 then some .colon
  else none

def wordOf (b : UInt8) : Option (List UInt8 × Lexeme) :=
  if b = 110 then some ([117, 108, 108], .null)
  else if b = 116 then some ([114, 117, 101], .bool true)
  else if b = 102 then some ([97, 108, 115, 101], .bool false)
  else none

/-- One token that starts with `b` after `n` bytes: what it is, the place after it, the bytes up
to its end and the rest. -/
def scanToken (n : Nat) (b : UInt8) (rest : List UInt8) :
    Except Break (Lexeme × Place × Nat × List UInt8) :=
  if b = 34 then
    (scanString (n + 1) {} rest).map fun s => (.string s.text, .at s.stop, s.stop, s.rest)
  else if b = 45 ∨ isDigit b then
    (scanNumber n (b :: rest)).map fun s => (.number s.number, s.after, s.stop, s.rest)
  else
    match punctuation b, wordOf b with
    | some lexeme, _ => .ok (lexeme, .at (n + 1), n + 1, rest)
    | none, some (word, lexeme) =>
      (scanWord (n + 1) word rest).map fun s => (lexeme, .at s.1, s.1, s.2)
    | none, none => .error (.both .expectedValue (n + 1))

/-- The tokens of `bytes`, which come after `n` bytes; every step reads one byte at least. -/
def scan (n : Nat) (bytes : List UInt8) : Nat → Tokens
  | 0 => .finish n
  | steps + 1 =>
    match bytes with
    | [] => .finish n
    | b :: rest =>
      if isSpace b then scan (n + 1) rest steps
      else
        match scanToken n b rest with
        | .error cut => .broken n (b = 34) cut
        | .ok (lexeme, after, stop, rest) => .next lexeme n after (scan stop rest steps)

def tokens (document : List UInt8) : Tokens :=
  scan 0 document (document.length + 1)

end SeedArchive.Json
