namespace SeedArchive.Utf8

/-- A reader of bytes stands between characters, or owes the last `owed` bytes of one: the next
byte lies from `low` to `high`, and `value` holds the bits seen so far. -/
inductive State
  | fresh
  | within (owed : Nat) (low high : UInt8) (value : Nat)
  deriving DecidableEq

/-- One byte completes a character, is part of one, or has no place in the text. -/
inductive Step
  | char (c : Char)
  | more (s : State)
  | refused

/-- The first byte of a character. -/
def lead (b : UInt8) : Step :=
  if b < 0x80 then .char (Char.ofNat b.toNat)
  else if b < 0xC2 then .refused
  else if b < 0xE0 then .more (.within 1 0x80 0xBF (b.toNat - 0xC0))
  else if b = 0xE0 then .more (.within 2 0xA0 0xBF 0)
  else if b = 0xED then .more (.within 2 0x80 0x9F 0xD)
  else if b < 0xF0 then .more (.within 2 0x80 0xBF (b.toNat - 0xE0))
  else if b = 0xF0 then .more (.within 3 0x90 0xBF 0)
  else if b < 0xF4 then .more (.within 3 0x80 0xBF (b.toNat - 0xF0))
  else if b = 0xF4 then .more (.within 3 0x80 0x8F 4)
  else .refused

def step : State → UInt8 → Step
  | .fresh, b => lead b
  | .within owed low high value, b =>
    if low ≤ b ∧ b ≤ high then
      let value := value * 64 + (b.toNat - 0x80)
      if owed ≤ 1 then .char (Char.ofNat value) else .more (.within (owed - 1) 0x80 0xBF value)
    else .refused

/-- `done` bytes are read as whole characters and `held` more belong to an unfinished one. -/
def scan (s : State) (done held : Nat) (chars : List Char) : List UInt8 → Except Nat (List Char)
  | [] => if s = .fresh then .ok chars.reverse else .error done
  | b :: rest =>
    match step s b with
    | .char c => scan .fresh (done + held + 1) 0 (c :: chars) rest
    | .more s => scan s done (held + 1) chars rest
    | .refused => .error done

/-- The characters of `bytes`, or the length of the longest part in front that is valid. -/
def decode (bytes : List UInt8) : Except Nat (List Char) :=
  scan .fresh 0 0 [] bytes

def replacement : Char := '\uFFFD'

def scanLossy (s : State) (chars : List Char) : List UInt8 → List Char
  | [] => (if s = .fresh then chars else replacement :: chars).reverse
  | b :: rest =>
    match step s b with
    | .char c => scanLossy .fresh (c :: chars) rest
    | .more s => scanLossy s chars rest
    | .refused =>
      if s = .fresh then scanLossy .fresh (replacement :: chars) rest
      else
        match lead b with
        | .char c => scanLossy .fresh (c :: replacement :: chars) rest
        | .more s => scanLossy s (replacement :: chars) rest
        | .refused => scanLossy .fresh (replacement :: replacement :: chars) rest

/-- The characters of `bytes`, with one replacement character for each longest piece that starts
a character and does not end it, and for each other byte that starts none. -/
def decodeLossy (bytes : List UInt8) : List Char :=
  scanLossy .fresh [] bytes

def encode (chars : List Char) : List UInt8 :=
  chars.flatMap String.utf8EncodeChar

/-- The bytes that store a text. -/
def bytes (s : String) : List UInt8 :=
  encode s.toList

/-- The text that the bytes store, if they store one. -/
def text? (bytes : List UInt8) : Option String :=
  match decode bytes with
  | .ok chars => some (String.ofList chars)
  | .error _ => none

/-- The text that the bytes store, with each invalid piece replaced. -/
def textLossy (bytes : List UInt8) : String :=
  String.ofList (decodeLossy bytes)

@[simp] theorem encode_nil : encode [] = [] := rfl

@[simp] theorem encode_append (a b : List Char) : encode (a ++ b) = encode a ++ encode b := by
  simp [encode]

@[simp] theorem encode_cons (c : Char) (cs : List Char) :
    encode (c :: cs) = String.utf8EncodeChar c ++ encode cs := by
  simp [encode]

end SeedArchive.Utf8
