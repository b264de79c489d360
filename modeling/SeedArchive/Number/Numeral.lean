import SeedArchive.Number.Shortest

namespace SeedArchive

/-- A number of a document: an integer of 64 bits, or a binary64 number with its sign. -/
inductive Number
  | int (value : Int)
  | real (negative : Bool) (magnitude : Binary64)
  deriving DecidableEq, Repr

def Number.text : Number → String
  | .int value => toString value
  | .real negative magnitude => (if negative then "-" else "") ++ magnitude.text

/-- A numeral as written; digits are given by value, the leading one first. -/
structure Numeral where
  negative : Bool
  whole : List Nat
  fraction : Option (List Nat)
  /-- The sign of the exponent, negative if true, and its digits. -/
  exponent : Option (Bool × List Nat)
  deriving DecidableEq, Repr

namespace Numeral

/-- A numeral too large for a number is noticed after so many digits of its exponent, or at the
end of the numeral. -/
inductive TooLarge
  | inExponent (digits : Nat)
  | atEnd
  deriving DecidableEq, Repr

/-- The digits in front that a 64 bit word can hold, read onto `n`, with the digits left. -/
def accumulate (n : Nat) : List Nat → Nat × List Nat
  | [] => (n, [])
  | d :: ds => if n * 10 + d < 1 <<< 64 then accumulate (n * 10 + d) ds else (n, d :: ds)

/-- The exponent's value, or the count of digits up to the one that leaves 31 bits. -/
def exponentValue (n seen : Nat) : List Nat → Except Nat Nat
  | [] => .ok n
  | d :: ds =>
    if seen = 0 ∨ n * 10 + d < 1 <<< 31 then exponentValue (n * 10 + d) (seen + 1) ds
    else .error (seen + 1)

def powerOfTen (k : Nat) : Option Binary64 :=
  Binary64.ofNat (Nat.pow 10 k)

/-- Divides by `10 ^ e`, by `10 ^ 308` at a time. A third such step always meets zero. -/
def scaleDown (x : Binary64) (e : Nat) : Nat → Option Binary64
  | 0 => some Binary64.zero
  | steps + 1 =>
    if e ≤ 308 then (powerOfTen e).bind x.div
    else if x.isZero then some x
    else ((powerOfTen 308).bind x.div).bind fun y => scaleDown y (e - 308) steps

/-- `significand * 10 ^ e` in binary64 arithmetic: the significand is rounded, the power of ten
is rounded, and so is their product or quotient. None beyond the range. -/
def scaled (significand : Nat) (e : Int) : Option Binary64 := do
  let x ← Binary64.ofNat significand
  if e < 0 then scaleDown x (-e).toNat 3
  else if e ≤ 308 then (powerOfTen e.toNat).bind x.mul
  else if x.isZero then some x
  else none

/-- The significand of 64 bits and the power of ten that goes with it. Digits before the point
that do not fit count as zeros; digits after it that do not fit count for nothing. -/
def significand (n : Numeral) : Nat × Int :=
  let whole := accumulate 0 n.whole
  let fraction := n.fraction.getD []
  let kept := accumulate whole.1 fraction
  (kept.1, whole.2.length - (fraction.length - kept.2.length : Nat))

/-- Whether the numeral is a real number by its form or size. -/
def isReal (n : Numeral) : Bool :=
  n.fraction.isSome || n.exponent.isSome || !(accumulate 0 n.whole).2.isEmpty

/-- The exponent of 32 bits nearest to the value. -/
def saturate (e : Int) : Int :=
  max (-2147483648) (min 2147483647 e)

def magnitude (n : Numeral) : Except TooLarge Binary64 :=
  let s := n.significand
  let finish (e : Int) : Except TooLarge Binary64 :=
    match scaled s.1 (saturate e) with
    | some x => .ok x
    | none => .error .atEnd
  match n.exponent with
  | none => finish s.2
  | some (negative, digits) =>
    match exponentValue 0 0 digits with
    | .ok e => finish (if negative then s.2 - e else s.2 + e)
    | .error seen => if s.1 ≠ 0 ∧ !negative then .error (.inExponent seen) else .ok Binary64.zero

/-- The number that a numeral stands for. Zero with a minus sign, and an integer out of the range
of 64 bits, are real. -/
def value (n : Numeral) : Except TooLarge Number :=
  if n.isReal then (Number.real n.negative) <$> n.magnitude
  else
    let m := (accumulate 0 n.whole).1
    if !n.negative then .ok (.int m)
    else if 0 < m ∧ m ≤ 1 <<< 63 then .ok (.int (-m))
    else (Number.real true) <$> n.magnitude

end Numeral

end SeedArchive
