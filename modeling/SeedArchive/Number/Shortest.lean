import SeedArchive.Number.Binary64

namespace SeedArchive

/-- The number `digits * 10 ^ scale`. -/
structure Decimal where
  digits : Nat
  scale : Int
  deriving DecidableEq, Repr

namespace Decimal

/-- `a * 2 ^ k * 10 ^ p` as a fraction. -/
def fraction (a : Nat) (k p : Int) : Nat × Nat :=
  let two := Binary64.shiftFraction a 1 k
  if 0 ≤ p then (two.1 * Nat.pow 10 p.toNat, two.2) else (two.1, two.2 * Nat.pow 10 (-p).toNat)

/-- The largest `p` with `10 ^ p ≤ m * 2 ^ e`, found next to the estimate by logarithms. -/
def leadingPlace (m : Nat) (e : Int) : Int :=
  let p := (e + m.log2) * 30103 / 100000
  let reaches (p : Int) : Bool :=
    let f := fraction m e (-p)
    f.2 ≤ f.1
  if reaches (p + 1) then p + 1 else if reaches p then p else p - 1

/-- The numbers that round to `x` are those from the first to the second bound, in quarters of
the last place of its mantissa. -/
def roundingBounds (x : Binary64) : Nat × Nat :=
  (if x.mantissa = 1 <<< 52 ∧ -1074 < x.exponent then 4 * x.mantissa - 1 else 4 * x.mantissa - 2,
    4 * x.mantissa + 2)

/-- `c * 10 ^ p` rounds to `x`. A bound belongs to `x` if its mantissa is even. -/
def reads (x : Binary64) (c : Nat) (p : Int) : Bool :=
  let bounds := roundingBounds x
  let low := fraction bounds.1 (x.exponent - 2) (-p)
  let high := fraction bounds.2 (x.exponent - 2) (-p)
  if x.mantissa % 2 = 0 then low.1 ≤ c * low.2 && c * high.2 ≤ high.1
  else low.1 < c * low.2 && c * high.2 < high.1

/-- The neighbour of `x` on the grid of the multiples of `10 ^ p` that reads as `x`: of two the
nearer one, of two as near the even one. -/
def onGrid (x : Binary64) (p : Int) : Option Nat :=
  let f := fraction x.mantissa x.exponent (-p)
  let c := f.1 / f.2
  match reads x c p, reads x (c + 1) p with
  | true, true => some (Binary64.divNearest f.1 f.2)
  | true, false => some c
  | false, true => some (c + 1)
  | false, false => none

/-- Tries `fuel` grids, each ten times finer than the one before. -/
def search (x : Binary64) (p : Int) : Nat → Decimal
  | 0 => ⟨0, 0⟩
  | fuel + 1 =>
    match onGrid x p with
    | some c => ⟨c, p⟩
    | none => search x (p - 1) fuel

/-- The decimal with the fewest digits that reads as `x`; of those, the nearest. Seventeen digits
always suffice. -/
def shortest (x : Binary64) : Decimal :=
  if x.mantissa = 0 then ⟨0, 0⟩ else search x (leadingPlace x.mantissa x.exponent) 17

/-- Drops the zeros at the end. -/
def strip (d : Decimal) : Nat → Decimal
  | 0 => d
  | fuel + 1 =>
    if d.digits % 10 = 0 ∧ d.digits ≠ 0 then strip ⟨d.digits / 10, d.scale + 1⟩ fuel else d

/-- A positive number is written in full while its leading digit stands for a power of ten from
-5 to 15, with one decimal at least; otherwise with one digit before the point and an exponent
that always has a sign. -/
def text (d : Decimal) : String :=
  let d := d.strip 20
  let ds := Nat.toDigits 10 d.digits
  let place : Int := d.scale + ds.length - 1
  if -5 ≤ place ∧ place ≤ 15 then
    if 0 ≤ d.scale then
      String.ofList (ds ++ List.replicate d.scale.toNat '0') ++ ".0"
    else if 0 ≤ place then
      let whole := place.toNat + 1
      String.ofList (ds.take whole) ++ "." ++ String.ofList (ds.drop whole)
    else
      "0." ++ String.ofList (List.replicate (-place - 1).toNat '0' ++ ds)
  else
    let tail := ds.drop 1
    let sign := if 0 ≤ place then "+" else "-"
    String.ofList (ds.take 1) ++ (if tail.isEmpty then "" else "." ++ String.ofList tail) ++
      "e" ++ sign ++ toString place.natAbs

end Decimal

/-- The shortest decimal text that reads as the number. -/
def Binary64.text (x : Binary64) : String :=
  if x.isZero then "0.0" else (Decimal.shortest x).text

end SeedArchive
