namespace SeedArchive

/-- The number `mantissa * 2 ^ exponent`. In its normal form the mantissa is below `2 ^ 53`, the
exponent lies from -1074 to 971, and the mantissa reaches `2 ^ 52` unless the exponent is least. -/
structure Binary64 where
  mantissa : Nat
  exponent : Int
  deriving DecidableEq, Repr

namespace Binary64

def zero : Binary64 := ⟨0, -1074⟩

def isZero (x : Binary64) : Bool :=
  x.mantissa == 0

def Normal (x : Binary64) : Prop :=
  x.mantissa < 1 <<< 53 ∧ -1074 ≤ x.exponent ∧ x.exponent ≤ 971 ∧
    (1 <<< 52 ≤ x.mantissa ∨ x.exponent = -1074)

instance (x : Binary64) : Decidable x.Normal :=
  inferInstanceAs (Decidable (_ ∧ _ ∧ _ ∧ _))

/-- The quotient rounded to the nearest integer, a half to the even one. -/
def divNearest (a b : Nat) : Nat :=
  let q := a / b
  let r := a % b
  if b < 2 * r ∨ (2 * r = b ∧ q % 2 = 1) then q + 1 else q

/-- `a / b * 2 ^ k` as a fraction. -/
def shiftFraction (a b : Nat) (k : Int) : Nat × Nat :=
  if 0 ≤ k then (a <<< k.toNat, b) else (a, b <<< (-k).toNat)

/-- The exponent at which `a / b * 2 ^ k` has a mantissa of 53 bits, or the least one. -/
def exponentFor (a b : Nat) (k : Int) : Int :=
  let e := k + a.log2 - b.log2 - 52
  let f := shiftFraction a b (k - e)
  max (-1074) (if f.1 < f.2 <<< 52 then e - 1 else e)

/-- The number nearest to `a / b * 2 ^ k`, a tie to the even mantissa; none beyond the range. -/
def round (a b : Nat) (k : Int) : Option Binary64 :=
  if a = 0 then some zero
  else
    let e := exponentFor a b k
    let f := shiftFraction a b (k - e)
    let m := divNearest f.1 f.2
    let x : Binary64 := if m = 1 <<< 53 then ⟨1 <<< 52, e + 1⟩ else ⟨m, e⟩
    if 971 < x.exponent then none else some x

def ofNat (n : Nat) : Option Binary64 :=
  round n 1 0

def mul (x y : Binary64) : Option Binary64 :=
  round (x.mantissa * y.mantissa) 1 (x.exponent + y.exponent)

def div (x y : Binary64) : Option Binary64 :=
  round x.mantissa y.mantissa (x.exponent - y.exponent)

/-- The rounded quotient is at most half a unit away. -/
theorem divNearest_bounds (a : Nat) {b : Nat} (hb : 0 < b) :
    2 * (divNearest a b * b) ≤ 2 * a + b ∧ 2 * a ≤ 2 * (divNearest a b * b) + b := by
  have hd : b * (a / b) + a % b = a := Nat.div_add_mod a b
  have hr : a % b < b := Nat.mod_lt a hb
  have hc : (a / b + 1) * b = b * (a / b) + b := by rw [Nat.add_mul, Nat.mul_comm, Nat.one_mul]
  have hq : a / b * b = b * (a / b) := Nat.mul_comm _ _
  simp only [divNearest]
  split
  next h => rw [hc]; omega
  next h => rw [hq]; omega

end Binary64

end SeedArchive
