import Mathlib.Algebra.Ring.Nat
import SeedArchive.Zip.Deflate

namespace SeedArchive.Zip

theorem number_littleEndian {width n : Nat} (h : n < 256 ^ width) :
    number (littleEndian width n) = n := by
  induction width generalizing n with
  | zero => simp [littleEndian, number]; omega
  | succ width ih =>
    have hd : n / 256 < 256 ^ width := by
      rw [Nat.div_lt_iff_lt_mul (by decide)]
      omega
    simp only [littleEndian, number, ih hd, UInt8.toNat_ofNat']
    omega

theorem field_littleEndian_append {width n : Nat} (h : n < 256 ^ width) (rest : List UInt8) :
    field (littleEndian width n ++ rest) 0 width = n := by
  rw [field, List.drop_zero, List.take_left' (length_littleEndian width n), number_littleEndian h]

theorem field_append_right {a b : List UInt8} {skip : Nat} (h : a.length ≤ skip) (width : Nat) :
    field (a ++ b) skip width = field b (skip - a.length) width := by
  rw [field, field, List.drop_append, List.drop_eq_nil_of_le h, List.nil_append]

theorem field_skip {width skip : Nat} (h : width ≤ skip) (n : Nat) (rest : List UInt8)
    (count : Nat) :
    field (littleEndian width n ++ rest) skip count = field rest (skip - width) count := by
  rw [field_append_right (by simpa using h), length_littleEndian]

theorem length_storedBlock (last : Bool) (data : List UInt8) :
    (storedBlock last data).length = 5 + data.length := by
  simp [storedBlock]
  omega

theorem readStored_storedBlock (out : Array UInt8) (b : UInt8) {data : List UInt8}
    (rest : List UInt8) (h : data.length ≤ 65535) :
    readStored out ⟨b :: (littleEndian 2 data.length ++ (littleEndian 2 (65535 - data.length) ++
        (data ++ rest))), 3⟩ =
      (out ++ data, .ok ⟨rest, 0⟩) := by
  have hlength : field (littleEndian 2 data.length ++ (littleEndian 2 (65535 - data.length) ++
      (data ++ rest))) 0 2 = data.length :=
    field_littleEndian_append (by omega) _
  have hinverse : field (littleEndian 2 data.length ++ (littleEndian 2 (65535 - data.length) ++
      (data ++ rest))) 2 2 = 65535 - data.length := by
    rw [field_skip (Nat.le_refl 2)]
    exact field_littleEndian_append (by omega) _
  have hdata : (littleEndian 2 data.length ++ (littleEndian 2 (65535 - data.length) ++
      (data ++ rest))).drop 4 = data ++ rest := by
    rw [← List.append_assoc, List.drop_left']
    simp
  have haligned : Bits.aligned ⟨b :: (littleEndian 2 data.length ++
      (littleEndian 2 (65535 - data.length) ++ (data ++ rest))), 3⟩ =
      littleEndian 2 data.length ++ (littleEndian 2 (65535 - data.length) ++ (data ++ rest)) := rfl
  simp only [readStored, haligned, hlength, hinverse, hdata, List.length_append,
    length_littleEndian, List.take_left, List.drop_left]
  rw [if_neg (by omega), if_neg (by omega), if_neg (by omega)]

theorem readBlocks_storedBlock (out : Array UInt8) (last : Bool) {data : List UInt8}
    (rest : List UInt8) (h : data.length ≤ 65535) (steps : Nat) :
    readBlocks out ⟨storedBlock last data ++ rest, 0⟩ (steps + 1) =
      if last then (out ++ data, none) else readBlocks (out ++ data) ⟨rest, 0⟩ steps := by
  have hheader : Bits.number ⟨storedBlock last data ++ rest, 0⟩ 3 =
      .ok (last.toNat, ⟨storedBlock last data ++ rest, 3⟩) := by
    cases last <;>
      simp [storedBlock, Bits.number, Bits.next, bind, Except.bind, pure, Except.pure,
        show Nat.testBit 1 1 = false by decide, show Nat.testBit 1 2 = false by decide]
  have hblock : readBlock (last.toNat / 2) out ⟨storedBlock last data ++ rest, 3⟩ =
      (out ++ data, .ok ⟨rest, 0⟩) := by
    have hkind : last.toNat / 2 = 0 := by cases last <;> rfl
    rw [hkind, readBlock, if_pos rfl]
    simp only [storedBlock, List.cons_append, List.append_assoc]
    exact readStored_storedBlock out _ rest h
  rw [readBlocks, hheader]
  simp only [hblock]
  cases last <;> rfl

theorem readBlocks_storeBlocks (out : Array UInt8) {bytes : List UInt8} {more steps : Nat}
    (h : bytes.length ≤ 65535 * (more + 1)) (hsteps : more < steps) :
    readBlocks out ⟨storeBlocks bytes more, 0⟩ steps = (out ++ bytes, none) := by
  induction more generalizing out bytes steps with
  | zero =>
    obtain ⟨steps, rfl⟩ := Nat.exists_eq_add_one_of_ne_zero (by omega : steps ≠ 0)
    have hread := readBlocks_storedBlock out true [] (show bytes.length ≤ 65535 by omega) steps
    rw [List.append_nil] at hread
    exact hread
  | succ more ih =>
    obtain ⟨steps, rfl⟩ := Nat.exists_eq_add_one_of_ne_zero (by omega : steps ≠ 0)
    have htake : (bytes.take 65535).length ≤ 65535 := by
      rw [List.length_take]
      omega
    have hdrop : (bytes.drop 65535).length ≤ 65535 * (more + 1) := by
      rw [List.length_drop]
      omega
    rw [storeBlocks, readBlocks_storedBlock out false _ htake, if_neg (by decide),
      ih _ hdrop (by omega)]
    have happend : out ++ bytes.take 65535 ++ bytes.drop 65535 = out ++ bytes := by
      apply Array.ext'
      simp
    rw [happend]

/-- Every block takes five bytes beside its data. -/
theorem length_storeBlocks (bytes : List UInt8) (more : Nat) :
    (storeBlocks bytes more).length = bytes.length + 5 * (more + 1) := by
  induction more generalizing bytes with
  | zero =>
    rw [storeBlocks, length_storedBlock]
    omega
  | succ more ih =>
    rw [storeBlocks, List.length_append, length_storedBlock, ih, List.length_take,
      List.length_drop]
    omega

theorem length_deflate (bytes : List UInt8) :
    (deflate bytes).length = bytes.length + 5 * ((bytes.length - 1) / 65535 + 1) :=
  length_storeBlocks bytes _

theorem inflate_deflate (bytes : List UInt8) : inflate (deflate bytes) = (bytes, none) := by
  have hsteps := length_deflate bytes
  have hread : readBlocks #[] ⟨deflate bytes, 0⟩ (8 * (deflate bytes).length + 1) =
      (#[] ++ bytes, none) :=
    readBlocks_storeBlocks #[] (by omega) (by omega)
  simp [inflate, hread]

end SeedArchive.Zip
