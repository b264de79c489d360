import Mathlib.Data.UInt
import SeedArchive.Text.Utf8

namespace SeedArchive.Utf8

/-- From a state on, the bytes are what is missing of a character. -/
inductive Completes : State → List UInt8 → Char → Prop
  | last {s : State} {b : UInt8} {c : Char} (h : step s b = .char c) : Completes s [b] c
  | more {s t : State} {b : UInt8} {bs : List UInt8} {c : Char} (h : step s b = .more t)
      (rest : Completes t bs c) : Completes s (b :: bs) c

theorem completes_tail {low high b : UInt8} {v : Nat} {c : Char} (hl : low ≤ b) (hh : b ≤ high)
    (hv : v * 64 + (b.toNat - 0x80) = c.toNat) : Completes (.within 1 low high v) [b] c := by
  apply Completes.last
  simp [step, hl, hh, hv]

theorem completes_inner {low high b : UInt8} {owed v w : Nat} {bs : List UInt8} {c : Char}
    (hl : low ≤ b) (hh : b ≤ high) (hv : v * 64 + (b.toNat - 0x80) = w)
    (rest : Completes (.within (owed + 1) 0x80 0xBF w) bs c) :
    Completes (.within (owed + 2) low high v) (b :: bs) c := by
  subst hv
  apply Completes.more _ rest
  simp [step, hl, hh]

theorem step_fresh_one {b : UInt8} (h : b.toNat < 0x80) :
    step .fresh b = .char (Char.ofNat b.toNat) := by
  have hb : b < 0x80 := UInt8.lt_iff_toNat_lt.mpr h
  simp [step, lead, hb]

theorem step_fresh_two {b : UInt8} (hl : 0xC2 ≤ b.toNat) (hh : b.toNat < 0xE0) :
    step .fresh b = .more (.within 1 0x80 0xBF (b.toNat - 0xC0)) := by
  simp only [step, lead, UInt8.lt_iff_toNat_lt, UInt8.reduceToNat]
  rw [if_neg (by omega), if_neg (by omega), if_pos hh]

/-- After the lowest first byte the second is bounded from below, so that no character has two
forms, and after `0xED` from above, since surrogates are no characters. -/
theorem step_fresh_three {b : UInt8} (hl : 0xE0 ≤ b.toNat) (hh : b.toNat < 0xF0) :
    step .fresh b = .more (.within 2 (if b.toNat = 0xE0 then 0xA0 else 0x80)
      (if b.toNat = 0xED then 0x9F else 0xBF) (b.toNat - 0xE0)) := by
  simp only [step, lead, UInt8.lt_iff_toNat_lt, ← UInt8.toNat_inj, UInt8.reduceToNat]
  rw [if_neg (by omega), if_neg (by omega), if_neg (by omega)]
  split
  next h => simp [h]
  next h => split <;> simp_all

theorem step_fresh_four {b : UInt8} (hl : 0xF0 ≤ b.toNat) (hh : b.toNat ≤ 0xF4) :
    step .fresh b = .more (.within 3 (if b.toNat = 0xF0 then 0x90 else 0x80)
      (if b.toNat = 0xF4 then 0x8F else 0xBF) (b.toNat - 0xF0)) := by
  simp only [step, lead, UInt8.lt_iff_toNat_lt, ← UInt8.toNat_inj, UInt8.reduceToNat]
  rw [if_neg (by omega), if_neg (by omega), if_neg (by omega), if_neg (by omega),
    if_neg (by omega), if_neg (by omega)]
  split
  next h => simp [h]
  next h => split <;> grind

theorem toNat_continuation (n : Nat) : (UInt8.ofNat (n % 64 + 128)).toNat = n % 64 + 128 := by
  simp
  omega

theorem le_continuation (n : Nat) : 0x80 ≤ UInt8.ofNat (n % 64 + 128) := by
  rw [UInt8.le_iff_toNat_le, toNat_continuation]
  simp

theorem continuation_le (n : Nat) : UInt8.ofNat (n % 64 + 128) ≤ 0xBF := by
  rw [UInt8.le_iff_toNat_le, toNat_continuation]
  simp
  omega

theorem completes_encodeChar (c : Char) : Completes .fresh (String.utf8EncodeChar c) c := by
  have hc : c.toNat < 0xD800 ∨ 0xDFFF < c.toNat ∧ c.toNat < 0x110000 := c.valid
  have hn : c.val.toNat = c.toNat := rfl
  unfold String.utf8EncodeChar
  simp only [hn]
  generalize hv : c.toNat = v at hc
  split
  next h =>
    have hb : (UInt8.ofNat v).toNat = v := by simp; omega
    apply Completes.last
    rw [step_fresh_one (by omega), hb, ← hv, Char.ofNat_toNat]
  split
  next h1 h2 =>
    have hb : (UInt8.ofNat (v / 64 % 32 + 192)).toNat = v / 64 + 192 := by simp; omega
    apply Completes.more (step_fresh_two (by omega) (by omega))
    apply completes_tail (le_continuation v) (continuation_le v)
    rw [hb, toNat_continuation, hv]
    omega
  split
  next h1 h2 h3 =>
    have hb : (UInt8.ofNat (v / 4096 % 16 + 224)).toNat = v / 4096 + 224 := by simp; omega
    apply Completes.more (step_fresh_three (by omega) (by omega))
    rw [hb]
    apply completes_inner (w := v / 64)
    · split <;> simp [UInt8.le_iff_toNat_le] <;> omega
    · split <;> simp [UInt8.le_iff_toNat_le] <;> omega
    · rw [toNat_continuation]
      omega
    apply completes_tail (le_continuation v) (continuation_le v)
    rw [toNat_continuation, hv]
    omega
  next h1 h2 h3 =>
    have hb : (UInt8.ofNat (v / 262144 % 8 + 240)).toNat = v / 262144 + 240 := by simp; omega
    apply Completes.more (step_fresh_four (by omega) (by omega))
    rw [hb]
    apply completes_inner (w := v / 4096)
    · split <;> simp [UInt8.le_iff_toNat_le] <;> omega
    · split <;> simp [UInt8.le_iff_toNat_le] <;> omega
    · rw [toNat_continuation]
      omega
    apply completes_inner (le_continuation (v / 64)) (continuation_le (v / 64)) (w := v / 64)
    · rw [toNat_continuation]
      omega
    apply completes_tail (le_continuation v) (continuation_le v)
    rw [toNat_continuation, hv]
    omega

theorem scan_of_completes {s : State} {bs : List UInt8} {c : Char} (h : Completes s bs c)
    (done held : Nat) (chars : List Char) (rest : List UInt8) :
    scan s done held chars (bs ++ rest) =
      scan .fresh (done + held + bs.length) 0 (c :: chars) rest := by
  induction h generalizing held with
  | last h => simp [scan, h]
  | more h _ ih =>
    simp only [List.cons_append, scan, h, ih, List.length_cons]
    congr 1
    omega

theorem scanLossy_of_completes {s : State} {bs : List UInt8} {c : Char} (h : Completes s bs c)
    (chars : List Char) (rest : List UInt8) :
    scanLossy s chars (bs ++ rest) = scanLossy .fresh (c :: chars) rest := by
  induction h with
  | last h => simp [scanLossy, h]
  | more h _ ih => simp only [List.cons_append, scanLossy, h, ih]

theorem scan_encode (cs : List Char) (done : Nat) (chars : List Char) :
    scan .fresh done 0 chars (encode cs) = .ok (chars.reverse ++ cs) := by
  induction cs generalizing done chars with
  | nil => simp [scan]
  | cons c cs ih =>
    rw [encode_cons, scan_of_completes (completes_encodeChar c), ih]
    simp

theorem scanLossy_encode (cs chars : List Char) :
    scanLossy .fresh chars (encode cs) = chars.reverse ++ cs := by
  induction cs generalizing chars with
  | nil => simp [scanLossy]
  | cons c cs ih =>
    rw [encode_cons, scanLossy_of_completes (completes_encodeChar c), ih]
    simp

@[simp]
theorem decode_encode (cs : List Char) : decode (encode cs) = .ok cs := by
  simp [decode, scan_encode]

@[simp]
theorem textLossy_bytes (s : String) : textLossy (bytes s) = s := by
  simp [textLossy, decodeLossy, bytes, scanLossy_encode]

theorem bytes_injective : Function.Injective bytes :=
  Function.LeftInverse.injective textLossy_bytes

theorem bytes_append (a b : String) : bytes (a ++ b) = bytes a ++ bytes b := by
  rw [bytes, String.toList_append, encode_append, bytes, bytes]

theorem encodeChar_ascii {c : Char} (h : c.toNat < 0x80) :
    String.utf8EncodeChar c = [UInt8.ofNat c.toNat] := by
  have hn : c.val.toNat = c.toNat := rfl
  unfold String.utf8EncodeChar
  simp only [hn]
  rw [if_pos (by omega)]

/-- No byte of another character is the byte of an ASCII character. -/
theorem le_of_mem_encodeChar {c : Char} (h : 0x80 ≤ c.toNat) {b : UInt8}
    (hb : b ∈ String.utf8EncodeChar c) : 0x80 ≤ b.toNat := by
  have hn : c.val.toNat = c.toNat := rfl
  unfold String.utf8EncodeChar at hb
  simp only [hn] at hb
  rw [if_neg (by omega)] at hb
  split at hb
  · simp at hb
    rcases hb with rfl | rfl <;> simp <;> omega
  split at hb
  · simp at hb
    rcases hb with rfl | rfl | rfl <;> simp <;> omega
  · simp at hb
    rcases hb with rfl | rfl | rfl | rfl <;> simp <;> omega

end SeedArchive.Utf8
