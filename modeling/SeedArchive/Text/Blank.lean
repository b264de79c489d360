namespace SeedArchive

/-- White space of the Unicode character database: 25 characters. -/
def isBlank (c : Char) : Bool :=
  let n := c.toNat
  (0x9 ≤ n && n ≤ 0xD) || n == 0x20 || n == 0x85 || n == 0xA0 || n == 0x1680 ||
    (0x2000 ≤ n && n ≤ 0x200A) || n == 0x2028 || n == 0x2029 || n == 0x202F || n == 0x205F ||
    n == 0x3000

/-- No character of the text is visible. -/
def blank (s : String) : Bool :=
  s.toList.all isBlank

theorem blank_eq_false_iff (s : String) : blank s = false ↔ ∃ c ∈ s.toList, isBlank c = false := by
  simp [blank]

end SeedArchive
