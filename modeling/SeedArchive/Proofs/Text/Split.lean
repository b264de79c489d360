namespace SeedArchive

theorem mem_of_mem_splitOn {a c : Char} {cs piece : List Char} (h : piece ∈ cs.splitOn a)
    (hc : c ∈ piece) : c ∈ cs ∧ c ≠ a := by
  induction cs generalizing piece with
  | nil =>
    simp only [List.splitOn_nil, List.mem_singleton] at h
    simp [h] at hc
  | cons d cs ih =>
    rw [List.splitOn_cons_eq_if_modifyHead] at h
    split at h
    next hd =>
      rcases List.mem_cons.mp h with rfl | h
      · simp at hc
      · exact ⟨List.mem_cons_of_mem d (ih h hc).1, (ih h hc).2⟩
    next hd =>
      obtain ⟨first, rest, hsplit⟩ := List.exists_cons_of_ne_nil (List.splitOn_ne_nil a cs)
      rw [hsplit] at h ih
      simp only [List.modifyHead_cons] at h
      rcases List.mem_cons.mp h with rfl | h
      · rcases List.mem_cons.mp hc with rfl | hc
        · exact ⟨by simp, by simpa using hd⟩
        · have hmem := ih (by simp) hc
          exact ⟨List.mem_cons_of_mem d hmem.1, hmem.2⟩
      · have hmem := ih (List.mem_cons_of_mem first h) hc
        exact ⟨List.mem_cons_of_mem d hmem.1, hmem.2⟩

theorem splitOn_append_singleton (a : Char) (cs : List Char) :
    (cs ++ [a]).splitOn a = cs.splitOn a ++ [[]] := by
  rw [List.splitOn_append_cons_self, List.splitOn_nil]

/-- A text is cut at the first place of a character in one way only. -/
theorem eq_of_append_cons_eq {a : Char} {as bs xs ys : List Char} (ha : a ∉ as) (hb : a ∉ bs)
    (h : as ++ a :: xs = bs ++ a :: ys) : as = bs ∧ xs = ys := by
  induction as generalizing bs with
  | nil =>
    cases bs with
    | nil => exact ⟨rfl, (List.cons.inj h).2⟩
    | cons b bs => exact absurd ((List.cons.inj h).1 ▸ List.mem_cons_self) hb
  | cons c as ih =>
    cases bs with
    | nil => exact absurd ((List.cons.inj h).1 ▸ List.mem_cons_self) ha
    | cons b bs =>
      obtain ⟨rfl, htail⟩ := List.cons.inj h
      obtain ⟨rfl, hrest⟩ := ih (fun hc => ha (List.mem_cons_of_mem c hc))
        (fun hc => hb (List.mem_cons_of_mem c hc)) htail
      exact ⟨rfl, hrest⟩

end SeedArchive
