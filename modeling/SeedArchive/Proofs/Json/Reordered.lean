import Mathlib.Data.List.Nodup
import Mathlib.Data.String.Basic
import SeedArchive.Json.Value

namespace SeedArchive.Json

section Put

variable {α : Type}

theorem put_comm_of_lt {k k' : String} (h : k < k') (v v' : α) (sorted : List (String × α)) :
    put k v (put k' v' sorted) = put k' v' (put k v sorted) := by
  have hne : k ≠ k' := h.ne
  have hnot : ¬k' < k := h.not_gt
  induction sorted with
  | nil => simp [put, h, hnot, hne.symm]
  | cons m rest ih =>
    obtain ⟨j, u⟩ := m
    rcases lt_trichotomy k' j with hj | rfl | hj
    · simp [put, h, hj, h.trans hj, hnot, hne.symm]
    · simp [put, h, hnot, hne.symm]
    rcases lt_trichotomy k j with hi | rfl | hi
    · simp [put, hi, hj.ne', hj.not_gt, hnot, hne.symm]
    · simp [put, hj.ne', hj.not_gt]
    · simp [put, hi.ne', hi.not_gt, hj.ne', hj.not_gt, ih]

theorem put_comm {k k' : String} (h : k ≠ k') (v v' : α) (sorted : List (String × α)) :
    put k v (put k' v' sorted) = put k' v' (put k v sorted) := by
  rcases lt_or_gt_of_ne h with hlt | hlt
  · exact put_comm_of_lt hlt v v' sorted
  · exact (put_comm_of_lt hlt v' v sorted).symm

/-- The order of members with distinct keys does not matter. -/
theorem settle_perm {ms ns : List (String × α)} (hnodup : (ms.map Prod.fst).Nodup)
    (hperm : ms.Perm ns) : settle ms = settle ns := by
  refine hperm.foldl_eq' (fun m hm n hn sorted => ?_) []
  by_cases hkey : m.1 = n.1
  · rw [List.inj_on_of_nodup_map hnodup hm hn hkey]
  · exact (put_comm hkey m.2 n.2 sorted).symm

end Put

mutual

/-- Two values differ by the order of the members of objects, at any depth. No object has a key
twice. -/
inductive Reordered : Json → Json → Prop
  | null : Reordered .null .null
  | bool (b : Bool) : Reordered (.bool b) (.bool b)
  | number (n : Number) : Reordered (.number n) (.number n)
  | string (s : String) : Reordered (.string s) (.string s)
  | array {vs ws : List Json} (items : ReorderedItems vs ws) : Reordered (.array vs) (.array ws)
  | object {ms ms' ns : List (String × Json)} (distinct : (ms.map Prod.fst).Nodup)
      (members : ReorderedMembers ms ms') (perm : ms'.Perm ns) : Reordered (.object ms) (.object ns)

inductive ReorderedItems : List Json → List Json → Prop
  | nil : ReorderedItems [] []
  | cons {v w : Json} {vs ws : List Json} (head : Reordered v w) (tail : ReorderedItems vs ws) :
      ReorderedItems (v :: vs) (w :: ws)

/-- The members are in the same order. -/
inductive ReorderedMembers : List (String × Json) → List (String × Json) → Prop
  | nil : ReorderedMembers [] []
  | cons (k : String) {v w : Json} {ms ns : List (String × Json)} (head : Reordered v w)
      (tail : ReorderedMembers ms ns) : ReorderedMembers ((k, v) :: ms) ((k, w) :: ns)

end

mutual

/-- The text of a value does not tell the order in which the members of objects were written. -/
theorem compact_of_reordered : ∀ {v w : Json}, Reordered v w → v.compact = w.compact
  | _, _, .null | _, _, .bool _ | _, _, .number _ | _, _, .string _ => rfl
  | _, _, .array items => by
    rw [compact, compact, compactItems_of_reordered items]
  | _, _, @Reordered.object ms ms' _ distinct members perm => by
    have hkeys : ((compactMembers ms).map Prod.fst).Nodup := by
      rw [compactMembers_eq_map, List.map_map]
      exact distinct
    rw [compactMembers_of_reordered members] at hkeys
    have hperm := perm.map fun m => (m.1, m.2.compact)
    rw [← compactMembers_eq_map, ← compactMembers_eq_map] at hperm
    rw [compact, compact, compactMembers_of_reordered members, settle_perm hkeys hperm]

theorem compactItems_of_reordered :
    ∀ {vs ws : List Json}, ReorderedItems vs ws → compactItems vs = compactItems ws
  | _, _, .nil => rfl
  | _, _, .cons head tail => by
    rw [compactItems, compactItems, compact_of_reordered head, compactItems_of_reordered tail]

theorem compactMembers_of_reordered :
    ∀ {ms ns : List (String × Json)}, ReorderedMembers ms ns →
      compactMembers ms = compactMembers ns
  | _, _, .nil => rfl
  | _, _, .cons k head tail => by
    rw [compactMembers, compactMembers, compact_of_reordered head,
      compactMembers_of_reordered tail]

end

theorem text?_of_reordered {v w : Json} (h : Reordered v w) : v.text? = w.text? := by
  have hcompact := compact_of_reordered h
  cases h with
  | array | object => exact congrArg some hcompact
  | _ => rfl

end SeedArchive.Json
