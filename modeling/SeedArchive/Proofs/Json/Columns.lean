import Mathlib.Data.List.Forall2
import SeedArchive.Proofs.Json.Shape

namespace SeedArchive.Json

/-- The value of a node that is a document by itself. -/
def Node.json? (n : Node) : Option Json :=
  (n.value 128).toOption

def Items.nodes : Items → List Node
  | .item _ value rest => value :: rest.nodes
  | .close _ | .broken _ _ _ => []

/-- The value of the first member with a key. -/
def Members.find? (key : String) : Members → Option Node
  | .member _ (.ok k) _ value rest => if k = key then some value else rest.find? key
  | .member _ (.error _) _ _ rest => rest.find? key
  | .close _ | .broken _ _ => none

def Node.items : Node → List Node
  | .list _ found => found.nodes
  | _ => []

/-- What a record of `keys` has for one of them. -/
def Node.field? (keys : List String) (key : String) : Node → Option Node
  | .object _ found => found.find? key
  | .list _ found => found.nodes[keys.idxOf key]?
  | _ => none

/-- The text of a column of a record, if it is there and not null. -/
def Node.columnText? (keys : List String) (key : String) (n : Node) : Option String :=
  (n.field? keys key).bind fun column => column.json?.bind Json.text?

/-- What a record has for a key is a whole value. -/
def Node.Legible (keys : List String) (key : String) (n : Node) : Prop :=
  ∀ column, n.field? keys key = some column → column.json?.isSome

theorem le_of_enter {depth start d : Nat} (h : enter depth start = .ok d) : d ≤ depth := by
  unfold enter at h
  split at h
  · cases h
  · cases h
    omega

theorem enter_mono {depth depth' start d : Nat} (hle : depth ≤ depth')
    (h : enter depth start = .ok d) : ∃ d', enter depth' start = .ok d' ∧ d ≤ d' := by
  unfold enter at h
  split at h
  · cases h
  · cases h
    exact ⟨depth' - 1, if_neg (by omega), by omega⟩

mutual

/-- A value may be less deep than it has to be. -/
theorem Node.value_mono {depth depth' : Nat} (hle : depth ≤ depth') {v : Json} :
    ∀ {n : Node}, n.value depth = .ok v → n.value depth' = .ok v
  | .null _, h | .bool _ _, h | .number _ _, h | .string _ _, h => h
  | .list _ _, h => by
    cases Node.whole_of_value h with
    | list entered values =>
      obtain ⟨d', entered', hd⟩ := enter_mono hle entered
      exact bind_eq_ok_iff.mpr ⟨d', entered', bind_eq_ok_iff.mpr
        ⟨_, Items.values_mono hd values, rfl⟩⟩
  | .object _ _, h => by
    cases Node.whole_of_value h with
    | object entered values =>
      obtain ⟨d', entered', hd⟩ := enter_mono hle entered
      exact bind_eq_ok_iff.mpr ⟨d', entered', bind_eq_ok_iff.mpr
        ⟨_, Members.values_mono hd values, rfl⟩⟩
  | .broken _, h => nomatch h

theorem Items.values_mono {depth depth' : Nat} (hle : depth ≤ depth') {vs : List Json} :
    ∀ {found : Items}, found.values depth = .ok vs → found.values depth' = .ok vs
  | .close _, h => h
  | .broken _ _ _, h => nomatch h
  | .item _ _ _, h => by
    obtain ⟨w, hvalue, ws, hvalues, heq⟩ := values_item_eq_ok_iff.mp h
    exact values_item_eq_ok_iff.mpr
      ⟨w, Node.value_mono hle hvalue, ws, Items.values_mono hle hvalues, heq⟩

theorem Members.values_mono {depth depth' : Nat} (hle : depth ≤ depth')
    {vs : List (String × Json)} :
    ∀ {found : Members}, found.values depth = .ok vs → found.values depth' = .ok vs
  | .close _, h => h
  | .broken _ _, h => nomatch h
  | .member _ _ _ _ _, h => by
    obtain ⟨k, hkey, w, hvalue, ws, hvalues, heq⟩ := values_member_eq_ok_iff.mp h
    exact values_member_eq_ok_iff.mpr
      ⟨k, hkey, w, Node.value_mono hle hvalue, ws, Members.values_mono hle hvalues, heq⟩

end

theorem json?_of_value {depth : Nat} (hdepth : depth ≤ 128) {n : Node} {v : Json}
    (h : n.value depth = .ok v) : n.json? = some v := by
  rw [Node.json?, Node.value_mono hdepth h]
  rfl

theorem nodes_of_values {depth : Nat} (hdepth : depth ≤ 128) :
    ∀ {found : Items} {vs : List Json}, found.values depth = .ok vs →
      found.nodes.map Node.json? = vs.map some
  | .close _, vs, h => by
    cases h
    rfl
  | .broken _ _ _, vs, h => nomatch h
  | .item _ value rest, vs, h => by
    obtain ⟨w, hvalue, ws, hvalues, rfl⟩ := values_item_eq_ok_iff.mp h
    rw [Items.nodes, List.map_cons, List.map_cons, json?_of_value hdepth hvalue,
      nodes_of_values hdepth hvalues]

theorem find?_of_values {depth : Nat} (hdepth : depth ≤ 128) (key : String) :
    ∀ {found : Members} {vs : List (String × Json)}, found.values depth = .ok vs →
      (found.find? key).map Node.json? = (vs.lookup key).map some
  | .close _, vs, h => by
    cases h
    rfl
  | .broken _ _, vs, h => nomatch h
  | .member _ _ _ value rest, vs, h => by
    obtain ⟨k, rfl, w, hvalue, ws, hvalues, rfl⟩ := values_member_eq_ok_iff.mp h
    rw [Members.find?, List.lookup_cons]
    by_cases hk : k = key
    · simp [hk, json?_of_value hdepth hvalue]
    · have hbeq : (key == k) = false := by simpa using Ne.symm hk
      rw [if_neg hk, hbeq]
      exact find?_of_values hdepth key hvalues

/-- A record in a document has what its value has. -/
theorem field?_of_value {depth : Nat} (hdepth : depth ≤ 128) {n : Node} {v : Json}
    (h : n.value depth = .ok v) (keys : List String) (key : String) :
    (n.field? keys key).map Node.json? = (v.field? keys key).map some := by
  cases Node.whole_of_value h with
  | list entered values =>
    have hnodes := nodes_of_values (Nat.le_trans (le_of_enter entered) hdepth) values
    rw [Node.field?, Json.field?, ← List.getElem?_map, ← List.getElem?_map, hnodes]
  | object entered values =>
    exact find?_of_values (Nat.le_trans (le_of_enter entered) hdepth) key values
  | _ => rfl

/-- What a reader makes of any node that it reads. -/
def Yields {ε α : Type} (read : Nat → Node → Except ε α) (Q : Node → α → Prop) : Prop :=
  ∀ depth n a, depth ≤ 128 → read depth n = .ok a → Q n a

theorem readEach_yields {α : Type} {read : Nat → Node → Except Fault α} {Q : Node → α → Prop}
    (hread : Yields read Q) {depth : Nat} (hdepth : depth ≤ 128) :
    ∀ {found : Items} {as : List α}, readEach read depth found = .ok as →
      List.Forall₂ Q found.nodes as
  | .close _, as, h => by
    cases h
    exact .nil
  | .broken _ _ _, as, h => nomatch h
  | .item _ value rest, as, h => by
    obtain ⟨a, ha, h⟩ := bind_eq_ok_iff.mp h
    obtain ⟨more, hmore, h⟩ := bind_eq_ok_iff.mp h
    cases h
    exact .cons (hread depth value a hdepth ha) (readEach_yields hread hdepth hmore)

theorem yields_list {α : Type} {read : Nat → Node → Except Fault α} {Q : Node → α → Prop}
    (hread : Yields read Q) : Yields (readList read) fun n as => List.Forall₂ Q n.items as := by
  intro depth n as hdepth h
  cases n with
  | list start found =>
    obtain ⟨d, entered, h⟩ := bind_eq_ok_iff.mp h
    exact readEach_yields hread (Nat.le_trans (le_of_enter entered) hdepth) h
  | _ => cases h

theorem yields_value : Yields (fun depth n => n.value depth) fun n v => n.json? = some v :=
  fun _ _ _ hdepth h => json?_of_value hdepth h

theorem Yields.map {ε α β : Type} {read : Nat → Node → Except ε α} {Q : Node → α → Prop}
    (hread : Yields read Q) (f : α → β) :
    Yields (fun depth n => (read depth n).map f) fun n b => ∃ a, Q n a ∧ f a = b := by
  intro depth n b hdepth h
  cases ha : read depth n with
  | error e => simp [ha, Except.map] at h
  | ok a =>
    refine ⟨a, hread depth n a hdepth ha, ?_⟩
    simpa [ha, Except.map] using h

theorem Yields.mapError {ε ε' α : Type} {read : Nat → Node → Except ε α} {Q : Node → α → Prop}
    (hread : Yields read Q) (f : ε → ε') :
    Yields (fun depth n => (read depth n).mapError f) Q := by
  intro depth n a hdepth h
  cases ha : read depth n with
  | error e => simp [ha] at h
  | ok a' =>
    simp only [ha, mapError_ok, Except.ok.injEq] at h
    exact h ▸ hread depth n a' hdepth ha

theorem yields_any {α : Type} (key : String) (set : Json → α → α) :
    Yields (Field.any key set).read fun n f => ∃ v, n.json? = some v ∧ set v = f :=
  (yields_value.map set).mapError Trouble.placed

theorem yields_string {α : Type} (key : String) (set : String → α → α) :
    Yields (Field.string key set).read fun n f => ∃ s, n.json? = some (.string s) ∧ set s = f := by
  intro depth n f _ h
  cases n with
  | string s after =>
    cases s with
    | error fault => cases h
    | ok s =>
      cases h
      exact ⟨s, rfl, rfl⟩
  | _ => cases h

theorem yields_required {α β : Type} {read : Nat → Node → Except Fault β} {Q : Node → β → Prop}
    (hread : Yields read Q) (key : String) (set : List β → α → α) :
    Yields (Field.list key read set).read fun n f =>
      ∃ bs, List.Forall₂ Q n.items bs ∧ set bs = f :=
  ((yields_list hread).map set).mapError Trouble.placed

theorem yields_nullable {α β : Type} {read : Nat → Node → Except Fault β} {Q : Node → β → Prop}
    (hread : Yields read Q) (key : String) (set : β → α → α) :
    Yields (Field.nullable key read set).read fun n f =>
      n.items = [] ∧ f = id ∨ ∃ b, Q n b ∧ set b = f := by
  intro depth n f hdepth h
  cases n with
  | null after =>
    cases h
    exact .inl ⟨rfl, rfl⟩
  | _ => exact .inr ((hread.map set).mapError Trouble.placed depth _ f hdepth h)

/-- A field gives what `view` shows of a record if it has the key, and leaves it if it has not. -/
structure Field.Fills {α β : Type} (f : Field α) (key : String) (view : α → β) (blank : β)
    (Given : Node → β → Prop) : Prop where
  own : f.key = key → Yields f.read fun n set => ∀ a, view a = blank → Given n (view (set a))
  other : f.key ≠ key → Yields f.read fun _ set => ∀ a, view (set a) = view a

theorem fills_any {α β : Type} {k key : String} {set : Json → α → α} {view : α → β}
    {c : Option String → β}
    (hset : ∀ v a, view (set v a) = if k = key then c v.text? else view a) :
    (Field.any k set).Fills key view (c none)
      fun n x => ∃ v, n.json? = some v ∧ x = c v.text? := by
  constructor
  case own =>
    intro hkey depth n f hdepth hf a _
    obtain ⟨v, hv, rfl⟩ := yields_any k set depth n f hdepth hf
    exact ⟨v, hv, (hset v a).trans (if_pos hkey)⟩
  case other =>
    intro hkey depth n f hdepth hf a
    obtain ⟨v, -, rfl⟩ := yields_any k set depth n f hdepth hf
    exact (hset v a).trans (if_neg hkey)

theorem fills_string {α : Type} {k key blank : String} {set : String → α → α} {view : α → String}
    (hset : ∀ s a, view (set s a) = if k = key then s else view a) :
    (Field.string k set).Fills key view blank fun n x => n.json? = some (.string x) := by
  constructor
  case own =>
    intro hkey depth n f hdepth hf a _
    obtain ⟨s, hs, rfl⟩ := yields_string k set depth n f hdepth hf
    have hown : k = key := hkey
    rw [hset s a, if_pos hown]
    exact hs
  case other =>
    intro hkey depth n f hdepth hf a
    obtain ⟨s, -, rfl⟩ := yields_string k set depth n f hdepth hf
    exact (hset s a).trans (if_neg hkey)

theorem fills_of_ne {α β : Type} {f : Field α} {key : String} {view : α → β} {blank : β}
    {Given : Node → β → Prop} (hkey : f.key ≠ key)
    (hview : Yields f.read fun _ set => ∀ a, view (set a) = view a) :
    f.Fills key view blank Given :=
  ⟨fun heq => absurd heq hkey, fun _ => hview⟩

theorem keeps_any {α β : Type} {key : String} {set : Json → α → α} {view : α → β}
    (hset : ∀ v a, view (set v a) = view a) :
    Yields (Field.any key set).read fun _ f => ∀ a, view (f a) = view a := by
  intro depth n f hdepth h a
  obtain ⟨v, -, rfl⟩ := yields_any key set depth n f hdepth h
  exact hset v a

/-- What `view` shows of a record that has `column?` for the key. -/
def Shown {β : Type} (column? : Option Node) (Given : Node → β → Prop) (blank x : β) : Prop :=
  match column? with
  | some column => Given column x
  | none => x = blank

namespace Record

variable {α β : Type} {r : Record α}

theorem readMembers_member_eq_ok {depth : Nat} {seen : List String} {a b : α}
    {settled keySettled : Place} {key : Except Fault String} {value : Node} {rest : Members}
    (h : r.readMembers depth seen a (.member settled key keySettled value rest) = .ok b) :
    ∃ k, key = .ok k ∧
      ((∀ f ∈ r.fields, f.key ≠ k) ∧ value.obstacle = none ∧
          r.readMembers depth seen a rest = .ok b ∨
        ∃ f ∈ r.fields, f.key = k ∧ k ∉ seen ∧ ∃ set, f.read depth value = .ok set ∧
          r.readMembers depth (k :: seen) (set a) rest = .ok b) := by
  cases key with
  | error fault => cases h
  | ok k =>
    refine ⟨k, rfl, ?_⟩
    rw [readMembers] at h
    cases hfield : r.field? k with
    | none =>
      rw [hfield] at h
      dsimp only at h
      split at h
      · cases h
      next hobstacle => exact .inl ⟨field?_eq_none_iff.mp hfield, hobstacle, h⟩
    | some f =>
      obtain ⟨hf, hkey⟩ := of_field?_eq_some hfield
      rw [hfield] at h
      dsimp only at h
      split at h
      · cases h
      next hseen =>
        cases hset : f.read depth value with
        | error trouble =>
          rw [hset] at h
          cases h
        | ok set =>
          rw [hset] at h
          exact .inr ⟨f, hf, hkey, hseen, set, hset, h⟩

theorem readMembers_close_eq_ok {depth : Nat} {seen : List String} {a b : α} {after : Place}
    (h : r.readMembers depth seen a (.close after) = .ok b) : b = a := by
  rw [readMembers] at h
  split at h <;> cases h
  rfl

theorem readItems_nil_eq_ok {depth : Nat} {a b : α} {found : Items}
    (h : r.readItems depth a [] found = .ok b) : found.nodes = [] ∧ b = a := by
  cases found with
  | close after =>
    cases h
    exact ⟨rfl, rfl⟩
  | _ => cases h

theorem readItems_cons_eq_ok {depth : Nat} {a b : α} {f : Field α} {fields : List (Field α)}
    {found : Items} (h : r.readItems depth a (f :: fields) found = .ok b) :
    found.nodes = [] ∧ r.readItems depth a fields found = .ok b ∨
      ∃ start value rest set, found = .item start value rest ∧ f.read depth value = .ok set ∧
        r.readItems depth (set a) fields rest = .ok b := by
  cases found with
  | close after =>
    rw [readItems] at h
    split at h
    · cases h
    · exact .inl ⟨rfl, h⟩
  | broken => cases h
  | item start value rest =>
    rw [readItems] at h
    cases hset : f.read depth value with
    | error trouble =>
      rw [hset] at h
      cases h
    | ok set =>
      rw [hset] at h
      exact .inr ⟨start, value, rest, set, rfl, hset, h⟩

section Views

variable {key : String} {view : α → β} {blank : β} {Given : Node → β → Prop} {depth : Nat}

theorem view_readMembers_of_seen (hfills : ∀ f ∈ r.fields, f.Fills key view blank Given)
    (hdepth : depth ≤ 128) :
    ∀ {found : Members} {seen : List String} {a b : α}, key ∈ seen →
      r.readMembers depth seen a found = .ok b → view b = view a
  | .close _, _, _, _, _, h => congrArg view (readMembers_close_eq_ok h)
  | .broken _ _, _, _, _, _, h => nomatch h
  | .member _ _ _ value rest, seen, a, b, hseen, h => by
    obtain ⟨k, -, ⟨-, -, h⟩ | ⟨f, hf, hk, hnew, set, hset, h⟩⟩ := readMembers_member_eq_ok h
    · exact view_readMembers_of_seen hfills hdepth hseen h
    · have hne : f.key ≠ key := fun heq => hnew (hk ▸ heq ▸ hseen)
      rw [view_readMembers_of_seen hfills hdepth (List.mem_cons_of_mem k hseen) h]
      exact (hfills f hf).other hne depth value set hdepth hset a

/-- A column is that of the one member with its key. -/
theorem view_readMembers (hfills : ∀ f ∈ r.fields, f.Fills key view blank Given)
    (hkey : key ∈ r.fields.map Field.key) (hdepth : depth ≤ 128) :
    ∀ {found : Members} {seen : List String} {a b : α}, key ∉ seen →
      view a = blank → r.readMembers depth seen a found = .ok b →
        Shown (found.find? key) Given blank (view b)
  | .close _, _, _, _, _, ha, h => (congrArg view (readMembers_close_eq_ok h)).trans ha
  | .broken _ _, _, _, _, _, _, h => nomatch h
  | .member _ _ _ value rest, seen, a, b, hseen, ha, h => by
    obtain ⟨k, rfl, ⟨hunknown, -, h⟩ | ⟨f, hf, hk, hnew, set, hset, h⟩⟩ :=
      readMembers_member_eq_ok h
    · obtain ⟨g, hg, hgkey⟩ := List.mem_map.mp hkey
      have hne : k ≠ key := fun heq => hunknown g hg (hgkey.trans heq.symm)
      rw [Members.find?, if_neg hne]
      exact view_readMembers hfills hkey hdepth hseen ha h
    by_cases heq : k = key
    · -- no member after this one can have the key again
      rw [Members.find?, if_pos heq, Shown]
      rw [view_readMembers_of_seen hfills hdepth (heq ▸ List.mem_cons_self) h]
      exact (hfills f hf).own (hk.trans heq) depth value set hdepth hset a ha
    · have hother := (hfills f hf).other (hk ▸ heq) depth value set hdepth hset a
      rw [Members.find?, if_neg heq]
      exact view_readMembers hfills hkey hdepth (by simp [Ne.symm heq, hseen]) (hother.trans ha) h

theorem view_readItems_of_notMem {fields : List (Field α)}
    (hfills : ∀ f ∈ fields, f.Fills key view blank Given) (hkey : key ∉ fields.map Field.key)
    (hdepth : depth ≤ 128) {found : Items} {a b : α}
    (h : r.readItems depth a fields found = .ok b) : view b = view a := by
  induction fields generalizing found a with
  | nil => exact congrArg view (readItems_nil_eq_ok h).2
  | cons f fields ih =>
    obtain ⟨hf, hfields⟩ := List.forall_mem_cons.mp hfills
    rw [List.map_cons, List.mem_cons, not_or] at hkey
    obtain ⟨-, h⟩ | ⟨start, value, rest, set, -, hset, h⟩ := readItems_cons_eq_ok h
    · exact ih hfields hkey.2 h
    · rw [ih hfields hkey.2 h]
      exact hf.other (Ne.symm hkey.1) depth value set hdepth hset a

/-- A column is that of the item in the place of its key. -/
theorem view_readItems {fields : List (Field α)}
    (hfills : ∀ f ∈ fields, f.Fills key view blank Given)
    (hnodup : (fields.map Field.key).Nodup) (hkey : key ∈ fields.map Field.key)
    (hdepth : depth ≤ 128) {found : Items} {a b : α} (ha : view a = blank)
    (h : r.readItems depth a fields found = .ok b) :
    Shown found.nodes[(fields.map Field.key).idxOf key]? Given blank (view b) := by
  induction fields generalizing found a with
  | nil => cases hkey
  | cons f fields ih =>
    obtain ⟨hf, hfields⟩ := List.forall_mem_cons.mp hfills
    rw [List.map_cons] at hnodup hkey ⊢
    obtain ⟨hnew, hnodup⟩ := List.nodup_cons.mp hnodup
    by_cases heq : f.key = key
    · rw [heq] at hnew
      rw [heq, List.idxOf_cons_self]
      obtain ⟨hnodes, h⟩ | ⟨start, value, rest, set, rfl, hset, h⟩ := readItems_cons_eq_ok h
      · rw [hnodes]
        exact (view_readItems_of_notMem hfields hnew hdepth h).trans ha
      · rw [Items.nodes, List.getElem?_cons_zero, Shown,
          view_readItems_of_notMem hfields hnew hdepth h]
        exact hf.own heq depth value set hdepth hset a ha
    · have hrest := (List.mem_cons.mp hkey).resolve_left (Ne.symm heq)
      rw [List.idxOf_cons_ne _ heq]
      obtain ⟨hnodes, h⟩ | ⟨start, value, rest, set, rfl, hset, h⟩ := readItems_cons_eq_ok h
      · have hshown := ih hfields hnodup hrest ha h
        rw [hnodes] at hshown ⊢
        exact hshown
      · have hother := hf.other heq depth value set hdepth hset a
        rw [Items.nodes, Nat.succ_eq_add_one, List.getElem?_cons_succ]
        exact ih hfields hnodup hrest (hother.trans ha) h

/-- What a record that was read shows of a column. -/
theorem yields_view (hfills : ∀ f ∈ r.fields, f.Fills key view (view r.blank) Given)
    (hnodup : (r.fields.map Field.key).Nodup) (hkey : key ∈ r.fields.map Field.key) :
    Yields r.read fun n a =>
      Shown (n.field? (r.fields.map Field.key) key) Given (view r.blank) (view a) := by
  intro depth n a hdepth h
  cases n with
  | list start found =>
    obtain ⟨d, entered, h⟩ := bind_eq_ok_iff.mp h
    exact view_readItems hfills hnodup hkey (Nat.le_trans (le_of_enter entered) hdepth) rfl h
  | object start found =>
    obtain ⟨d, entered, h⟩ := bind_eq_ok_iff.mp h
    exact view_readMembers hfills hkey (Nat.le_trans (le_of_enter entered) hdepth)
      List.not_mem_nil rfl h
  | _ => cases h

end Views

/-- What a record that was read shows of a column of text. -/
theorem yields_text {key : String} {view : α → β} {c : Option String → β}
    (hfills : ∀ f ∈ r.fields, f.Fills key view (c none)
      fun n x => ∃ v, n.json? = some v ∧ x = c v.text?)
    (hblank : view r.blank = c none) (hnodup : (r.fields.map Field.key).Nodup)
    (hkey : key ∈ r.fields.map Field.key) :
    Yields r.read fun n a => n.Legible (r.fields.map Field.key) key ∧
      view a = c (n.columnText? (r.fields.map Field.key) key) := by
  intro depth n a hdepth h
  have hshown := yields_view (hblank ▸ hfills) hnodup hkey depth n a hdepth h
  dsimp only at hshown
  unfold Node.Legible Node.columnText?
  cases hfield : n.field? (r.fields.map Field.key) key with
  | none =>
    rw [hfield] at hshown
    exact ⟨nofun, hshown.trans hblank⟩
  | some column =>
    rw [hfield] at hshown
    obtain ⟨v, hv, hview⟩ := hshown
    refine ⟨fun _ heq => ?_, ?_⟩
    · cases heq
      rw [hv]
      rfl
    · rw [Option.bind_some, hv, Option.bind_some]
      exact hview

end Record

end SeedArchive.Json
