import SeedArchive.Json.Record
import SeedArchive.Proofs.Control.Except

namespace SeedArchive.Json

/-- A value is written as a record of `keys`: an object that has none of them twice, or a list of
values for the first of them. -/
def IsRecord (keys : List String) : Json → Prop
  | .object members => ∀ key ∈ keys, (members.map Prod.fst).count key ≤ 1
  | .array items => items.length ≤ keys.length
  | _ => False

/-- What a record of `keys` has for one of them. -/
def field? (keys : List String) (key : String) : Json → Option Json
  | .object members => members.lookup key
  | .array items => items[keys.idxOf key]?
  | _ => none

theorem field?_array_self (key : String) (keys : List String) (vs : List Json) :
    field? (key :: keys) key (.array vs) = vs.head? := by
  rw [field?, List.idxOf_cons_self, List.head?_eq_getElem?]

theorem field?_array_of_ne {key key' : String} (h : key ≠ key') (keys : List String)
    (vs : List Json) :
    field? (key :: keys) key' (.array vs) = field? keys key' (.array vs.tail) := by
  rw [field?, field?, List.idxOf_cons, beq_false_of_ne h, cond_false, List.getElem?_tail]

def IsListOf (P : Json → Prop) : Json → Prop
  | .array items => ∀ v ∈ items, P v
  | _ => False

/-- What stands in a document where a value is whole: no string or number is out of range, and no
bracket is too deep. -/
inductive Node.Whole (depth : Nat) : Node → Json → Prop
  | null (after : Place) : Whole depth (.null after) .null
  | bool (b : Bool) (after : Place) : Whole depth (.bool b after) (.bool b)
  | number (n : Number) (after : Place) : Whole depth (.number (.ok n) after) (.number n)
  | string (s : String) (after : Place) : Whole depth (.string (.ok s) after) (.string s)
  | list {start d : Nat} {found : Items} {vs : List Json} (entered : enter depth start = .ok d)
      (values : found.values d = .ok vs) : Whole depth (.list start found) (.array vs)
  | object {start d : Nat} {found : Members} {vs : List (String × Json)}
      (entered : enter depth start = .ok d) (values : found.values d = .ok vs) :
      Whole depth (.object start found) (.object vs)

theorem Node.whole_of_value {depth : Nat} {node : Node} {v : Json}
    (h : node.value depth = .ok v) : node.Whole depth v := by
  cases node with
  | null after =>
    cases h
    exact .null after
  | bool b after =>
    cases h
    exact .bool b after
  | number n after =>
    cases n with
    | error fault => cases h
    | ok n =>
      cases h
      exact .number n after
  | string s after =>
    cases s with
    | error fault => cases h
    | ok s =>
      cases h
      exact .string s after
  | list start found =>
    obtain ⟨d, hd, h⟩ := bind_eq_ok_iff.mp h
    obtain ⟨vs, hvs, h⟩ := bind_eq_ok_iff.mp h
    cases h
    exact .list hd hvs
  | object start found =>
    obtain ⟨d, hd, h⟩ := bind_eq_ok_iff.mp h
    obtain ⟨vs, hvs, h⟩ := bind_eq_ok_iff.mp h
    cases h
    exact .object hd hvs
  | broken cut => cases h

theorem values_item_eq_ok_iff {depth start : Nat} {value : Node} {rest : Items} {vs : List Json} :
    (Items.item start value rest).values depth = .ok vs ↔
      ∃ w, value.value depth = .ok w ∧ ∃ ws, rest.values depth = .ok ws ∧ w :: ws = vs := by
  rw [Items.values, bind_eq_ok_iff]
  simp only [bind_eq_ok_iff, pure, Except.pure, Except.ok.injEq]

theorem values_member_eq_ok_iff {depth : Nat} {settled keySettled : Place}
    {key : Except Fault String} {value : Node} {rest : Members} {vs : List (String × Json)} :
    (Members.member settled key keySettled value rest).values depth = .ok vs ↔
      ∃ k, key = .ok k ∧ ∃ w, value.value depth = .ok w ∧
        ∃ ws, rest.values depth = .ok ws ∧ (k, w) :: ws = vs := by
  rw [Members.values, bind_eq_ok_iff]
  simp only [bind_eq_ok_iff, pure, Except.pure, Except.ok.injEq]

mutual

/-- What has a value can be passed over. -/
theorem Node.obstacle_of_value {depth : Nat} {v : Json} :
    ∀ {node : Node}, node.value depth = .ok v → node.obstacle = none
  | .null _, _ | .bool _ _, _ | .number _ _, _ | .string _ _, _ => rfl
  | .list _ _, h => by
    cases Node.whole_of_value h with
    | list _ hvalues => exact Items.obstacle_of_values hvalues
  | .object _ _, h => by
    cases Node.whole_of_value h with
    | object _ hvalues => exact Members.obstacle_of_values hvalues
  | .broken _, h => nomatch h

theorem Items.obstacle_of_values {depth : Nat} {vs : List Json} :
    ∀ {found : Items}, found.values depth = .ok vs → found.obstacle = none
  | .close _, _ => rfl
  | .broken _ _ _, h => nomatch h
  | .item _ _ _, h => by
    obtain ⟨w, hvalue, ws, hvalues, -⟩ := values_item_eq_ok_iff.mp h
    rw [Items.obstacle, Node.obstacle_of_value hvalue, Items.obstacle_of_values hvalues]
    rfl

theorem Members.obstacle_of_values {depth : Nat} {vs : List (String × Json)} :
    ∀ {found : Members}, found.values depth = .ok vs → found.obstacle = none
  | .close _, _ => rfl
  | .broken _ _, h => nomatch h
  | .member _ _ _ _ _, h => by
    obtain ⟨k, -, w, hvalue, ws, hvalues, -⟩ := values_member_eq_ok_iff.mp h
    rw [Members.obstacle, Node.obstacle_of_value hvalue, Members.obstacle_of_values hvalues]
    rfl

end

/-- A reader succeeds on the values with a property, of those that stand whole in a document. -/
def Reads {ε α : Type} (read : Nat → Node → Except ε α) (P : Json → Prop) : Prop :=
  ∀ depth node v, node.value depth = .ok v → ((∃ a, read depth node = .ok a) ↔ P v)

section Readers

variable {α β : Type} {P : Json → Prop}

theorem Reads.congr {ε : Type} {Q : Json → Prop} {read : Nat → Node → Except ε α}
    (hread : Reads read P) (h : ∀ v, P v ↔ Q v) : Reads read Q :=
  fun depth node v hvalue => (hread depth node v hvalue).trans (h v)

theorem Reads.map {ε : Type} {read : Nat → Node → Except ε α} (hread : Reads read P)
    (f : α → β) : Reads (fun depth node => (read depth node).map f) P := by
  intro depth node v hvalue
  rw [← hread depth node v hvalue]
  show (∃ b, (read depth node).map f = .ok b) ↔ _
  cases read depth node <;> simp [Except.map]

theorem Reads.mapError {ε ε' : Type} {read : Nat → Node → Except ε α} (hread : Reads read P)
    (f : ε → ε') : Reads (fun depth node => (read depth node).mapError f) P := by
  intro depth node v hvalue
  rw [← hread depth node v hvalue]
  show (∃ b, (read depth node).mapError f = .ok b) ↔ _
  cases read depth node <;> simp

theorem reads_value : Reads (fun depth node => node.value depth) fun _ => True :=
  fun _ _ v hvalue => iff_of_true ⟨v, hvalue⟩ trivial

theorem reads_any (key : String) (set : Json → α → α) :
    Reads (Field.any key set).read fun _ => True :=
  (reads_value.map set).mapError Trouble.placed

theorem reads_string (key : String) (set : String → α → α) :
    Reads (Field.string key set).read fun v => ∃ s, v = .string s := by
  intro depth node v hvalue
  cases Node.whole_of_value hvalue with
  | string s after => exact iff_of_true ⟨set s, rfl⟩ ⟨s, rfl⟩
  | _ => exact iff_of_false nofun nofun

theorem readEach_eq_ok_iff {read : Nat → Node → Except Fault α} (hread : Reads read P)
    {depth : Nat} : ∀ (found : Items) (vs : List Json), found.values depth = .ok vs →
      ((∃ as, readEach read depth found = .ok as) ↔ ∀ v ∈ vs, P v)
  | .close _, vs, h => by
    cases h
    exact iff_of_true ⟨[], rfl⟩ (by simp)
  | .broken _ _ _, vs, h => nomatch h
  | .item _ value rest, vs, h => by
    obtain ⟨w, hvalue, ws, hvalues, rfl⟩ := values_item_eq_ok_iff.mp h
    rw [List.forall_mem_cons, ← hread depth value w hvalue,
      ← readEach_eq_ok_iff hread rest ws hvalues]
    simp only [readEach, bind_eq_ok_iff, pure, Except.pure, Except.ok.injEq]
    constructor
    · rintro ⟨as, a, ha, more, hmore, -⟩
      exact ⟨⟨a, ha⟩, more, hmore⟩
    · rintro ⟨⟨a, ha⟩, more, hmore⟩
      exact ⟨a :: more, a, ha, more, hmore, rfl⟩

theorem reads_list {read : Nat → Node → Except Fault α} (hread : Reads read P) :
    Reads (readList read) (IsListOf P) := by
  intro depth node v hvalue
  cases Node.whole_of_value hvalue with
  | @list start d found vs entered values =>
    rw [IsListOf, ← readEach_eq_ok_iff hread found vs values]
    show (∃ as, (enter depth start >>= fun d => readEach read d found) = .ok as) ↔ _
    rw [entered]
    rfl
  | _ => exact iff_of_false (by simp [readList]) (by simp [IsListOf])

theorem reads_required {read : Nat → Node → Except Fault β} (hread : Reads read P) (key : String)
    (set : List β → α → α) : Reads (Field.list key read set).read (IsListOf P) :=
  ((reads_list hread).map set).mapError Trouble.placed

theorem reads_nullable {read : Nat → Node → Except Fault β} (hread : Reads read P) (key : String)
    (set : β → α → α) :
    Reads (Field.nullable key read set).read fun v => v = .null ∨ P v := by
  intro depth node v hvalue
  have hmap := (hread.map set).mapError Trouble.placed depth node v hvalue
  cases Node.whole_of_value hvalue with
  | null after => exact iff_of_true ⟨id, rfl⟩ (.inl rfl)
  | _ => exact hmap.trans (or_iff_right nofun).symm

end Readers

/-- What a field wants of a value that is written as a record of `keys`. -/
structure Field.Fits {α : Type} (f : Field α) (P : String → Json → Prop) (keys : List String)
    (v : Json) : Prop where
  required : f.required → (v.field? keys f.key).isSome
  taken : ∀ w, v.field? keys f.key = some w → P f.key w

theorem Field.fits_congr {α : Type} {f : Field α} {P : String → Json → Prop}
    {keys keys' : List String} {v v' : Json} (h : v.field? keys f.key = v'.field? keys' f.key) :
    f.Fits P keys v ↔ f.Fits P keys' v' := by
  constructor
  · rintro ⟨hrequired, htaken⟩
    exact ⟨h ▸ hrequired, h ▸ htaken⟩
  · rintro ⟨hrequired, htaken⟩
    exact ⟨h ▸ hrequired, h ▸ htaken⟩

theorem Field.fits_of_eq_some {α : Type} {f : Field α} {P : String → Json → Prop}
    {keys : List String} {v w : Json} (h : v.field? keys f.key = some w) :
    f.Fits P keys v ↔ P f.key w := by
  refine ⟨fun hfits => hfits.taken w h, fun hw => ⟨fun _ => by simp [h], fun w' hw' => ?_⟩⟩
  rw [h] at hw'
  cases hw'
  exact hw

theorem Field.fits_of_eq_none {α : Type} {f : Field α} {P : String → Json → Prop}
    {keys : List String} {v : Json} (h : v.field? keys f.key = none) :
    f.Fits P keys v ↔ f.required = false := by
  constructor
  · intro hfits
    simpa [h] using hfits.required
  · intro hrequired
    exact ⟨by simp [hrequired], by simp [h]⟩

namespace Record

variable {α : Type} {r : Record α} {P : String → Json → Prop}

/-- A value is written as a record, and its fields take what it has for them. -/
structure Accepts (r : Record α) (P : String → Json → Prop) (v : Json) : Prop where
  record : v.IsRecord (r.fields.map Field.key)
  fits : ∀ f ∈ r.fields, f.Fits P (r.fields.map Field.key) v

theorem field?_eq_none_iff {key : String} :
    r.field? key = none ↔ ∀ f ∈ r.fields, f.key ≠ key := by
  simp [field?, List.find?_eq_none]

theorem of_field?_eq_some {key : String} {f : Field α} (h : r.field? key = some f) :
    f ∈ r.fields ∧ f.key = key := by
  refine ⟨List.mem_of_find?_eq_some h, ?_⟩
  simpa using List.find?_some h

/-- Members that a record takes when those of some keys have been read. -/
structure TakesMembers (r : Record α) (P : String → Json → Prop) (seen : List String)
    (vs : List (String × Json)) : Prop where
  once : ∀ f ∈ r.fields, (vs.map Prod.fst).count f.key ≤ if f.key ∈ seen then 0 else 1
  required : ∀ f ∈ r.fields, f.required → f.key ∈ seen ∨ f.key ∈ vs.map Prod.fst
  taken : ∀ m ∈ vs, ∀ f ∈ r.fields, f.key = m.1 → P m.1 m.2

theorem takesMembers_nil {seen : List String} :
    r.TakesMembers P seen [] ↔ ∀ f ∈ r.fields, f.required → f.key ∈ seen := by
  constructor
  · intro h f hf hrequired
    simpa using h.required f hf hrequired
  · intro h
    exact ⟨by simp, fun f hf hrequired => .inl (h f hf hrequired), by simp⟩

theorem takesMembers_unknown {seen : List String} {key : String} {v : Json}
    {vs : List (String × Json)} (h : ∀ f ∈ r.fields, f.key ≠ key) :
    r.TakesMembers P seen ((key, v) :: vs) ↔ r.TakesMembers P seen vs := by
  have hcount : ∀ f ∈ r.fields, (((key, v) :: vs).map Prod.fst).count f.key =
      (vs.map Prod.fst).count f.key := by
    intro f hf
    rw [List.map_cons, List.count_cons_of_ne (h f hf).symm]
  have hmem : ∀ f ∈ r.fields, f.key ∈ ((key, v) :: vs).map Prod.fst ↔ f.key ∈ vs.map Prod.fst := by
    intro f hf
    rw [List.map_cons, List.mem_cons, or_iff_right (h f hf)]
  constructor
  · intro htakes
    refine ⟨fun f hf => ?_, fun f hf hrequired => ?_, fun m hm => ?_⟩
    · rw [← hcount f hf]
      exact htakes.once f hf
    · rw [← hmem f hf]
      exact htakes.required f hf hrequired
    · exact htakes.taken m (List.mem_cons_of_mem _ hm)
  · intro htakes
    refine ⟨fun f hf => ?_, fun f hf hrequired => ?_, ?_⟩
    · rw [hcount f hf]
      exact htakes.once f hf
    · rw [hmem f hf]
      exact htakes.required f hf hrequired
    · rw [List.forall_mem_cons]
      exact ⟨fun f hf hkey => absurd hkey (h f hf), htakes.taken⟩

theorem count_cons_le_iff {key : String} {seen : List String} (hseen : key ∉ seen)
    (keys : List String) (k : String) :
    ((key :: keys).count k ≤ if k ∈ seen then 0 else 1) ↔
      keys.count k ≤ if k ∈ key :: seen then 0 else 1 := by
  by_cases heq : k = key
  · simp [heq, hseen]
  · simp [heq, Ne.symm heq]

theorem takesMembers_known {seen : List String} {key : String} {v : Json}
    {vs : List (String × Json)} {f : Field α} (hf : f ∈ r.fields) (hkey : f.key = key) :
    r.TakesMembers P seen ((key, v) :: vs) ↔
      key ∉ seen ∧ P key v ∧ r.TakesMembers P (key :: seen) vs := by
  constructor
  · intro htakes
    have honce := htakes.once f hf
    have hseen : key ∉ seen := by
      intro hmem
      simp [hkey, hmem] at honce
    refine ⟨hseen, htakes.taken _ List.mem_cons_self f hf hkey, fun g hg => ?_,
      fun g hg hrequired => ?_, fun m hm => htakes.taken m (List.mem_cons_of_mem _ hm)⟩
    · exact (count_cons_le_iff hseen _ g.key).mp (htakes.once g hg)
    · have hg' := htakes.required g hg hrequired
      rwa [List.map_cons, List.mem_cons, or_left_comm, ← or_assoc, ← List.mem_cons] at hg'
  · rintro ⟨hseen, hv, htakes⟩
    refine ⟨fun g hg => ?_, fun g hg hrequired => ?_, ?_⟩
    · exact (count_cons_le_iff hseen _ g.key).mpr (htakes.once g hg)
    · have hg' := htakes.required g hg hrequired
      rwa [List.mem_cons, or_assoc, or_left_comm, ← List.mem_cons] at hg'
    · rw [List.forall_mem_cons]
      exact ⟨fun _ _ _ => hv, htakes.taken⟩

theorem readMembers_eq_ok_iff (hP : ∀ f ∈ r.fields, Reads f.read (P f.key)) {depth : Nat} :
    ∀ (found : Members) (seen : List String) (a : α) (vs : List (String × Json)),
      found.values depth = .ok vs →
        ((∃ b, r.readMembers depth seen a found = .ok b) ↔ r.TakesMembers P seen vs)
  | .close _, seen, a, vs, h => by
    cases h
    rw [takesMembers_nil, readMembers]
    split
    · next f hfind =>
      have hf := List.mem_of_find?_eq_some hfind
      obtain ⟨hrequired, hseen⟩ : f.required = true ∧ f.key ∉ seen := by
        simpa using List.find?_some hfind
      exact iff_of_false nofun fun htakes => hseen (htakes f hf hrequired)
    · next hfind =>
      refine iff_of_true ⟨a, rfl⟩ ?_
      simpa using hfind
  | .broken _ _, seen, a, vs, h => nomatch h
  | .member _ key _ value rest, seen, a, vs, h => by
    obtain ⟨key, rfl, w, hvalue, ws, hvalues, rfl⟩ := values_member_eq_ok_iff.mp h
    rw [readMembers]
    -- a member that is not known is passed over, so only the known ones count as seen
    cases hfield : r.field? key with
    | none =>
      dsimp only
      rw [Node.obstacle_of_value hvalue, takesMembers_unknown (field?_eq_none_iff.mp hfield)]
      exact readMembers_eq_ok_iff hP rest seen a ws hvalues
    | some f =>
      obtain ⟨hf, hkey⟩ := of_field?_eq_some hfield
      rw [takesMembers_known hf hkey]
      dsimp only
      by_cases hseen : key ∈ seen
      · rw [if_pos hseen]
        exact iff_of_false nofun fun htakes => htakes.1 hseen
      rw [if_neg hseen]
      have hread := hP f hf depth value w hvalue
      rw [hkey] at hread
      cases hset : f.read depth value with
      | error trouble =>
        rw [hset] at hread
        refine iff_of_false nofun fun htakes => ?_
        obtain ⟨set, hset⟩ := hread.mpr htakes.2.1
        cases hset
      | ok set =>
        have hw : P key w := hread.mp ⟨set, hset⟩
        dsimp only
        rw [and_iff_right hseen, and_iff_right hw]
        exact readMembers_eq_ok_iff hP rest (key :: seen) (set a) ws hvalues

theorem lookup_eq_some_of_count {key : String} {v : Json} {vs : List (String × Json)}
    (hcount : (vs.map Prod.fst).count key ≤ 1) (hmem : (key, v) ∈ vs) :
    vs.lookup key = some v := by
  obtain ⟨before, after, rfl⟩ := List.append_of_mem hmem
  refine List.lookup_eq_some_iff.mpr ⟨before, after, rfl, fun m hm => ?_⟩
  have hbefore : (before.map Prod.fst).count key = 0 := by
    simp at hcount
    omega
  have hne : key ≠ m.1 := by
    intro heq
    exact List.count_eq_zero.mp hbefore (heq ▸ List.mem_map_of_mem hm)
  simpa using hne

theorem isSome_lookup_iff {key : String} {vs : List (String × Json)} :
    (vs.lookup key).isSome ↔ key ∈ vs.map Prod.fst := by
  rw [List.lookup_isSome_iff, List.mem_map]
  simp only [beq_iff_eq, @eq_comm String key]

theorem accepts_object_iff (vs : List (String × Json)) :
    r.Accepts P (.object vs) ↔ r.TakesMembers P [] vs := by
  constructor
  · rintro ⟨hrecord, hfits⟩
    have honce : ∀ f ∈ r.fields, (vs.map Prod.fst).count f.key ≤ 1 := List.forall_mem_map.mp hrecord
    refine ⟨by simpa using honce, fun f hf hrequired => .inr ?_, fun m hm f hf hkey => ?_⟩
    · exact isSome_lookup_iff.mp ((hfits f hf).required hrequired)
    · have hlookup := lookup_eq_some_of_count (v := m.2) (honce f hf) (by rw [hkey]; exact hm)
      exact hkey ▸ (hfits f hf).taken m.2 hlookup
  · intro htakes
    refine ⟨List.forall_mem_map.mpr (by simpa using htakes.once),
      fun f hf => ⟨fun hrequired => isSome_lookup_iff.mpr ?_, fun w hw => ?_⟩⟩
    · simpa using htakes.required f hf hrequired
    · obtain ⟨before, after, rfl, -⟩ := List.lookup_eq_some_iff.mp hw
      exact htakes.taken (f.key, w) (by simp) f hf rfl

/-- Items that fields take in their order. -/
def TakesItems (P : String → Json → Prop) : List (Field α) → List Json → Prop
  | [], vs => vs = []
  | f :: fields, [] => f.required = false ∧ TakesItems P fields []
  | f :: fields, v :: vs => P f.key v ∧ TakesItems P fields vs

theorem takesItems_iff {fields : List (Field α)} (hnodup : (fields.map Field.key).Nodup)
    (vs : List Json) :
    TakesItems P fields vs ↔ vs.length ≤ fields.length ∧
      ∀ f ∈ fields, f.Fits P (fields.map Field.key) (.array vs) := by
  induction fields generalizing vs with
  | nil => simp [TakesItems]
  | cons f fields ih =>
    obtain ⟨hf, hnodup⟩ := List.nodup_cons.mp hnodup
    -- the keys are distinct, so the fields after the first take the items after the first
    have hrest : (∀ g ∈ fields, g.Fits P (f.key :: fields.map Field.key) (.array vs)) ↔
        ∀ g ∈ fields, g.Fits P (fields.map Field.key) (.array vs.tail) := by
      refine forall_congr' fun g => forall_congr' fun hg => Field.fits_congr ?_
      refine field?_array_of_ne (fun heq => hf ?_) _ vs
      rw [heq]
      exact List.mem_map_of_mem hg
    rw [List.map_cons, List.forall_mem_cons, hrest]
    have hself := field?_array_self f.key (fields.map Field.key) vs
    cases vs with
    | nil =>
      rw [TakesItems, ih hnodup, Field.fits_of_eq_none hself]
      simp
    | cons v vs =>
      rw [TakesItems, ih hnodup, Field.fits_of_eq_some hself]
      simp [and_left_comm]

theorem readItems_eq_ok_iff {depth : Nat} (fields : List (Field α))
    (hP : ∀ f ∈ fields, Reads f.read (P f.key)) (found : Items) (a : α) (vs : List Json)
    (h : found.values depth = .ok vs) :
    (∃ b, r.readItems depth a fields found = .ok b) ↔ TakesItems P fields vs := by
  induction fields generalizing found a vs with
  | nil =>
    cases found with
    | close after =>
      cases h
      exact iff_of_true ⟨a, rfl⟩ rfl
    | broken => cases h
    | item start value rest =>
      obtain ⟨w, -, ws, -, rfl⟩ := values_item_eq_ok_iff.mp h
      exact iff_of_false nofun nofun
  | cons f fields ih =>
    obtain ⟨hf, hfields⟩ := List.forall_mem_cons.mp hP
    cases found with
    | close after =>
      cases h
      rw [readItems, TakesItems]
      cases hrequired : f.required with
      | true => exact iff_of_false nofun nofun
      | false =>
        rw [← ih hfields (.close after) a [] rfl]
        simp
    | broken => cases h
    | item start value rest =>
      obtain ⟨w, hvalue, ws, hvalues, rfl⟩ := values_item_eq_ok_iff.mp h
      rw [readItems, TakesItems, ← hf depth value w hvalue]
      cases f.read depth value with
      | error trouble => exact iff_of_false nofun nofun
      | ok set =>
        rw [ih hfields rest (set a) ws hvalues]
        simp

theorem accepts_array_iff (hnodup : (r.fields.map Field.key).Nodup) (vs : List Json) :
    r.Accepts P (.array vs) ↔ TakesItems P r.fields vs := by
  rw [takesItems_iff hnodup]
  constructor
  · rintro ⟨hrecord, hfits⟩
    exact ⟨by simpa [IsRecord] using hrecord, hfits⟩
  · rintro ⟨hlength, hfits⟩
    exact ⟨by simpa [IsRecord] using hlength, hfits⟩

theorem reads_record (hnodup : (r.fields.map Field.key).Nodup)
    (hP : ∀ f ∈ r.fields, Reads f.read (P f.key)) : Reads r.read (r.Accepts P) := by
  intro depth node v hvalue
  cases Node.whole_of_value hvalue with
  | @list start d found vs entered values =>
    show (∃ a, (enter depth start >>= fun d => r.readItems d r.blank r.fields found) = .ok a) ↔ _
    rw [entered, accepts_array_iff hnodup]
    exact readItems_eq_ok_iff r.fields hP found r.blank vs values
  | @object start d found vs entered values =>
    show (∃ a, (enter depth start >>= fun d => r.readMembers d [] r.blank found) = .ok a) ↔ _
    rw [entered, accepts_object_iff]
    exact readMembers_eq_ok_iff hP found [] r.blank vs values
  | _ => exact iff_of_false nofun fun h => h.record

theorem reads_of_any (hnodup : (r.fields.map Field.key).Nodup)
    (hany : ∀ f ∈ r.fields, f.required = false ∧ Reads f.read fun _ => True) :
    Reads r.read (IsRecord (r.fields.map Field.key)) := by
  have hread := reads_record (P := fun _ _ => True) hnodup fun f hf => (hany f hf).2
  refine hread.congr fun v => ⟨Accepts.record, fun hrecord => ⟨hrecord, fun f hf => ?_⟩⟩
  exact ⟨by simp [(hany f hf).1], fun _ _ => trivial⟩

end Record

theorem decode_eq_ok_iff {α : Type} {read : Nat → Node → Except Fault α} {source : Source}
    {document : List UInt8} {a : α} :
    decode source read document = .ok a ↔
      read 128 (documentNode document).1 = .ok a ∧ ∃ n, (documentNode document).2 = .finish n := by
  rw [decode]
  obtain ⟨node, rest⟩ := documentNode document
  dsimp only
  cases read 128 node with
  | error fault => exact iff_of_false nofun nofun
  | ok b =>
    cases rest with
    | finish n => simp
    | _ => exact iff_of_false nofun fun h => nomatch h.2

/-- A document that is a value is read with any reader that takes the value. -/
theorem decode_of_reads {α : Type} {read : Nat → Node → Except Fault α} {P : Json → Prop}
    (hread : Reads read P) {source : Source} {document : List UInt8} {v : Json}
    (hv : decode source (fun depth node => node.value depth) document = .ok v) :
    (∃ a, decode source read document = .ok a) ↔ P v := by
  obtain ⟨hvalue, n, hrest⟩ := decode_eq_ok_iff.mp hv
  rw [← hread 128 _ v hvalue]
  refine exists_congr fun a => ?_
  rw [decode_eq_ok_iff, and_iff_left ⟨n, hrest⟩]

end SeedArchive.Json
