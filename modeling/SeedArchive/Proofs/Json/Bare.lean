import SeedArchive.Proofs.Json.Columns
import SeedArchive.Proofs.Json.Spacing

namespace SeedArchive.Json

/-- What a reader takes can be passed over. -/
def Passes {ε α : Type} (read : Nat → Node → Except ε α) : Prop :=
  Yields read fun n _ => n.obstacle = none

section Readers

variable {ε ε' α β : Type}

theorem Passes.map {read : Nat → Node → Except ε α} (h : Passes read) (f : α → β) :
    Passes fun depth n => (read depth n).map f := by
  intro depth n b hdepth hb
  obtain ⟨a, ha, -⟩ := Yields.map h f depth n b hdepth hb
  exact ha

theorem Passes.mapError {read : Nat → Node → Except ε α} (h : Passes read) (f : ε → ε') :
    Passes fun depth n => (read depth n).mapError f :=
  Yields.mapError h f

theorem passes_value : Passes fun depth n => n.value depth :=
  fun _ _ _ _ h => Node.obstacle_of_value h

theorem passes_any (key : String) (set : Json → α → α) : Passes (Field.any key set).read :=
  (passes_value.map set).mapError Trouble.placed

theorem obstacle_of_readEach {read : Nat → Node → Except Fault α} (hread : Passes read)
    {depth : Nat} (hdepth : depth ≤ 128) :
    ∀ {found : Items} {as : List α}, readEach read depth found = .ok as → found.obstacle = none
  | .close _, _, _ => rfl
  | .broken _ _ _, _, h => nomatch h
  | .item _ value rest, _, h => by
    obtain ⟨a, ha, h⟩ := bind_eq_ok_iff.mp h
    obtain ⟨more, hmore, -⟩ := bind_eq_ok_iff.mp h
    rw [Items.obstacle, hread depth value a hdepth ha, obstacle_of_readEach hread hdepth hmore]
    rfl

theorem passes_list {read : Nat → Node → Except Fault α} (hread : Passes read) :
    Passes (readList read) := by
  intro depth n as hdepth h
  cases n with
  | list start found =>
    obtain ⟨d, entered, h⟩ := bind_eq_ok_iff.mp h
    exact obstacle_of_readEach hread ((le_of_enter entered).trans hdepth) h
  | _ => cases h

theorem passes_required {read : Nat → Node → Except Fault β} (hread : Passes read) (key : String)
    (set : List β → α → α) : Passes (Field.list key read set).read :=
  ((passes_list hread).map set).mapError Trouble.placed

theorem passes_nullable {read : Nat → Node → Except Fault β} (hread : Passes read) (key : String)
    (set : β → α → α) : Passes (Field.nullable key read set).read := by
  intro depth n f hdepth h
  cases n with
  | null after => rfl
  | _ => exact (hread.map set).mapError Trouble.placed depth _ f hdepth h

end Readers

namespace Record

variable {α : Type} {r : Record α}

theorem obstacle_of_readMembers (hfields : ∀ f ∈ r.fields, Passes f.read) {depth : Nat}
    (hdepth : depth ≤ 128) :
    ∀ {found : Members} {seen : List String} {a b : α},
      r.readMembers depth seen a found = .ok b → found.obstacle = none
  | .close _, _, _, _, _ => rfl
  | .broken _ _, _, _, _, h => nomatch h
  | .member _ _ _ value rest, seen, a, b, h => by
    obtain ⟨k, -, ⟨-, hvalue, h⟩ | ⟨f, hf, -, -, set, hset, h⟩⟩ := readMembers_member_eq_ok h
    · rw [Members.obstacle, hvalue, obstacle_of_readMembers hfields hdepth h]
      rfl
    · rw [Members.obstacle, hfields f hf depth value set hdepth hset,
        obstacle_of_readMembers hfields hdepth h]
      rfl

theorem obstacle_of_readItems {fields : List (Field α)} (hfields : ∀ f ∈ fields, Passes f.read)
    {depth : Nat} (hdepth : depth ≤ 128) {found : Items} {a b : α}
    (h : r.readItems depth a fields found = .ok b) : found.obstacle = none := by
  induction fields generalizing found a with
  | nil =>
    cases found with
    | close after => rfl
    | _ => cases h
  | cons f fields ih =>
    obtain ⟨hf, hfields⟩ := List.forall_mem_cons.mp hfields
    obtain ⟨-, h⟩ | ⟨start, value, rest, set, rfl, hset, h⟩ := readItems_cons_eq_ok h
    · exact ih hfields h
    · rw [Items.obstacle, hf depth value set hdepth hset, ih hfields h]
      rfl

theorem passes_record (hfields : ∀ f ∈ r.fields, Passes f.read) : Passes r.read := by
  intro depth n a hdepth h
  cases n with
  | list start found =>
    obtain ⟨d, entered, h⟩ := bind_eq_ok_iff.mp h
    exact obstacle_of_readItems hfields ((le_of_enter entered).trans hdepth) h
  | object start found =>
    obtain ⟨d, entered, h⟩ := bind_eq_ok_iff.mp h
    exact obstacle_of_readMembers hfields ((le_of_enter entered).trans hdepth) h
  | _ => cases h

end Record

theorem toOption_enter (depth start : Nat) :
    (enter depth start).toOption = (enter depth 0).toOption := by
  unfold enter
  split <;> rfl

mutual

/-- The value of a node does not depend on where it stands. -/
theorem Node.value_bare (depth : Nat) :
    ∀ n : Node, (n.bare.value depth).toOption = (n.value depth).toOption
  | .null _ | .bool _ _ | .broken _ => rfl
  | .number value _ => by cases value <;> rfl
  | .string value _ => by cases value <;> rfl
  | .list start found => by
    rw [Node.bare, Node.value, Node.value, toOption_bind, toOption_bind, toOption_enter depth start]
    refine Option.bind_congr fun d _ => ?_
    rw [toOption_bind, toOption_bind, Items.values_bare d found]
  | .object start found => by
    rw [Node.bare, Node.value, Node.value, toOption_bind, toOption_bind, toOption_enter depth start]
    refine Option.bind_congr fun d _ => ?_
    rw [toOption_bind, toOption_bind, Members.values_bare d found]

theorem Items.values_bare (depth : Nat) :
    ∀ found : Items, (found.bare.values depth).toOption = (found.values depth).toOption
  | .close _ | .broken _ _ _ => rfl
  | .item _ value rest => by
    rw [Items.bare, Items.values, Items.values, toOption_bind, toOption_bind,
      Node.value_bare depth value]
    refine Option.bind_congr fun v _ => ?_
    rw [toOption_bind, toOption_bind, Items.values_bare depth rest]

theorem Members.values_bare (depth : Nat) :
    ∀ found : Members, (found.bare.values depth).toOption = (found.values depth).toOption
  | .close _ | .broken _ _ => rfl
  | .member _ key _ value rest => by
    rw [Members.bare, Members.values, Members.values, toOption_bind, toOption_bind,
      toOption_mapError]
    refine Option.bind_congr fun k _ => ?_
    rw [toOption_bind, toOption_bind, Node.value_bare depth value]
    refine Option.bind_congr fun v _ => ?_
    rw [toOption_bind, toOption_bind, Members.values_bare depth rest]

end

theorem Items.nodes_bare : ∀ found : Items, found.bare.nodes = found.nodes.map Node.bare
  | .close _ | .broken _ _ _ => rfl
  | .item _ value rest => by
    rw [bare, nodes, nodes, Items.nodes_bare rest, List.map_cons]

theorem Members.find?_bare (key : String) :
    ∀ found : Members, found.bare.find? key = (found.find? key).map Node.bare
  | .close _ | .broken _ _ => rfl
  | .member _ (.error _) _ _ rest => Members.find?_bare key rest
  | .member _ (.ok k) _ value rest => by
    rw [bare, mapError_ok, find?, find?, Members.find?_bare key rest]
    split <;> rfl

namespace Node

theorem json?_bare (n : Node) : n.bare.json? = n.json? :=
  n.value_bare 128

theorem items_bare (n : Node) : n.bare.items = n.items.map bare := by
  cases n with
  | list start found => exact found.nodes_bare
  | _ => rfl

theorem field?_bare (keys : List String) (key : String) (n : Node) :
    n.bare.field? keys key = (n.field? keys key).map bare := by
  cases n with
  | list start found =>
    rw [bare, field?, field?, Items.nodes_bare, List.getElem?_map]
  | object start found => exact found.find?_bare key
  | _ => rfl

theorem columnText?_bare (keys : List String) (key : String) (n : Node) :
    n.bare.columnText? keys key = n.columnText? keys key := by
  rw [columnText?, columnText?, field?_bare, Option.bind_map]
  simp only [Function.comp_def, json?_bare]

end Node

end SeedArchive.Json
