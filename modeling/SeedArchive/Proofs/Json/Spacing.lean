import Mathlib.Data.Option.Basic
import SeedArchive.Json.Record
import SeedArchive.Proofs.Json.Blanks

namespace SeedArchive.Json

namespace Tokens

/-- What cannot follow a number: a broken token or another number. -/
def Clash : Tokens → Prop
  | .broken _ _ _ => True
  | .next (.number _) _ _ _ => True
  | _ => False

/-- Tokens that say the same, as far as none is broken and no number meets another one. -/
inductive Alike : Tokens → Tokens → Prop
  | finish (n n' : Nat) : Alike (.finish n) (.finish n')
  | broken (start : Nat) (quoted : Bool) (cut : Break) (other : Tokens) :
      Alike (.broken start quoted cut) other
  | clash {value : Except Fault Number} {start : Nat} {after : Place} {rest : Tokens}
      (h : rest.Clash) (other : Tokens) : Alike (.next (.number value) start after rest) other
  | next {lexeme lexeme' : Lexeme} {start start' : Nat} {after after' : Place}
      {rest rest' : Tokens} (hlexeme : lexeme'.bare = lexeme.bare) (hrest : Alike rest rest') :
      Alike (.next lexeme start after rest) (.next lexeme' start' after' rest')

end Tokens

/-- If nothing clashes with a number before the bytes, none of them goes on with it. -/
theorem endsNumeral_of_not_clash {bytes : List UInt8} :
    ∀ {n steps : Nat}, bytes.length < steps → ¬(scan n bytes steps).Clash →
      EndsNumeral (withoutBlanks .outside bytes) := by
  induction bytes with
  | nil => exact fun _ _ => nofun
  | cons b bytes ih =>
    intro n steps hsteps hclash
    obtain ⟨steps, rfl⟩ := Nat.exists_eq_add_of_lt (Nat.zero_lt_of_lt hsteps)
    rw [Nat.zero_add, scan] at hclash
    cases hb : isSpace b with
    | true =>
      rw [withoutBlanks_of_isSpace hb]
      rw [if_pos hb] at hclash
      exact ih (by simpa using hsteps) hclash
    | false =>
      rw [withoutBlanks_of_not_isSpace hb]
      rw [hb, if_neg Bool.false_ne_true] at hclash
      rintro c hc
      cases hc
      -- a token that starts with a digit is a number, and none starts with a point or an exponent
      refine ⟨?_, ?_, ?_, ?_⟩
      · by_contra hdigit
        have hdigit : isDigit b = true := by simpa using hdigit
        have hquote : b ≠ 34 := (isPlain_of_isDigit hdigit).2
        rw [scanToken, if_neg hquote, if_pos (.inr hdigit)] at hclash
        cases hscan : scanNumber n (b :: bytes) <;> rw [hscan] at hclash <;> exact hclash trivial
      all_goals
        rintro rfl
        exact hclash trivial

/-- Without its blanks a document has the same tokens. -/
theorem alike_scan {steps : Nat} : ∀ {n n' steps' : Nat} {bytes : List UInt8},
    bytes.length < steps → (withoutBlanks .outside bytes).length < steps' →
      (scan n bytes steps).Alike (scan n' (withoutBlanks .outside bytes) steps') := by
  induction steps with
  | zero => exact fun h => nomatch h
  | succ steps ih =>
    intro n n' steps' bytes hsteps hsteps'
    cases bytes with
    | nil => cases steps' <;> exact .finish _ _
    | cons b bytes =>
      rw [List.length_cons, Nat.add_lt_add_iff_right] at hsteps
      rw [scan]
      cases hb : isSpace b with
      | true =>
        rw [withoutBlanks_of_isSpace hb] at hsteps' ⊢
        exact ih hsteps hsteps'
      | false =>
        rw [if_neg Bool.false_ne_true]
        split
        · exact .broken _ _ _ _
        next lexeme after stop rest hscan =>
          obtain ⟨used, rfl, hblanks, hscanned⟩ := detached_of_scanToken hb hscan
          rw [List.length_append] at hsteps
          have hrest : rest.length < steps := by omega
          by_cases hclash : (∃ value, lexeme = .number value) ∧ (scan stop rest steps).Clash
          · obtain ⟨⟨value, rfl⟩, hclash⟩ := hclash
            exact .clash hclash _
          have hends : ∀ value, lexeme = .number value →
              EndsNumeral (withoutBlanks .outside rest) := fun value heq =>
            endsNumeral_of_not_clash hrest fun h => hclash ⟨⟨value, heq⟩, h⟩
          rw [hblanks] at hsteps' ⊢
          rw [List.length_cons, List.length_append] at hsteps'
          obtain ⟨steps', rfl⟩ := Nat.exists_eq_add_of_lt (Nat.zero_lt_of_lt hsteps')
          obtain ⟨lexeme', after', stop', hscan', hlexeme⟩ := hscanned n' _ hends
          rw [Nat.zero_add, scan, hb, if_neg Bool.false_ne_true, hscan']
          exact .next hlexeme (ih hrest (by omega))

theorem alike_tokens (document : List UInt8) :
    (tokens document).Alike (tokens (condensed document)) :=
  alike_scan (Nat.lt_succ_self _) (Nat.lt_succ_self _)

mutual

/-- A value without the places at which it stands. -/
def Node.bare : Node → Node
  | .null _ => .null (.at 0)
  | .bool value _ => .bool value (.at 0)
  | .number value _ => .number (value.mapError Fault.bare) (.at 0)
  | .string value _ => .string (value.mapError Fault.bare) (.at 0)
  | .list _ found => .list 0 found.bare
  | .object _ found => .object 0 found.bare
  | .broken cut => .broken cut

def Items.bare : Items → Items
  | .close _ => .close (.at 0)
  | .broken cut surplus settled => .broken cut surplus settled
  | .item _ value rest => .item 0 value.bare rest.bare

def Members.bare : Members → Members
  | .close _ => .close (.at 0)
  | .broken cut settled => .broken cut settled
  | .member _ key _ value rest =>
    .member (.at 0) (key.mapError Fault.bare) (.at 0) value.bare rest.bare

end

theorem Lexeme.eq_of_bare {lexeme lexeme' : Lexeme} (h : lexeme'.bare = lexeme.bare)
    (hnumber : ∀ value, lexeme ≠ .number value) (hstring : ∀ value, lexeme ≠ .string value) :
    lexeme' = lexeme := by
  cases lexeme with
  | number value => exact absurd rfl (hnumber value)
  | string value => exact absurd rfl (hstring value)
  | _ =>
    cases lexeme' <;> cases h
    rfl

theorem Lexeme.exists_of_bare_number {lexeme : Lexeme} {value : Except Fault Number}
    (h : lexeme.bare = (Lexeme.number value).bare) :
    ∃ value', lexeme = .number value' ∧ value'.mapError Fault.bare = value.mapError Fault.bare := by
  cases lexeme with
  | number value' => exact ⟨value', rfl, Lexeme.number.inj h⟩
  | _ => cases h

theorem Lexeme.exists_of_bare_string {lexeme : Lexeme} {value : Except Fault String}
    (h : lexeme.bare = (Lexeme.string value).bare) :
    ∃ value', lexeme = .string value' ∧ value'.mapError Fault.bare = value.mapError Fault.bare := by
  cases lexeme with
  | string value' => exact ⟨value', rfl, Lexeme.string.inj h⟩
  | _ => cases h

namespace Tokens

/-- Something is parsed alike from two rows of tokens, of which the same number is taken. -/
structure ParsedAlike {α : Type} (bare : α → α) (tokens tokens' : Tokens)
    (parsed parsed' : α × Tokens) : Prop where
  bare_eq : bare parsed'.1 = bare parsed.1
  rest : parsed.2.Alike parsed'.2
  size : tokens.size + parsed'.2.size = tokens'.size + parsed.2.size

/-- One token more is taken from both rows. -/
theorem ParsedAlike.next {α : Type} {bare : α → α} {lexeme lexeme' : Lexeme} {start start' : Nat}
    {after after' : Place} {rest rest' left left' : Tokens} {a a' : α} (hbare : bare a' = bare a)
    (hleft : left.Alike left') (hsize : rest.size + left'.size = rest'.size + left.size) :
    ParsedAlike bare (.next lexeme start after rest) (.next lexeme' start' after' rest')
      (a, left) (a', left') := by
  refine ⟨hbare, hleft, ?_⟩
  simp only [Tokens.size]
  omega

end Tokens

section Parsing

open Tokens

variable {tokens tokens' : Tokens} {steps : Nat}

theorem clash_itemsAfter (h : tokens.Clash) : (itemsAfter tokens steps).1.obstacle ≠ none := by
  cases steps with
  | zero => exact nofun
  | succ steps =>
    cases tokens with
    | finish n => exact h.elim
    | broken start quoted cut => exact nofun
    | next lexeme start after rest =>
      cases lexeme with
      | number value => exact nofun
      | _ => exact h.elim

theorem clash_membersAfter (h : tokens.Clash) : (membersAfter tokens steps).1.obstacle ≠ none := by
  cases steps with
  | zero => exact nofun
  | succ steps =>
    cases tokens with
    | finish n => exact h.elim
    | broken start quoted cut => exact nofun
    | next lexeme start after rest =>
      cases lexeme with
      | number value => exact nofun
      | _ => exact h.elim

/-- Something other than the end of a list comes next. -/
def Tokens.Opens : Tokens → Prop
  | .finish _ | .next .closeList _ _ _ => False
  | _ => True

theorem items_of_opens {more : Bool} (hopens : tokens.Opens) :
    items more tokens (steps + 1) =
      match node tokens steps with
      | (.broken cut, rest) => (.broken cut (tokens.fault .trailingCharacters) tokens.ahead, rest)
      | (value, rest) =>
        (.item tokens.start value (itemsAfter rest steps).1, (itemsAfter rest steps).2) := by
  cases tokens with
  | finish n => exact hopens.elim
  | broken start quoted cut => rfl
  | next lexeme start after rest =>
    cases lexeme with
    | closeList => exact hopens.elim
    | _ => rfl

theorem items_eq_item {more : Bool} {value : Node} {rest : Tokens} (hopens : tokens.Opens)
    (hnode : node tokens steps = (value, rest)) (hvalue : ∀ cut, value ≠ .broken cut) :
    items more tokens (steps + 1) =
      (.item tokens.start value (itemsAfter rest steps).1, (itemsAfter rest steps).2) := by
  rw [items_of_opens hopens, hnode]
  cases value with
  | broken cut => exact absurd rfl (hvalue cut)
  | _ => rfl

theorem opens_or_of_items {more : Bool} (h : (items more tokens (steps + 1)).1.obstacle = none) :
    tokens.Opens ∨
      more = false ∧ ∃ start after rest, tokens = .next .closeList start after rest := by
  cases tokens with
  | finish n => cases more <;> cases h
  | broken start quoted cut => exact .inl trivial
  | next lexeme start after rest =>
    cases lexeme with
    | closeList =>
      cases more with
      | true => cases h
      | false => exact .inr ⟨rfl, start, after, rest, rfl⟩
    | _ => exact .inl trivial

theorem exists_of_items {more : Bool} (hopens : tokens.Opens)
    (h : (items more tokens (steps + 1)).1.obstacle = none) :
    ∃ value rest, node tokens steps = (value, rest) ∧ value.obstacle = none ∧
      (itemsAfter rest steps).1.obstacle = none := by
  rw [items_of_opens hopens] at h
  cases hnode : node tokens steps with
  | mk value rest =>
    rw [hnode] at h
    refine ⟨value, rest, rfl, ?_⟩
    cases value with
    | broken cut => cases h
    | _ => exact (Option.orElse_eq_none _ _).mp h

theorem opens_of_alike (halike : tokens.Alike tokens') (hopens : tokens.Opens)
    (hvalue : (node tokens steps).1.obstacle = none) (hclash : ¬(node tokens steps).2.Clash) :
    tokens'.Opens := by
  cases steps with
  | zero => cases hvalue
  | succ steps =>
    cases halike with
    | finish => exact hopens.elim
    | broken => cases hvalue
    | clash hrest => exact absurd hrest hclash
    | @next lexeme lexeme' _ _ _ _ _ _ hlexeme =>
      cases lexeme' with
      | closeList =>
        obtain rfl := Lexeme.eq_of_bare hlexeme.symm nofun nofun
        exact hopens.elim
      | _ => trivial

theorem exists_of_itemsAfter (h : (itemsAfter tokens (steps + 1)).1.obstacle = none) :
    (∃ start after rest, tokens = .next .closeList start after rest) ∨
      ∃ start after rest, tokens = .next .comma start after rest := by
  cases tokens with
  | next lexeme start after rest =>
    cases lexeme with
    | closeList => exact .inl ⟨start, after, rest, rfl⟩
    | comma => exact .inr ⟨start, after, rest, rfl⟩
    | _ => cases h
  | _ => cases h

theorem exists_of_membersAfter (h : (membersAfter tokens (steps + 1)).1.obstacle = none) :
    (∃ start after rest, tokens = .next .closeObject start after rest) ∨
      ∃ start after rest, tokens = .next .comma start after rest := by
  cases tokens with
  | next lexeme start after rest =>
    cases lexeme with
    | closeObject => exact .inl ⟨start, after, rest, rfl⟩
    | comma => exact .inr ⟨start, after, rest, rfl⟩
    | _ => cases h
  | _ => cases h

theorem exists_of_members {more : Bool} {settled : Place}
    (h : (members more settled tokens (steps + 1)).1.obstacle = none) :
    (more = false ∧ ∃ start after rest, tokens = .next .closeObject start after rest) ∨
      ∃ key start after start' after' rest,
        tokens = .next (.string key) start after (.next .colon start' after' rest) := by
  cases tokens with
  | finish n => cases more <;> cases h
  | broken start quoted cut => cases quoted <;> cases more <;> cases h
  | next lexeme start after rest =>
    cases lexeme with
    | closeObject =>
      cases more with
      | true => cases h
      | false => exact .inl ⟨rfl, start, after, rest, rfl⟩
    | string key =>
      cases rest with
      | next lexeme' start' after' rest =>
        cases lexeme' with
        | colon => exact .inr ⟨key, start, after, start', after', rest, rfl⟩
        | _ => cases h
      | _ => cases h
    | _ => cases more <;> cases h

/-- With so many steps all parts of a value are parsed alike from rows of tokens that are alike,
unless it cannot be passed over. -/
structure ParsesAlike (steps : Nat) : Prop where
  node {tokens tokens' : Tokens} (halike : tokens.Alike tokens')
    (hvalue : (node tokens steps).1.obstacle = none) (hclash : ¬(node tokens steps).2.Clash) :
    ParsedAlike Node.bare tokens tokens' (node tokens steps) (node tokens' steps)
  items (more : Bool) {tokens tokens' : Tokens} (halike : tokens.Alike tokens')
    (hfound : (items more tokens steps).1.obstacle = none) :
    ParsedAlike Items.bare tokens tokens' (items more tokens steps) (items more tokens' steps)
  itemsAfter {tokens tokens' : Tokens} (halike : tokens.Alike tokens')
    (hfound : (itemsAfter tokens steps).1.obstacle = none) :
    ParsedAlike Items.bare tokens tokens' (itemsAfter tokens steps) (itemsAfter tokens' steps)
  members (more : Bool) (settled settled' : Place) {tokens tokens' : Tokens}
    (halike : tokens.Alike tokens')
    (hfound : (members more settled tokens steps).1.obstacle = none) :
    ParsedAlike Members.bare tokens tokens' (members more settled tokens steps)
      (members more settled' tokens' steps)
  membersAfter {tokens tokens' : Tokens} (halike : tokens.Alike tokens')
    (hfound : (membersAfter tokens steps).1.obstacle = none) :
    ParsedAlike Members.bare tokens tokens' (membersAfter tokens steps)
      (membersAfter tokens' steps)

theorem ParsesAlike.node_succ (h : ParsesAlike steps) (halike : tokens.Alike tokens')
    (hvalue : (Json.node tokens (steps + 1)).1.obstacle = none)
    (hclash : ¬(Json.node tokens (steps + 1)).2.Clash) :
    ParsedAlike Node.bare tokens tokens' (Json.node tokens (steps + 1))
      (Json.node tokens' (steps + 1)) := by
  cases halike with
  | finish => cases hvalue
  | broken => cases hvalue
  | clash hrest => exact absurd hrest hclash
  | @next lexeme lexeme' start start' after after' rest rest' hlexeme hrest =>
    cases lexeme with
    | null | bool =>
      obtain rfl := Lexeme.eq_of_bare hlexeme nofun nofun
      exact .next rfl hrest (Nat.add_comm _ _)
    | number value =>
      obtain ⟨value', rfl, hvalue'⟩ := Lexeme.exists_of_bare_number hlexeme
      exact .next (congrArg (Node.number · (.at 0)) hvalue') hrest (Nat.add_comm _ _)
    | string value =>
      obtain ⟨value', rfl, hvalue'⟩ := Lexeme.exists_of_bare_string hlexeme
      exact .next (congrArg (Node.string · (.at 0)) hvalue') hrest (Nat.add_comm _ _)
    | openList =>
      obtain rfl := Lexeme.eq_of_bare hlexeme nofun nofun
      obtain ⟨hbare, hrest', hsize⟩ := h.items false hrest hvalue
      exact .next (congrArg (Node.list 0) hbare) hrest' hsize
    | openObject =>
      obtain rfl := Lexeme.eq_of_bare hlexeme nofun nofun
      obtain ⟨hbare, hrest', hsize⟩ := h.members false rest.ahead rest'.ahead hrest hvalue
      exact .next (congrArg (Node.object 0) hbare) hrest' hsize
    | _ => cases hvalue

theorem ParsesAlike.items_succ (h : ParsesAlike steps) (more : Bool)
    (halike : tokens.Alike tokens')
    (hfound : (Json.items more tokens (steps + 1)).1.obstacle = none) :
    ParsedAlike Items.bare tokens tokens' (Json.items more tokens (steps + 1))
      (Json.items more tokens' (steps + 1)) := by
  obtain hopens | ⟨rfl, start, after, rest, rfl⟩ := opens_or_of_items hfound
  · obtain ⟨value, rest, hnode, hvalue, hafter⟩ := exists_of_items hopens hfound
    have hclash : ¬rest.Clash := fun hclash => clash_itemsAfter hclash hafter
    have hvalue₁ : (Json.node tokens steps).1.obstacle = none := by rw [hnode]; exact hvalue
    have hclash₁ : ¬(Json.node tokens steps).2.Clash := by rw [hnode]; exact hclash
    have hparsed := h.node halike hvalue₁ hclash₁
    have hopens' := opens_of_alike halike hopens hvalue₁ hclash₁
    cases hnode' : Json.node tokens' steps with
    | mk value' rest' =>
      rw [hnode, hnode'] at hparsed
      obtain ⟨hbare, hrest, hsize⟩ := hparsed
      obtain ⟨hbareAfter, hleft, hsizeAfter⟩ := h.itemsAfter hrest hafter
      have hbroken : ∀ cut, value ≠ .broken cut := by
        rintro cut rfl
        cases hvalue
      have hbroken' : ∀ cut, value' ≠ .broken cut := by
        rintro cut rfl
        cases value with
        | broken cut => exact hbroken cut rfl
        | _ => cases hbare
      rw [items_eq_item hopens hnode hbroken, items_eq_item hopens' hnode' hbroken']
      refine ⟨?_, hleft, ?_⟩
      · show Items.item _ _ _ = Items.item _ _ _
        rw [hbare, hbareAfter]
      · dsimp only at hsize hsizeAfter ⊢
        omega
  · cases halike with
    | next hlexeme hrest =>
      obtain rfl := Lexeme.eq_of_bare hlexeme nofun nofun
      exact .next rfl hrest (Nat.add_comm _ _)

theorem ParsesAlike.itemsAfter_succ (h : ParsesAlike steps) (halike : tokens.Alike tokens')
    (hfound : (Json.itemsAfter tokens (steps + 1)).1.obstacle = none) :
    ParsedAlike Items.bare tokens tokens' (Json.itemsAfter tokens (steps + 1))
      (Json.itemsAfter tokens' (steps + 1)) := by
  obtain ⟨start, after, rest, rfl⟩ | ⟨start, after, rest, rfl⟩ := exists_of_itemsAfter hfound
  all_goals
    cases halike with
    | next hlexeme hrest => ?_
  · obtain rfl := Lexeme.eq_of_bare hlexeme nofun nofun
    exact .next rfl hrest (Nat.add_comm _ _)
  · obtain rfl := Lexeme.eq_of_bare hlexeme nofun nofun
    obtain ⟨hbare, hrest', hsize⟩ := h.items true hrest hfound
    exact .next hbare hrest' hsize

theorem ParsesAlike.membersAfter_succ (h : ParsesAlike steps) (halike : tokens.Alike tokens')
    (hfound : (Json.membersAfter tokens (steps + 1)).1.obstacle = none) :
    ParsedAlike Members.bare tokens tokens' (Json.membersAfter tokens (steps + 1))
      (Json.membersAfter tokens' (steps + 1)) := by
  obtain ⟨start, after, rest, rfl⟩ | ⟨start, after, rest, rfl⟩ := exists_of_membersAfter hfound
  · cases halike with
    | next hlexeme hrest =>
      obtain rfl := Lexeme.eq_of_bare hlexeme nofun nofun
      exact .next rfl hrest (Nat.add_comm _ _)
  · cases halike with
    | next hlexeme hrest =>
      obtain rfl := Lexeme.eq_of_bare hlexeme nofun nofun
      obtain ⟨hbare, hrest', hsize⟩ := h.members true _ _ hrest hfound
      exact .next hbare hrest' hsize

theorem ParsesAlike.members_succ (h : ParsesAlike steps) (more : Bool) (settled settled' : Place)
    (halike : tokens.Alike tokens')
    (hfound : (Json.members more settled tokens (steps + 1)).1.obstacle = none) :
    ParsedAlike Members.bare tokens tokens' (Json.members more settled tokens (steps + 1))
      (Json.members more settled' tokens' (steps + 1)) := by
  obtain ⟨rfl, start, after, rest, rfl⟩ | ⟨key, start, after, start₂, after₂, rest, rfl⟩ :=
    exists_of_members hfound
  · cases halike with
    | next hlexeme hrest =>
      obtain rfl := Lexeme.eq_of_bare hlexeme nofun nofun
      exact .next rfl hrest (Nat.add_comm _ _)
  · cases halike with
    | next hlexeme hrest =>
      obtain ⟨key', rfl, hkey⟩ := Lexeme.exists_of_bare_string hlexeme
      cases hrest with
      | next hlexeme hrest =>
        obtain rfl := Lexeme.eq_of_bare hlexeme nofun nofun
        obtain ⟨hvalue, hafter⟩ := (Option.orElse_eq_none _ _).mp hfound
        have hclash : ¬(Json.node rest steps).2.Clash := fun hclash =>
          clash_membersAfter hclash hafter
        obtain ⟨hbare, hrest', hsize⟩ := h.node hrest hvalue hclash
        obtain ⟨hbareAfter, hleft, hsizeAfter⟩ := h.membersAfter hrest' hafter
        refine .next ?_ hleft ?_
        · show Members.member _ _ _ _ _ = Members.member _ _ _ _ _
          rw [hkey, hbare, hbareAfter]
        · simp only [size]
          omega

theorem parsesAlike (steps : Nat) : ParsesAlike steps := by
  induction steps with
  | zero =>
    constructor
    case items => exact fun _ _ _ _ h => nomatch h
    case members => exact fun _ _ _ _ _ _ h => nomatch h
    all_goals exact fun _ h => nomatch h
  | succ steps ih =>
    exact ⟨ih.node_succ, fun more => ih.items_succ more, ih.itemsAfter_succ,
      fun more settled settled' => ih.members_succ more settled settled', ih.membersAfter_succ⟩

end Parsing

/-- The blanks between the tokens of a document do not matter, if it is one value that can be passed
over. -/
theorem documentNode_condensed {document : List UInt8} {n : Nat}
    (hvalue : (documentNode document).1.obstacle = none)
    (hend : (documentNode document).2 = .finish n) :
    (documentNode (condensed document)).1.bare = (documentNode document).1.bare := by
  have halike := alike_tokens document
  have hclash : ¬(documentNode document).2.Clash := by
    rw [hend]
    exact id
  obtain ⟨hbare, hrest, hsize⟩ := (parsesAlike _).node halike hvalue hclash
  rw [documentNode] at hend
  rw [hend] at hrest hsize
  have hsize : (tokens (condensed document)).size = (tokens document).size := by
    cases hrest' : (node (tokens (condensed document)) (3 * (tokens document).size + 3)).2 with
    | finish n' =>
      rw [hrest'] at hsize
      exact hsize.symm
    | _ =>
      rw [hrest'] at hrest
      cases hrest
  rw [documentNode, documentNode, hsize]
  exact hbare

end SeedArchive.Json
