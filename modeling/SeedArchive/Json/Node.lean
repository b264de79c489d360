import SeedArchive.Json.Token

namespace SeedArchive.Json

mutual

/-- A value as it stands in a document, with what is wrong in it left where it is, so that a fault
counts only if a reader comes as far. Scalars keep the place after them, brackets the bytes before
them. -/
inductive Node
  | null (after : Place)
  | bool (value : Bool) (after : Place)
  | number (value : Except Fault Number) (after : Place)
  | string (value : Except Fault String) (after : Place)
  | list (start : Nat) (items : Items)
  | object (start : Nat) (members : Members)
  | broken (cut : Break)

/-- The items of a list. `surplus` is the fault of a reader that wants no further item, and
`settled` the place of one that only looks for the end of the list. -/
inductive Items
  | close (after : Place)
  | broken (cut : Break) (surplus : Fault) (settled : Place)
  | item (start : Nat) (value : Node) (rest : Items)

/-- The members of an object. A reader that only looks for the end of the object comes as far as
`settled`, and as far as `keySettled` if it stops after the key. -/
inductive Members
  | close (after : Place)
  | broken (cut : Break) (settled : Place)
  | member (settled : Place) (key : Except Fault String) (keySettled : Place) (value : Node)
    (rest : Members)

end

def Items.settled : Items → Place
  | .close after => after
  | .broken _ _ settled => settled
  | .item start _ _ => ⟨start, start + 1⟩

def Items.surplus : Items → Option Fault
  | .close _ => none
  | .broken _ surplus _ => some surplus
  | .item start _ _ => some ⟨.trailingCharacters, .at (start + 1)⟩

def Members.settled : Members → Place
  | .close after => after
  | .broken _ settled => settled
  | .member settled _ _ _ _ => settled

namespace Tokens

def breaks (tokens : Tokens) (cause atEnd : Cause) : Break :=
  ⟨tokens.unfit cause atEnd, tokens.unfit cause atEnd⟩

def noItem (tokens : Tokens) : Items :=
  let surplus :=
    match tokens with
    | .next .closeList _ _ _ => .trailingComma
    | _ => .trailingCharacters
  .broken ⟨tokens.unfit surplus .endInValue, tokens.unfit .expectedValue .endInValue⟩
    (tokens.fault surplus) tokens.ahead

/-- Neither a comma nor the end of the list follows an item. -/
def noItemEnd (tokens : Tokens) : Items :=
  .broken (tokens.breaks .expectedListSeparator .endInList)
    (tokens.unfit .trailingCharacters .endInList) tokens.ahead

def noKey (tokens : Tokens) : Break :=
  match tokens with
  | .next .closeObject _ _ _ => ⟨tokens.fault .trailingComma, tokens.fault .keyNotString⟩
  | _ => ⟨tokens.unfit .keyNotString .endInValue, tokens.unfit .keyNotString .endInObject⟩

/-- The place of a reader that reads a closing brace if it comes next, and else only looks. -/
def settledObject : Tokens → Place
  | .next .closeObject _ after _ => after
  | tokens => tokens.ahead

end Tokens

mutual

/-- The value that `tokens` start with and the tokens after it. -/
def node (tokens : Tokens) : Nat → Node × Tokens
  | 0 => (.broken (.both .endInValue tokens.start), tokens)
  | steps + 1 =>
    match tokens with
    | .broken _ _ cut => (.broken cut, tokens)
    | .next .null _ after rest => (.null after, rest)
    | .next (.bool b) _ after rest => (.bool b after, rest)
    | .next (.number n) _ after rest => (.number n after, rest)
    | .next (.string s) _ after rest => (.string s after, rest)
    | .next .openList start _ rest =>
      let (found, rest) := items false rest steps
      (.list start found, rest)
    | .next .openObject start _ rest =>
      let (found, rest) := members false rest.ahead rest steps
      (.object start found, rest)
    | _ => (.broken (tokens.breaks .expectedValue .endInValue), tokens)

/-- The items of a list of which the bracket or, if `more`, a comma has been read. -/
def items (more : Bool) (tokens : Tokens) : Nat → Items × Tokens
  | 0 => (tokens.noItem, tokens)
  | steps + 1 =>
    match tokens with
    | .next .closeList _ after rest =>
      if more then (tokens.noItem, tokens) else (.close after, rest)
    | .finish _ => (if more then tokens.noItem else tokens.noItemEnd, tokens)
    | _ =>
      match node tokens steps with
      | (.broken cut, rest) => (.broken cut (tokens.fault .trailingCharacters) tokens.ahead, rest)
      | (value, rest) =>
        let (found, rest) := itemsAfter rest steps
        (.item tokens.start value found, rest)

def itemsAfter (tokens : Tokens) : Nat → Items × Tokens
  | 0 => (tokens.noItemEnd, tokens)
  | steps + 1 =>
    match tokens with
    | .next .closeList _ after rest => (.close after, rest)
    | .next .comma _ _ rest => items true rest steps
    | _ => (tokens.noItemEnd, tokens)

/-- The members of an object of which the brace or, if `more`, a comma has been read. -/
def members (more : Bool) (settled : Place) (tokens : Tokens) : Nat → Members × Tokens
  | 0 => (.broken tokens.noKey settled, tokens)
  | steps + 1 =>
    match tokens with
    | .next (.string key) _ _ rest =>
      let (value, rest') :=
        match rest with
        | .next .colon _ _ rest' => node rest' steps
        | _ => (.broken (rest.breaks .expectedColon .endInObject), rest)
      let (found, rest') := membersAfter rest' steps
      (.member settled key rest.settledObject value found, rest')
    | .broken _ true cut => (.broken cut settled, tokens)
    | .next .closeObject _ after rest =>
      if more then (.broken tokens.noKey settled, tokens) else (.close after, rest)
    | _ =>
      (.broken (if more then tokens.noKey else tokens.breaks .keyNotString .endInObject) settled,
        tokens)

def membersAfter (tokens : Tokens) : Nat → Members × Tokens
  | 0 => (.broken tokens.noKey tokens.ahead, tokens)
  | steps + 1 =>
    match tokens with
    | .next .closeObject _ after rest => (.close after, rest)
    | .next .comma _ _ rest => members true tokens.ahead rest steps
    | _ => (.broken (tokens.breaks .expectedObjectSeparator .endInObject) tokens.ahead, tokens)

end

/-- The fault of a reader that wants something else than what stands here. -/
def Node.mismatch (expected : String) : Node → Fault
  | .null after => ⟨.wrongType .null expected, after⟩
  | .bool b after => ⟨.wrongType (.bool b) expected, after⟩
  | .number (.ok n) after => ⟨.wrongType (.number n) expected, after⟩
  | .string (.ok s) after => ⟨.wrongType (.string s) expected, after⟩
  | .number (.error fault) _ => fault
  | .string (.error fault) _ => fault
  | .list start _ => ⟨.wrongType .list expected, ⟨start, start + 1⟩⟩
  | .object start _ => ⟨.wrongType .object expected, ⟨start, start + 1⟩⟩
  | .broken cut => cut.wanted

/-- Goes inside a bracket after `start` bytes: of `depth` brackets that may be open one less is
left, and the last one is refused. -/
def enter (depth start : Nat) : Except Fault Nat :=
  if depth ≤ 1 then .error ⟨.tooDeep, .at (start + 1)⟩ else .ok (depth - 1)

mutual

/-- The value of a node, in which `depth` brackets may be open. -/
def Node.value (depth : Nat) : Node → Except Fault Json
  | .null _ => .ok .null
  | .bool b _ => .ok (.bool b)
  | .number n _ => n.map .number
  | .string s _ => s.map .string
  | .list start found => do
    let depth ← enter depth start
    let values ← found.values depth
    return .array values
  | .object start found => do
    let depth ← enter depth start
    let values ← found.values depth
    return .object values
  | .broken cut => .error cut.wanted

def Items.values (depth : Nat) : Items → Except Fault (List Json)
  | .close _ => .ok []
  | .broken cut _ _ => .error cut.wanted
  | .item _ value rest => do
    let v ← value.value depth
    let vs ← rest.values depth
    return v :: vs

def Members.values (depth : Nat) : Members → Except Fault (List (String × Json))
  | .close _ => .ok []
  | .broken cut _ => .error cut.wanted
  | .member _ key _ value rest => do
    let k ← key
    let v ← value.value depth
    let vs ← rest.values depth
    return (k, v) :: vs

end

mutual

/-- Why a value cannot be passed over. Its depth does not matter, nor whether its numbers are in
range and its strings are text. -/
def Node.obstacle : Node → Option Fault
  | .list _ found => found.obstacle
  | .object _ found => found.obstacle
  | .broken cut => some cut.skipped
  | _ => none

def Items.obstacle : Items → Option Fault
  | .close _ => none
  | .broken cut _ _ => some cut.skipped
  | .item _ value rest => value.obstacle <|> rest.obstacle

def Members.obstacle : Members → Option Fault
  | .close _ => none
  | .broken cut _ => some cut.skipped
  | .member _ _ _ value rest => value.obstacle <|> rest.obstacle

end

end SeedArchive.Json
