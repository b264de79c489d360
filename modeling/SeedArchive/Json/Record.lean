import SeedArchive.Json.Node

namespace SeedArchive.Json

/-- Why a field is refused: a fault, or a cause that is placed where the record is left. -/
inductive Trouble
  | placed (fault : Fault)
  | unplaced (cause : Cause)

def Trouble.settle (place : Place) : Trouble → Fault
  | .placed fault => fault
  | .unplaced cause => ⟨cause, place⟩

/-- A field of a record: `read` tells what its value makes of the record. -/
structure Field (α : Type) where
  key : String
  read : Nat → Node → Except Trouble (α → α)
  required : Bool := false

/-- A record is written as an object of its fields or as a list of their values in order. Fields
that are not written keep what they have in `blank`. -/
structure Record (α : Type) where
  name : String
  blank : α
  fields : List (Field α)

/-- A field that takes any value. -/
def Field.any {α : Type} (key : String) (set : Json → α → α) : Field α :=
  { key, read := fun depth node => ((node.value depth).map set).mapError .placed }

/-- A field that is null or has a reader of its own. -/
def Field.nullable {α β : Type} (key : String) (read : Nat → Node → Except Fault β)
    (set : β → α → α) : Field α where
  key
  read depth node :=
    match node with
    | .null _ => .ok id
    | node => ((read depth node).map set).mapError .placed

/-- A field that takes a string. -/
def Field.string {α : Type} (key : String) (set : String → α → α) : Field α where
  key
  read _ node :=
    match node with
    | .string s _ => (s.map set).mapError .placed
    | node => .error (.placed (node.mismatch "a string"))

namespace Record

variable {α : Type}

def field? (r : Record α) (key : String) : Option (Field α) :=
  r.fields.find? fun f => f.key = key

def readMembers (r : Record α) (depth : Nat) (seen : List String) (a : α) :
    Members → Except Fault α
  | .close after =>
    match r.fields.find? fun f => f.required && !seen.contains f.key with
    | some f => .error ⟨.missingField f.key, after⟩
    | none => .ok a
  | .broken cut _ => .error cut.wanted
  | .member _ (.error fault) _ _ _ => .error fault
  | .member _ (.ok key) keySettled value rest =>
    match r.field? key with
    | none =>
      match value.obstacle with
      | some fault => .error fault
      | none => r.readMembers depth seen a rest
    | some f =>
      if key ∈ seen then .error ⟨.duplicateField key, keySettled⟩
      else
        match f.read depth value with
        | .error trouble => .error (trouble.settle rest.settled)
        | .ok set => r.readMembers depth (key :: seen) (set a) rest

def readItems (r : Record α) (depth : Nat) (a : α) : List (Field α) → Items → Except Fault α
  | [], items =>
    match items.surplus with
    | some fault => .error fault
    | none => .ok a
  | _ :: _, .broken cut _ _ => .error cut.wanted
  | f :: fields, .close after =>
    if f.required then
      let read := r.fields.length - (fields.length + 1)
      .error ⟨.wrongLength read r.name r.fields.length, after⟩
    else r.readItems depth a fields (.close after)
  | f :: fields, .item _ value rest =>
    match f.read depth value with
    | .error trouble => .error (trouble.settle rest.settled)
    | .ok set => r.readItems depth (set a) fields rest

def read (r : Record α) (depth : Nat) : Node → Except Fault α
  | .list start found => do
    let depth ← enter depth start
    r.readItems depth r.blank r.fields found
  | .object start found => do
    let depth ← enter depth start
    r.readMembers depth [] r.blank found
  | node => .error (node.mismatch r.name)

end Record

/-- The items of a list, each read alike. -/
def readEach {α : Type} (read : Nat → Node → Except Fault α) (depth : Nat) :
    Items → Except Fault (List α)
  | .close _ => .ok []
  | .broken cut _ _ => .error cut.wanted
  | .item _ value rest => do
    let a ← read depth value
    let more ← readEach read depth rest
    return a :: more

def readList {α : Type} (read : Nat → Node → Except Fault α) (depth : Nat) :
    Node → Except Fault (List α)
  | .list start found => do
    let depth ← enter depth start
    readEach read depth found
  | node => .error (node.mismatch "a sequence")

/-- A field that has to be there. -/
def Field.list {α β : Type} (key : String) (read : Nat → Node → Except Fault β)
    (set : List β → α → α) : Field α where
  key
  read depth node := ((readList read depth node).map set).mapError .placed
  required := true

/-- The value that a document starts with and the tokens after it. -/
def documentNode (document : List UInt8) : Node × Tokens :=
  let found := tokens document
  node found (3 * found.size + 3)

/-- A document is one value; 127 brackets may be open in it. -/
def decode {α : Type} (source : Source) (read : Nat → Node → Except Fault α)
    (document : List UInt8) : Except Refusal α :=
  let (value, rest) := documentNode document
  let outcome : Except Fault α :=
    match read 128 value, rest with
    | .ok a, .finish _ => .ok a
    | .ok _, rest => .error (rest.fault .trailingCharacters)
    | .error fault, _ => .error fault
  outcome.mapError fun fault => fault.locate source document

end SeedArchive.Json
