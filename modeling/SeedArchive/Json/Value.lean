import SeedArchive.Number.Numeral

namespace SeedArchive

/-- A value of a document. Members keep the order and the repeated keys that were written. -/
inductive Json
  | null
  | bool (value : Bool)
  | number (value : Number)
  | string (value : String)
  | array (items : List Json)
  | object (members : List (String × Json))

namespace Json

def hexDigit (n : Nat) : Char :=
  Char.ofNat (if n < 10 then 48 + n else 87 + n)

def escapeChar (c : Char) : List Char :=
  if c = '"' then ['\\', '"']
  else if c = '\\' then ['\\', '\\']
  else if c = '\x08' then ['\\', 'b']
  else if c = '\x0C' then ['\\', 'f']
  else if c = '\n' then ['\\', 'n']
  else if c = '\r' then ['\\', 'r']
  else if c = '\t' then ['\\', 't']
  else if c.toNat < 32 then ['\\', 'u', '0', '0', hexDigit (c.toNat / 16), hexDigit (c.toNat % 16)]
  else [c]

def quote (s : String) : String :=
  String.ofList ('"' :: s.toList.flatMap escapeChar ++ ['"'])

/-- Puts `v` under `k` in a list sorted by key, in place of what `k` held before. -/
def put {α : Type} (k : String) (v : α) : List (String × α) → List (String × α)
  | [] => [(k, v)]
  | (k', v') :: rest =>
    if k < k' then (k, v) :: (k', v') :: rest
    else if k = k' then (k, v) :: rest
    else (k', v') :: put k v rest

/-- Members sorted by key; the last of those with one key stands. -/
def settle {α : Type} (members : List (String × α)) : List (String × α) :=
  members.foldl (fun sorted m => put m.1 m.2 sorted) []

mutual

/-- The text of a value without blanks, with the members of objects settled. -/
def compact : Json → String
  | .null => "null"
  | .bool true => "true"
  | .bool false => "false"
  | .number n => n.text
  | .string s => quote s
  | .array items => "[" ++ ",".intercalate (compactItems items) ++ "]"
  | .object members =>
    let texts := (settle (compactMembers members)).map fun m => quote m.1 ++ ":" ++ m.2
    "\x7b" ++ ",".intercalate texts ++ "\x7d"

def compactItems : List Json → List String
  | [] => []
  | v :: rest => compact v :: compactItems rest

def compactMembers : List (String × Json) → List (String × String)
  | [] => []
  | (k, v) :: rest => (k, compact v) :: compactMembers rest

end

/-- The text that a value gives a column, if it is not null: a string as it is, a truth value
capitalised, a number by its own text and anything else compact. -/
def text? : Json → Option String
  | .null => none
  | .bool true => some "True"
  | .bool false => some "False"
  | .string s => some s
  | v => some v.compact

/-- Null gives the empty text. -/
def text (v : Json) : String :=
  v.text?.getD ""

theorem compactMembers_eq_map (members : List (String × Json)) :
    compactMembers members = members.map fun m => (m.1, m.2.compact) := by
  induction members with
  | nil => rfl
  | cons m rest ih => simp [compactMembers, ih]

end Json

end SeedArchive
