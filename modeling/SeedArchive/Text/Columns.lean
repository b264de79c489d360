import SeedArchive.Text.Follower

namespace SeedArchive.Columns

/-- The form that a variation selector asks for. -/
inductive Form
  | emoji
  | text
  | wide
  deriving DecidableEq

def Form.ofSelector? (c : Char) : Option Form :=
  if c = '\uFE0F' then some .emoji
  else if c = '\uFE0E' then some .text
  else if c = '\uFE01' then some .wide
  else none

/-- What stands after a character, and the forms that selectors between the two ask for. -/
structure After where
  follower : Follower := .other
  forms : List Form := []
  deriving DecidableEq

namespace After

/-- A selector hides what comes after it, unless that is a letter, or an emoji with a joiner. -/
def select (a : After) (form : Form) : After :=
  if a.follower.isLetter ∨ form = .emoji ∧ a.follower.isJoined then
    ⟨a.follower, form :: a.forms⟩
  else ⟨.other, [form]⟩

/-- What is left where a character does not have the form that is asked for. -/
def refuse (a : After) (form : Form) : After :=
  if form ∉ a.forms then a
  else if a.follower.isLetter then ⟨a.follower, a.forms.filter (· ≠ form)⟩
  else {}

/-- The columns of a character in the form that is asked for. -/
def form? (a : After) (form : Form) (c : Char) : Option (Int × After) :=
  if form ∉ a.forms then none
  else
    match form with
    | .emoji =>
      if Emoji.styledRanges.has c then some (if a.follower.isJoined then 0 else 2, ⟨.emoji, []⟩)
      else none
    | .text => if Emoji.isNarrowAsText c then some (1, {}) else none
    | .wide => if c ∈ ['‘', '’', '“', '”'] then some (2, {}) else none

/-- The columns that a character adds in front of what follows it. -/
def step (a : After) (c : Char) : Int × After :=
  match a.form? .emoji c with
  | some answer => answer
  | none =>
    let a := a.refuse .emoji
    if c ≤ '\u00A0' then (1, {})
    else
      match Form.ofSelector? c with
      | some form => (0, a.select form)
      | none =>
        match a.form? .text c with
        | some answer => answer
        | none =>
          let a := a.refuse .text
          match a.form? .wide c with
          | some answer => answer
          | none =>
            match (a.refuse .wide).follower.before? c with
            | some (columns, follower) => (columns, ⟨follower, []⟩)
            | none => (Width.ofChar c, ⟨.ofChar c, []⟩)

end After

/-- Columns of a text, and what it is to a character in front of it. -/
def read : List Char → Int × After
  | [] => (0, {})
  | c :: rest =>
    let (columns, after) := read rest
    let (more, after) := after.step c
    (columns + more, after)

/-- Terminal columns of a line of text. Letters that are written as one count once, and an emoji
takes two with its selector, its skin tone or the emoji that joiners tie to it. -/
def ofLine (line : List Char) : Nat :=
  (read line).1.toNat

end SeedArchive.Columns
