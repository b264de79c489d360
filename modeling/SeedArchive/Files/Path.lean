namespace SeedArchive.Path

def isAbsolute (p : String) : Bool :=
  p.toList.head? = some '/'

/-- Where `p` leads from `base`: an absolute path leads where it says. Nothing is normalised. -/
def join (base p : String) : String :=
  if isAbsolute p ∨ base = "" then p
  else if base.toList.getLast? = some '/' then base ++ p
  else base ++ "/" ++ p

/-- The parts between slashes. -/
def parts (p : String) : List String :=
  (p.toList.splitOn '/').map String.ofList

/-- Parts, last first, without those at the end that do not lead on. The first part stays. -/
def trim : List String → List String
  | part :: next :: rest =>
    if part = "" ∨ part = "." then trim (next :: rest) else part :: next :: rest
  | rest => rest

/-- The path of parts, last first. -/
def ofParts (reversed : List String) : String :=
  if reversed = [""] then "/" else "/".intercalate reversed.reverse

/-- The path without its last part that leads on. The root and the empty path have none. -/
def parent? (p : String) : Option String :=
  match trim (parts p).reverse with
  | [] | [""] => none
  | [_] => some ""
  | _ :: rest => some (ofParts (trim rest))

/-- The last part that leads on, if it is a name. -/
def fileName? (p : String) : Option String :=
  match (trim (parts p).reverse).head? with
  | none => none
  | some name => if name ∈ ["", ".", ".."] then none else some name

/-- The path with another file name; it is put at the end if there is none. -/
def withFileName (p name : String) : String :=
  match fileName? p with
  | some _ => join ((parent? p).getD "") name
  | none => join p name

end SeedArchive.Path
