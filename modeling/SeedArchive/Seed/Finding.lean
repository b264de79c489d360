import SeedArchive.Seed.Basic

namespace SeedArchive

/-- What has a value that the importer does not know. -/
inductive Owner
  | account (code : String)
  | line (template : String) (order : Nat)
  deriving DecidableEq, Repr

def Owner.text : Owner → String
  | .account code => s!"account '{code}'"
  | .line template order => s!"template '{template}' line {order}"

/-- The values for which the importer has a fixed set of words. -/
inductive Term
  | accountType
  | normalBalance
  | position
  deriving DecidableEq, Repr

def Term.text : Term → String
  | .accountType => "type"
  | .normalBalance => "normal balance"
  | .position => "position"

/-- A problem of a seed. -/
inductive Finding
  | duplicateCode (code : String) (times : Nat)
  | unknownParent (code parent : String)
  | duplicateName (name : String) (times : Nat)
  | unknownAccount (template : String) (order : Nat) (account : String)
  | noLines (template : String)
  | unrecognised (owner : Owner) (term : Term) (value : String)
  deriving DecidableEq, Repr

def Finding.text : Finding → String
  | .duplicateCode code times => s!"account code '{code}' appears {times} times"
  | .unknownParent code parent => s!"account '{code}' has unknown parent code '{parent}'"
  | .duplicateName name times => s!"template name '{name}' appears {times} times"
  | .unknownAccount template order account =>
    s!"template '{template}' line {order} uses unknown account code '{account}'"
  | .noLines template => s!"template '{template}' has no lines"
  | .unrecognised owner term value => s!"{owner.text} has unrecognised {term.text} '{value}'"

/-- The values that occur more than once with the number of times, in order of first occurrence. -/
def duplicates (values : List String) : List (String × Nat) :=
  (values.eraseDups.map fun v => (v, values.count v)).filter fun d => 1 < d.2

namespace Account

/-- The values of an account that the importer does not know. -/
def unrecognised (a : Account) : List Finding :=
  (match a.type? with
    | some t =>
      if t.isRecognised then [] else [.unrecognised (.account a.code) .accountType t.text]
    | none => []) ++
  (if a.balance.isRecognised then []
    else [.unrecognised (.account a.code) .normalBalance a.balance.text])

/-- The parent of an account, if no account has its code. -/
def unknownParent (codes : List String) (a : Account) : List Finding :=
  match a.parent? with
  | some parent =>
    if parent = "" ∨ parent ∈ codes then [] else [.unknownParent a.code parent]
  | none => []

def findings (codes : List String) (a : Account) : List Finding :=
  a.unrecognised ++ a.unknownParent codes

end Account

namespace TemplateLine

/-- The position of a line, if the importer does not know it. -/
def unrecognised (template : String) (order : Nat) (l : TemplateLine) : List Finding :=
  if l.position.isRecognised then []
  else [.unrecognised (.line template order) .position l.position.text]

/-- The account of a line, if no account has its code. -/
def unknownAccount (codes : List String) (template : String) (order : Nat) (l : TemplateLine) :
    List Finding :=
  if l.account = "" ∨ l.account ∈ codes then [] else [.unknownAccount template order l.account]

def findings (codes : List String) (template : String) (order : Nat) (l : TemplateLine) :
    List Finding :=
  l.unrecognised template order ++ l.unknownAccount codes template order

end TemplateLine

namespace JournalTemplate

def findings (codes : List String) (t : JournalTemplate) : List Finding :=
  (if t.lines = [] then [.noLines t.name] else []) ++
  t.numberedLines.flatMap fun (order, line) => line.findings codes t.name order

end JournalTemplate

namespace Seed

def codes (s : Seed) : List String :=
  s.accounts.map Account.code

def names (s : Seed) : List String :=
  s.templates.map JournalTemplate.name

/-- The problems of the accounts and then those of the templates. -/
def findings (s : Seed) : List Finding :=
  ((duplicates s.codes).map fun (code, times) => .duplicateCode code times) ++
  s.accounts.flatMap (Account.findings s.codes) ++
  ((duplicates s.names).map fun (name, times) => .duplicateName name times) ++
  s.templates.flatMap (JournalTemplate.findings s.codes)

/-- The number of findings; if `strict`, no finding is let pass. -/
def check (s : Seed) (strict : Bool) : Except (List Finding) Nat :=
  if strict ∧ s.findings ≠ [] then .error s.findings else .ok s.findings.length

section Check

variable (s : Seed)

theorem check_false : s.check false = .ok s.findings.length :=
  if_neg (by simp)

theorem check_true_of_ne_nil (h : s.findings ≠ []) : s.check true = .error s.findings :=
  if_pos ⟨rfl, h⟩

theorem check_of_eq_nil (h : s.findings = []) (strict : Bool) : s.check strict = .ok 0 := by
  rw [check, if_neg (fun hstrict => hstrict.2 h), h]
  rfl

end Check

end Seed

end SeedArchive
