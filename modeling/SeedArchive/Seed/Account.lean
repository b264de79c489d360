import SeedArchive.Json.Record

namespace SeedArchive

/-- The type of an account. A spelling that is not known is kept as it was written. -/
inductive AccountType
  | asset
  | liability
  | equity
  | revenue
  | expense
  | other (text : String)
  deriving DecidableEq, Repr

namespace AccountType

def ofText (s : String) : AccountType :=
  if s = "ASSET" then .asset
  else if s = "LIABILITY" then .liability
  else if s = "EQUITY" then .equity
  else if s = "REVENUE" then .revenue
  else if s = "EXPENSE" then .expense
  else .other s

def text : AccountType → String
  | .asset => "ASSET"
  | .liability => "LIABILITY"
  | .equity => "EQUITY"
  | .revenue => "REVENUE"
  | .expense => "EXPENSE"
  | .other s => s

def isRecognised : AccountType → Bool
  | .other _ => false
  | _ => true

@[simp]
theorem text_ofText (s : String) : (ofText s).text = s := by
  unfold ofText
  repeat' split
  all_goals simp_all [text]

end AccountType

/-- The side of an account on which a line or its normal balance stands. -/
inductive Position
  | debit
  | credit
  | other (text : String)
  deriving DecidableEq, Repr

namespace Position

def ofText (s : String) : Position :=
  if s = "DEBIT" then .debit
  else if s = "CREDIT" then .credit
  else .other s

def text : Position → String
  | .debit => "DEBIT"
  | .credit => "CREDIT"
  | .other s => s

def isRecognised : Position → Bool
  | .other _ => false
  | _ => true

@[simp]
theorem text_ofText (s : String) : (ofText s).text = s := by
  unfold ofText
  repeat' split
  all_goals simp_all [text]

end Position

structure Account where
  code : String := ""
  name : String := ""
  type? : Option AccountType := none
  parent? : Option String := none
  balance : Position := .debit
  deriving DecidableEq, Repr

namespace Account

/-- An absent type is written as the empty text. -/
def typeText (a : Account) : String :=
  (a.type?.map AccountType.text).getD ""

/-- An absent parent is written as the empty text. -/
def parentText (a : Account) : String :=
  a.parent?.getD ""

def record : Json.Record Account where
  name := "struct Account"
  blank := {}
  fields := [
    .any "code" fun v a => { a with code := v.text },
    .any "name" fun v a => { a with name := v.text },
    .any "type" fun v a => { a with type? := v.text?.map .ofText },
    .any "parentCode" fun v a => { a with parent? := v.text? },
    .any "normalBalance" fun v a => { a with balance := (v.text?.map .ofText).getD .debit }]

/-- Reads a chart of accounts. -/
def chart : Json.Record (List Account) where
  name := "struct ChartOfAccounts"
  blank := []
  fields := [.list "accounts" record.read fun accounts _ => accounts]

end Account

end SeedArchive
