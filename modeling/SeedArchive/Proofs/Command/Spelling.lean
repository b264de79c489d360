import Mathlib.Tactic.SplitIfs
import Mathlib.Tactic.Tauto
import SeedArchive.Command.Arguments

namespace SeedArchive

namespace BuildOptions

open Arguments

/-- Whether an option was given already. The kind that takes no path is the strict one. -/
def given (o : BuildOptions) : Option PathOption → Bool
  | none => o.strict
  | some .coa => o.coa?.isSome
  | some .templates => o.templates?.isSome
  | some .output => o.output?.isSome

def withPath (o : BuildOptions) (value : String) : PathOption → BuildOptions
  | .coa => { o with coa? := some value }
  | .templates => { o with templates? := some value }
  | .output => { o with output? := some value }

def withChoice (o : BuildOptions) : Option (PathOption × String) → BuildOptions
  | none => { o with strict := true }
  | some (p, value) => o.withPath value p

variable (o : BuildOptions) (c d : Option (PathOption × String))

theorem given_withChoice (k : Option PathOption) :
    (o.withChoice c).given k = (decide (k = c.map Prod.fst) || o.given k) := by
  rcases c with _ | ⟨_ | _ | _, value⟩ <;> rcases k with _ | _ | _ | _ <;> rfl

theorem given_default (k : Option PathOption) : ({} : BuildOptions).given k = false := by
  rcases k with _ | _ | _ | _ <;> rfl

theorem withChoice_comm (h : c.map Prod.fst ≠ d.map Prod.fst) :
    (o.withChoice c).withChoice d = (o.withChoice d).withChoice c := by
  rcases c with _ | ⟨_ | _ | _, value⟩ <;> rcases d with _ | ⟨_ | _ | _, value'⟩ <;>
    first | rfl | exact absurd rfl h

end BuildOptions

namespace Arguments

theorem put_eq (o : BuildOptions) (p : PathOption) (value : String) :
    put o p value =
      if value ≠ "" ∧ ¬ o.given (some p) then some (o.withPath value p) else none := by
  unfold put
  by_cases hvalue : value = ""
  · rw [if_pos hvalue, if_neg (fun h => h.1 hvalue)]
  · simp only [hvalue, ne_eq, not_false_iff, true_and, if_false, ite_not]
    cases p <;> rfl

/-- The name of an option that takes a path. The output has a letter as well. -/
inductive OptionName
  | long (p : PathOption)
  | letter
  deriving DecidableEq

namespace OptionName

def option : OptionName → PathOption
  | long p => p
  | letter => .output

def text : OptionName → String
  | long .coa => "--coa"
  | long .templates => "--templates"
  | long .output => "--output"
  | letter => "-o"

theorem form_text (name : OptionName) : form name.text = .path name.option none := by
  rcases name with (_ | _ | _) | _ <;> rfl

theorem form_text_equals (name : OptionName) (value : String) :
    form (name.text ++ "=" ++ value) = .path name.option (some value) := by
  rcases name with (_ | _ | _) | _ <;>
    simp [text, option, form, longForm, shortForm, String.toList_append]

end OptionName

theorem form_attached {first : Char} (h : first ≠ '=') (rest : String) :
    form ("-o" ++ (String.singleton first ++ rest)) =
      .path .output (some (String.singleton first ++ rest)) := by
  simp [form, shortForm, String.toList_append, h]

theorem longForm_ne_plain (name : String) (value? : Option String) :
    longForm name value? ≠ .plain := by
  unfold longForm
  split_ifs <;> exact Form.noConfusion

theorem shortForm_ne_plain (letter : Char) (rest : List Char) :
    shortForm letter rest ≠ .plain := by
  unfold shortForm
  split_ifs
  · split <;> exact Form.noConfusion
  all_goals exact Form.noConfusion

/-- What starts with a dash looks like an option, but a dash alone does not. -/
theorem form_eq_plain_iff (argument : String) :
    form argument = .plain ↔ argument = "-" ∨ argument.toList.head? ≠ some '-' := by
  have hdash : argument = "-" ↔ argument.toList = ['-'] := by
    rw [← String.toList_inj]
    rfl
  rw [hdash, form]
  split
  next h => simp [h]
  next long _ h =>
    simp only [h]
    split <;> simp [longForm_ne_plain]
  next letter rest _ h => simp [h, shortForm_ne_plain]
  next hseparator hlong hshort =>
    simp only [true_iff]
    rcases h : argument.toList with _ | ⟨c, _ | ⟨letter, rest⟩⟩
    · exact .inr (by simp)
    · by_cases hc : c = '-'
      · exact .inl (by rw [hc])
      · exact .inr (by simpa using hc)
    · refine .inr fun hc => ?_
      obtain rfl : c = '-' := by simpa using hc
      exact hshort letter rest h

/-- An option of a build as it is written. A value stands apart from the name, after an equals
sign, or right after the letter. -/
inductive Spelling
  | apart (name : OptionName) (value : String)
  | equals (name : OptionName) (value : String)
  | attached (first : Char) (rest : String) (h : first ≠ '=')
  | strict
  deriving DecidableEq

namespace Spelling

def arguments : Spelling → List String
  | apart name value => [name.text, value]
  | equals name value => [name.text ++ "=" ++ value]
  | attached first rest _ => ["-o" ++ (String.singleton first ++ rest)]
  | strict => ["--strict"]

/-- What the option chooses a path for, and the path. -/
def choice? : Spelling → Option (PathOption × String)
  | apart name value => some (name.option, value)
  | equals name value => some (name.option, value)
  | attached first rest _ => some (.output, String.singleton first ++ rest)
  | strict => none

def kind (x : Spelling) : Option PathOption :=
  x.choice?.map Prod.fst

/-- A value is not empty, and one that stands apart does not look like an option. -/
def Accepted : Spelling → Prop
  | apart _ value => value ≠ "" ∧ (value = "-" ∨ value.toList.head? ≠ some '-')
  | equals _ value => value ≠ ""
  | attached .. | strict => True

instance : DecidablePred Accepted
  | apart .. => inferInstanceAs (Decidable (_ ∧ _))
  | equals .. => inferInstanceAs (Decidable (_ ≠ _))
  | attached .. | strict => inferInstanceAs (Decidable True)

/-- Takes one more option in, if it was not given before. -/
def take? (o : BuildOptions) (x : Spelling) : Option BuildOptions :=
  if x.Accepted ∧ ¬ o.given x.kind then some (o.withChoice x.choice?) else none

/-- One option takes its own arguments and no others, however it is written. -/
theorem readBuild_arguments (named : Bool) (o : BuildOptions) (x : Spelling)
    (rest : List String) :
    readBuild named o (x.arguments ++ rest) =
      (x.take? o).elim .misuse fun o' => readBuild named o' rest := by
  cases x with
  | apart name value =>
    by_cases hplain : form value = .plain
    · have haccepted : (apart name value).Accepted ↔ value ≠ "" :=
        and_iff_left ((form_eq_plain_iff value).mp hplain)
      have hput : put o name.option value = (apart name value).take? o := by
        simp only [put_eq, take?, haccepted]
        rfl
      simp only [arguments, List.cons_append, List.nil_append, readBuild, name.form_text, hplain,
        hput]
      cases (apart name value).take? o <;> rfl
    · -- what looks like an option is not taken for a value, and is not read as an option either
      have htake : (apart name value).take? o = none :=
        if_neg fun h => hplain ((form_eq_plain_iff value).mpr h.1.2)
      simp only [arguments, List.cons_append, List.nil_append, readBuild, name.form_text, htake]
      split
      next hform _ => exact absurd hform hplain
      next => rfl
  | equals name value =>
    have hput : put o name.option value = (equals name value).take? o := put_eq o _ value
    simp only [arguments, List.cons_append, List.nil_append, readBuild, name.form_text_equals, hput]
    cases (equals name value).take? o <;> rfl
  | attached first rest' h =>
    have hne : String.singleton first ++ rest' ≠ "" := by
      simp [← String.toList_inj, String.toList_append]
    have hput : put o .output (String.singleton first ++ rest') =
        (attached first rest' h).take? o := by
      simp only [put_eq, take?, hne, ne_eq, not_false_iff]
      rfl
    simp only [arguments, List.cons_append, List.nil_append, readBuild, form_attached h, hput]
    cases (attached first rest' h).take? o <;> rfl
  | strict =>
    have hform : form "--strict" = .strict := rfl
    simp only [arguments, List.cons_append, List.nil_append, readBuild, hform]
    cases hstrict : o.strict <;>
      simp [take?, Accepted, kind, choice?, BuildOptions.given, BuildOptions.withChoice, hstrict]

theorem take?_bind_take? (o : BuildOptions) (x y : Spelling) :
    (x.take? o).bind y.take? =
      if (x.Accepted ∧ y.Accepted) ∧ (¬ o.given x.kind ∧ ¬ o.given y.kind) ∧ x.kind ≠ y.kind then
        some ((o.withChoice x.choice?).withChoice y.choice?)
      else none := by
  by_cases hx : x.Accepted ∧ ¬ o.given x.kind
  · have hgiven : (o.withChoice x.choice?).given y.kind ↔ y.kind = x.kind ∨ o.given y.kind := by
      rw [BuildOptions.given_withChoice, Bool.or_eq_true, decide_eq_true_iff]
      rfl
    rw [take?, if_pos hx, Option.bind_some, take?]
    refine if_congr ?_ rfl rfl
    rw [hgiven, not_or]
    tauto
  · rw [take?, if_neg hx, if_neg (fun h => hx ⟨h.1.1, h.2.1.1⟩)]
    rfl

/-- Two options of one kind are refused both ways round, and two of different kinds do not touch
each other. -/
theorem take?_bind_comm (o : BuildOptions) (x y : Spelling) :
    (x.take? o).bind y.take? = (y.take? o).bind x.take? := by
  rw [take?_bind_take?, take?_bind_take?]
  by_cases hkind : x.kind = y.kind
  · rw [if_neg (fun h => h.2.2 hkind), if_neg (fun h => h.2.2 hkind.symm)]
  · rw [o.withChoice_comm _ _ hkind]
    refine if_congr ?_ rfl rfl
    tauto

theorem arguments_eq_cons (x : Spelling) :
    ∃ first rest, x.arguments = first :: rest ∧ first.toList.head? = some '-' := by
  cases x with
  | apart name value =>
    refine ⟨_, _, rfl, ?_⟩
    rcases name with (_ | _ | _) | _ <;> rfl
  | equals name value =>
    refine ⟨_, _, rfl, ?_⟩
    rcases name with (_ | _ | _) | _ <;> simp [OptionName.text, String.toList_append]
  | attached first rest h => exact ⟨_, _, rfl, by simp [String.toList_append]⟩
  | strict => exact ⟨_, _, rfl, rfl⟩

theorem choice?_eq_none_iff (x : Spelling) : x.choice? = none ↔ x = strict := by
  cases x <;> simp [choice?]

theorem accepted_of_choice? {x : Spelling} {p : PathOption} {value : String}
    (h : x.choice? = some (p, value)) (hempty : value ≠ "")
    (hdash : value.toList.head? ≠ some '-') : x.Accepted := by
  cases x with
  | apart name value' =>
    cases h
    exact ⟨hempty, .inr hdash⟩
  | equals name value' =>
    cases h
    exact hempty
  | attached | strict => trivial

end Spelling

end Arguments

end SeedArchive
