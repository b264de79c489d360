import SeedArchive.Proofs.Seed.Counting

namespace SeedArchive

theorem count_append_cons_of_ne {v c : String} (h : v ≠ c) (before after : List String) :
    (before ++ c :: after).count v = (before ++ after).count v := by
  rw [List.count_append, List.count_append, List.count_cons_of_ne (Ne.symm h)]

/-- A value that occurs once leaves the first places of the others in their order. -/
theorem eraseDups_append_cons {c : String} {before after : List String}
    (h : c ∉ before ++ after) :
    ∃ front back, (before ++ after).eraseDups = front ++ back ∧
      (before ++ c :: after).eraseDups = front ++ c :: back := by
  rw [List.mem_append, not_or] at h
  have hkept : (c :: after).removeAll before = c :: after.removeAll before := by
    simp [List.removeAll, h.1]
  have hrest : (after.removeAll before).filter (fun v => !v == c) = after.removeAll before := by
    rw [List.filter_eq_self]
    intro v hv
    have hne : v ≠ c := fun heq => h.2 (heq ▸ List.mem_of_mem_filter hv)
    simpa using hne
  refine ⟨before.eraseDups, (after.removeAll before).eraseDups, List.eraseDups_append, ?_⟩
  rw [List.eraseDups_append, hkept, List.eraseDups_cons, hrest]

theorem duplicates_append_cons {c : String} {before after : List String}
    (h : c ∉ before ++ after) :
    duplicates (before ++ c :: after) = duplicates (before ++ after) := by
  obtain ⟨front, back, hold, hnew⟩ := eraseDups_append_cons h
  have hcounts (vs : List String) (hvs : ∀ v ∈ vs, v ∈ (before ++ after).eraseDups) :
      vs.map (fun v => (v, (before ++ c :: after).count v)) =
        vs.map fun v => (v, (before ++ after).count v) := by
    refine List.map_congr_left fun v hv => ?_
    have hne : v ≠ c := fun heq => h (heq ▸ List.mem_eraseDups.mp (hvs v hv))
    rw [count_append_cons_of_ne hne]
  have honce : (before ++ c :: after).count c = 1 := by
    have hnone := List.count_eq_zero.mpr h
    rw [List.count_append] at hnone
    rw [List.count_append, List.count_cons_self]
    omega
  rw [duplicates, duplicates, hnew, hold, List.map_append, List.map_append, List.map_cons,
    hcounts front fun v hv => hold ▸ List.mem_append_left back hv,
    hcounts back fun v hv => hold ▸ List.mem_append_right front hv, List.filter_append,
    List.filter_append, List.filter_cons_of_neg (by simp [honce])]

theorem duplicates_perm {values values' : List String} (h : values'.Perm values) :
    (duplicates values').Perm (duplicates values) := by
  have hfirsts : values'.eraseDups.Perm values.eraseDups := by
    rw [List.perm_ext_iff_of_nodup (nodup_eraseDups values') (nodup_eraseDups values)]
    intro v
    rw [List.mem_eraseDups, List.mem_eraseDups, h.mem_iff]
  have hcounts : values'.eraseDups.map (fun v => (v, values'.count v)) =
      values'.eraseDups.map fun v => (v, values.count v) := by
    refine List.map_congr_left fun v _ => ?_
    rw [h.count_eq]
  rw [duplicates, duplicates, hcounts]
  exact (hfirsts.map _).filter _

namespace Finding

/-- What is told is a reference to `code`. -/
def refersTo (code : String) : Finding → Bool
  | .unknownParent _ parent => parent = code
  | .unknownAccount _ _ account => account = code
  | _ => false

theorem filter_refersTo_eq_self {code : String} {found : List Finding}
    (h : ∀ x ∈ found, x.refersTo code = false) :
    found.filter (fun x => !x.refersTo code) = found := by
  rw [List.filter_eq_self]
  intro x hx
  rw [h x hx]
  rfl

end Finding

section Codes

variable {code : String} {codes codes' : List String}

/-- A reference to no code is told, and no longer told when there is a code that it refers to. -/
theorem dangling_of_mem (hcodes : ∀ c, c ∈ codes' ↔ c = code ∨ c ∈ codes) {reference : String}
    {x : Finding} (hx : x.refersTo code = decide (reference = code)) :
    (if reference ≠ "" ∧ reference ∉ codes' then [x] else []) =
      (if reference ≠ "" ∧ reference ∉ codes then [x] else []).filter
        fun y => !y.refersTo code := by
  have hmem := hcodes reference
  by_cases hcode : reference = code
  · rw [if_neg fun h => h.2 (hmem.mpr (.inl hcode))]
    split
    · simp [hx, hcode]
    · rfl
  · rw [or_iff_right hcode] at hmem
    by_cases hold : reference ≠ "" ∧ reference ∉ codes
    · rw [if_pos hold, if_pos ⟨hold.1, hmem.not.mpr hold.2⟩]
      simp [hx, hcode]
    · rw [if_neg hold, if_neg fun h => hold ⟨h.1, hmem.not.mp h.2⟩]
      rfl

theorem Account.findings_of_mem (hcodes : ∀ c, c ∈ codes' ↔ c = code ∨ c ∈ codes) (a : Account) :
    a.findings codes' = (a.findings codes).filter fun x => !x.refersTo code := by
  have hvalues : a.unrecognised.filter (fun x => !x.refersTo code) = a.unrecognised := by
    refine Finding.filter_refersTo_eq_self fun x hx => ?_
    obtain ⟨owner, term, value, rfl⟩ := a.exists_of_mem_unrecognised hx
    rfl
  rw [findings, findings, List.filter_append, hvalues, a.unknownParent_eq, a.unknownParent_eq,
    dangling_of_mem hcodes rfl]

theorem TemplateLine.findings_of_mem (hcodes : ∀ c, c ∈ codes' ↔ c = code ∨ c ∈ codes)
    (template : String) (order : Nat) (l : TemplateLine) :
    l.findings codes' template order =
      (l.findings codes template order).filter fun x => !x.refersTo code := by
  have hvalues : (l.unrecognised template order).filter (fun x => !x.refersTo code) =
      l.unrecognised template order := by
    refine Finding.filter_refersTo_eq_self fun x hx => ?_
    obtain ⟨owner, term, value, rfl⟩ := l.exists_of_mem_unrecognised template order hx
    rfl
  rw [findings, findings, List.filter_append, hvalues, l.unknownAccount_eq, l.unknownAccount_eq,
    dangling_of_mem hcodes rfl]

theorem JournalTemplate.findings_of_mem (hcodes : ∀ c, c ∈ codes' ↔ c = code ∨ c ∈ codes)
    (t : JournalTemplate) :
    t.findings codes' = (t.findings codes).filter fun x => !x.refersTo code := by
  have hempty : (if t.lines = [] then [Finding.noLines t.name] else []).filter
      (fun x => !x.refersTo code) = if t.lines = [] then [Finding.noLines t.name] else [] := by
    refine Finding.filter_refersTo_eq_self fun x hx => ?_
    split at hx
    · rw [List.mem_singleton.mp hx]
      rfl
    · cases hx
  rw [findings, findings, List.filter_append, hempty, List.filter_flatMap]
  exact congrArg _ (List.flatMap_congr fun p _ => p.2.findings_of_mem hcodes t.name p.1)

/-- An account looks at the codes only to find its parent among them. -/
theorem Account.findings_congr (hcodes : ∀ c, c ∈ codes' ↔ c ∈ codes) (a : Account) :
    a.findings codes' = a.findings codes := by
  rw [findings, findings, a.unknownParent_eq, a.unknownParent_eq]
  simp only [hcodes]

theorem JournalTemplate.findings_congr (hcodes : ∀ c, c ∈ codes' ↔ c ∈ codes)
    (t : JournalTemplate) : t.findings codes' = t.findings codes := by
  rw [findings, findings]
  refine congrArg _ (List.flatMap_congr fun p _ => ?_)
  show p.2.findings codes' t.name p.1 = p.2.findings codes t.name p.1
  rw [TemplateLine.findings, TemplateLine.findings, TemplateLine.unknownAccount_eq,
    TemplateLine.unknownAccount_eq]
  simp only [hcodes]

end Codes

/-- An account that can stand beside those with some codes: its own code is new, the importer
knows its values, and its parent is among them, itself or none. -/
structure Account.Fits (codes : List String) (a : Account) : Prop where
  code_new : a.code ∉ codes
  type_recognised : ∀ t, a.type? = some t → t.isRecognised = true
  balance_recognised : a.balance.isRecognised = true
  parent_known : ∀ parent, a.parent? = some parent →
    parent = "" ∨ parent = a.code ∨ parent ∈ codes

theorem Account.Fits.findings_eq_nil {codes codes' : List String} {a : Account}
    (h : a.Fits codes) (hcodes : ∀ c, c ∈ codes' ↔ c = a.code ∨ c ∈ codes) :
    a.findings codes' = [] := by
  rw [findings, a.unrecognised_eq_nil_iff.mpr ⟨h.type_recognised, h.balance_recognised⟩,
    List.nil_append, unknownParent]
  cases hparent : a.parent? with
  | none => rfl
  | some parent =>
    have hknown := h.parent_known parent hparent
    rw [← hcodes] at hknown
    exact if_pos hknown

namespace Seed

/-- An account that was missing, put anywhere among the others, takes away exactly the findings
that refer to its code. -/
theorem findings_insert {before after : List Account} {a : Account}
    {templates : List JournalTemplate} (h : a.Fits (codes ⟨before ++ after, templates⟩)) :
    findings ⟨before ++ a :: after, templates⟩ =
      (findings ⟨before ++ after, templates⟩).filter fun x => !x.refersTo a.code := by
  let s : Seed := ⟨before ++ after, templates⟩
  let s' : Seed := ⟨before ++ a :: after, templates⟩
  have hold : s.codes = before.map Account.code ++ after.map Account.code := List.map_append
  have hnew : s'.codes = before.map Account.code ++ a.code :: after.map Account.code :=
    List.map_append
  have hcodes : ∀ c, c ∈ s'.codes ↔ c = a.code ∨ c ∈ s.codes := by
    intro c
    rw [hold, hnew, List.mem_append, List.mem_append, List.mem_cons, or_left_comm]
  have hduplicates : duplicates s'.codes = duplicates s.codes := by
    rw [hold, hnew]
    exact duplicates_append_cons (hold ▸ h.code_new)
  have hself : a.findings s'.codes = [] := h.findings_eq_nil hcodes
  have haccounts : s'.accounts.flatMap (Account.findings s'.codes) =
      (s.accounts.flatMap (Account.findings s.codes)).filter fun x => !x.refersTo a.code := by
    rw [List.filter_flatMap]
    show (before ++ a :: after).flatMap _ = (before ++ after).flatMap _
    rw [List.flatMap_append, List.flatMap_cons, hself, List.nil_append, ← List.flatMap_append]
    exact List.flatMap_congr fun b _ => b.findings_of_mem hcodes
  have htemplates : s'.templates.flatMap (JournalTemplate.findings s'.codes) =
      (s.templates.flatMap (JournalTemplate.findings s.codes)).filter
        fun x => !x.refersTo a.code := by
    rw [List.filter_flatMap]
    exact List.flatMap_congr fun t _ => t.findings_of_mem hcodes
  have hvalues (f : String × Nat → Finding) (hf : ∀ d, (f d).refersTo a.code = false)
      (values : List String) : ((duplicates values).map f).filter (fun x => !x.refersTo a.code) =
        (duplicates values).map f :=
    Finding.filter_refersTo_eq_self (List.forall_mem_map.mpr fun d _ => hf d)
  show s'.findings = s.findings.filter fun x => !x.refersTo a.code
  rw [findings, findings, hduplicates, haccounts, htemplates, List.filter_append,
    List.filter_append, List.filter_append, hvalues _ fun _ => rfl, hvalues _ fun _ => rfl]
  rfl

/-- An account with a code that others have, under a parent that is missing. -/
def orphan (parent : String) : Account :=
  { code := "1", parent? := some parent }

def rent : JournalTemplate :=
  { name := "Rent", lines := [{ account := "2" }, { account := "3" }] }

/-- The new account is its own parent. Of the findings about `2` none is left, and those about `3`
stay as they were. -/
theorem findings_insert_selfParent :
    findings ⟨[orphan "2"] ++ [orphan "3"], [rent]⟩ =
        [.duplicateCode "1" 2, .unknownParent "1" "2", .unknownParent "1" "3",
          .unknownAccount "Rent" 1 "2", .unknownAccount "Rent" 2 "3"] ∧
      findings ⟨[orphan "2"] ++ { code := "2", parent? := some "2" } :: [orphan "3"], [rent]⟩ =
        [.duplicateCode "1" 2, .unknownParent "1" "3", .unknownAccount "Rent" 2 "3"] := by
  have hold : findings ⟨[orphan "2"] ++ [orphan "3"], [rent]⟩ =
      [.duplicateCode "1" 2, .unknownParent "1" "2", .unknownParent "1" "3",
        .unknownAccount "Rent" 1 "2", .unknownAccount "Rent" 2 "3"] := by
    decide
  have hfits : Account.Fits ["1", "1"] { code := "2", parent? := some "2" } :=
    ⟨by decide, nofun, rfl, fun _ h => .inr (.inl (Option.some.inj h).symm)⟩
  refine ⟨hold, ?_⟩
  rw [@findings_insert [orphan "2"] [orphan "3"] _ [rent] hfits, hold]
  rfl

theorem perm_findings {s s' : Seed} (haccounts : s'.accounts.Perm s.accounts)
    (htemplates : s'.templates.Perm s.templates) : s'.findings.Perm s.findings := by
  have hcodes : s'.codes.Perm s.codes := haccounts.map _
  have hnames : s'.names.Perm s.names := htemplates.map _
  have hmem : ∀ c, c ∈ s'.codes ↔ c ∈ s.codes := fun c => hcodes.mem_iff
  have haccount : Account.findings s'.codes = Account.findings s.codes :=
    funext fun a => a.findings_congr hmem
  have htemplate : JournalTemplate.findings s'.codes = JournalTemplate.findings s.codes :=
    funext fun t => t.findings_congr hmem
  rw [findings, findings, haccount, htemplate]
  refine List.Perm.append (.append (.append ?_ ?_) ?_) ?_
  · exact (duplicates_perm hcodes).map _
  · exact haccounts.flatMap_right _
  · exact (duplicates_perm hnames).map _
  · exact htemplates.flatMap_right _

/-- Accounts and templates may be given in any order: it is only the order of the findings that may
change, and a check answers alike. -/
theorem check_perm {s s' : Seed} (haccounts : s'.accounts.Perm s.accounts)
    (htemplates : s'.templates.Perm s.templates) :
    s'.findings.Perm s.findings ∧ ∀ strict,
      (∃ n, s.check strict = .ok n ∧ s'.check strict = .ok n) ∨
        ∃ found found', s.check strict = .error found ∧ s'.check strict = .error found' ∧
          found'.Perm found := by
  have hfindings := perm_findings haccounts htemplates
  refine ⟨hfindings, fun strict => ?_⟩
  by_cases hfails : strict ∧ s.findings ≠ []
  · have hfails' : strict ∧ s'.findings ≠ [] :=
      ⟨hfails.1, fun hnil => hfails.2 (List.perm_nil.mp (hnil ▸ hfindings.symm))⟩
    exact .inr ⟨_, _, if_pos hfails, if_pos hfails', hfindings⟩
  · have hfails' : ¬(strict ∧ s'.findings ≠ []) := fun h =>
      hfails ⟨h.1, fun hnil => h.2 (List.perm_nil.mp (hnil ▸ hfindings))⟩
    refine .inl ⟨_, if_neg hfails, ?_⟩
    rw [check, if_neg hfails', hfindings.length_eq]

/-- In the other order the parent that was named first is named last. -/
theorem check_perm_reversed :
    (findings ⟨[orphan "3", orphan "2"], [{ name := "None" }, rent]⟩).Perm
        (findings ⟨[orphan "2", orphan "3"], [rent, { name := "None" }]⟩) ∧
      findings ⟨[orphan "3", orphan "2"], [{ name := "None" }, rent]⟩ ≠
        findings ⟨[orphan "2", orphan "3"], [rent, { name := "None" }]⟩ ∧
      check ⟨[orphan "3", orphan "2"], [{ name := "None" }, rent]⟩ false =
        check ⟨[orphan "2", orphan "3"], [rent, { name := "None" }]⟩ false := by
  have haccounts : [orphan "3", orphan "2"].Perm [orphan "2", orphan "3"] := .swap _ _ _
  have htemplates : [{ name := "None" }, rent].Perm [rent, { name := "None" }] := .swap _ _ _
  obtain ⟨hfindings, hcheck⟩ := @check_perm ⟨_, _⟩ ⟨_, _⟩ haccounts htemplates
  refine ⟨hfindings, by decide, ?_⟩
  obtain ⟨n, hn, hn'⟩ | ⟨found, found', hfound, -⟩ := hcheck false
  · rw [hn, hn']
  · cases hfound

end Seed

end SeedArchive
