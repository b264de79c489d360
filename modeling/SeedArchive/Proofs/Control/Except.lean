namespace SeedArchive

theorem bind_eq_ok_iff {ε α β : Type} {x : Except ε α} {f : α → Except ε β} {b : β} :
    x >>= f = .ok b ↔ ∃ a, x = .ok a ∧ f a = .ok b := by
  cases x <;> simp [bind, Except.bind]

/-- A program that may fail goes on in the state that its first part leaves, unless that part
fails. -/
theorem run_bind {ε σ α β : Type} (x : ExceptT ε (StateM σ) α) (f : α → ExceptT ε (StateM σ) β)
    (s : σ) :
    (x >>= f).run s =
      match x.run s with
      | (.ok a, s') => (f a).run s'
      | (.error e, s') => (.error e, s') := by
  show ExceptT.bindCont f (x.run s).1 (x.run s).2 = _
  obtain ⟨a | e, s'⟩ := x.run s <;> rfl

theorem eq_ok_of_toOption {ε α : Type} {x : Except ε α} {a : α} (h : x.toOption = some a) :
    x = .ok a := by
  cases x with
  | error e => cases h
  | ok b => exact congrArg Except.ok (Option.some.inj h)

@[simp]
theorem mapError_ok {ε ε' α : Type} (f : ε → ε') (a : α) :
    (.ok a : Except ε α).mapError f = .ok a := rfl

@[simp]
theorem mapError_error {ε ε' α : Type} (f : ε → ε') (e : ε) :
    (.error e : Except ε α).mapError f = .error (f e) := rfl

theorem mapError_eq_ok_iff {ε ε' α : Type} {x : Except ε α} {f : ε → ε'} {a : α} :
    x.mapError f = .ok a ↔ x = .ok a := by
  cases x <;> simp

theorem toOption_bind {ε α β : Type} (x : Except ε α) (f : α → Except ε β) :
    (x >>= f).toOption = x.toOption.bind fun a => (f a).toOption := by
  cases x <;> rfl

theorem toOption_mapError {ε ε' α : Type} (x : Except ε α) (f : ε → ε') :
    (x.mapError f).toOption = x.toOption := by
  cases x <;> rfl

theorem run_mk_pure {ε σ α : Type} (x : Except ε α) (s : σ) :
    (ExceptT.mk (pure x) : ExceptT ε (StateM σ) α).run s = (x, s) := by
  rfl

theorem run_tryCatch {ε σ α : Type} (x : ExceptT ε (StateM σ) α) (f : ε → ExceptT ε (StateM σ) α)
    (s : σ) :
    (tryCatch x f).run s =
      match x.run s with
      | (.ok a, s') => (.ok a, s')
      | (.error e, s') => (f e).run s' := by
  show (x.run >>= fun result => match result with
    | .ok a => pure (.ok a)
    | .error e => f e : StateM σ (Except ε α)).run s = _
  rw [StateT.run_bind]
  show (match (x.run s).1 with
    | .ok a => pure (.ok a)
    | .error e => f e : StateM σ (Except ε α)).run (x.run s).2 = _
  obtain ⟨a | e, s'⟩ := x.run s <;> rfl

end SeedArchive
