import Mathlib.Tactic.Common

/-!
# Transactions and checked steps

A transaction body is a function of the database that gives an error, or a result and
the next database. `transaction` runs it : an error rolls the database back, a result
commits. A body is a sequence of checks and statements in `Except`; `raiseIf c e` is
the check `if c: raise e`. The `bind` lemmas peel a body apart one step at a time,
either way : what holds when it gives a result, and which check gave an error.

`Stricter` compares two bodies one of which has more checks.
-/

namespace Serial

variable {σ ε α β : Type}

/-! ## Checks -/

/-- `if c: raise e`. -/
def raiseIf (c : Prop) [Decidable c] (e : ε) : Except ε Unit :=
  if c then .error e else .ok ()

theorem raiseIf_pos {c : Prop} [Decidable c] (h : c) (e : ε) : raiseIf c e = .error e :=
  if_pos h

theorem raiseIf_neg {c : Prop} [Decidable c] (h : ¬c) (e : ε) : raiseIf c e = .ok () :=
  if_neg h

@[simp] theorem raiseIf_eq_ok {c : Prop} [Decidable c] {e : ε} {u : Unit} :
    raiseIf c e = .ok u ↔ ¬c := by
  unfold raiseIf
  split_ifs with h <;> simp [h]

@[simp] theorem raiseIf_eq_error {c : Prop} [Decidable c] {e e' : ε} :
    raiseIf c e = .error e' ↔ c ∧ e = e' := by
  unfold raiseIf
  split_ifs with h <;> simp [h]

@[simp] theorem ok_bind (a : α) (f : α → Except ε β) : ((.ok a : Except ε α) >>= f) = f a := rfl

@[simp] theorem error_bind (e : ε) (f : α → Except ε β) :
    ((.error e : Except ε α) >>= f) = .error e := rfl

theorem exists_error_of_ne_ok {x : Except ε α} (h : ∀ a, x ≠ .ok a) : ∃ e, x = .error e := by
  rcases x with e | a
  · exact ⟨e, rfl⟩
  · exact absurd rfl (h a)

theorem bind_eq_ok {x : Except ε α} {f : α → Except ε β} {b : β} :
    (x >>= f) = .ok b ↔ ∃ a, x = .ok a ∧ f a = .ok b := by
  cases x <;> simp

theorem map_eq_ok {x : Except ε α} {f : α → β} {b : β} :
    f <$> x = .ok b ↔ ∃ a, x = .ok a ∧ f a = b := by
  cases x <;> simp [Functor.map, Except.map]

theorem map_eq_error {x : Except ε α} {f : α → β} {e : ε} :
    f <$> x = .error e ↔ x = .error e := by
  cases x <;> simp [Functor.map, Except.map]

/-- Two results with the same image are the same error, or values with the same image. -/
theorem of_map_eq_map {x y : Except ε α} {f : α → β} (h : f <$> x = f <$> y) :
    (∀ e, x = .error e ↔ y = .error e) ∧ ∀ a b, x = .ok a → y = .ok b → f a = f b := by
  rcases x with d | a <;> rcases y with d' | b
  · cases h
    exact ⟨fun _ => Iff.rfl, fun _ _ ha => by cases ha⟩
  · cases h
  · cases h
  · refine ⟨fun e => iff_of_false (by simp) (by simp), ?_⟩
    rintro _ _ ⟨⟩ ⟨⟩
    exact Except.ok.inj h

/-- A check before the rest of a body. -/
theorem check_bind_eq_ok {x : Except ε Unit} {f : Unit → Except ε β} {b : β} :
    (x >>= f) = .ok b ↔ x = .ok () ∧ f () = .ok b := by
  cases x <;> simp

theorem bind_eq_error {x : Except ε α} {f : α → Except ε β} {e : ε} :
    (x >>= f) = .error e ↔ x = .error e ∨ ∃ a, x = .ok a ∧ f a = .error e := by
  cases x <;> simp

@[simp] theorem raiseIf_bind_eq_ok {c : Prop} [Decidable c] {e : ε} {f : Unit → Except ε β}
    {b : β} : (raiseIf c e >>= f) = .ok b ↔ ¬c ∧ f () = .ok b := by
  unfold raiseIf
  split_ifs with h <;> simp [h]

@[simp] theorem raiseIf_bind_eq_error {c : Prop} [Decidable c] {e e' : ε}
    {f : Unit → Except ε β} :
    (raiseIf c e >>= f) = .error e' ↔ c ∧ e = e' ∨ ¬c ∧ f () = .error e' := by
  unfold raiseIf
  split_ifs with h <;> simp [h]

/-- A present value, or the error `e`. -/
def orRaise (x : Option α) (e : ε) : Except ε α :=
  match x with
  | some a => .ok a
  | none => .error e

@[simp] theorem orRaise_some (a : α) (e : ε) : orRaise (some a) e = .ok a := rfl

@[simp] theorem orRaise_none (e : ε) : orRaise (none : Option α) e = .error e := rfl

@[simp] theorem orRaise_eq_ok {x : Option α} {e : ε} {a : α} :
    orRaise x e = .ok a ↔ x = some a := by
  cases x <;> simp

@[simp] theorem orRaise_eq_error {x : Option α} {e e' : ε} :
    orRaise x e = .error e' ↔ x = none ∧ e = e' := by
  cases x <;> simp

@[simp] theorem orRaise_bind_eq_ok {x : Option α} {e : ε} {f : α → Except ε β} {b : β} :
    (orRaise x e >>= f) = .ok b ↔ ∃ a, x = some a ∧ f a = .ok b := by
  simp [bind_eq_ok]

@[simp] theorem orRaise_bind_eq_error {x : Option α} {e e' : ε} {f : α → Except ε β} :
    (orRaise x e >>= f) = .error e' ↔
      x = none ∧ e = e' ∨ ∃ a, x = some a ∧ f a = .error e' := by
  simp [bind_eq_error]

/-! ## More checks -/

/-- `x` is `y` with more checks : what `x` gives, `y` gives. -/
def Stricter (x y : Except ε α) : Prop :=
  ∀ a, x = .ok a → y = .ok a

theorem Stricter.refl (x : Except ε α) : Stricter x x :=
  fun _ => id

theorem Stricter.bind {x y : Except ε α} {f g : α → Except ε β} (h : Stricter x y)
    (hf : ∀ a, Stricter (f a) (g a)) : Stricter (x >>= f) (y >>= g) := by
  intro b hb
  obtain ⟨a, ha, hb⟩ := bind_eq_ok.1 hb
  exact bind_eq_ok.2 ⟨a, h a ha, hf a b hb⟩

/-- One more check. -/
theorem Stricter.check {y : Except ε β} {f : Unit → Except ε β} (x : Except ε Unit)
    (h : Stricter (f ()) y) : Stricter (x >>= f) y :=
  fun b hb => h b (check_bind_eq_ok.1 hb).2

/-- A result with more checks is the same, or an error. -/
theorem Stricter.eq_or_error {x y : Except ε α} (h : Stricter x y) :
    x = y ∨ ∃ e, x = .error e := by
  rcases x with e | a
  · exact Or.inr ⟨e, rfl⟩
  · exact Or.inl (h a rfl).symm

/-! ## Transactions -/

/-- Run a body : commit its result, or roll back. -/
def transaction (body : σ → Except ε (α × σ)) (s : σ) : σ × Except ε α :=
  match body s with
  | .ok (a, s') => (s', .ok a)
  | .error e => (s, .error e)

theorem transaction_of_ok {body : σ → Except ε (α × σ)} {s s' : σ} {a : α}
    (h : body s = .ok (a, s')) : transaction body s = (s', .ok a) := by
  simp [transaction, h]

theorem transaction_of_error {body : σ → Except ε (α × σ)} {s : σ} {e : ε}
    (h : body s = .error e) : transaction body s = (s, .error e) := by
  simp [transaction, h]

theorem transaction_eq_ok {body : σ → Except ε (α × σ)} {s : σ} {a : α} :
    (transaction body s).2 = .ok a ↔ body s = .ok (a, (transaction body s).1) := by
  unfold transaction
  cases h : body s with
  | ok p => simp [Prod.ext_iff]
  | error e => simp

theorem transaction_eq_error {body : σ → Except ε (α × σ)} {s : σ} {e : ε} :
    (transaction body s).2 = .error e ↔ body s = .error e := by
  unfold transaction
  cases h : body s <;> simp

/-- A transaction that gives an error leaves the database as it was. -/
theorem transaction_rollback {body : σ → Except ε (α × σ)} {s : σ} {e : ε}
    (h : (transaction body s).2 = .error e) : (transaction body s).1 = s := by
  rw [transaction_of_error (transaction_eq_error.1 h)]

/-- A transaction whose body has more checks does the same, or raises and changes nothing. -/
theorem transaction_stricter {body body' : σ → Except ε (α × σ)} {s : σ}
    (h : Stricter (body s) (body' s)) :
    transaction body s = transaction body' s ∨ ∃ e, transaction body s = (s, .error e) := by
  rcases hbody : body s with e | ⟨a, s'⟩
  · exact Or.inr ⟨e, transaction_of_error hbody⟩
  · exact Or.inl ((transaction_of_ok hbody).trans (transaction_of_ok (h _ hbody)).symm)

/-- What every committed result of the body does to the database, the transaction
does, if it is also true of leaving the database alone. -/
theorem transaction_rel {R : σ → σ → Prop} {body : σ → Except ε (α × σ)} {s : σ}
    (hrefl : R s s) (h : ∀ a s', body s = .ok (a, s') → R s s') : R s (transaction body s).1 := by
  unfold transaction
  cases hb : body s with
  | ok p => exact h p.1 p.2 hb
  | error e => exact hrefl

end Serial
