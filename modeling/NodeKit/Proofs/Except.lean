/-! Computations in `Except`, as the checks of a schema and the emitter are written: a sequence
succeeds exactly when each step succeeds in turn, a guard that throws passes exactly when its
condition fails, and a traversal of a list stops with the first error of its steps. `errorOf`
reads the error a computation stops with, so that "the first failure" is a `findSome?` over the
list that is traversed. -/

namespace NodeKit

variable {ε α β : Type}

/-- The error a computation stops with, if it stops with one. -/
def errorOf : Except ε α → Option ε
  | .error e => some e
  | .ok _ => none

@[simp] theorem errorOf_ok (a : α) : errorOf (.ok a : Except ε α) = none := rfl

@[simp] theorem errorOf_error (e : ε) : errorOf (.error e : Except ε α) = some e := rfl

@[simp] theorem errorOf_pure (a : α) : errorOf (pure a : Except ε α) = none := rfl

theorem errorOf_eq_some {x : Except ε α} {e : ε} : errorOf x = some e ↔ x = .error e := by
  cases x <;> simp

theorem errorOf_eq_none {x : Except ε α} : errorOf x = none ↔ ∃ a, x = .ok a := by
  cases x <;> simp

@[simp] theorem Except.bind_eq_ok {x : Except ε α} {f : α → Except ε β} {b : β} :
    x >>= f = .ok b ↔ ∃ a, x = .ok a ∧ f a = .ok b := by
  cases x <;> simp [bind, Except.bind]

@[simp] theorem Except.pure_eq_ok {a b : α} : (pure a : Except ε α) = .ok b ↔ a = b := by
  simp [pure, Except.pure]

@[simp] theorem Except.throw_eq_ok {e : ε} {a : α} : (throw e : Except ε α) = .ok a ↔ False := by
  simp [throw, throwThe, MonadExceptOf.throw]

@[simp] theorem Except.throw_bind {e : ε} {f : α → Except ε β} :
    (throw e >>= f : Except ε β) = throw e := rfl

@[simp] theorem Except.map_eq_ok {x : Except ε α} {f : α → β} {b : β} :
    f <$> x = .ok b ↔ ∃ a, x = .ok a ∧ f a = b := by
  cases x <;> simp [Functor.map, Except.map]

@[simp] theorem Except.ite_throw_eq_ok {p : Prop} [Decidable p] {e : ε} {x : Except ε α}
    {a : α} : (if p then throw e else x) = .ok a ↔ ¬p ∧ x = .ok a := by
  by_cases hp : p <;> simp [hp]

/-- The error of a sequence is the error of its first step, or else that of the rest. -/
theorem errorOf_bind (x : Except ε α) (f : α → Except ε β) :
    errorOf (x >>= f) = match x with
      | .error e => some e
      | .ok a => errorOf (f a) := by
  cases x <;> rfl

/-- A traversal stops with the first error of its steps. -/
theorem errorOf_mapM (f : α → Except ε β) (xs : List α) :
    errorOf (xs.mapM f) = xs.findSome? fun x => errorOf (f x) := by
  induction xs with
  | nil => rfl
  | cons x xs ih =>
    rw [List.mapM_cons, List.findSome?_cons]
    cases hx : f x with
    | error e => rfl
    | ok b =>
      change errorOf (xs.mapM f >>= fun l => pure (b :: l)) = _
      rw [← ih]
      cases xs.mapM f <;> rfl

theorem errorOf_forM (g : α → Except ε PUnit) (xs : List α) :
    errorOf (forM xs g) = xs.findSome? fun x => errorOf (g x) := by
  induction xs with
  | nil => rfl
  | cons x xs ih =>
    rw [List.forM_cons, List.findSome?_cons, errorOf_bind]
    cases g x with
    | error e => rfl
    | ok u => exact ih

theorem Except.forM_eq_ok (g : α → Except ε PUnit) (xs : List α) :
    forM xs g = .ok () ↔ ∀ x ∈ xs, g x = .ok () := by
  induction xs with
  | nil => simp
  | cons x xs ih =>
    simp only [List.forM_cons, Except.bind_eq_ok, ih, List.mem_cons, forall_eq_or_imp]
    constructor
    · rintro ⟨⟨⟩, hx, hrest⟩
      exact ⟨hx, hrest⟩
    · rintro ⟨hx, hrest⟩
      exact ⟨(), hx, hrest⟩

end NodeKit
