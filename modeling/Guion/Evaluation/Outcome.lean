import Guion.Store

/-! How evaluations end: with a value, or early.

Evaluations in a row end as the first of them that ends early, and otherwise as the last one. A call
ends with a value if its function returns one.
-/

namespace Guion.Evaluation

/-- Why evaluation stops early: a statement ends the function around it with a value, or something
goes wrong.
-/
inductive Signal where
  | returning (value : Value)
  | failure (error : RuntimeError)

/-- How an evaluation ends, and the store that it leaves. -/
structure Outcome (α : Type) where
  result : Except Signal α
  store : Store

variable {α β γ : Type}

/-- A value, without any change. -/
def yield (value : α) (store : Store) : Outcome α :=
  ⟨.ok value, store⟩

/-- A value, if it was found. -/
def settle (result : Except RuntimeError α) (store : Store) : Outcome α :=
  ⟨result.mapError .failure, store⟩

@[simp]
theorem settle_ok (value : α) (store : Store) : settle (.ok value) store = yield value store :=
  rfl

@[simp]
theorem settle_error (error : RuntimeError) (store : Store)
    : (settle (.error error) store : Outcome α) = ⟨.error (.failure error), store⟩ :=
  rfl

namespace Outcome

/-- Goes on with a value, unless evaluation has stopped. -/
def bind (outcome : Outcome α) (next : α → Store → Outcome β) : Outcome β :=
  match outcome with
  | ⟨.ok value, store⟩ => next value store
  | ⟨.error signal, store⟩ => ⟨.error signal, store⟩

/-- The value that a call yields once its function has ended. -/
def returned (outcome : Outcome Value) : Outcome Value :=
  match outcome with
  | ⟨.error (.returning value), store⟩ => yield value store
  | outcome => outcome

/-- The value of a program that ends so. -/
def value (outcome : Outcome Value) : Value :=
  match outcome.result with
  | .ok value | .error (.returning value) => value
  | .error (.failure error) => .error error

@[simp]
theorem bind_yield (value : α) (store : Store) (next : α → Store → Outcome β)
    : (yield value store).bind next = next value store :=
  rfl

@[simp]
theorem bind_error (signal : Signal) (store : Store) (next : α → Store → Outcome β)
    : (⟨.error signal, store⟩ : Outcome α).bind next = ⟨.error signal, store⟩ :=
  rfl

@[simp]
theorem bind_of_yield (outcome : Outcome α) : outcome.bind yield = outcome := by
  rcases outcome with ⟨_ | _, _⟩ <;> rfl

theorem bind_assoc (outcome : Outcome α) (next : α → Store → Outcome β)
    (last : β → Store → Outcome γ)
    : (outcome.bind next).bind last = outcome.bind fun a store => (next a store).bind last := by
  rcases outcome with ⟨_ | _, _⟩ <;> rfl

@[simp]
theorem returned_yield (value : Value) (store : Store)
    : (yield value store).returned = yield value store :=
  rfl

@[simp]
theorem returned_returning (value : Value) (store : Store)
    : (⟨.error (.returning value), store⟩ : Outcome Value).returned = yield value store :=
  rfl

@[simp]
theorem returned_failure (error : RuntimeError) (store : Store)
    : (⟨.error (.failure error), store⟩ : Outcome Value).returned
      = ⟨.error (.failure error), store⟩ :=
  rfl

@[simp]
theorem store_returned (outcome : Outcome Value) : outcome.returned.store = outcome.store := by
  rcases outcome with ⟨(_ | _) | _, _⟩ <;> rfl

end Outcome

end Guion.Evaluation
