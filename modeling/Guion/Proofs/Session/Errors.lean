import Guion.Proofs.Evaluation.ErrorFree
import Guion.Proofs.Session.Reachable

/-! Errors never become values.

Main statement: whatever was run before, no variable holds an error and no part of a program yields
one, so a program has an error as its value only if it stops for the error.
-/

namespace Guion

open Evaluation

variable {kind : Program → Prop} {store : Store}

/-- There are no errors among the values at the start of any program. -/
theorem Evaluation.Invariant.withoutErrors_starts (kind : Program → Prop)
    : Invariant.withoutErrors.Starts kind :=
  ⟨trivial, fun _ => trivial, fun _ _ => trivial, fun _ _ => trivial⟩

/-- No variable of a reachable store holds an error. At no moment of a program that is run there
does an expression yield an error, or is an error among the arguments of a call. So the value of the
program is an error exactly if its evaluation stops for that error.
-/
theorem Reachable.error_iff_stops (reachable : Reachable kind store)
    : store.heap.ErrorFree
      ∧ ∀ (limit : Nat) (program : Program) (scope : Scope),
          kind program
          → scope < store.heap.size
          → (∀ e inner depth middle value later,
              Within limit (.statements program .null scope 0 store)
                (.expression e inner depth middle)
              → evaluateExpression limit e inner depth middle = yield value later
              → value.kind ≠ .error)
            ∧ (∀ es inner depth middle values later,
                Within limit (.statements program .null scope 0 store)
                  (.arguments es inner depth middle)
                → evaluateArguments limit es inner depth middle = yield values later
                → ∀ value ∈ values, value.kind ≠ .error)
            ∧ ∀ error,
                (program.evaluate limit scope store).1 = .error error
                ↔ (program.run limit scope store).result = .error (.failure error) := by
  have starts := Invariant.withoutErrors_starts kind
  have free : store.heap.ErrorFree := Heap.errorFree_of_held (reachable.fits starts).held
  refine ⟨free, ?_⟩
  intro limit program scope isKind inside
  refine ⟨?_, ?_, ?_⟩
  · intro e inner depth middle value later within yielded
    have kept := (reachable.within starts isKind inside within).2
    exact kept.value value (congrArg Outcome.result yielded)
  · intro es inner depth middle values later within yielded
    have kept := (reachable.within starts isKind inside within).2
    exact kept.value values (congrArg Outcome.result yielded)
  · intro error
    constructor
    · exact result_of_value_eq_error free
    · intro stopped
      simp only [Program.evaluate, Outcome.value, stopped]

/-- A declaration that fails. -/
private def failing : Program :=
  [.declare "x" (.binary (.integer (.ofNat 1)) .divide (.integer (.ofNat 0)))]

/-- The declaration stops for its error each time, and declares nothing. -/
theorem Reachable.error_iff_stops_failing
    : let store := (failing.run 1 0 Store.empty.root.2).store
      Reachable (fun _ => True) store
      ∧ 0 < store.heap.size
      ∧ store.heap.ErrorFree
      ∧ (failing.evaluate 1 0 store).1 = .error .divisionByZero
      ∧ (failing.run 1 0 store).result = .error (.failure .divisionByZero) := by
  intro store
  have reachable : Reachable (fun _ => True) store :=
    Reachable.run (.root .empty) trivial Nat.zero_lt_one 1
  have inside : 0 < store.heap.size :=
    (grows_outcome 1 (.statements failing .null 0 0 Store.empty.root.2)).lt_size Nat.zero_lt_one
  have zero : (Integer.ofNat 0).toInt = 0 := by decide
  have failed : (failing.evaluate 1 0 store).1 = .error .divisionByZero := by
    simp [failing, Program.evaluate, Program.run, evaluateBlock, BinaryOperator.apply,
      BinaryOperator.applyIntegers, zero, Outcome.value]
  obtain ⟨free, run⟩ := reachable.error_iff_stops
  obtain ⟨-, -, stops⟩ := run 1 failing 0 trivial inside
  exact ⟨reachable, inside, free, failed, (stops .divisionByZero).mp failed⟩

end Guion
