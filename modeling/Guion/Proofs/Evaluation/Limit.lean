import Guion.Interpreter
import Guion.Proofs.Evaluation.ErrorFree

/-! A limit on nested calls shows in its own error, and in nothing else.

Where a limit is not reached, the rules lead to the same end under every higher limit. Nothing takes
the error for something else on the way, so it is what the whole program ends with.
-/

namespace Guion

-----------------------------------------------------------------------------------------
-- No operator fails for the depth of calls
-----------------------------------------------------------------------------------------

theorem UnaryOperator.apply_ne_callDepthExceeded (operator : UnaryOperator) (operand : Value)
    (limit : Nat)
    : operator.apply operand ≠ .error (.callDepthExceeded limit) := by
  unfold UnaryOperator.apply
  split
  · simp
  · split
    · split <;> simp
    · simp

namespace BinaryOperator

variable (operator : BinaryOperator) (limit : Nat)

theorem fitting_ne_callDepthExceeded (a b : Integer) (result : Option Integer)
    : operator.fitting a b result ≠ .error (.callDepthExceeded limit) := by
  cases result <;> simp [fitting]

theorem applyIntegers_ne_callDepthExceeded (a b : Integer)
    : operator.applyIntegers a b ≠ .error (.callDepthExceeded limit) := by
  unfold applyIntegers
  split
  · exact fitting_ne_callDepthExceeded _ _ _ _ _
  · exact fitting_ne_callDepthExceeded _ _ _ _ _
  · exact fitting_ne_callDepthExceeded _ _ _ _ _
  · split
    · simp
    · exact fitting_ne_callDepthExceeded _ _ _ _ _
  all_goals simp

theorem apply_ne_callDepthExceeded (left right : Value)
    : operator.apply left right ≠ .error (.callDepthExceeded limit) := by
  unfold apply
  split
  · exact applyIntegers_ne_callDepthExceeded _ _ _ _
  · unfold applyStrings
    split <;> simp
  · split
    · simp
    · simp
    · split <;> simp

end BinaryOperator

theorem Builtin.apply_ne_callDepthExceeded (builtin : Builtin) (arguments : List Value)
    (limit : Nat)
    : builtin.apply arguments ≠ .error (.callDepthExceeded limit) := by
  unfold Builtin.apply
  split <;> simp

namespace Evaluation

theorem resolve_ne_callDepthExceeded (heap : Heap) (scope : Scope) (name : String) (limit : Nat)
    : resolve heap scope name ≠ .error (.callDepthExceeded limit) := by
  unfold resolve
  split
  · simp
  · split <;> simp

-----------------------------------------------------------------------------------------
-- Two limits
-----------------------------------------------------------------------------------------

variable {α : Type} {limit : Nat} {scope : Scope} {store : Store}

/-- An evaluation ends because a call has reached a limit. -/
def Outcome.Exceeds (outcome : Outcome α) (limit : Nat) : Prop :=
  outcome.result = .error (.failure (.callDepthExceeded limit))

@[simp]
theorem exceeds_error {signal : Signal}
    : (⟨.error signal, store⟩ : Outcome α).Exceeds limit
      ↔ signal = .failure (.callDepthExceeded limit) := by
  simp [Outcome.Exceeds]

theorem not_exceeds_yield (value : α) : ¬ (yield value store).Exceeds limit := by
  simp [Outcome.Exceeds, yield]

theorem not_exceeds_settle {result : Except RuntimeError α}
    (other : result ≠ .error (.callDepthExceeded limit))
    : ¬ (settle result store).Exceeds limit := by
  intro exceeds
  cases result with
  | ok value => cases exceeds
  | error error =>
      cases exceeds
      exact other rfl

theorem Outcome.Exceeds.value {outcome : Outcome Value} (exceeds : outcome.Exceeds limit)
    : outcome.value = .error (.callDepthExceeded limit) := by
  rw [Outcome.value, exceeds]

/-- A function does not catch the error. -/
theorem Outcome.exceeds_returned {outcome : Outcome Value}
    : outcome.returned.Exceeds limit ↔ outcome.Exceeds limit := by
  rcases outcome with ⟨(value | error) | value, later⟩ <;> simp [returned, Exceeds, yield]

/-- An evaluation that does not reach a limit ends in the same way under every higher limit, by
induction on the rules: what it stops for is what stops the whole.
-/
theorem Evaluates.of_limit_le {larger : Nat} (le : limit ≤ larger) {task : Task}
    {outcome : Outcome task.Yield} {counter : Nat} (h : Evaluates limit task outcome counter)
    (within : ¬ outcome.Exceeds limit)
    : Evaluates larger task outcome counter := by
  induction h with
  | stops first _ ih => exact .stops first (ih (by simpa using within))
  | identifier => exact .identifier
  | integer => exact .integer
  | boolean => exact .boolean
  | string => exact .string
  | function => exact .function
  | unary _ ih => exact .unary (ih (not_exceeds_yield _))
  | binary _ _ ih ih' => exact .binary (ih (not_exceeds_yield _)) (ih' (not_exceeds_yield _))
  | rightStops _ _ ih ih' => exact .rightStops (ih (not_exceeds_yield _)) (ih' within)
  | consequence _ truthy _ ih ih' =>
      exact .consequence (ih (not_exceeds_yield _)) truthy (ih' within)
  | alternative _ falsy _ ih ih' =>
      exact .alternative (ih (not_exceeds_yield _)) falsy (ih' within)
  | noAlternative _ falsy ih => exact .noAlternative (ih (not_exceeds_yield _)) falsy
  | notAFunction _ other ih => exact .notAFunction (ih (not_exceeds_yield _)) other
  | argumentsStop _ callable _ ih ih' =>
      exact .argumentsStop (ih (not_exceeds_yield _)) callable (ih' (by simpa using within))
  | builtin _ _ ih ih' => exact .builtin (ih (not_exceeds_yield _)) (ih' (not_exceeds_yield _))
  | wrongCount _ _ different ih ih' =>
      exact .wrongCount (ih (not_exceeds_yield _)) (ih' (not_exceeds_yield _)) different
  | tooDeep => exact absurd rfl within
  | entered _ _ same below _ ih ih' ih'' =>
      rw [Outcome.exceeds_returned] at within
      exact .entered (ih (not_exceeds_yield _)) (ih' (not_exceeds_yield _)) same
        (Nat.lt_of_lt_of_le below le) (ih'' within)
  | noStatements => exact .noStatements
  | declare _ _ ih ih' => exact .declare (ih (not_exceeds_yield _)) (ih' within)
  | returning _ ih => exact .returning (ih (not_exceeds_yield _))
  | expression _ _ ih ih' => exact .expression (ih (not_exceeds_yield _)) (ih' within)
  | noArguments => exact .noArguments
  | argument _ _ ih ih' => exact .argument (ih (not_exceeds_yield _)) (ih' (not_exceeds_yield _))
  | restStops _ _ ih ih' => exact .restStops (ih (not_exceeds_yield _)) (ih' within)

/-- A limit that is reached is the limit of the evaluation, by induction on the rules. -/
theorem Evaluates.eq_of_exceeds {reached : Nat} {task : Task} {outcome : Outcome task.Yield}
    {counter : Nat} (h : Evaluates limit task outcome counter) (exceeds : outcome.Exceeds reached)
    : reached = limit := by
  induction h with
  | stops _ _ ih => exact ih (by simpa using exceeds)
  | identifier => exact absurd exceeds (not_exceeds_settle (resolve_ne_callDepthExceeded _ _ _ _))
  | unary =>
      exact absurd exceeds (not_exceeds_settle (UnaryOperator.apply_ne_callDepthExceeded _ _ _))
  | binary =>
      exact absurd exceeds (not_exceeds_settle (BinaryOperator.apply_ne_callDepthExceeded _ _ _ _))
  | builtin =>
      exact absurd exceeds (not_exceeds_settle (Builtin.apply_ne_callDepthExceeded _ _ _))
  | tooDeep =>
      cases exceeds
      rfl
  | argumentsStop _ _ _ _ ih' => exact ih' (by simpa using exceeds)
  | rightStops _ _ _ ih' | consequence _ _ _ _ ih' | alternative _ _ _ _ ih'
  | declare _ _ _ ih' | expression _ _ _ ih' | restStops _ _ _ ih' =>
      exact ih' exceeds
  | entered _ _ _ _ _ _ _ ih'' => exact ih'' (Outcome.exceeds_returned.mp exceeds)
  | _ => cases exceeds

-----------------------------------------------------------------------------------------
-- Programs
-----------------------------------------------------------------------------------------

/-- A limit suffices for a program if the program does not report that a limit is reached. -/
def Suffices (limit : Nat) (program : Program) (scope : Scope) (store : Store) : Prop :=
  ∀ reached, (program.evaluate limit scope store).1 ≠ .error (.callDepthExceeded reached)

/-- If a limit suffices, every higher limit leads to the same value and the same variables, and so
it suffices as well. If it does not, and no variable holds an error from the start, the error names
this limit.
-/
theorem evaluate_of_suffices (program : Program) (scope : Scope) (store : Store)
    : (∀ limit larger,
        limit ≤ larger
        → Suffices limit program scope store
        → program.evaluate larger scope store = program.evaluate limit scope store
          ∧ Suffices larger program scope store)
      ∧ (store.heap.ErrorFree
        → ∀ limit reached,
            (program.evaluate limit scope store).1 = .error (.callDepthExceeded reached)
            → reached = limit) := by
  have ends : ∀ limit, Evaluates limit (.statements program .null scope 0 store)
      (program.run limit scope store) 0 :=
    fun limit => evaluates_outcome ..
  constructor
  · intro limit larger le enough
    have within : ¬ (program.run limit scope store).Exceeds limit :=
      fun exceeds => enough limit exceeds.value
    have same : program.run larger scope store = program.run limit scope store :=
      ((ends limit).of_limit_le le within).outcome_eq.1
    have whole : program.evaluate larger scope store = program.evaluate limit scope store := by
      rw [Program.evaluate, same, Program.evaluate]
    exact ⟨whole, fun reached => whole ▸ enough reached⟩
  · intro free limit reached failed
    exact (ends limit).eq_of_exceeds (result_of_value_eq_error free failed)

/-- A function that is called where it stands, and another one within it. -/
def nested : Program :=
  [.expression (.call (.function [] [.expression (.call (.function [] []) [])]) [])]

/-- The calls fit below every limit from two on, and the inner one reports the limit of one. -/
theorem evaluate_of_suffices_nested
    : (nested.evaluate 9 0 Store.empty.root.2 = nested.evaluate 2 0 Store.empty.root.2
        ∧ Suffices 9 nested 0 Store.empty.root.2)
      ∧ ∃ reached,
          (nested.evaluate 1 0 Store.empty.root.2).1 = .error (.callDepthExceeded reached)
          ∧ reached = 1 := by
  have two : (nested.evaluate 2 0 Store.empty.root.2).1 = .null := by
    simp [nested, Program.evaluate, Program.run, evaluateBlock, evaluateExpression_call, close,
      applyClosure_of_lt]
    rfl
  have one : (nested.evaluate 1 0 Store.empty.root.2).1 = .error (.callDepthExceeded 1) := by
    simp [nested, Program.evaluate, Program.run, evaluateBlock, evaluateExpression_call, close,
      applyClosure_of_lt, applyClosure_of_le, Outcome.value]
  have free : Store.empty.root.2.heap.ErrorFree := Heap.ErrorFree.empty.push none
  constructor
  · refine (evaluate_of_suffices nested 0 Store.empty.root.2).1 2 9 (by decide) fun reached => ?_
    rw [two]
    simp
  · exact ⟨1, one, (evaluate_of_suffices nested 0 Store.empty.root.2).2 free 1 1 one⟩

end Evaluation

end Guion
