import Guion.Value.Operators

/-! What operators and builtin functions yield: integers, booleans and strings.

So no function is ever made by an operation, and no error comes out of one as a value.
-/

namespace Guion

/-- Integers, booleans and strings: the values that are nothing but data. -/
def Value.IsData (value : Value) : Prop :=
  value.kind ∈ [.integer, .boolean, .string]

theorem Value.IsData.kind_ne_error {value : Value} (data : value.IsData) : value.kind ≠ .error := by
  intro same
  simp [IsData, same] at data

theorem UnaryOperator.isData_of_apply {operator : UnaryOperator} {operand value : Value}
    (applied : operator.apply operand = .ok value)
    : value.IsData := by
  unfold UnaryOperator.apply at applied
  split at applied
  · cases applied
    simp [Value.IsData, Value.kind]
  · split at applied
    · split at applied <;> cases applied
      simp [Value.IsData, Value.kind]
    · cases applied

namespace BinaryOperator

variable {operator : BinaryOperator} {value : Value}

theorem isData_of_fitting {a b : Integer} {result : Option Integer}
    (applied : operator.fitting a b result = .ok value)
    : value.IsData := by
  cases result <;> cases applied
  simp [Value.IsData, Value.kind]

theorem isData_of_applyIntegers {a b : Integer} (applied : operator.applyIntegers a b = .ok value)
    : value.IsData := by
  unfold applyIntegers at applied
  split at applied
  · exact isData_of_fitting applied
  · exact isData_of_fitting applied
  · exact isData_of_fitting applied
  · split at applied
    · cases applied
    · exact isData_of_fitting applied
  all_goals
    cases applied
    simp [Value.IsData, Value.kind]

theorem isData_of_applyStrings {a b : String} (applied : operator.applyStrings a b = .ok value)
    : value.IsData := by
  unfold applyStrings at applied
  split at applied <;> cases applied <;> simp [Value.IsData, Value.kind]

theorem isData_of_apply {left right : Value} (applied : operator.apply left right = .ok value)
    : value.IsData := by
  unfold apply at applied
  split at applied
  · exact isData_of_applyIntegers applied
  · exact isData_of_applyStrings applied
  · split at applied
    · cases applied
      simp [Value.IsData, Value.kind]
    · cases applied
      simp [Value.IsData, Value.kind]
    · split at applied <;> cases applied

/-- Values of any two kinds can be told apart. -/
theorem apply_equal (a b : Value) : BinaryOperator.equal.apply a b = .ok (.boolean (a.same b)) := by
  cases a <;> cases b <;>
    simp [apply, applyIntegers, applyStrings, Value.same, Bool.beq_eq_decide_eq]

theorem apply_notEqual (a b : Value)
    : BinaryOperator.notEqual.apply a b = .ok (.boolean (!a.same b)) := by
  cases a <;> cases b <;>
    simp [apply, applyIntegers, applyStrings, Value.same, Bool.beq_eq_decide_eq]

end BinaryOperator

theorem Builtin.isData_of_apply {builtin : Builtin} {arguments : List Value} {value : Value}
    (applied : builtin.apply arguments = .ok value)
    : value.IsData := by
  unfold Builtin.apply at applied
  split at applied <;> cases applied
  simp [Value.IsData, Value.kind]

end Guion
