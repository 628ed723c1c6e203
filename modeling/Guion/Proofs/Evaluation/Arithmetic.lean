import Guion.Evaluation.Equations
import Guion.Proofs.Integer.Division

/-! Arithmetic is exact, or fails where it first has to.

Expressions made of integers, minus signs and the four operations are compared with what they denote
among integers of any size.

Main statement: such an expression yields what it denotes if every part of it denotes an integer
that fits and none divides by zero. Otherwise it fails with the error of the first part that does
not, in the order in which the parts are evaluated.
-/

namespace Guion

-----------------------------------------------------------------------------------------
-- Integers of any size
-----------------------------------------------------------------------------------------

/-- The operations that make an integer of two. -/
inductive Operation where
  | add
  | subtract
  | multiply
  | divide
deriving DecidableEq

namespace Operation

def operator : Operation → BinaryOperator
  | add => .add
  | subtract => .subtract
  | multiply => .multiply
  | divide => .divide

/-- What an operation makes of two integers. Division rounds toward negative infinity. -/
def exact : Operation → Int → Int → Int
  | add, a, b => a + b
  | subtract, a, b => a - b
  | multiply, a, b => a * b
  | divide, a, b => a.fdiv b

/-- Everything is allowed but a division by zero. -/
def Allows (symbol : Operation) (right : Int) : Prop :=
  symbol = divide → right ≠ 0
deriving Decidable

end Operation

/-- The expressions that are made of integers, minus signs and operations. -/
inductive Arithmetic where
  | integer (value : Integer)
  | negation (operand : Arithmetic)
  | operation (left : Arithmetic) (symbol : Operation) (right : Arithmetic)

namespace Arithmetic

def expression : Arithmetic → Expression
  | integer value => .integer value
  | negation operand => .unary .negate operand.expression
  | operation left symbol right => .binary left.expression symbol.operator right.expression

/-- The integer that an expression denotes, however large those on the way are. -/
def exact : Arithmetic → Int
  | integer value => value.toInt
  | negation operand => -operand.exact
  | operation left symbol right => symbol.exact left.exact right.exact

/-- The expression and all expressions within it, from left to right, each behind its operands. -/
def parts : Arithmetic → List Arithmetic
  | integer value => [integer value]
  | negation operand => operand.parts ++ [negation operand]
  | operation left symbol right => left.parts ++ right.parts ++ [operation left symbol right]

/-- From -2^63 to 2^63 - 1. -/
def Fits (n : Int) : Prop :=
  -0x8000000000000000 ≤ n ∧ n ≤ 0x7fffffffffffffff
deriving Decidable

/-- A division has a divisor other than zero. -/
def Allowed : Arithmetic → Prop
  | operation _ symbol right => symbol.Allows right.exact
  | _ => True

instance : (tree : Arithmetic) → Decidable tree.Allowed
  | integer _ | negation _ => isTrue trivial
  | operation _ symbol right => inferInstanceAs (Decidable (symbol.Allows right.exact))

/-- An expression does not divide by zero itself, and what it denotes fits. -/
def Succeeds (tree : Arithmetic) : Prop :=
  tree.Allowed ∧ Fits tree.exact
deriving Decidable

/-- The first part that does not succeed. -/
def failing? (tree : Arithmetic) : Option Arithmetic :=
  tree.parts.find? fun part => ¬ part.Succeeds

/-- How an expression fails whose operands succeed. The error shows the operands. -/
inductive Fault : Arithmetic → RuntimeError → Prop where
  | negation {operand : Arithmetic} {least : Integer} (value : least.toInt = operand.exact)
    (beyond : operand.exact = -0x8000000000000000)
    : Fault (negation operand) (.negationOverflow least)
  | zero {left right : Arithmetic} (zero : right.exact = 0)
    : Fault (operation left .divide right) .divisionByZero
  | overflow {left right : Arithmetic} {symbol : Operation} {a b : Integer}
    (first : a.toInt = left.exact) (second : b.toInt = right.exact)
    (allowed : symbol.Allows right.exact) (beyond : ¬ Fits (operation left symbol right).exact)
    : Fault (operation left symbol right) (.integerOverflow a symbol.operator.symbol b)

-----------------------------------------------------------------------------------------
-- One operation
-----------------------------------------------------------------------------------------

open Evaluation

variable {tree part : Arithmetic}

theorem fits_toInt (a : Integer) : Fits a.toInt :=
  ⟨a.lower, a.upper⟩

/-- What fits is an integer of the language. -/
theorem Fits.exists_integer {n : Int} (fits : Fits n)
    : ∃ value : Integer, Integer.ofInt? n = some value ∧ value.toInt = n :=
  ⟨_, Integer.ofInt?_of_bounds fits.1 fits.2, rfl⟩

theorem ofInt?_of_not_fits {n : Int} (beyond : ¬ Fits n) : Integer.ofInt? n = none :=
  dif_neg beyond

/-- Operations are exact on integers of the language, apart from a division by zero. -/
theorem apply_operation (symbol : Operation) (a : Integer) {b : Integer}
    (allowed : symbol.Allows b.toInt)
    : symbol.operator.apply (.integer a) (.integer b)
      = symbol.operator.fitting a b (Integer.ofInt? (symbol.exact a.toInt b.toInt)) := by
  cases symbol with
  | add | subtract | multiply => rfl
  | divide =>
      have nonzero := allowed rfl
      simp only [BinaryOperator.apply, BinaryOperator.applyIntegers, Operation.operator,
        Operation.exact, if_neg nonzero, Integer.div?_eq nonzero]

/-- Only the least integer has no negation. -/
theorem exists_fault_negate {operand : Arithmetic} {n : Integer} (value : n.toInt = operand.exact)
    (fails : ¬ (negation operand).Succeeds)
    : ∃ error,
        Fault (negation operand) error
        ∧ UnaryOperator.apply .negate (.integer n) = .error error := by
  have beyond : ¬ Fits (-n.toInt) := by
    rw [value]
    exact fun fits => fails ⟨trivial, fits⟩
  have lower := n.lower
  have upper := n.upper
  have least : n.toInt = -0x8000000000000000 := by
    unfold Fits at beyond
    omega
  refine ⟨_, .negation value (value.symm.trans least), ?_⟩
  simp [UnaryOperator.apply, Integer.neg?, ofInt?_of_not_fits beyond]

/-- An operation on integers of the language divides by zero, or its result does not fit. -/
theorem exists_fault_apply {left right : Arithmetic} {symbol : Operation} {a b : Integer}
    (first : a.toInt = left.exact) (second : b.toInt = right.exact)
    (fails : ¬ (operation left symbol right).Succeeds)
    : ∃ error,
        Fault (operation left symbol right) error
        ∧ symbol.operator.apply (.integer a) (.integer b) = .error error := by
  by_cases allowed : symbol.Allows right.exact
  · have beyond : ¬ Fits (symbol.exact left.exact right.exact) := fun fits =>
      fails ⟨allowed, fits⟩
    refine ⟨_, .overflow first second allowed beyond, ?_⟩
    rw [apply_operation symbol a (second ▸ allowed), first, second, ofInt?_of_not_fits beyond]
    rfl
  · obtain ⟨rfl, zero⟩ : symbol = .divide ∧ right.exact = 0 := by
      simpa [Operation.Allows] using allowed
    refine ⟨_, .zero zero, ?_⟩
    simp [Operation.operator, BinaryOperator.apply, BinaryOperator.applyIntegers, second, zero]

-----------------------------------------------------------------------------------------
-- Expressions
-----------------------------------------------------------------------------------------

theorem failing?_eq_none : tree.failing? = none ↔ ∀ part ∈ tree.parts, part.Succeeds := by
  simp [failing?]

theorem failing?_negation {operand : Arithmetic}
    : (negation operand).failing? = some part
      ↔ operand.failing? = some part
        ∨ operand.failing? = none
          ∧ ¬ (negation operand).Succeeds ∧ negation operand = part := by
  simp [failing?, parts, List.find?_append, Option.or_eq_some_iff]

theorem failing?_operation {left right : Arithmetic} {symbol : Operation}
    : (operation left symbol right).failing? = some part
      ↔ left.failing? = some part
        ∨ left.failing? = none
          ∧ (right.failing? = some part
            ∨ right.failing? = none
              ∧ ¬ (operation left symbol right).Succeeds
              ∧ operation left symbol right = part) := by
  simp [failing?, parts, List.find?_append, Option.or_eq_some_iff]

variable (limit : Nat) (scope : Scope) (depth : Nat) (store : Store)

/-- If every part succeeds, an expression yields what it denotes. By induction on the expression:
its operands yield what they denote.
-/
theorem exists_value (succeeds : tree.failing? = none)
    : ∃ value : Integer,
        value.toInt = tree.exact
        ∧ evaluateExpression limit tree.expression scope depth store
          = yield (.integer value) store := by
  rw [failing?_eq_none] at succeeds
  induction tree with
  | integer value => exact ⟨value, rfl, by simp [expression]⟩
  | negation operand ih =>
      obtain ⟨-, fits⟩ : (negation operand).Succeeds := succeeds _ (by simp [parts])
      obtain ⟨n, same, found⟩ := ih fun part inside => succeeds part (by simp [parts, inside])
      obtain ⟨value, negated, exact⟩ := fits.exists_integer
      refine ⟨value, exact, ?_⟩
      rw [Arithmetic.exact, ← same] at negated
      simp [expression, found, UnaryOperator.apply, Integer.neg?, negated]
  | operation left symbol right left_ih right_ih =>
      obtain ⟨allowed, fits⟩ : (operation left symbol right).Succeeds :=
        succeeds _ (by simp [parts])
      obtain ⟨a, first, left_found⟩ :=
        left_ih fun part inside => succeeds part (by simp [parts, inside])
      obtain ⟨b, second, right_found⟩ :=
        right_ih fun part inside => succeeds part (by simp [parts, inside])
      obtain ⟨value, made, exact⟩ := fits.exists_integer
      refine ⟨value, exact, ?_⟩
      rw [Allowed, ← second] at allowed
      rw [Arithmetic.exact, ← first, ← second] at made
      simp [expression, left_found, right_found, apply_operation symbol a allowed, made,
        BinaryOperator.fitting]

/-- An expression fails with the error of the first part that does not succeed. By induction on the
expression: if the part is not within an operand, the operands yield what they denote.
-/
theorem exists_fault (first : tree.failing? = some part)
    : ∃ error,
        Fault part error
        ∧ evaluateExpression limit tree.expression scope depth store
          = ⟨.error (.failure error), store⟩ := by
  induction tree with
  | integer value =>
      have fits : (integer value).Succeeds := ⟨trivial, fits_toInt value⟩
      simp [failing?, parts, fits] at first
  | negation operand ih =>
      rcases failing?_negation.mp first with inside | ⟨succeeds, fails, rfl⟩
      · obtain ⟨error, fault, found⟩ := ih inside
        exact ⟨error, fault, by simp [expression, found]⟩
      · obtain ⟨n, same, found⟩ := exists_value limit scope depth store succeeds
        obtain ⟨error, fault, applied⟩ := exists_fault_negate same fails
        exact ⟨error, fault, by simp [expression, found, applied]⟩
  | operation left symbol right left_ih right_ih =>
      rcases failing?_operation.mp first with
        inside | ⟨left_succeeds, inside | ⟨right_succeeds, fails, rfl⟩⟩
      · obtain ⟨error, fault, found⟩ := left_ih inside
        exact ⟨error, fault, by simp [expression, found]⟩
      · obtain ⟨a, -, left_found⟩ := exists_value limit scope depth store left_succeeds
        obtain ⟨error, fault, found⟩ := right_ih inside
        exact ⟨error, fault, by simp [expression, left_found, found]⟩
      · obtain ⟨a, first, left_found⟩ := exists_value limit scope depth store left_succeeds
        obtain ⟨b, second, right_found⟩ := exists_value limit scope depth store right_succeeds
        obtain ⟨error, fault, applied⟩ := exists_fault_apply first second fails
        exact ⟨error, fault, by simp [expression, left_found, right_found, applied]⟩

/-- Arithmetic is exact, or fails with the error of the first part that does not succeed. Division
never fails behind its first step: once there is a quotient, there is a remainder, and a next lower
quotient where the quotient has been rounded up.
-/
theorem evaluateExpression_arithmetic (tree : Arithmetic)
    : ((∀ part ∈ tree.parts, part.Succeeds)
        → ∃ value : Integer,
            value.toInt = tree.exact
            ∧ evaluateExpression limit tree.expression scope depth store
              = yield (.integer value) store)
      ∧ (∀ part,
          tree.parts.find? (fun part => ¬ part.Succeeds) = some part
          → ∃ error,
              Fault part error
              ∧ evaluateExpression limit tree.expression scope depth store
                = ⟨.error (.failure error), store⟩)
      ∧ ∀ a b quotient : Integer,
          a.quotient? b = some quotient
          → ∃ remainder,
              a.remainder? b = some remainder
              ∧ (Integer.isRoundedUp a b remainder = true
                  → ∃ lower, quotient.sub? ⟨1, by decide, by decide⟩ = some lower) := by
  refine ⟨fun succeeds => ?_, fun part first => ?_, fun a b quotient divided => ?_⟩
  · exact exists_value limit scope depth store (failing?_eq_none.mpr succeeds)
  · exact exists_fault limit scope depth store first
  · obtain ⟨remainder, left, -⟩ := Integer.exists_remainder divided
    refine ⟨remainder, left, fun up => ?_⟩
    obtain ⟨lower, found, -⟩ := Integer.exists_lower divided left up
    exact ⟨lower, found⟩

end Arithmetic

end Guion
