import Guion.Program.Basic

/-! The parts of a tree are smaller than the tree.

These are the steps by which a recursion on programs goes down.
-/

namespace Guion.Size

open Expression Statement

theorem operand_lt_unary (operator : UnaryOperator) (operand : Expression)
    : sizeOf operand < sizeOf (unary operator operand) := by
  simp only [unary.sizeOf_spec]
  omega

theorem left_lt_binary (left : Expression) (operator : BinaryOperator) (right : Expression)
    : sizeOf left < sizeOf (binary left operator right) := by
  simp only [binary.sizeOf_spec]
  omega

theorem right_lt_binary (left : Expression) (operator : BinaryOperator) (right : Expression)
    : sizeOf right < sizeOf (binary left operator right) := by
  simp only [binary.sizeOf_spec]
  omega

theorem condition_lt_conditional (condition : Expression) (consequence : Block)
    (alternative : Option Block)
    : sizeOf condition < sizeOf (conditional condition consequence alternative) := by
  simp only [conditional.sizeOf_spec]
  omega

theorem consequence_lt_conditional (condition : Expression) (consequence : Block)
    (alternative : Option Block)
    : sizeOf consequence < sizeOf (conditional condition consequence alternative) := by
  simp only [conditional.sizeOf_spec]
  omega

theorem alternative_lt_conditional (condition : Expression) (consequence alternative : Block)
    : sizeOf alternative < sizeOf (conditional condition consequence (some alternative)) := by
  simp only [conditional.sizeOf_spec, Option.some.sizeOf_spec]
  omega

theorem body_lt_function (parameters : List String) (body : Block)
    : sizeOf body < sizeOf (function parameters body) := by
  simp only [function.sizeOf_spec]
  omega

theorem callee_lt_call (callee : Expression) (arguments : List Expression)
    : sizeOf callee < sizeOf (call callee arguments) := by
  simp only [call.sizeOf_spec]
  omega

theorem arguments_lt_call (callee : Expression) (arguments : List Expression)
    : sizeOf arguments < sizeOf (call callee arguments) := by
  simp only [call.sizeOf_spec]
  omega

theorem value_lt_declare (name : String) (value : Expression)
    : sizeOf value < sizeOf (declare name value) := by
  simp only [declare.sizeOf_spec]
  omega

theorem value_lt_returning (value : Expression) : sizeOf value < sizeOf (returning value) := by
  simp only [returning.sizeOf_spec]
  omega

theorem value_lt_expression (value : Expression)
    : sizeOf value < sizeOf (Statement.expression value) := by
  simp only [expression.sizeOf_spec]
  omega

variable {α β : Type} [SizeOf α] [SizeOf β]

theorem first_lt_cons (first : α) (rest : List α) : sizeOf first < sizeOf (first :: rest) := by
  simp only [List.cons.sizeOf_spec]
  omega

theorem rest_lt_cons (first : α) (rest : List α) : sizeOf rest < sizeOf (first :: rest) := by
  simp only [List.cons.sizeOf_spec]
  omega

/-- A part of the first element is smaller than the list. -/
theorem part_lt_cons {part : α} {first : β} (smaller : sizeOf part < sizeOf first)
    (rest : List β)
    : sizeOf part < sizeOf (first :: rest) :=
  Nat.lt_trans smaller (first_lt_cons first rest)

end Guion.Size
