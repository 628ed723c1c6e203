import Guion.Value.Basic

/-! What the operators and the builtin functions do to values. -/

namespace Guion

/-- Only integers can be negated; any value can be denied. -/
def UnaryOperator.apply (operator : UnaryOperator) (operand : Value)
    : Except RuntimeError Value :=
  match operator with
  | .not => .ok (.boolean (!operand.isTruthy))
  | .negate =>
    match operand with
    | .integer n =>
      match n.neg? with
      | some negated => .ok (.integer negated)
      | none => .error (.negationOverflow n)
    | other => .error (.unknownUnary operator.symbol other.kind)

namespace BinaryOperator

/-- An operation that fits, as a value. -/
def fitting (operator : BinaryOperator) (a b : Integer) (result : Option Integer)
    : Except RuntimeError Value :=
  match result with
  | some n => .ok (.integer n)
  | none => .error (.integerOverflow a operator.symbol b)

/-- Arithmetic is exact or fails. Division rounds toward negative infinity. -/
def applyIntegers (operator : BinaryOperator) (a b : Integer) : Except RuntimeError Value :=
  match operator with
  | .add => operator.fitting a b (a.add? b)
  | .subtract => operator.fitting a b (a.sub? b)
  | .multiply => operator.fitting a b (a.mul? b)
  | .divide =>
    if b.toInt = 0 then .error .divisionByZero else operator.fitting a b (a.div? b)
  | .equal => .ok (.boolean (a = b))
  | .notEqual => .ok (.boolean (a ≠ b))
  | .less => .ok (.boolean (a.toInt < b.toInt))
  | .greater => .ok (.boolean (b.toInt < a.toInt))

/-- Strings can be joined and compared for equality. -/
def applyStrings (operator : BinaryOperator) (a b : String) : Except RuntimeError Value :=
  match operator with
  | .add => .ok (.string (a ++ b))
  | .equal => .ok (.boolean (a = b))
  | .notEqual => .ok (.boolean (a ≠ b))
  | _ => .error (.unknownBinary .string operator.symbol .string)

/-- Any two values can be compared for equality. -/
def apply (operator : BinaryOperator) (left right : Value) : Except RuntimeError Value :=
  match left, right with
  | .integer a, .integer b => operator.applyIntegers a b
  | .string a, .string b => operator.applyStrings a b
  | left, right =>
    match operator with
    | .equal => .ok (.boolean (left.same right))
    | .notEqual => .ok (.boolean (!left.same right))
    | _ =>
      if left.kind = right.kind then
        .error (.unknownBinary left.kind operator.symbol right.kind)
      else
        .error (.typeMismatch left.kind operator.symbol right.kind)

end BinaryOperator

/-- The value of a call with some arguments. -/
def Builtin.apply (builtin : Builtin) (arguments : List Value) : Except RuntimeError Value :=
  match builtin, arguments with
  | .length, [.string s] => .ok (.integer (.ofNat s.length))
  | .length, [other] => .error (.unsupportedArgument builtin other.kind)
  | .length, arguments => .error (.wrongArgumentCount 1 arguments.length)

end Guion
