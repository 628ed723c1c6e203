import Guion.Program.Basic
import Guion.Token.Basic

/-! The signs of the operators, and how tightly they bind. -/

namespace Guion

/-- How tightly an operator binds, from the loosest. -/
inductive Precedence where
  | lowest
  | equality
  | comparison
  | sum
  | product
  | unary
deriving DecidableEq, Repr

namespace Precedence

def rank : Precedence → Nat
  | .lowest => 0
  | .equality => 1
  | .comparison => 2
  | .sum => 3
  | .product => 4
  | .unary => 5

instance : LT Precedence := ⟨fun a b => a.rank < b.rank⟩

instance (a b : Precedence) : Decidable (a < b) :=
  inferInstanceAs (Decidable (a.rank < b.rank))

end Precedence

namespace UnaryOperator

/-- The operator that a token stands for in front of an operand. -/
def ofKind? : Token.Kind → Option UnaryOperator
  | .bang => some .not
  | .minus => some .negate
  | _ => none

end UnaryOperator

namespace BinaryOperator

/-- The operator that a token stands for between two operands. -/
def ofKind? : Token.Kind → Option BinaryOperator
  | .plus => some .add
  | .minus => some .subtract
  | .star => some .multiply
  | .slash => some .divide
  | .equalEqual => some .equal
  | .bangEqual => some .notEqual
  | .less => some .less
  | .greater => some .greater
  | _ => none

def precedence : BinaryOperator → Precedence
  | .add | .subtract => .sum
  | .multiply | .divide => .product
  | .equal | .notEqual => .equality
  | .less | .greater => .comparison

end BinaryOperator

end Guion
