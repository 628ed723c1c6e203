import Guion.Integer

/-! Programs: statements and expressions as trees. -/

namespace Guion

/-- The operators in front of one operand. -/
inductive UnaryOperator where
  | not
  | negate
deriving DecidableEq, Repr

namespace UnaryOperator

def symbol : UnaryOperator → String
  | .not => "!"
  | .negate => "-"

def all : List UnaryOperator := [.not, .negate]

/-- The operator that is written so. -/
def ofSymbol? (symbol : String) : Option UnaryOperator :=
  all.find? fun operator => operator.symbol == symbol

end UnaryOperator

/-- The operators between two operands. -/
inductive BinaryOperator where
  | add
  | subtract
  | multiply
  | divide
  | equal
  | notEqual
  | less
  | greater
deriving DecidableEq, Repr

namespace BinaryOperator

def symbol : BinaryOperator → String
  | .add => "+"
  | .subtract => "-"
  | .multiply => "*"
  | .divide => "/"
  | .equal => "=="
  | .notEqual => "!="
  | .less => "<"
  | .greater => ">"

def all : List BinaryOperator :=
  [.add, .subtract, .multiply, .divide, .equal, .notEqual, .less, .greater]

/-- The operator that is written so. -/
def ofSymbol? (symbol : String) : Option BinaryOperator :=
  all.find? fun operator => operator.symbol == symbol

end BinaryOperator

mutual

/-- Expressions. Both branches of a conditional and the body of a function are blocks. -/
inductive Expression where
  | identifier (name : String)
  | integer (value : Integer)
  | boolean (value : Bool)
  | string (value : String)
  | unary (operator : UnaryOperator) (operand : Expression)
  | binary (left : Expression) (operator : BinaryOperator) (right : Expression)
  | conditional (condition : Expression) (consequence : List Statement)
      (alternative : Option (List Statement))
  | function (parameters : List String) (body : List Statement)
  | call (callee : Expression) (arguments : List Expression)

/-- Statements: the declaration of a variable, the end of a function with a value, and an expression
for its effect.
-/
inductive Statement where
  | declare (name : String) (value : Expression)
  | returning (value : Expression)
  | expression (value : Expression)

end

instance : Inhabited Expression := ⟨.boolean false⟩

instance : Inhabited Statement := ⟨.expression default⟩

/-- Statements in braces. -/
abbrev Block := List Statement

/-- A source text as a tree. -/
abbrev Program := List Statement

end Guion
