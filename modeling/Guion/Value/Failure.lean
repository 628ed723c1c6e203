import Guion.Program.Basic

/-! What can go wrong while a program runs. -/

namespace Guion

/-- The kinds of value. -/
inductive Value.Kind where
  | integer
  | boolean
  | string
  | function
  | builtin
  | error
  | null
deriving DecidableEq, Repr

namespace Value.Kind

def all : List Kind :=
  [.integer, .boolean, .string, .function, .builtin, .error, .null]

theorem mem_all (kind : Kind) : kind ∈ all := by
  cases kind <;> decide

def name : Kind → String
  | .integer => "INTEGER"
  | .boolean => "BOOLEAN"
  | .string => "STRING"
  | .function => "FUNCTION"
  | .builtin => "BUILTIN"
  | .error => "ERROR"
  | .null => "NULL"

end Value.Kind

/-- The functions that every program can use without declaring them. -/
inductive Builtin where
  | length
deriving DecidableEq, Repr

namespace Builtin

def all : List Builtin := [.length]

theorem mem_all (builtin : Builtin) : builtin ∈ all := by
  cases builtin
  decide

def name : Builtin → String
  | .length => "longitud"

/-- The builtin function of a name. -/
def ofName? (name : String) : Option Builtin :=
  all.find? fun builtin => builtin.name == name

end Builtin

/-- Why a program stops before its end. Operators are named by their signs. -/
inductive RuntimeError where
  | identifierNotFound (name : String)
  | typeMismatch (left : Value.Kind) (sign : String) (right : Value.Kind)
  | unknownUnary (sign : String) (operand : Value.Kind)
  | unknownBinary (left : Value.Kind) (sign : String) (right : Value.Kind)
  | notAFunction (kind : Value.Kind)
  | wrongArgumentCount (expected found : Nat)
  | divisionByZero
  | negationOverflow (operand : Integer)
  | integerOverflow (left : Integer) (sign : String) (right : Integer)
  | callDepthExceeded (limit : Nat)
  | unsupportedArgument (builtin : Builtin) (found : Value.Kind)
deriving DecidableEq, Repr

namespace RuntimeError

def message : RuntimeError → String
  | .identifierNotFound name => s!"identifier not found: {name}"
  | .typeMismatch left sign right => s!"type mismatch: {left.name} {sign} {right.name}"
  | .unknownUnary sign operand => s!"unknown operator: {sign}{operand.name}"
  | .unknownBinary left sign right => s!"unknown operator: {left.name} {sign} {right.name}"
  | .notAFunction kind => s!"not a function: {kind.name}"
  | .wrongArgumentCount expected found =>
    s!"wrong number of arguments: expected {expected}, got {found}"
  | .divisionByZero => "division by zero"
  | .negationOverflow operand => s!"integer overflow: -({operand.text})"
  | .integerOverflow left sign right => s!"integer overflow: {left.text} {sign} {right.text}"
  | .callDepthExceeded limit => s!"maximum call depth of {limit} exceeded"
  | .unsupportedArgument builtin found =>
    s!"unsupported argument for {builtin.name}: got {found.name}"

/-- The report on an error. -/
def report (error : RuntimeError) : String :=
  "runtime error: " ++ error.message

end RuntimeError

end Guion
