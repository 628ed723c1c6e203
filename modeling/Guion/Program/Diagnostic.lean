import Guion.Token.Basic

/-! What is wrong with a source text that is not a program, and where. -/

namespace Guion

/-- Why a statement cannot be read. -/
inductive ParseError where
  | unexpected (expected found : Token.Kind)
  | noOperand (literal : String)
  | noOperator (literal : String)
  | integerTooLarge (literal : String)
deriving DecidableEq, Repr

namespace ParseError

def message : ParseError → String
  | .unexpected expected found =>
    s!"expected next token to be {expected.description}, got {found.description} instead"
  | .noOperand literal => s!"no parse function found for '{literal}'"
  | .noOperator literal => s!"no infix parse function found for '{literal}'"
  | .integerTooLarge literal => s!"could not parse {literal} as integer"

/-- The report on one error. -/
def report (error : ParseError) : String :=
  "parser error: " ++ error.message

/-- The report on several errors has a line for each. -/
def reportAll (errors : List ParseError) : String :=
  String.intercalate "\n" (errors.map report)

end ParseError

/-- A position in a source text: its tokens from there on. The token at its end is not listed, and
stands at every position behind the others.
-/
abbrev Position := List Token

namespace Position

/-- The kind of the token at a position. -/
def kind : Position → Token.Kind
  | [] => .endOfInput
  | token :: _ => token.kind

/-- The literal of the token at a position. -/
def literal : Position → String
  | [] => ""
  | token :: _ => token.literal

/-- The kind of the token behind the one at a position. -/
def nextKind (position : Position) : Token.Kind :=
  kind position.tail

end Position

/-- An error with the position of the token on which reading stopped. -/
structure Diagnostic where
  error : ParseError
  position : Position
deriving DecidableEq

end Guion
