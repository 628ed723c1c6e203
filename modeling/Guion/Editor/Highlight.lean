import Guion.Token.Lexer

/-! The colours of a line in the editor. -/

namespace Guion.Editor

open Text

inductive Color where
  | lightBlue
  | yellow
  | white
  | darkGray
  | red
deriving DecidableEq, Repr

namespace Color

def name : Color → String
  | .lightBlue => "LightBlue"
  | .yellow => "Yellow"
  | .white => "White"
  | .darkGray => "DarkGray"
  | .red => "Red"

/-- The colour of the tokens of a kind. -/
def ofKind (kind : Token.Kind) : Color :=
  if kind.isReserved then
    .lightBlue
  else
    match kind with
    | .integer | .string => .yellow
    | .identifier | .endOfInput => .white
    | .illegal => .red
    | _ => .darkGray

end Color

/-- A stretch of a line in one colour. -/
structure Part where
  color : Color
  text : List Char
deriving DecidableEq, Repr

/-- The blanks at the cursor, if there are any. -/
def gap (lexer : Lexer) : List Part :=
  let blanks := lexer.rest.takeWhile isBlank
  if blanks.isEmpty then [] else [⟨.white, blanks⟩]

/-- The parts of what is left of a line, behind those that are `painted`, the last one first. -/
def paint (lexer : Lexer) (painted : List Part) : List Part :=
  match _step : lexer.step? with
  | none => (gap lexer ++ painted).reverse
  | some (token, later) =>
    let lexeme := Lexeme.scan (lexer.rest.dropWhile isBlank)
    paint later (⟨.ofKind token.kind, lexeme.text⟩ :: (gap lexer ++ painted))
termination_by lexer.rest.length
decreasing_by exact Lexer.length_step _step

/-- A line in parts: its tokens in the colours of their kinds, and the blanks between them. -/
def highlight (line : String) : List Part :=
  paint (Lexer.ofString line) []

end Guion.Editor
