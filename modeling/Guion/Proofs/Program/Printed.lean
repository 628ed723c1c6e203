import Guion.Program.Text
import Guion.Proofs.Parsing.Validity
import Guion.Proofs.Token.Shape

/-! The tokens of printed programs.

The pieces of a printed program are kept apart by spaces and signs, so its text has the tokens from
which it was put together. Only a string literal may come out as something else: an illegal token.
-/

namespace Guion

open Lexer

/-- The token that stands for an operator in front of an operand. -/
def UnaryOperator.kind : UnaryOperator → Token.Kind
  | .not => .bang
  | .negate => .minus

/-- The token that stands for an operator between two operands. -/
def BinaryOperator.kind : BinaryOperator → Token.Kind
  | .add => .plus
  | .subtract => .minus
  | .multiply => .star
  | .divide => .slash
  | .equal => .equalEqual
  | .notEqual => .bangEqual
  | .less => .less
  | .greater => .greater

theorem UnaryOperator.ofKind?_kind (operator : UnaryOperator)
    : ofKind? operator.kind = some operator := by
  cases operator <;> rfl

theorem BinaryOperator.ofKind?_kind (operator : BinaryOperator)
    : ofKind? operator.kind = some operator := by
  cases operator <;> rfl

namespace Printed

/-- The token of a sign or a reserved word. -/
def sign (kind : Token.Kind) : Shape :=
  (kind, kind.spelling?.getD "")

/-- Names with commas between them. -/
def parameters : List String → List Shape
  | [] => []
  | [name] => [(.identifier, name)]
  | name :: next :: names => (.identifier, name) :: sign .comma :: parameters (next :: names)

mutual

/-- The tokens of the text of an expression. -/
def expression : Expression → List Shape
  | .identifier name => [(.identifier, name)]
  | .integer value => [(.integer, value.text)]
  | .boolean true => [sign .trueWord]
  | .boolean false => [sign .falseWord]
  | .string value => [quoted value]
  | .unary operator operand =>
      sign .leftParen :: sign operator.kind :: (expression operand ++ [sign .rightParen])
  | .binary left operator right =>
      sign .leftParen
        :: (expression left ++ sign operator.kind :: (expression right ++ [sign .rightParen]))
  | .conditional condition consequence none =>
      sign .ifWord :: sign .leftParen
        :: (expression condition ++ sign .rightParen :: sign .leftBrace
          :: (statements consequence ++ [sign .rightBrace]))
  | .conditional condition consequence (some alternative) =>
      sign .ifWord :: sign .leftParen
        :: (expression condition ++ sign .rightParen :: sign .leftBrace
          :: (statements consequence ++ sign .rightBrace :: sign .elseWord :: sign .leftBrace
            :: (statements alternative ++ [sign .rightBrace])))
  | .function names code =>
      sign .functionWord :: sign .leftParen
        :: (parameters names ++ sign .rightParen :: sign .leftBrace
          :: (statements code ++ [sign .rightBrace]))
  | .call callee es =>
      expression callee ++ sign .leftParen :: (arguments es ++ [sign .rightParen])

/-- The tokens of the text of a statement in front of its semicolon. -/
def statement : Statement → List Shape
  | .declare name value =>
      sign .letWord :: (.identifier, name) :: sign .equal :: expression value
  | .returning value => sign .returnWord :: expression value
  | .expression value => expression value

/-- The tokens of the texts of statements, each with its semicolon. -/
def statements : List Statement → List Shape
  | [] => []
  | s :: ss => statement s ++ sign .semicolon :: statements ss

/-- The tokens of the texts of arguments, with commas between them. -/
def arguments : List Expression → List Shape
  | [] => []
  | [e] => expression e
  | e :: next :: es => expression e ++ sign .comma :: arguments (next :: es)

end

-----------------------------------------------------------------------------------------
-- Signs and reserved words
-----------------------------------------------------------------------------------------

variable {cs rest : List Char}

theorem apart_cons {c : Char} (other : isWordChar c = false) : Apart (c :: cs) := by
  intro d found
  cases found
  exact other

/-- Brackets, commas and semicolons are tokens, whatever stands behind them. -/
theorem shapes_bracket {c : Char} (kind : Token.Kind)
    (bracket
      : (c, kind) ∈ [('(', .leftParen), (')', .rightParen), ('{', .leftBrace), ('}', .rightBrace),
          (',', .comma), (';', .semicolon)])
    (cs : List Char)
    : shapes (c :: cs) = sign kind :: shapes cs := by
  simp only [List.mem_cons, Prod.mk.injEq, List.not_mem_nil, or_false] at bracket
  rcases bracket with ⟨rfl, rfl⟩ | ⟨rfl, rfl⟩ | ⟨rfl, rfl⟩ | ⟨rfl, rfl⟩ | ⟨rfl, rfl⟩ | ⟨rfl, rfl⟩
  all_goals exact shapes_sign rfl fun _ => by decide

/-- A reserved word is a token unless it goes on. -/
theorem shapes_reserved (kind : Token.Kind) {word : String} {rest : List Char}
    (reserved : (kind, word) ∈ Token.Kind.reserved.map fun kind => sign kind) (apart : Apart rest)
    : shapes (word.toList ++ rest) = sign kind :: shapes rest := by
  simp only [Token.Kind.reserved, List.map_cons, List.map_nil, sign, Token.Kind.spelling?,
    Option.getD_some, List.mem_cons, Prod.mk.injEq, List.not_mem_nil, or_false] at reserved
  rcases reserved with
    ⟨rfl, rfl⟩ | ⟨rfl, rfl⟩ | ⟨rfl, rfl⟩ | ⟨rfl, rfl⟩ | ⟨rfl, rfl⟩ | ⟨rfl, rfl⟩ | ⟨rfl, rfl⟩
  all_goals exact shapes_word rfl (by decide) (List.all_eq_true.mp (by decide)) apart

/-- An operator stands in front of its operand, which does not start with an equals sign. -/
theorem shapes_unaryOperator (operator : UnaryOperator) (single : cs.head? ≠ some '=')
    : shapes (operator.symbol.toList ++ cs) = sign operator.kind :: shapes cs := by
  cases operator <;> exact shapes_sign rfl fun equals => absurd equals single

/-- An operator between two operands has a space behind it. -/
theorem shapes_binaryOperator (operator : BinaryOperator) (cs : List Char)
    : shapes (operator.symbol.toList ++ ' ' :: cs) = sign operator.kind :: shapes cs := by
  rw [← shapes_space cs]
  cases operator with
  | equal | notEqual => exact shapes_cons (by decide)
  | _ => exact shapes_sign rfl (by simp)

/-- The equals sign of a declaration has a space behind it. -/
theorem shapes_equal (cs : List Char) : shapes ('=' :: ' ' :: cs) = sign .equal :: shapes cs := by
  rw [← shapes_space cs]
  exact shapes_sign rfl (by simp)

-----------------------------------------------------------------------------------------
-- The tokens of printed texts
-----------------------------------------------------------------------------------------

open Printing

/-- No expression starts with an equals sign. Only calls start with another expression. -/
theorem head_text_ne (e : Expression) (valid : Valid.expression e) (cs : List Char)
    : (e.text.toList ++ cs).head? ≠ some '=' := by
  match e, valid with
  | .identifier name, valid =>
      obtain ⟨c, rest, spelled, letter, -⟩ := valid.spelled
      rw [Expression.text_identifier, spelled]
      intro equals
      cases equals
      exact absurd letter (by decide)
  | .integer value, valid =>
      have digits := (Integer.isNumeral_text valid).digits
      rw [Expression.text_integer]
      cases text : value.text.toList with
      | nil =>
          rw [Integer.toList_text valid] at text
          exact absurd text Nat.toDigits_ne_nil
      | cons c rest =>
          intro equals
          cases equals
          exact absurd (digits _ (text ▸ List.mem_cons_self ..)) (by decide)
  | .boolean value, _ => cases value <;> simp
  | .string value, _ => simp [Text.Quoted.quote]
  | .unary .., _ | .binary .., _ | .conditional .., _ | .function .., _ => simp
  | .call callee es, valid =>
      have front := head_text_ne callee valid.1 ('(' :: ((argumentsText es).toList ++ ')' :: cs))
      simpa using front

/-- Names with commas between them, in front of a parenthesis. -/
theorem shapes_parameters (names : List String) (named : ∀ name ∈ names, IsName name)
    (rest : List Char)
    : shapes ((String.intercalate ", " names).toList ++ ')' :: rest)
      = parameters names ++ sign .rightParen :: shapes rest := by
  match names with
  | [] =>
      rw [String.intercalate_nil]
      exact shapes_bracket .rightParen (by decide) rest
  | [name] =>
      have single := named name (List.mem_singleton_self _)
      rw [String.intercalate_singleton, shapes_name single (apart_cons (by decide)),
        shapes_bracket .rightParen (by decide)]
      rfl
  | name :: next :: names =>
      rw [List.forall_mem_cons] at named
      have others := shapes_parameters (next :: names) named.2 rest
      have text : (String.intercalate ", " (name :: next :: names)).toList ++ ')' :: rest
          = name.toList
            ++ ',' :: ' ' :: ((String.intercalate ", " (next :: names)).toList ++ ')' :: rest) := by
        simp
      rw [text, shapes_name named.1 (apart_cons (by decide)), shapes_bracket .comma (by decide),
        shapes_space, others]
      rfl

/-- A block has its statements between braces and spaces. -/
theorem shapes_block {ss : List Statement}
    (inner : ∀ rest, shapes ((Program.text ss).toList ++ rest) = statements ss ++ shapes rest)
    (rest : List Char)
    : shapes ((blockText ss).toList ++ rest)
      = sign .leftBrace :: (statements ss ++ sign .rightBrace :: shapes rest) := by
  cases ss with
  | nil =>
      have text : (blockText []).toList ++ rest = '{' :: ' ' :: '}' :: rest := by simp [blockText]
      rw [text, shapes_bracket .leftBrace (by decide), shapes_space,
        shapes_bracket .rightBrace (by decide)]
      rfl
  | cons s ss =>
      have text : (blockText (s :: ss)).toList ++ rest
          = '{' :: ' ' :: ((Program.text (s :: ss)).toList ++ ' ' :: '}' :: rest) := by
        simp [blockText]
      rw [text, shapes_bracket .leftBrace (by decide), shapes_space, inner, shapes_space,
        shapes_bracket .rightBrace (by decide)]

mutual

/-- The text of a valid expression has its tokens, unless the text behind goes on with a word. -/
theorem shapes_expression (e : Expression) (valid : Valid.expression e) (rest : List Char)
    (apart : Apart rest)
    : shapes (e.text.toList ++ rest) = expression e ++ shapes rest := by
  match e, valid with
  | .identifier name, valid =>
      rw [Expression.text_identifier, expression]
      exact shapes_name valid apart
  | .integer value, valid =>
      have digits := (Integer.isNumeral_text valid).digits
      rw [Expression.text_integer, expression]
      cases text : value.text.toList with
      | nil =>
          rw [Integer.toList_text valid] at text
          exact absurd text Nat.toDigits_ne_nil
      | cons c cs =>
          rw [text] at digits
          rw [shapes_digits digits apart, ← text, String.ofList_toList]
          rfl
  | .boolean true, _ =>
      rw [Expression.text_boolean, expression]
      exact shapes_reserved .trueWord (by decide) apart
  | .boolean false, _ =>
      rw [Expression.text_boolean, expression]
      exact shapes_reserved .falseWord (by decide) apart
  | .string value, _ =>
      rw [Expression.text_string, expression]
      exact shapes_quote value rest
  | .unary operator operand, valid =>
      have inner := shapes_expression operand valid (')' :: rest) (apart_cons (by decide))
      have text : (Expression.unary operator operand).text.toList ++ rest
          = '(' :: (operator.symbol.toList ++ (operand.text.toList ++ ')' :: rest)) := by
        simp
      rw [text, shapes_bracket .leftParen (by decide),
        shapes_unaryOperator operator (head_text_ne operand valid _), inner,
        shapes_bracket .rightParen (by decide), expression]
      simp
  | .binary left operator right, valid =>
      have front := fun rest =>
        shapes_expression left valid.1 (' ' :: rest) (apart_cons (by decide))
      have behind := shapes_expression right valid.2 (')' :: rest) (apart_cons (by decide))
      have text : (Expression.binary left operator right).text.toList ++ rest
          = '(' :: (left.text.toList
            ++ ' ' :: (operator.symbol.toList ++ ' ' :: (right.text.toList ++ ')' :: rest))) := by
        simp
      rw [text, shapes_bracket .leftParen (by decide), front, shapes_space,
        shapes_binaryOperator, behind, shapes_bracket .rightParen (by decide), expression]
      simp
  | .conditional condition consequence none, valid =>
      have tested := fun rest =>
        shapes_expression condition valid.1 (')' :: rest) (apart_cons (by decide))
      have taken := shapes_block (shapes_statements consequence valid.2) rest
      have text : (Expression.conditional condition consequence none).text.toList ++ rest
          = "si".toList ++ ' ' :: '(' :: (condition.text.toList
            ++ ')' :: ' ' :: ((blockText consequence).toList ++ rest)) := by
        simp
      rw [text, shapes_reserved .ifWord (by decide) (apart_cons (by decide)), shapes_space,
        shapes_bracket .leftParen (by decide), tested, shapes_bracket .rightParen (by decide),
        shapes_space, taken, expression]
      simp
  | .conditional condition consequence (some alternative), valid =>
      have tested := fun rest =>
        shapes_expression condition valid.1 (')' :: rest) (apart_cons (by decide))
      have taken := shapes_block (shapes_statements consequence valid.2.1)
      have refused := shapes_block (shapes_statements alternative valid.2.2) rest
      have text
          : (Expression.conditional condition consequence (some alternative)).text.toList ++ rest
            = "si".toList ++ ' ' :: '(' :: (condition.text.toList
              ++ ')' :: ' ' :: ((blockText consequence).toList
                ++ ' ' :: ("si_no".toList
                  ++ ' ' :: ((blockText alternative).toList ++ rest)))) := by
        simp
      rw [text, shapes_reserved .ifWord (by decide) (apart_cons (by decide)), shapes_space,
        shapes_bracket .leftParen (by decide), tested, shapes_bracket .rightParen (by decide),
        shapes_space, taken, shapes_space,
        shapes_reserved .elseWord (by decide) (apart_cons (by decide)), shapes_space, refused,
        expression]
      simp
  | .function names code, valid =>
      have given := shapes_parameters names valid.1
      have body := shapes_block (shapes_statements code valid.2) rest
      have text : (Expression.function names code).text.toList ++ rest
          = "procedimiento".toList ++ '(' :: ((String.intercalate ", " names).toList
            ++ ')' :: ' ' :: ((blockText code).toList ++ rest)) := by
        simp
      rw [text, shapes_reserved .functionWord (by decide) (apart_cons (by decide)),
        shapes_bracket .leftParen (by decide), given, shapes_space, body, expression]
      simp
  | .call callee es, valid =>
      have called := fun rest =>
        shapes_expression callee valid.1 ('(' :: rest) (apart_cons (by decide))
      have given := shapes_arguments es valid.2 rest
      have text : (Expression.call callee es).text.toList ++ rest
          = callee.text.toList ++ '(' :: ((argumentsText es).toList ++ ')' :: rest) := by
        simp
      rw [text, called, shapes_bracket .leftParen (by decide), given, expression]
      simp

/-- The text of a valid statement has its tokens and a semicolon. -/
theorem shapes_statement (s : Statement) (valid : Valid.statement s) (rest : List Char)
    : shapes (s.text.toList ++ rest) = statement s ++ sign .semicolon :: shapes rest := by
  match s, valid with
  | .declare name value, valid =>
      have given := shapes_expression value valid.2 (';' :: rest) (apart_cons (by decide))
      have text : (Statement.declare name value).text.toList ++ rest
          = "variable".toList ++ ' ' :: (name.toList
            ++ ' ' :: '=' :: ' ' :: (value.text.toList ++ ';' :: rest)) := by
        simp
      rw [text, shapes_reserved .letWord (by decide) (apart_cons (by decide)), shapes_space,
        shapes_name valid.1 (apart_cons (by decide)), shapes_space, shapes_equal, given,
        shapes_bracket .semicolon (by decide)]
      rfl
  | .returning value, valid =>
      have given := shapes_expression value valid (';' :: rest) (apart_cons (by decide))
      have text : (Statement.returning value).text.toList ++ rest
          = "regresa".toList ++ ' ' :: (value.text.toList ++ ';' :: rest) := by
        simp
      rw [text, shapes_reserved .returnWord (by decide) (apart_cons (by decide)), shapes_space,
        given, shapes_bracket .semicolon (by decide)]
      rfl
  | .expression value, valid =>
      have given := shapes_expression value valid (';' :: rest) (apart_cons (by decide))
      have text : (Statement.expression value).text.toList ++ rest
          = value.text.toList ++ ';' :: rest := by
        simp
      rw [text, given, shapes_bracket .semicolon (by decide)]
      rfl

/-- The text of valid statements has their tokens. -/
theorem shapes_statements (ss : List Statement) (valid : Valid.statements ss) (rest : List Char)
    : shapes ((Program.text ss).toList ++ rest) = statements ss ++ shapes rest := by
  match ss, valid with
  | [], _ =>
      rw [Program.text_nil]
      rfl
  | [s], valid =>
      rw [Program.text_singleton, shapes_statement s valid.1]
      simp [statements]
  | s :: next :: ss, valid =>
      have others := shapes_statements (next :: ss) valid.2 rest
      have text : (Program.text (s :: next :: ss)).toList ++ rest
          = s.text.toList ++ ' ' :: ((Program.text (next :: ss)).toList ++ rest) := by
        simp
      rw [text, shapes_statement s valid.1, shapes_space, others]
      simp [statements]

/-- The text of valid arguments has their tokens, in front of a parenthesis. -/
theorem shapes_arguments (es : List Expression) (valid : Valid.arguments es) (rest : List Char)
    : shapes ((argumentsText es).toList ++ ')' :: rest)
      = arguments es ++ sign .rightParen :: shapes rest := by
  match es, valid with
  | [], _ =>
      rw [argumentsText_nil]
      exact shapes_bracket .rightParen (by decide) rest
  | [e], valid =>
      rw [argumentsText_singleton, shapes_expression e valid.1 _ (apart_cons (by decide)),
        shapes_bracket .rightParen (by decide), arguments]
  | e :: next :: es, valid =>
      have others := shapes_arguments (next :: es) valid.2 rest
      have text : (argumentsText (e :: next :: es)).toList ++ ')' :: rest
          = e.text.toList
            ++ ',' :: ' ' :: ((argumentsText (next :: es)).toList ++ ')' :: rest) := by
        simp
      rw [text, shapes_expression e valid.1 _ (apart_cons (by decide)),
        shapes_bracket .comma (by decide), shapes_space, others, arguments]
      simp

end

/-- A printed program has the tokens from which it is put together. -/
theorem map_shape_words_text {program : Program} (valid : Valid.statements program)
    : (words program.text).map Token.shape = statements program := by
  have whole := shapes_statements program valid []
  rwa [List.append_nil, shapes_nil, List.append_nil, ← map_shape_words] at whole

end Printed

end Guion
