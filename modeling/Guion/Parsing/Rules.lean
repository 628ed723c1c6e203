import Guion.Recursion
import Guion.Parsing.Reading
import Guion.Program.Precedence

/-! The rules by which programs are read.

A broken statement is reported and skipped, up to its semicolon or to the end of the block around
it, so that one pass finds the errors of all statements.
-/

namespace Guion.Parsing

/-- The whole source, or a block in it. -/
inductive Place where
  | program
  | block
deriving DecidableEq

/-- What there is to read, from the position on that is named last. -/
inductive Task where
  /-- An operand with the operators in front of it. -/
  | operand (start : Position)
  /-- The operators, operands and calls behind the expression `left`, which ends there. -/
  | operators (level : Precedence) (left : Expression) (start : Position)
  /-- An expression whose operators outside parentheses bind tighter than `level`. -/
  | expression (level : Precedence) (start : Position)
  /-- The arguments of a call from the first one up to the closing parenthesis. -/
  | arguments (start : Position)
  | statement (start : Position)
  /-- All statements up to the end of the place. -/
  | statements (place : Place) (start : Position)
  /-- The statements between braces, from the opening brace up to the closing one. -/
  | block (start : Position)

namespace Task

@[simp]
def start : Task → Position
  | operand start => start
  | operators _ _ start => start
  | expression _ start => start
  | arguments start => start
  | statement start => start
  | statements _ start => start
  | block start => start

/-- Orders the tasks that start at one position. -/
@[simp]
def rank : Task → Nat
  | operand _ => 0
  | operators .. => 0
  | expression .. => 1
  | arguments _ => 2
  | statement _ => 2
  | statements .. => 3
  | block _ => 4

theorem rank_lt (task : Task) : task.rank < 5 := by
  cases task <;> simp

/-- What is read for a task. Statements are always read, as the broken ones are left out. -/
abbrev Answer (task : Task) : Type :=
  match task with
  | operand start => Phrase Expression start
  | operators _ _ start => Phrase Expression start
  | expression _ start => Phrase Expression start
  | arguments start => Phrase (List Expression) start
  | statement start => Phrase Statement start
  | statements _ start => Reading (List Statement) start
  | block start => Phrase Block start

end Task

/-- A task asks for tasks that start later, or at the same position and have a lower rank. -/
abbrev lower (a b : Task) : Prop :=
  5 * a.start.length + a.rank < 5 * b.start.length + b.rank

theorem lower_wellFounded : WellFounded lower :=
  InvImage.wf (fun task : Task => 5 * task.start.length + task.rank) Nat.lt_wfRel.wf

theorem lower_of_length {a b : Task} (shorter : a.start.length < b.start.length)
    : lower a b := by
  have := a.rank_lt
  unfold lower
  omega

theorem lower_of_rank {a b : Task} (inside : a.start <:+ b.start) (ranks : a.rank < b.rank)
    : lower a b := by
  have := inside.length_le
  unfold lower
  omega

/-- A reading of which parts are still to be read. -/
abbrev Rule (allowed : Task → Prop) (α : Type) (start : Position) :=
  Plan Task.Answer allowed (Phrase α start)

variable {α β : Type} {start part : Position} {allowed : Task → Prop}

theorem two_le_length_of_operator {position : Position} {operator : BinaryOperator}
    (sign : BinaryOperator.ofKind? (Position.nextKind position) = some operator)
    : 2 ≤ position.length :=
  two_le_length rfl fun ending => by simp [ending, BinaryOperator.ofKind?] at sign

/-- Goes on with the next token, if it has the expected kind. -/
def expect (kind : Token.Kind) (position : Position) (inside : position <:+ start)
    (next : position.tail <:+ start → Rule allowed α start)
    : Rule allowed α start :=
  if Position.nextKind position = kind then
    next (tail_suffix inside)
  else
    .done (reject (.unexpected kind (Position.nextKind position)) position inside)

/-- Goes on behind a part of a phrase, unless the part is broken. -/
def after (phrase : Phrase β part) (inside : part <:+ start)
    (next : β → (last : Position) → last.length ≤ part.length → last <:+ start
      → Rule allowed α start)
    : Rule allowed α start :=
  match phrase.value with
  | .error error =>
    .done ⟨.error error, phrase.position, phrase.diagnostics, phrase.position_suffix inside⟩
  | .ok value =>
    (next value phrase.position phrase.length_le (phrase.position_suffix inside)).bind
      fun rest => .done (phrase.before rest)

/-- Goes on behind an expression. -/
def afterExpression (level : Precedence) (position : Position) (inside : position <:+ start)
    (smaller : allowed (.expression level position))
    (next : Expression → (last : Position) → last.length ≤ position.length → last <:+ start
      → Rule allowed α start)
    : Rule allowed α start :=
  .ask (.expression level position) smaller fun (phrase : Phrase Expression position) =>
  after phrase inside next

/-- Goes on behind a block. -/
def afterBlock (position : Position) (inside : position <:+ start)
    (smaller : allowed (.block position))
    (next : Block → (last : Position) → last.length ≤ position.length → last <:+ start
      → Rule allowed α start)
    : Rule allowed α start :=
  .ask (.block position) smaller fun (phrase : Phrase Block position) =>
  after phrase inside next

/-- Goes on behind arguments. -/
def afterArguments (position : Position) (inside : position <:+ start)
    (smaller : allowed (.arguments position))
    (next : List Expression → (last : Position) → last.length ≤ position.length
      → last <:+ start → Rule allowed α start)
    : Rule allowed α start :=
  .ask (.arguments position) smaller fun (phrase : Phrase (List Expression) position) =>
  after phrase inside next

/-- Ends with the operators behind an expression. -/
def withOperators (level : Precedence) (left : Expression) (position : Position)
    (inside : position <:+ start) (smaller : allowed (.operators level left position))
    : Rule allowed Expression start :=
  .ask (.operators level left position) smaller fun (phrase : Phrase Expression position) =>
  .done (phrase.within inside)

def operandRule (start : Position) : Rule (lower · (.operand start)) Expression start :=
  match start with
  | [] => .done (reject (.noOperand "") [] (List.suffix_refl _))
  | token :: rest =>
    let here := List.suffix_refl (token :: rest)
    let behind := List.suffix_cons token rest
    have shorter : rest.length < (token :: rest).length := Nat.lt_succ_self _
    match token.kind with
    | .identifier => .done (accept (.identifier token.literal) _ here)
    | .integer =>
      match Integer.ofLiteral? token.literal with
      | some value => .done (accept (.integer value) _ here)
      | none => .done (reject (.integerTooLarge token.literal) _ here)
    | .string => .done (accept (.string token.literal) _ here)
    | .trueWord => .done (accept (.boolean true) _ here)
    | .falseWord => .done (accept (.boolean false) _ here)
    | .leftParen =>
      afterExpression .lowest rest behind (lower_of_length shorter) fun inner last _ inside =>
      expect .rightParen last inside fun inside =>
      .done (accept inner last.tail inside)
    | .ifWord =>
      expect .leftParen (token :: rest) here fun _ =>
      have shorter := length_tail_lt shorter
      afterExpression .lowest rest.tail (tail_suffix behind) (lower_of_length shorter)
        fun condition last within inside =>
      expect .rightParen last inside fun inside =>
      expect .leftBrace last.tail inside fun inside =>
      have shorter := length_tail_lt (length_tail_lt (Nat.lt_of_le_of_lt within shorter))
      afterBlock last.tail.tail inside (lower_of_length shorter)
        fun consequence last within inside =>
      if Position.nextKind last = .elseWord then
        expect .leftBrace last.tail (tail_suffix inside) fun inside =>
        have shorter := length_tail_lt (length_tail_lt (Nat.lt_of_le_of_lt within shorter))
        afterBlock last.tail.tail inside (lower_of_length shorter)
          fun alternative last _ inside =>
        .done (accept (.conditional condition consequence (some alternative)) last inside)
      else
        .done (accept (.conditional condition consequence none) last inside)
    | .functionWord =>
      expect .leftParen (token :: rest) here fun _ =>
      after (parameters rest) behind fun names last within inside =>
      expect .leftBrace last inside fun inside =>
      have shorter := length_tail_lt (Nat.lt_of_le_of_lt within shorter)
      afterBlock last.tail inside (lower_of_length shorter) fun body last _ inside =>
      .done (accept (.function names body) last inside)
    | kind =>
      match UnaryOperator.ofKind? kind with
      | some operator =>
        afterExpression .unary rest behind (lower_of_length shorter) fun operand last _ inside =>
        .done (accept (.unary operator operand) last inside)
      | none => .done (reject (.noOperand token.literal) _ here)

/-- The operators, operands and calls behind an expression, as long as they bind tighter than
`level`. Calls bind tighter than any operator.
-/
def operatorsRule (level : Precedence) (left : Expression) (start : Position)
    : Rule (lower · (.operators level left start)) Expression start :=
  let here := List.suffix_refl start
  let behind := tail_suffix (tail_suffix here)
  if _call : Position.nextKind start = .leftParen then
    have shorter := length_tail_tail_lt (two_le_length _call (by decide))
    if Position.nextKind start.tail = .rightParen then
      withOperators level (.call left []) start.tail.tail behind (lower_of_length shorter)
    else
      afterArguments start.tail.tail behind (lower_of_length shorter)
        fun arguments last within inside =>
      withOperators level (.call left arguments) last inside
        (lower_of_length (Nat.lt_of_le_of_lt within shorter))
  else
    match _sign : BinaryOperator.ofKind? (Position.nextKind start) with
    | none => .done (accept left start here)
    | some operator =>
      have shorter := length_tail_tail_lt (two_le_length_of_operator _sign)
      -- An operator of the same level ends the operand, so operators group to the left.
      if level < operator.precedence then
        afterExpression operator.precedence start.tail.tail behind (lower_of_length shorter)
          fun right last within inside =>
        withOperators level (.binary left operator right) last inside
          (lower_of_length (Nat.lt_of_le_of_lt within shorter))
      else
        .done (accept left start here)

def expressionRule (level : Precedence) (start : Position)
    : Rule (lower · (.expression level start)) Expression start :=
  .ask (.operand start) (lower_of_rank (List.suffix_refl start) (by simp))
    fun (phrase : Phrase Expression start) =>
  after phrase (List.suffix_refl start) fun left last _ inside =>
  withOperators level left last inside (lower_of_rank inside (by simp))

def argumentsRule (start : Position)
    : Rule (lower · (.arguments start)) (List Expression) start :=
  afterExpression .lowest start (List.suffix_refl start)
    (lower_of_rank (List.suffix_refl start) (by simp)) fun first last within inside =>
  if _comma : Position.nextKind last = .comma then
    have shorter := length_tail_tail_lt (two_le_length _comma (by decide))
    afterArguments last.tail.tail (tail_suffix (tail_suffix inside))
      (lower_of_length (Nat.lt_of_lt_of_le shorter within)) fun rest last _ inside =>
    .done (accept (first :: rest) last inside)
  else
    expect .rightParen last inside fun inside =>
    .done (accept [first] last.tail inside)

/-- A statement that ends with the expression at `position`. -/
def closingExpression (make : Expression → Statement) (position : Position)
    (inside : position <:+ start)
    : Rule (lower · (.statement start)) Statement start :=
  afterExpression .lowest position inside (lower_of_rank inside (by simp))
    fun value last _ inside =>
  .done (accept (make value) (optionalSemicolon last) (optionalSemicolon_suffix inside))

def statementRule (start : Position) : Rule (lower · (.statement start)) Statement start :=
  let here := List.suffix_refl start
  match Position.kind start with
  | .letWord =>
    expect .identifier start here fun inside =>
    expect .equal start.tail inside fun inside =>
    closingExpression (.declare (Position.literal start.tail)) start.tail.tail.tail
      (tail_suffix inside)
  | .returnWord => closingExpression .returning start.tail (tail_suffix here)
  | _ => closingExpression .expression start here

/-- Whether a token ends the statements of a place. -/
def closes (place : Place) (kind : Token.Kind) : Bool :=
  kind = .endOfInput ∨ place = .block ∧ kind = .rightBrace

/-- The report on a broken statement. It ends where the statement is given up. -/
def report (error : ParseError) (phrase : Phrase α start) : Reading Unit start :=
  ⟨(), skip phrase.position, phrase.diagnostics.append (.one ⟨error, phrase.position⟩),
    (skip_suffix _).trans phrase.suffix⟩

/-- Goes on behind a statement of a place. A broken one is reported and skipped. If that leads to
the end of a block, the block ends there.
-/
def furtherStatements (place : Place) {token : Token} {rest : Position}
    (phrase : Phrase Statement (token :: rest))
    : Plan Task.Answer (lower · (.statements place (token :: rest)))
        (Reading (List Statement) (token :: rest)) :=
  match phrase.value with
  | .ok first =>
    .ask (.statements place phrase.position.tail)
      (lower_of_length (length_tail_lt_cons phrase.length_le))
      fun (reading : Reading (List Statement) phrase.position.tail) =>
    .done
      { phrase.before (reading.within (tail_suffix phrase.suffix)) with
        value := first :: reading.value }
  | .error error =>
    let broken := report error phrase
    if place = .block ∧ Position.kind broken.position = .rightBrace then
      .done { broken with value := [] }
    else
      .ask (.statements place broken.position.tail)
        (lower_of_length (length_tail_lt_cons broken.suffix.length_le))
        fun (reading : Reading (List Statement) broken.position.tail) =>
      .done (broken.before (reading.within (tail_suffix broken.suffix)))

def statementsRule (place : Place) (start : Position)
    : Plan Task.Answer (lower · (.statements place start)) (Reading (List Statement) start) :=
  match start with
  | [] => .done ⟨[], [], .empty, List.suffix_refl _⟩
  | token :: rest =>
    if closes place token.kind then
      .done ⟨[], token :: rest, .empty, List.suffix_refl _⟩
    else
      .ask (.statement (token :: rest)) (lower_of_rank (List.suffix_refl _) (by simp))
        fun (phrase : Phrase Statement (token :: rest)) =>
      furtherStatements place phrase

/-- A block, which must end before the source does. -/
def blockRule (start : Position) : Rule (lower · (.block start)) Block start :=
  have inside := List.tail_suffix start
  .ask (.statements .block start.tail) (lower_of_rank inside (by simp))
    fun (reading : Reading (List Statement) start.tail) =>
  .done
    { reading.within inside with
      value :=
        if Position.kind reading.position = .endOfInput then
          .error (.unexpected .rightBrace .endOfInput)
        else
          .ok reading.value }

/-- The reading for a task, from the readings for lower tasks. -/
def body (task : Task) : Plan Task.Answer (lower · task) task.Answer :=
  match task with
  | .operand start => operandRule start
  | .operators level left start => operatorsRule level left start
  | .expression level start => expressionRule level start
  | .arguments start => argumentsRule start
  | .statement start => statementRule start
  | .statements place start => statementsRule place start
  | .block start => blockRule start

/-- What is read for a task. -/
def read (task : Task) : task.Answer :=
  Plan.run lower_wellFounded body task

theorem read_eq (task : Task) : read task = (body task).result read :=
  Plan.run_eq lower_wellFounded body task

/-- What is read for an operand. -/
def readOperand (start : Position) : Phrase Expression start :=
  read (.operand start)

/-- What is read of the operators, operands and calls behind an expression. -/
def readOperators (level : Precedence) (left : Expression) (start : Position)
    : Phrase Expression start :=
  read (.operators level left start)

/-- What is read for an expression. -/
def readExpression (level : Precedence) (start : Position) : Phrase Expression start :=
  read (.expression level start)

/-- What is read for arguments. -/
def readArguments (start : Position) : Phrase (List Expression) start :=
  read (.arguments start)

/-- What is read for a statement. -/
def readStatement (start : Position) : Phrase Statement start :=
  read (.statement start)

/-- What is read for the statements of a place. -/
def readStatements (place : Place) (start : Position) : Reading (List Statement) start :=
  read (.statements place start)

/-- What is read for a block. -/
def readBlock (start : Position) : Phrase Block start :=
  read (.block start)

end Guion.Parsing
