import Guion.Parsing.Rules

/-! What the rules read, one equation for each. -/

namespace Guion.Parsing

variable {α β : Type} {start part : Position} {allowed : Task → Prop}

@[simp]
theorem result_expect (kind : Token.Kind) (position : Position) (inside : position <:+ start)
    (next : position.tail <:+ start → Rule allowed α start)
    : (expect kind position inside next).result read
      = expectNext kind position inside fun inside => (next inside).result read := by
  unfold expect expectNext
  split <;> rfl

@[simp]
theorem result_after (phrase : Phrase β part) (inside : part <:+ start)
    (next : β → (last : Position) → last.length ≤ part.length → last <:+ start
      → Rule allowed α start)
    : (after phrase inside next).result read
      = phrase.andThen inside fun value last shorter inside =>
        (next value last shorter inside).result read := by
  unfold after Reading.andThen
  cases phrase.value <;> simp

@[simp]
theorem result_afterExpression (level : Precedence) (position : Position)
    (inside : position <:+ start) (smaller : allowed (.expression level position))
    (next : Expression → (last : Position) → last.length ≤ position.length → last <:+ start
      → Rule allowed α start)
    : (afterExpression level position inside smaller next).result read
      = (readExpression level position).andThen inside fun value last shorter inside =>
        (next value last shorter inside).result read :=
  result_after ..

@[simp]
theorem result_afterBlock (position : Position) (inside : position <:+ start)
    (smaller : allowed (.block position))
    (next : Block → (last : Position) → last.length ≤ position.length → last <:+ start
      → Rule allowed α start)
    : (afterBlock position inside smaller next).result read
      = (readBlock position).andThen inside fun value last shorter inside =>
        (next value last shorter inside).result read :=
  result_after ..

@[simp]
theorem result_afterArguments (position : Position) (inside : position <:+ start)
    (smaller : allowed (.arguments position))
    (next : List Expression → (last : Position) → last.length ≤ position.length
      → last <:+ start → Rule allowed α start)
    : (afterArguments position inside smaller next).result read
      = (readArguments position).andThen inside fun value last shorter inside =>
        (next value last shorter inside).result read :=
  result_after ..

@[simp]
theorem result_withOperators (level : Precedence) (left : Expression) (position : Position)
    (inside : position <:+ start) (smaller : allowed (.operators level left position))
    : (withOperators level left position inside smaller).result read
      = (readOperators level left position).within inside :=
  rfl

private theorem readOperand_eq (start : Position)
    : readOperand start = (operandRule start).result read :=
  read_eq ..

/-- There is no operand at the end of the source. -/
@[simp]
theorem readOperand_nil
    : readOperand [] = reject (.noOperand "") [] (List.suffix_refl _) :=
  read_eq ..

theorem readOperand_identifier {token : Token} {rest : Position}
    (kind : token.kind = .identifier)
    : readOperand (token :: rest)
      = accept (.identifier token.literal) (token :: rest) (List.suffix_refl _) := by
  simp [readOperand_eq, operandRule, kind]

theorem readOperand_integer {token : Token} {rest : Position} (kind : token.kind = .integer)
    : readOperand (token :: rest)
      = match Integer.ofLiteral? token.literal with
        | some value => accept (.integer value) (token :: rest) (List.suffix_refl _)
        | none =>
          reject (.integerTooLarge token.literal) (token :: rest) (List.suffix_refl _) := by
  simp only [readOperand_eq, operandRule, kind]
  cases Integer.ofLiteral? token.literal <;> rfl

theorem readOperand_string {token : Token} {rest : Position} (kind : token.kind = .string)
    : readOperand (token :: rest)
      = accept (.string token.literal) (token :: rest) (List.suffix_refl _) := by
  simp [readOperand_eq, operandRule, kind]

theorem readOperand_trueWord {token : Token} {rest : Position} (kind : token.kind = .trueWord)
    : readOperand (token :: rest)
      = accept (.boolean true) (token :: rest) (List.suffix_refl _) := by
  simp [readOperand_eq, operandRule, kind]

theorem readOperand_falseWord {token : Token} {rest : Position}
    (kind : token.kind = .falseWord)
    : readOperand (token :: rest)
      = accept (.boolean false) (token :: rest) (List.suffix_refl _) := by
  simp [readOperand_eq, operandRule, kind]

theorem readOperand_leftParen {token : Token} {rest : Position}
    (kind : token.kind = .leftParen)
    : readOperand (token :: rest)
      = (readExpression .lowest rest).andThen (List.suffix_cons ..) fun inner last _ inside =>
        expectNext .rightParen last inside fun inside =>
        accept inner last.tail inside := by
  simp [readOperand_eq, operandRule, kind]

theorem readOperand_ifWord {token : Token} {rest : Position} (kind : token.kind = .ifWord)
    : readOperand (token :: rest)
      = expectNext .leftParen (token :: rest) (List.suffix_refl _) fun _ =>
        (readExpression .lowest rest.tail).andThen (tail_suffix (List.suffix_cons ..))
          fun condition last _ inside =>
        expectNext .rightParen last inside fun inside =>
        expectNext .leftBrace last.tail inside fun inside =>
        (readBlock last.tail.tail).andThen inside fun consequence last _ inside =>
        if Position.nextKind last = .elseWord then
          expectNext .leftBrace last.tail (tail_suffix inside) fun inside =>
          (readBlock last.tail.tail).andThen inside fun alternative last _ inside =>
          accept (.conditional condition consequence (some alternative)) last inside
        else
          accept (.conditional condition consequence none) last inside := by
  simp only [readOperand_eq, operandRule, kind, result_expect, result_afterExpression,
    result_afterBlock, Plan.result_ite, Plan.result_done]

theorem readOperand_functionWord {token : Token} {rest : Position}
    (kind : token.kind = .functionWord)
    : readOperand (token :: rest)
      = expectNext .leftParen (token :: rest) (List.suffix_refl _) fun _ =>
        (parameters rest).andThen (List.suffix_cons ..) fun names last _ inside =>
        expectNext .leftBrace last inside fun inside =>
        (readBlock last.tail).andThen inside fun body last _ inside =>
        accept (.function names body) last inside := by
  simp only [readOperand_eq, operandRule, kind, result_expect, result_after,
    result_afterBlock, Plan.result_done]

theorem readOperand_unary {token : Token} {rest : Position} {operator : UnaryOperator}
    (sign : UnaryOperator.ofKind? token.kind = some operator)
    : readOperand (token :: rest)
      = (readExpression .unary rest).andThen (List.suffix_cons ..) fun operand last _ inside =>
        accept (.unary operator operand) last inside := by
  rw [readOperand_eq, operandRule]
  cases h : token.kind <;> simp_all [UnaryOperator.ofKind?]

/-- A token that no expression starts with. -/
theorem readOperand_none {token : Token} {rest : Position}
    (sign : UnaryOperator.ofKind? token.kind = none)
    (other : token.kind ∉ [.identifier, .integer, .string, .trueWord, .falseWord, .leftParen,
      .ifWord, .functionWord])
    : readOperand (token :: rest)
      = reject (.noOperand token.literal) (token :: rest) (List.suffix_refl _) := by
  rw [readOperand_eq, operandRule]
  cases h : token.kind <;> simp_all [UnaryOperator.ofKind?]

private theorem readOperators_eq (level : Precedence) (left : Expression) (start : Position)
    : readOperators level left start = (operatorsRule level left start).result read :=
  read_eq ..

theorem readOperators_call_nil {level : Precedence} {left : Expression} {start : Position}
    (opening : Position.nextKind start = .leftParen)
    (closing : Position.nextKind start.tail = .rightParen)
    : readOperators level left start
      = (readOperators level (.call left []) start.tail.tail).within
          (tail_suffix (List.tail_suffix _)) := by
  rw [readOperators_eq level left start, operatorsRule, dif_pos opening]
  simp [closing]

theorem readOperators_call {level : Precedence} {left : Expression} {start : Position}
    (opening : Position.nextKind start = .leftParen)
    (more : Position.nextKind start.tail ≠ .rightParen)
    : readOperators level left start
      = (readArguments start.tail.tail).andThen (tail_suffix (List.tail_suffix _))
          fun arguments last _ inside =>
        (readOperators level (.call left arguments) last).within inside := by
  rw [readOperators_eq level left start, operatorsRule, dif_pos opening]
  simp [more]

theorem readOperators_binary {level : Precedence} {left : Expression} {start : Position}
    {operator : BinaryOperator}
    (sign : BinaryOperator.ofKind? (Position.nextKind start) = some operator)
    (tighter : level < operator.precedence)
    : readOperators level left start
      = (readExpression operator.precedence start.tail.tail).andThen
          (tail_suffix (List.tail_suffix _)) fun right last _ inside =>
        (readOperators level (.binary left operator right) last).within inside := by
  have call : Position.nextKind start ≠ .leftParen := fun call => by
    simp [call, BinaryOperator.ofKind?] at sign
  rw [readOperators_eq level left start, operatorsRule, dif_neg call]
  split
  · simp_all
  · rename_i other found
    cases Option.some.inj (sign.symm.trans found)
    simp [tighter]

/-- An expression ends in front of a token that binds no tighter than `level`. -/
theorem readOperators_end {level : Precedence} {left : Expression} {start : Position}
    (call : Position.nextKind start ≠ .leftParen)
    (looser : ∀ operator, BinaryOperator.ofKind? (Position.nextKind start) = some operator
      → ¬ level < operator.precedence)
    : readOperators level left start = accept left start (List.suffix_refl _) := by
  rw [readOperators_eq level left start, operatorsRule, dif_neg call]
  split
  · rfl
  · simp [looser _ (by assumption)]

theorem readExpression_eq (level : Precedence) (start : Position)
    : readExpression level start
      = (readOperand start).andThen (List.suffix_refl _) fun left last _ inside =>
        (readOperators level left last).within inside := by
  rw [readExpression, read_eq]
  exact result_after ..

theorem readArguments_eq (start : Position)
    : readArguments start
      = (readExpression .lowest start).andThen (List.suffix_refl _)
          fun first last _ inside =>
        if Position.nextKind last = .comma then
          (readArguments last.tail.tail).andThen (tail_suffix (tail_suffix inside))
            fun rest last _ inside =>
          accept (first :: rest) last inside
        else
          expectNext .rightParen last inside fun inside =>
          accept [first] last.tail inside := by
  have unfolded : readArguments start = (argumentsRule start).result read := read_eq ..
  rw [unfolded, argumentsRule, result_afterExpression]
  congr 1
  funext first last _ inside
  split <;> simp

/-- What is read for a statement that ends with the expression at `position`. -/
def readClosing (make : Expression → Statement) (position : Position)
    (inside : position <:+ start)
    : Phrase Statement start :=
  (readExpression .lowest position).andThen inside fun value last _ inside =>
  accept (make value) (optionalSemicolon last) (optionalSemicolon_suffix inside)

private theorem result_closingExpression (make : Expression → Statement) (position : Position)
    (inside : position <:+ start)
    : (closingExpression make position inside).result read = readClosing make position inside :=
  result_afterExpression ..

private theorem readStatement_unfold (start : Position)
    : readStatement start = (statementRule start).result read :=
  read_eq ..

theorem readStatement_letWord {start : Position} (kind : Position.kind start = .letWord)
    : readStatement start
      = expectNext .identifier start (List.suffix_refl _) fun inside =>
        expectNext .equal start.tail inside fun inside =>
        readClosing (.declare (Position.literal start.tail)) start.tail.tail.tail
          (tail_suffix inside) := by
  rw [readStatement_unfold, statementRule, kind]
  simp [result_closingExpression]

theorem readStatement_returnWord {start : Position} (kind : Position.kind start = .returnWord)
    : readStatement start = readClosing .returning start.tail (List.tail_suffix _) := by
  rw [readStatement_unfold, statementRule, kind]
  simp [result_closingExpression]

theorem readStatement_expression {start : Position}
    (notLet : Position.kind start ≠ .letWord) (notReturn : Position.kind start ≠ .returnWord)
    : readStatement start = readClosing .expression start (List.suffix_refl _) := by
  rw [readStatement_unfold, statementRule]
  split
  · contradiction
  · contradiction
  · simp [result_closingExpression]

@[simp]
theorem readStatements_nil (place : Place)
    : readStatements place [] = ⟨[], [], .empty, List.suffix_refl _⟩ :=
  read_eq ..

/-- What is read behind a statement of a place, with the statement in front unless it is broken. -/
def readFurther (place : Place) (phrase : Phrase Statement start)
    : Reading (List Statement) start :=
  match phrase.value with
  | .ok first =>
    let reading := readStatements place phrase.position.tail
    { phrase.before (reading.within (tail_suffix phrase.suffix)) with
      value := first :: reading.value }
  | .error error =>
    let broken := report error phrase
    if place = .block ∧ Position.kind broken.position = .rightBrace then
      { broken with value := [] }
    else
      broken.before
        ((readStatements place broken.position.tail).within (tail_suffix broken.suffix))

/-- Behind a statement that is read in full the others are read. -/
theorem readFurther_of_ok {place : Place} {phrase : Phrase Statement start} {s : Statement}
    (found : phrase.value = .ok s)
    : (readFurther place phrase).value = s :: (readStatements place phrase.position.tail).value
      ∧ (readFurther place phrase).position = (readStatements place phrase.position.tail).position
      ∧ (readFurther place phrase).diagnostics.toList
        = phrase.diagnostics.toList
          ++ (readStatements place phrase.position.tail).diagnostics.toList := by
  unfold readFurther
  rw [found]
  exact ⟨rfl, rfl, Rope.toList_append ..⟩

/-- A block ends where a broken statement leads to a closing brace. -/
theorem readFurther_of_error_closed {place : Place} {phrase : Phrase Statement start}
    {error : ParseError} (broken : phrase.value = .error error)
    (closed : place = .block ∧ Position.kind (skip phrase.position) = .rightBrace)
    : (readFurther place phrase).value = []
      ∧ (readFurther place phrase).position = skip phrase.position
      ∧ (readFurther place phrase).diagnostics.toList
        = phrase.diagnostics.toList ++ [⟨error, phrase.position⟩] := by
  have closed : place = .block ∧ Position.kind (report error phrase).position = .rightBrace :=
    closed
  unfold readFurther
  rw [broken]
  dsimp only
  rw [if_pos closed]
  exact ⟨rfl, rfl, by simp [report]⟩

/-- Else the others are read behind what is skipped of the broken one. -/
theorem readFurther_of_error_open {place : Place} {phrase : Phrase Statement start}
    {error : ParseError} (broken : phrase.value = .error error)
    (opened : ¬ (place = .block ∧ Position.kind (skip phrase.position) = .rightBrace))
    : (readFurther place phrase).value = (readStatements place (skip phrase.position).tail).value
      ∧ (readFurther place phrase).position
        = (readStatements place (skip phrase.position).tail).position
      ∧ (readFurther place phrase).diagnostics.toList
        = phrase.diagnostics.toList
          ++ ⟨error, phrase.position⟩
            :: (readStatements place (skip phrase.position).tail).diagnostics.toList := by
  have opened : ¬ (place = .block ∧ Position.kind (report error phrase).position = .rightBrace) :=
    opened
  unfold readFurther
  rw [broken]
  dsimp only
  rw [if_neg opened]
  refine ⟨rfl, rfl, ?_⟩
  rw [Reading.toList_diagnostics_before, Reading.diagnostics_within]
  simp [report]

private theorem result_furtherStatements (place : Place) {token : Token} {rest : Position}
    (phrase : Phrase Statement (token :: rest))
    : (furtherStatements place phrase).result read = readFurther place phrase := by
  unfold furtherStatements readFurther
  cases phrase.value with
  | ok first => rfl
  | error error =>
    simp only
    split <;> rfl

private theorem readStatements_unfold (place : Place) (start : Position)
    : readStatements place start = (statementsRule place start).result read :=
  read_eq ..

theorem readStatements_closed {place : Place} {token : Token} {rest : Position}
    (closed : closes place token.kind = true)
    : readStatements place (token :: rest)
      = ⟨[], token :: rest, .empty, List.suffix_refl _⟩ := by
  rw [readStatements_unfold, statementsRule]
  simp [closed]

theorem readStatements_open {place : Place} {token : Token} {rest : Position}
    (opened : closes place token.kind = false)
    : readStatements place (token :: rest) = readFurther place (readStatement (token :: rest)) := by
  rw [readStatements_unfold, statementsRule, if_neg (by simp [opened])]
  exact result_furtherStatements ..

/-- At the end of a place nothing is read. -/
theorem readStatements_of_closed {place : Place}
    (closed : closes place (Position.kind start) = true)
    : (readStatements place start).value = []
      ∧ (readStatements place start).position = start
      ∧ (readStatements place start).diagnostics.toList = [] := by
  cases start with
  | nil =>
      rw [readStatements_nil]
      exact ⟨rfl, rfl, Rope.toList_empty⟩
  | cons token rest =>
      rw [readStatements_closed closed]
      exact ⟨rfl, rfl, Rope.toList_empty⟩

/-- Where no place ends a statement is read, and then the others. -/
theorem readStatements_of_opened {place : Place}
    (opened : closes place (Position.kind start) = false)
    : (readStatements place start).value = (readFurther place (readStatement start)).value
      ∧ (readStatements place start).position = (readFurther place (readStatement start)).position
      ∧ (readStatements place start).diagnostics
        = (readFurther place (readStatement start)).diagnostics := by
  cases start with
  | nil => cases place <;> cases opened
  | cons token rest =>
      rw [readStatements_open opened]
      exact ⟨rfl, rfl, rfl⟩

section Statement

variable {place : Place} (opened : closes place (Position.kind start) = false)

include opened

/-- Behind a statement that is read in full the others are read. -/
theorem readStatements_of_ok {s : Statement} (found : (readStatement start).value = .ok s)
    : (readStatements place start).value
        = s :: (readStatements place (readStatement start).position.tail).value
      ∧ (readStatements place start).position
        = (readStatements place (readStatement start).position.tail).position
      ∧ (readStatements place start).diagnostics.toList
        = (readStatement start).diagnostics.toList
          ++ (readStatements place (readStatement start).position.tail).diagnostics.toList := by
  obtain ⟨values, positions, diagnostics⟩ := readStatements_of_opened opened
  rw [values, positions, diagnostics]
  exact readFurther_of_ok found

/-- A block ends where a broken statement leads to a closing brace. -/
theorem readStatements_of_closing {error : ParseError}
    (broken : (readStatement start).value = .error error)
    (closing
      : place = .block ∧ Position.kind (skip (readStatement start).position) = .rightBrace)
    : (readStatements place start).value = []
      ∧ (readStatements place start).position = skip (readStatement start).position
      ∧ (readStatements place start).diagnostics.toList
        = (readStatement start).diagnostics.toList
          ++ [⟨error, (readStatement start).position⟩] := by
  obtain ⟨values, positions, diagnostics⟩ := readStatements_of_opened opened
  rw [values, positions, diagnostics]
  exact readFurther_of_error_closed broken closing

/-- Else the others are read behind what is skipped of the broken one. -/
theorem readStatements_of_skipped {error : ParseError}
    (broken : (readStatement start).value = .error error)
    (goes_on
      : ¬ (place = .block
          ∧ Position.kind (skip (readStatement start).position) = .rightBrace))
    : (readStatements place start).value
        = (readStatements place (skip (readStatement start).position).tail).value
      ∧ (readStatements place start).position
        = (readStatements place (skip (readStatement start).position).tail).position
      ∧ (readStatements place start).diagnostics.toList
        = (readStatement start).diagnostics.toList
          ++ ⟨error, (readStatement start).position⟩
            :: (readStatements place
                (skip (readStatement start).position).tail).diagnostics.toList := by
  obtain ⟨values, positions, diagnostics⟩ := readStatements_of_opened opened
  rw [values, positions, diagnostics]
  exact readFurther_of_error_open broken goes_on

end Statement

/-- What holds where a place ends, and in front of a statement if it holds where reading goes on
behind it, holds everywhere. The induction is on the number of tokens.
-/
@[elab_as_elim]
theorem readStatements_induction (place : Place) {motive : Position → Prop} (start : Position)
    (closed : ∀ start, closes place (Position.kind start) = true → motive start)
    (read
      : ∀ start s,
          closes place (Position.kind start) = false
          → (readStatement start).value = .ok s
          → motive (readStatement start).position.tail
          → motive start)
    (closing
      : ∀ start error,
          closes place (Position.kind start) = false
          → (readStatement start).value = .error error
          → place = .block ∧ Position.kind (skip (readStatement start).position) = .rightBrace
          → motive start)
    (skipped
      : ∀ start error,
          closes place (Position.kind start) = false
          → (readStatement start).value = .error error
          → ¬ (place = .block ∧ Position.kind (skip (readStatement start).position) = .rightBrace)
          → motive (skip (readStatement start).position).tail
          → motive start)
    : motive start := by
  induction length : start.length using Nat.strongRecOn generalizing start with
  | _ n ih =>
    subst length
    cases ends : closes place (Position.kind start) with
    | true => exact closed start ends
    | false =>
      have nonempty : 0 < start.length := by
        cases start with
        | nil => cases place <;> cases ends
        | cons => exact Nat.zero_lt_succ _
      have shorter (position : Position) (inside : position <:+ start)
          : position.tail.length < start.length := by
        have := inside.length_le
        rw [List.length_tail]
        omega
      have phrase := (readStatement start).suffix
      cases found : (readStatement start).value with
      | ok s => exact read start s ends found (ih _ (shorter _ phrase) _ rfl)
      | error error =>
        by_cases closes_block : place = .block
            ∧ Position.kind (skip (readStatement start).position) = .rightBrace
        · exact closing start error ends found closes_block
        · have rest := shorter _ ((skip_suffix _).trans phrase)
          exact skipped start error ends found closes_block (ih _ rest _ rfl)

/-- The statements of a place are read up to its end, whatever is reported. -/
theorem closes_readStatements (place : Place) (start : Position)
    : closes place (Position.kind (readStatements place start).position) = true := by
  induction start using readStatements_induction place with
  | closed start closed =>
    rw [(readStatements_of_closed closed).2.1]
    exact closed
  | read start s opened found ih =>
    rw [(readStatements_of_ok opened found).2.1]
    exact ih
  | closing start error opened broken closing =>
    rw [(readStatements_of_closing opened broken closing).2.1, closing.1, closing.2]
    rfl
  | skipped start error opened broken goes_on ih =>
    rw [(readStatements_of_skipped opened broken goes_on).2.1]
    exact ih

theorem readBlock_eq (start : Position)
    : readBlock start
      = { (readStatements .block start.tail).within (List.tail_suffix start) with
          value :=
            if Position.kind (readStatements .block start.tail).position = .endOfInput then
              .error (.unexpected .rightBrace .endOfInput)
            else
              .ok (readStatements .block start.tail).value } :=
  read_eq ..

end Guion.Parsing
