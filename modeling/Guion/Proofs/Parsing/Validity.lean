import Guion.Program.Parser
import Guion.Proofs.Integer.Numeral
import Guion.Proofs.Parsing.Clean
import Guion.Proofs.Program.Gathering
import Guion.Proofs.Token.Lexed

/-! Every tree that is read can be written down again.

All names in it are spelled as names and no integer in it is negative. This holds of partial
programs as well, so whatever is read counts here, with or without reports.
-/

namespace Guion

-----------------------------------------------------------------------------------------
-- Valid trees
-----------------------------------------------------------------------------------------

/-- Whether a tree has names and integers only that can be written in a source text. -/
def Valid : Gathering Prop where
  nothing := True
  join := And
  ofName := IsName
  ofInteger value := 0 ≤ value.toInt
  ofFunction parameters body := (∀ name ∈ parameters, IsName name) ∧ body
  ofStatement
    | .declare name _, inside => IsName name ∧ inside
    | .returning _, inside | .expression _, inside => inside

namespace Parsing

variable {α β : Type} {start part : Position}

-----------------------------------------------------------------------------------------
-- Positions in lexed texts
-----------------------------------------------------------------------------------------

/-- Tokens that a lexer may yield. -/
def Spelled (position : Position) : Prop :=
  ∀ token ∈ position, token.kind.Spells token.literal

theorem Spelled.suffix (spelled : Spelled start) (inside : part <:+ start) : Spelled part :=
  fun token found => spelled token (inside.subset found)

theorem Spelled.tail (spelled : Spelled start) : Spelled start.tail :=
  spelled.suffix (List.tail_suffix start)

/-- An identifier is a name. -/
theorem Spelled.isName (spelled : Spelled start) (kind : Position.kind start = .identifier)
    : IsName (Position.literal start) := by
  obtain ⟨token, rest, rfl, kind⟩ := exists_of_kind kind (by decide)
  exact (spelled token (List.mem_cons_self ..)).name kind

-----------------------------------------------------------------------------------------
-- What is read in full
-----------------------------------------------------------------------------------------

@[simp]
theorem accept_eq_ok {value expected : α} {position : Position} {inside : position <:+ start}
    : (accept value position inside).value = .ok expected ↔ value = expected :=
  ⟨fun h => Except.ok.inj h, fun h => congrArg _ h⟩

@[simp]
theorem reject_ne_ok {error : ParseError} {value : α} {position : Position}
    {inside : position <:+ start}
    : (reject error position inside).value ≠ .ok value := by
  intro h
  cases h

theorem expectNext_eq_ok {kind : Token.Kind} {position : Position} {inside : position <:+ start}
    {next : position.tail <:+ start → Phrase α start} {value : α}
    : (expectNext kind position inside next).value = .ok value
      ↔ Position.nextKind position = kind ∧ (next (tail_suffix inside)).value = .ok value := by
  unfold expectNext
  split <;> simp_all

/-- What is to be shown of a task at tokens that a lexer may yield. -/
def Validated : Task → Prop
  | .operand start =>
      Spelled start → ∀ e, (readOperand start).value = .ok e → Valid.expression e
  | .operators level left start =>
      Spelled start
      → Valid.expression left
      → ∀ e, (readOperators level left start).value = .ok e → Valid.expression e
  | .expression level start =>
      Spelled start → ∀ e, (readExpression level start).value = .ok e → Valid.expression e
  | .arguments start =>
      Spelled start → ∀ es, (readArguments start).value = .ok es → Valid.arguments es
  | .statement start =>
      Spelled start → ∀ s, (readStatement start).value = .ok s → Valid.statement s
  | .statements place start => Spelled start → Valid.statements (readStatements place start).value
  | .block start =>
      Spelled start → ∀ ss, (readBlock start).value = .ok ss → Valid.statements ss

/-- Parameters are names, by induction on what is left to read. -/
theorem isName_of_names {seen : List String} {position : Position} {inside : position <:+ start}
    {named : List String} (spelled : Spelled position) (front : ∀ name ∈ seen, IsName name)
    (read : (names seen position inside).value = .ok named)
    : ∀ name ∈ named, IsName name := by
  induction length : position.length using Nat.strongRecOn generalizing seen position with
  | _ n ih =>
      rw [names] at read
      split at read
      · rename_i separates
        obtain ⟨kind, read⟩ := expectNext_eq_ok.mp read
        have shorter := length_tail_tail_lt (two_le_length separates (by decide))
        refine ih _ (length ▸ shorter) spelled.tail.tail ?_ read rfl
        rw [List.forall_mem_cons]
        exact ⟨spelled.tail.tail.isName kind, front⟩
      · obtain ⟨-, read⟩ := expectNext_eq_ok.mp read
        obtain rfl := accept_eq_ok.mp read
        simpa using front

theorem isName_of_parameters {named : List String} (spelled : Spelled start)
    (read : (parameters start).value = .ok named)
    : ∀ name ∈ named, IsName name := by
  rw [parameters] at read
  split at read
  · obtain rfl := accept_eq_ok.mp read
    simp
  · obtain ⟨kind, read⟩ := expectNext_eq_ok.mp read
    refine isName_of_names spelled.tail ?_ read
    rw [List.forall_mem_singleton]
    exact spelled.tail.isName kind

-----------------------------------------------------------------------------------------
-- The rules
-----------------------------------------------------------------------------------------

private theorem validated_conditional {token : Token} {rest : Position}
    (ih : ∀ task, lower task (.operand (token :: rest)) → Validated task)
    (kind : token.kind = .ifWord)
    : Validated (.operand (token :: rest)) := by
  intro spelled e read
  rw [readOperand_ifWord kind] at read
  obtain ⟨-, read⟩ := expectNext_eq_ok.mp read
  obtain ⟨condition, tested, read⟩ := Reading.andThen_eq_ok.mp read
  obtain ⟨-, read⟩ := expectNext_eq_ok.mp read
  obtain ⟨-, read⟩ := expectNext_eq_ok.mp read
  obtain ⟨consequence, taken, read⟩ := Reading.andThen_eq_ok.mp read
  have spelled := spelled.tail.tail
  have shorter : rest.tail.length < (token :: rest).length :=
    length_tail_lt (Nat.lt_succ_self _)
  have condition_valid :=
    ih (.expression .lowest rest.tail) (lower_of_length shorter) spelled condition tested
  have spelled := (spelled.suffix (readExpression .lowest rest.tail).suffix).tail.tail
  have shorter := length_tail_lt (length_tail_lt
    (Nat.lt_of_le_of_lt (readExpression .lowest rest.tail).length_le shorter))
  have consequence_valid :=
    ih (.block _) (lower_of_length shorter) spelled consequence taken
  split at read
  · obtain ⟨-, read⟩ := expectNext_eq_ok.mp read
    obtain ⟨alternative, refused, read⟩ := Reading.andThen_eq_ok.mp read
    have spelled := (spelled.suffix (readBlock _).suffix).tail.tail
    have shorter := length_tail_lt (length_tail_lt
      (Nat.lt_of_le_of_lt (readBlock _).length_le shorter))
    have alternative_valid :=
      ih (.block _) (lower_of_length shorter) spelled alternative refused
    obtain rfl := accept_eq_ok.mp read
    exact ⟨condition_valid, consequence_valid, alternative_valid⟩
  · obtain rfl := accept_eq_ok.mp read
    exact ⟨condition_valid, consequence_valid⟩

private theorem validated_function {token : Token} {rest : Position}
    (ih : ∀ task, lower task (.operand (token :: rest)) → Validated task)
    (kind : token.kind = .functionWord)
    : Validated (.operand (token :: rest)) := by
  intro spelled e read
  rw [readOperand_functionWord kind] at read
  obtain ⟨-, read⟩ := expectNext_eq_ok.mp read
  obtain ⟨named, given, read⟩ := Reading.andThen_eq_ok.mp read
  obtain ⟨-, read⟩ := expectNext_eq_ok.mp read
  obtain ⟨code, body, read⟩ := Reading.andThen_eq_ok.mp read
  obtain rfl := accept_eq_ok.mp read
  have names_valid := isName_of_parameters spelled.tail given
  have spelled := (spelled.tail.suffix (parameters rest).suffix).tail
  have shorter : (parameters rest).position.tail.length < (token :: rest).length :=
    length_tail_lt (Nat.lt_of_le_of_lt (parameters rest).length_le (Nat.lt_succ_self _))
  exact ⟨names_valid, ih (.block _) (lower_of_length shorter) spelled code body⟩

private theorem validated_unary {token : Token} {rest : Position} {operator : UnaryOperator}
    (ih : ∀ task, lower task (.operand (token :: rest)) → Validated task)
    (signed : UnaryOperator.ofKind? token.kind = some operator)
    : Validated (.operand (token :: rest)) := by
  intro spelled e read
  rw [readOperand_unary signed] at read
  obtain ⟨operand, inner, read⟩ := Reading.andThen_eq_ok.mp read
  obtain rfl := accept_eq_ok.mp read
  exact ih (.expression .unary rest) (lower_of_length (Nat.lt_succ_self _)) spelled.tail operand
    inner

/-- A literal never denotes a negative integer, as a minus sign is a token of its own. -/
private theorem validated_operand {start : Position}
    (ih : ∀ task, lower task (.operand start) → Validated task)
    : Validated (.operand start) := by
  intro spelled e read
  match start with
  | [] =>
      rw [readOperand_nil] at read
      exact absurd read reject_ne_ok
  | token :: rest =>
      cases kind : token.kind
      case identifier =>
        rw [readOperand_identifier kind] at read
        obtain rfl := accept_eq_ok.mp read
        exact (spelled token (List.mem_cons_self ..)).name kind
      case integer =>
        rw [readOperand_integer kind] at read
        split at read
        · rename_i value found
          have positive : 0 ≤ value.toInt := by
            rw [(Integer.ofLiteral?_eq_some.mp found).denotes]
            exact Int.natCast_nonneg _
          obtain rfl := accept_eq_ok.mp read
          exact positive
        · exact absurd read reject_ne_ok
      case string =>
        rw [readOperand_string kind] at read
        obtain rfl := accept_eq_ok.mp read
        exact trivial
      case trueWord =>
        rw [readOperand_trueWord kind] at read
        obtain rfl := accept_eq_ok.mp read
        exact trivial
      case falseWord =>
        rw [readOperand_falseWord kind] at read
        obtain rfl := accept_eq_ok.mp read
        exact trivial
      case leftParen =>
        rw [readOperand_leftParen kind] at read
        obtain ⟨inner, first, read⟩ := Reading.andThen_eq_ok.mp read
        obtain ⟨-, read⟩ := expectNext_eq_ok.mp read
        obtain rfl := accept_eq_ok.mp read
        exact ih (.expression .lowest rest) (lower_of_length (Nat.lt_succ_self _)) spelled.tail
          inner first
      case ifWord => exact validated_conditional ih kind spelled e read
      case functionWord => exact validated_function ih kind spelled e read
      all_goals first
      | exact validated_unary ih (by rw [kind]; rfl) spelled e read
      | rw [readOperand_none (by simp [kind, UnaryOperator.ofKind?]) (by simp [kind])] at read
        exact absurd read reject_ne_ok

private theorem validated_operators {level : Precedence} {left : Expression} {start : Position}
    (ih : ∀ task, lower task (.operators level left start) → Validated task)
    : Validated (.operators level left start) := by
  intro spelled left_valid e read
  have behind := spelled.tail.tail
  by_cases opens : Position.nextKind start = .leftParen
  · have shorter := length_tail_tail_lt (two_le_length opens (by decide))
    by_cases closes : Position.nextKind start.tail = .rightParen
    · rw [readOperators_call_nil opens closes, Reading.value_within] at read
      exact ih (.operators level (.call left []) _) (lower_of_length shorter) behind
        ⟨left_valid, trivial⟩ e read
    · rw [readOperators_call opens closes] at read
      obtain ⟨es, given, read⟩ := Reading.andThen_eq_ok.mp read
      have es_valid := ih (.arguments _) (lower_of_length shorter) behind es given
      have within := (readArguments start.tail.tail).length_le
      have behind := behind.suffix (readArguments start.tail.tail).suffix
      exact ih (.operators level (.call left es) _)
        (lower_of_length (Nat.lt_of_le_of_lt within shorter)) behind ⟨left_valid, es_valid⟩ e read
  by_cases tight : ∃ operator,
      BinaryOperator.ofKind? (Position.nextKind start) = some operator
      ∧ level < operator.precedence
  · obtain ⟨operator, signed, tighter⟩ := tight
    have shorter := length_tail_tail_lt (two_le_length_of_operator signed)
    rw [readOperators_binary signed tighter] at read
    obtain ⟨right, first, read⟩ := Reading.andThen_eq_ok.mp read
    have right_valid :=
      ih (.expression operator.precedence _) (lower_of_length shorter) behind right first
    have within := (readExpression operator.precedence start.tail.tail).length_le
    have behind := behind.suffix (readExpression operator.precedence start.tail.tail).suffix
    exact ih (.operators level (.binary left operator right) _)
      (lower_of_length (Nat.lt_of_le_of_lt within shorter)) behind ⟨left_valid, right_valid⟩ e read
  · have looser : ∀ operator,
        BinaryOperator.ofKind? (Position.nextKind start) = some operator
        → ¬ level < operator.precedence :=
      fun operator signed tighter => tight ⟨operator, signed, tighter⟩
    rw [readOperators_end opens looser] at read
    obtain rfl := accept_eq_ok.mp read
    exact left_valid

private theorem validated_expression {level : Precedence} {start : Position}
    (ih : ∀ task, lower task (.expression level start) → Validated task)
    : Validated (.expression level start) := by
  intro spelled e read
  rw [readExpression_eq] at read
  obtain ⟨left, first, read⟩ := Reading.andThen_eq_ok.mp read
  have left_valid :=
    ih (.operand start) (lower_of_rank (List.suffix_refl _) (by simp)) spelled left first
  have inside := (readOperand start).suffix
  exact ih (.operators level left _) (lower_of_rank inside (by simp)) (spelled.suffix inside)
    left_valid e read

private theorem validated_arguments {start : Position}
    (ih : ∀ task, lower task (.arguments start) → Validated task)
    : Validated (.arguments start) := by
  intro spelled es read
  rw [readArguments_eq] at read
  obtain ⟨e, first, read⟩ := Reading.andThen_eq_ok.mp read
  have valid := ih (.expression .lowest start) (lower_of_rank (List.suffix_refl _) (by simp))
    spelled e first
  split at read
  · rename_i separates
    obtain ⟨others, further, read⟩ := Reading.andThen_eq_ok.mp read
    obtain rfl := accept_eq_ok.mp read
    have within := (readExpression .lowest start).length_le
    have shorter := length_tail_tail_lt (two_le_length separates (by decide))
    have behind := (spelled.suffix (readExpression .lowest start).suffix).tail.tail
    exact ⟨valid, ih (.arguments _) (lower_of_length (Nat.lt_of_lt_of_le shorter within)) behind
      others further⟩
  · obtain ⟨-, read⟩ := expectNext_eq_ok.mp read
    obtain rfl := accept_eq_ok.mp read
    exact ⟨valid, trivial⟩

/-- A statement is valid if the expression at its end is, and its name if it has one. -/
private theorem validated_closing {make : Expression → Statement} {start position : Position}
    {inside : position <:+ start} {s : Statement}
    (ih : Validated (.expression .lowest position)) (spelled : Spelled position)
    (make_valid : ∀ {value}, Valid.expression value → Valid.statement (make value))
    (read : (readClosing make position inside).value = .ok s)
    : Valid.statement s := by
  obtain ⟨value, first, read⟩ := Reading.andThen_eq_ok.mp read
  obtain rfl := accept_eq_ok.mp read
  exact make_valid (ih spelled value first)

private theorem validated_statement {start : Position}
    (ih : ∀ task, lower task (.statement start) → Validated task)
    : Validated (.statement start) := by
  intro spelled s read
  have value_valid := fun position inside =>
    ih (.expression .lowest position) (lower_of_rank inside (by simp))
  by_cases declares : Position.kind start = .letWord
  · rw [readStatement_letWord declares] at read
    obtain ⟨named, read⟩ := expectNext_eq_ok.mp read
    obtain ⟨-, read⟩ := expectNext_eq_ok.mp read
    have inside := tail_suffix (tail_suffix (List.tail_suffix start))
    have make_valid
        : ∀ {value},
            Valid.expression value
            → Valid.statement (.declare (Position.literal start.tail) value) :=
      fun valid => ⟨spelled.tail.isName named, valid⟩
    exact validated_closing (value_valid _ inside) (spelled.suffix inside) make_valid read
  by_cases returns : Position.kind start = .returnWord
  · rw [readStatement_returnWord returns] at read
    exact validated_closing (value_valid _ (List.tail_suffix _)) spelled.tail id read
  · rw [readStatement_expression declares returns] at read
    exact validated_closing (value_valid _ (List.suffix_refl _)) spelled id read

/-- Broken statements are left out, so all that are kept have been read in full. -/
private theorem validated_statements {place : Place} {start : Position}
    (ih : ∀ task, lower task (.statements place start) → Validated task)
    : Validated (.statements place start) := by
  intro spelled
  match start with
  | [] =>
      rw [readStatements_nil]
      exact trivial
  | token :: rest =>
      cases closed : closes place token.kind with
      | true =>
          rw [readStatements_closed closed]
          exact trivial
      | false =>
          rw [readStatements_open closed]
          have others := fun last (inside : last <:+ token :: rest) =>
            ih (.statements place last.tail)
              (lower_of_length (length_tail_lt_cons inside.length_le)) (spelled.suffix inside).tail
          unfold readFurther
          split
          · rename_i first found
            have valid := ih (.statement (token :: rest))
              (lower_of_rank (List.suffix_refl _) (by simp)) spelled first found
            exact ⟨valid, others _ (readStatement (token :: rest)).suffix⟩
          · dsimp only
            split
            · exact trivial
            · exact others _ (report _ (readStatement (token :: rest))).suffix

private theorem validated_block {start : Position}
    (ih : ∀ task, lower task (.block start) → Validated task)
    : Validated (.block start) := by
  intro spelled ss read
  rw [readBlock_eq] at read
  dsimp only at read
  split at read
  · cases read
  · cases read
    exact ih (.statements .block start.tail) (lower_of_rank (List.tail_suffix _) (by simp))
      spelled.tail

/-- Every tree is valid that is read from tokens of a lexer, by induction along the order of the
tasks.
-/
theorem validated (task : Task) : Validated task := by
  induction task using lower_wellFounded.induction with
  | _ task ih =>
      cases task with
      | operand => exact validated_operand ih
      | operators => exact validated_operators ih
      | expression => exact validated_expression ih
      | arguments => exact validated_arguments ih
      | statement => exact validated_statement ih
      | statements => exact validated_statements ih
      | block => exact validated_block ih

end Parsing

/-- The program of every source text is valid, also if it is partial. -/
theorem valid_program_parse (source : String) : Valid.statements (parse source).program :=
  Parsing.validated (.statements .program (words source)) fun _ found => spells_of_mem_words found

end Guion
