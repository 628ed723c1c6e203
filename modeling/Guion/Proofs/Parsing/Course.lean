import Guion.Proofs.Grammar.Stratified
import Guion.Proofs.Parsing.Clean
import Guion.Proofs.Program.Gathering

/-! What a reader passes, what it reports on the way, and how many statements it takes with it.

A course says which reports are in order between two marks in a source text. Main statement: if the
single steps of a reader keep to a course and all blocks do, then all that is read does, whether it
is broken or not.
-/

namespace Guion

-----------------------------------------------------------------------------------------
-- Statements in a tree
-----------------------------------------------------------------------------------------

/-- The number of statements in a tree, with those in all blocks in it. -/
def StatementCount : Gathering Nat where
  nothing := 0
  join := (· + ·)
  ofStatement _ inside := inside + 1

@[simp]
theorem StatementCount.statements_nil : StatementCount.statements [] = 0 :=
  rfl

theorem StatementCount.statements_cons (s : Statement) (ss : List Statement)
    : StatementCount.statements (s :: ss)
      = StatementCount.inside s + 1 + StatementCount.statements ss :=
  rfl

namespace Parsing

variable {α β : Type} {start part : Position}

-----------------------------------------------------------------------------------------
-- Courses
-----------------------------------------------------------------------------------------

/-- One position is still behind another, or at it, when both are left. -/
theorem suffix_tails (inside : part <:+ start) : part.tail <:+ start.tail := by
  refine List.suffix_of_suffix_length_le (tail_suffix inside) (List.tail_suffix start) ?_
  rw [List.length_tail, List.length_tail]
  exact Nat.sub_le_sub_right inside.length_le 1

/-- The kinds of token that are ever demanded. -/
def demanded : List Token.Kind :=
  [.identifier, .equal, .leftParen, .rightParen, .leftBrace, .rightBrace]

/-- Which reports are in order from one mark in a source text to another, and which of them in front
of an error at a position. There are marks at a token and behind it, also for a reader who comes
there with some statements.
-/
structure Course where
  Mark : Type
  here : Position → Mark
  behind : Position → Mark
  laden : Nat → Mark → Mark
  spans : Mark → List Diagnostic → Mark → Prop
  breaks : Mark → List Diagnostic → ParseError → Position → Prop
  laden_zero : ∀ mark, laden 0 mark = mark
  laden_laden : ∀ m n mark, laden m (laden n mark) = laden (m + n) mark
  refl : ∀ mark, spans mark [] mark
  trans : ∀ {a b c ds es}, spans a ds b → spans b es c → spans a (ds ++ es) c
  trans_breaks
    : ∀ {a b ds es error position},
        spans a ds b → breaks b es error position → breaks a (ds ++ es) error position
  spans_laden : ∀ {a b ds}, spans a ds b → ∀ n, spans (laden n a) ds (laden n b)
  breaks_laden
    : ∀ {a ds error position},
        breaks a ds error position → ∀ n, breaks (laden n a) ds error position
  pass : ∀ position, spans (here position) [] (behind position)
  enter : ∀ position, spans (behind position) [] (here position.tail)
  unexpected
    : ∀ {position kind},
        kind ∈ demanded
        → Position.nextKind position ≠ kind
        → breaks (behind position) [] (.unexpected kind (Position.nextKind position)) position
  noOperand
    : ∀ position,
        Position.kind position ∉ Grammar.starters
        → breaks (here position) [] (.noOperand (Position.literal position)) position
  integerTooLarge
    : ∀ position,
        Position.kind position = .integer
        → Integer.ofLiteral? (Position.literal position) = none
        → breaks (here position) [] (.integerTooLarge (Position.literal position)) position

namespace Course

/-- From a mark on a phrase is read in order, if what it yields is counted so. -/
structure Runs (course : Course) (count : α → Nat) (mark : course.Mark) (phrase : Phrase α start)
    : Prop where
  full
    : ∀ a,
        phrase.value = .ok a
        → course.spans mark phrase.diagnostics.toList
            (course.laden (count a) (course.behind phrase.position))
  broken
    : ∀ error,
        phrase.value = .error error
        → course.breaks mark phrase.diagnostics.toList error phrase.position

variable {course : Course} {count : α → Nat} {mark : course.Mark}

/-- From a token on to the next one. -/
theorem next (course : Course) (position : Position)
    : course.spans (course.here position) [] (course.here position.tail) :=
  course.trans (course.pass position) (course.enter position)

/-- From behind a token on to behind the next one. -/
theorem step (course : Course) (position : Position)
    : course.spans (course.behind position) [] (course.behind position.tail) :=
  course.trans (course.enter position) (course.pass position.tail)

theorem Runs.within {phrase : Phrase α part} (runs : course.Runs count mark phrase)
    {inside : part <:+ start}
    : course.Runs count mark (phrase.within inside) :=
  ⟨runs.full, runs.broken⟩

/-- What is read in order from a mark on is read so from every earlier mark on. -/
theorem Runs.after {phrase : Phrase α start} {earlier : course.Mark}
    (reached : course.spans earlier [] mark) (runs : course.Runs count mark phrase)
    : course.Runs count earlier phrase :=
  ⟨fun a found => course.trans reached (runs.full a found),
    fun error found => course.trans_breaks reached (runs.broken error found)⟩

/-- A reader may come with some statements. -/
theorem Runs.laden {phrase : Phrase α start} (runs : course.Runs count mark phrase) (n : Nat)
    : course.Runs (fun a => n + count a) (course.laden n mark) phrase := by
  constructor
  · intro a found
    have spans := course.spans_laden (runs.full a found) n
    rwa [course.laden_laden] at spans
  · intro error found
    exact course.breaks_laden (runs.broken error found) n

theorem runs_accept {value : α} {position : Position} {inside : position <:+ start}
    (spans : course.spans mark [] (course.laden (count value) (course.behind position)))
    : course.Runs count mark (accept value position inside) := by
  constructor
  · intro a found
    cases found
    simpa [accept] using spans
  · intro error impossible
    cases impossible

theorem runs_reject {error : ParseError} {position : Position} {inside : position <:+ start}
    (breaks : course.breaks mark [] error position)
    : course.Runs count mark (reject error position inside : Phrase α start) := by
  constructor
  · intro a impossible
    cases impossible
  · intro error found
    cases found
    simpa [reject] using breaks

/-- Two phrases in a row are read in order, the second one from behind the first one on. -/
theorem Runs.andThen {countPart : β → Nat} {phrase : Phrase β part} {inside : part <:+ start}
    {next : β → (last : Position) → last.length ≤ part.length → last <:+ start
      → Phrase α start}
    (first : course.Runs countPart mark phrase)
    (second
      : ∀ b last shorter within,
          course.Runs count (course.laden (countPart b) (course.behind last))
            (next b last shorter within))
    : course.Runs count mark (phrase.andThen inside next) := by
  cases found : phrase.value with
  | error error =>
      rw [Reading.andThen_of_error found]
      constructor
      · intro a impossible
        cases impossible
      · intro error' same
        cases same
        exact first.broken error found
  | ok b =>
      rw [Reading.andThen_of_ok found]
      have reached := first.full b found
      have rest := second b phrase.position phrase.length_le (phrase.position_suffix inside)
      constructor
      · intro a last
        rw [Reading.toList_diagnostics_before]
        exact course.trans reached (rest.full a last)
      · intro error last
        rw [Reading.toList_diagnostics_before]
        exact course.trans_breaks reached (rest.broken error last)

/-- A token is demanded behind the last one that was read. -/
theorem runs_expectNext {kind : Token.Kind} {position : Position} {inside : position <:+ start}
    {next : position.tail <:+ start → Phrase α start} {n : Nat}
    (known : kind ∈ demanded)
    (further
      : course.Runs count (course.laden n (course.behind position.tail))
          (next (tail_suffix inside)))
    : course.Runs count (course.laden n (course.behind position))
        (expectNext kind position inside next) := by
  unfold expectNext
  split
  · exact further.after (course.spans_laden (course.step position) n)
  · rename_i other
    exact runs_reject (course.breaks_laden (course.unexpected known other) n)

/-- The same for a reader without any statements. -/
theorem runs_expectNext_zero {kind : Token.Kind} {position : Position}
    {inside : position <:+ start} {next : position.tail <:+ start → Phrase α start}
    (known : kind ∈ demanded)
    (further : course.Runs count (course.behind position.tail) (next (tail_suffix inside)))
    : course.Runs count (course.behind position) (expectNext kind position inside next) := by
  rw [← course.laden_zero (course.behind position)]
  apply runs_expectNext known
  rwa [course.laden_zero]

-----------------------------------------------------------------------------------------
-- Operands
-----------------------------------------------------------------------------------------

/-- What it means for a task that it keeps to a course. The statements of a place are left out, as
they are read in other ways in a block than in a program.
-/
def Keeps (course : Course) : Task → Prop
  | .operand start => course.Runs StatementCount.expression (course.here start) (readOperand start)
  | .operators level left start =>
      course.Runs StatementCount.expression
        (course.laden (StatementCount.expression left) (course.behind start))
        (readOperators level left start)
  | .expression level start =>
      course.Runs StatementCount.expression (course.here start) (readExpression level start)
  | .arguments start =>
      course.Runs StatementCount.arguments (course.here start) (readArguments start)
  | .statement start => course.Runs StatementCount.inside (course.here start) (readStatement start)
  | .statements _ _ => True
  | .block start => course.Runs StatementCount.statements (course.behind start) (readBlock start)

/-- The names of parameters are read in order, by induction on what is left to read. -/
private theorem runs_names {position : Position} (seen : List String)
    {inside : position <:+ start}
    : course.Runs (fun _ => 0) (course.behind position) (names seen position inside) := by
  induction length : position.length using Nat.strongRecOn generalizing seen position with
  | _ n ih =>
      rw [names]
      split
      · rename_i separates
        have shorter := length_tail_tail_lt (two_le_length separates (by decide))
        refine .after (course.step position) (runs_expectNext_zero (by decide) ?_)
        exact ih _ (length ▸ shorter) _ rfl
      · refine runs_expectNext_zero (by decide) (runs_accept ?_)
        rw [course.laden_zero]
        exact course.refl _

private theorem runs_parameters (start : Position)
    : course.Runs (fun _ => 0) (course.behind start) (parameters start) := by
  rw [parameters]
  split
  · refine runs_accept ?_
    rw [course.laden_zero]
    exact course.step start
  · exact runs_expectNext_zero (by decide) (runs_names _)

/-- An operand of one token. -/
private theorem runs_leaf {token : Token} {rest : Position} {e : Expression}
    (read : readOperand (token :: rest) = accept e (token :: rest) (List.suffix_refl _))
    (single : StatementCount.expression e = 0)
    : course.Keeps (.operand (token :: rest)) := by
  rw [Keeps, read]
  apply runs_accept
  rw [single, course.laden_zero]
  exact course.pass _

private theorem keeps_group {token : Token} {rest : Position}
    (ih : ∀ task, lower task (.operand (token :: rest)) → course.Keeps task)
    (kind : token.kind = .leftParen)
    : course.Keeps (.operand (token :: rest)) := by
  have first : course.Runs StatementCount.expression (course.here rest)
      (readExpression .lowest rest) :=
    ih (.expression .lowest rest) (lower_of_length (Nat.lt_succ_self _))
  rw [Keeps, readOperand_leftParen kind]
  refine (first.andThen fun inner last _ _ => ?_).after (course.next (token :: rest))
  exact runs_expectNext (by decide) (runs_accept (course.refl _))

private theorem keeps_unary {token : Token} {rest : Position} {operator : UnaryOperator}
    (ih : ∀ task, lower task (.operand (token :: rest)) → course.Keeps task)
    (signed : UnaryOperator.ofKind? token.kind = some operator)
    : course.Keeps (.operand (token :: rest)) := by
  have first : course.Runs StatementCount.expression (course.here rest)
      (readExpression .unary rest) :=
    ih (.expression .unary rest) (lower_of_length (Nat.lt_succ_self _))
  rw [Keeps, readOperand_unary signed]
  refine (first.andThen fun operand last _ _ => ?_).after (course.next (token :: rest))
  exact runs_accept (course.refl _)

private theorem keeps_conditional {token : Token} {rest : Position}
    (ih : ∀ task, lower task (.operand (token :: rest)) → course.Keeps task)
    (kind : token.kind = .ifWord)
    : course.Keeps (.operand (token :: rest)) := by
  have within_rest : rest.tail.length ≤ rest.length := (List.tail_sublist rest).length_le
  have condition : course.Runs StatementCount.expression (course.here rest.tail)
      (readExpression .lowest rest.tail) :=
    ih (.expression .lowest rest.tail) (lower_of_length (Nat.lt_succ_of_le within_rest))
  have block (last : Position) (within : last.length ≤ rest.length)
      : course.Runs StatementCount.statements (course.behind last.tail.tail)
          (readBlock last.tail.tail) := by
    have shorter := length_tail_lt (length_tail_lt (Nat.lt_succ_of_le within))
    exact ih (.block last.tail.tail) (lower_of_length shorter)
  rw [Keeps, readOperand_ifWord kind]
  refine .after (course.pass (token :: rest)) (runs_expectNext_zero (by decide) ?_)
  refine .after (course.enter rest) (condition.andThen fun test last shorter _ => ?_)
  have within := Nat.le_trans shorter within_rest
  refine runs_expectNext (by decide) (runs_expectNext (by decide) ?_)
  refine ((block last within).laden _).andThen fun taken last' shorter' _ => ?_
  split
  · have within' : last'.length ≤ rest.length :=
      Nat.le_trans shorter' (Nat.le_trans (by simp only [List.length_tail]; omega) within)
    refine .after (course.spans_laden (course.step last') _) (runs_expectNext (by decide) ?_)
    refine ((block last' within').laden _).andThen fun refused last'' _ _ => runs_accept ?_
    rw [Nat.add_assoc]
    exact course.refl _
  · exact runs_accept (course.refl _)

private theorem keeps_function {token : Token} {rest : Position}
    (ih : ∀ task, lower task (.operand (token :: rest)) → course.Keeps task)
    (kind : token.kind = .functionWord)
    : course.Keeps (.operand (token :: rest)) := by
  rw [Keeps, readOperand_functionWord kind]
  refine .after (course.pass (token :: rest)) (runs_expectNext_zero (by decide) ?_)
  refine (runs_parameters rest).andThen fun named last shorter _ => ?_
  have block : course.Runs StatementCount.statements (course.behind last.tail)
      (readBlock last.tail) :=
    ih (.block last.tail) (lower_of_length (length_tail_lt (Nat.lt_succ_of_le shorter)))
  rw [course.laden_zero]
  refine runs_expectNext_zero (by decide) (block.andThen fun code last' _ _ => ?_)
  exact runs_accept (course.refl _)

private theorem keeps_operand (ih : ∀ task, lower task (.operand start) → course.Keeps task)
    : course.Keeps (.operand start) := by
  match start with
  | [] =>
      rw [Keeps, readOperand_nil]
      exact runs_reject (course.noOperand [] (by decide))
  | token :: rest =>
      cases kind : token.kind
      case identifier => exact runs_leaf (readOperand_identifier kind) rfl
      case string => exact runs_leaf (readOperand_string kind) rfl
      case trueWord => exact runs_leaf (readOperand_trueWord kind) rfl
      case falseWord => exact runs_leaf (readOperand_falseWord kind) rfl
      case integer =>
        have read : readOperand (token :: rest) = _ := readOperand_integer kind
        cases found : Integer.ofLiteral? token.literal with
        | some value =>
            rw [found] at read
            exact runs_leaf read rfl
        | none =>
            rw [found] at read
            rw [Keeps, read]
            exact runs_reject (course.integerTooLarge (token :: rest) kind found)
      case leftParen => exact keeps_group ih kind
      case ifWord => exact keeps_conditional ih kind
      case functionWord => exact keeps_function ih kind
      case bang => exact keeps_unary ih (by rw [kind]; rfl)
      case minus => exact keeps_unary ih (by rw [kind]; rfl)
      all_goals
        rw [Keeps, readOperand_none (by simp [kind, UnaryOperator.ofKind?]) (by simp [kind])]
        refine runs_reject (course.noOperand (token :: rest) ?_)
        simp [Position.kind, kind, Grammar.starters]

-----------------------------------------------------------------------------------------
-- Expressions and statements
-----------------------------------------------------------------------------------------

private theorem keeps_operators {level : Precedence} {left : Expression}
    (ih : ∀ task, lower task (.operators level left start) → course.Keeps task)
    : course.Keeps (.operators level left start) := by
  rw [Keeps]
  have behind : course.spans (course.behind start) [] (course.here start.tail.tail) :=
    course.trans (course.step start) (course.enter start.tail)
  by_cases opens : Position.nextKind start = .leftParen
  · have shorter := length_tail_tail_lt (two_le_length opens (by decide))
    by_cases closes : Position.nextKind start.tail = .rightParen
    · rw [readOperators_call_nil opens closes]
      have called := ih (.operators level (.call left []) start.tail.tail) (lower_of_length shorter)
      have closed := course.trans behind (course.pass start.tail.tail)
      exact called.within.after (course.spans_laden closed _)
    · rw [readOperators_call opens closes]
      have given : course.Runs StatementCount.arguments (course.here start.tail.tail)
          (readArguments start.tail.tail) :=
        ih (.arguments start.tail.tail) (lower_of_length shorter)
      refine .after (course.spans_laden behind _) ((given.laden _).andThen
        fun es last within _ => ?_)
      have smaller := Nat.lt_of_le_of_lt within shorter
      exact Runs.within (ih (.operators level (.call left es) last) (lower_of_length smaller))
  by_cases tight : ∃ operator,
      BinaryOperator.ofKind? (Position.nextKind start) = some operator
      ∧ level < operator.precedence
  · obtain ⟨operator, signed, tighter⟩ := tight
    have shorter := length_tail_tail_lt (two_le_length_of_operator signed)
    have right : course.Runs StatementCount.expression (course.here start.tail.tail)
        (readExpression operator.precedence start.tail.tail) :=
      ih (.expression operator.precedence start.tail.tail) (lower_of_length shorter)
    rw [readOperators_binary signed tighter]
    refine .after (course.spans_laden behind _) ((right.laden _).andThen
      fun e last within _ => ?_)
    have smaller := Nat.lt_of_le_of_lt within shorter
    exact Runs.within
      (ih (.operators level (.binary left operator e) last) (lower_of_length smaller))
  · have looser : ∀ operator,
        BinaryOperator.ofKind? (Position.nextKind start) = some operator
        → ¬ level < operator.precedence :=
      fun operator signed tighter => tight ⟨operator, signed, tighter⟩
    rw [readOperators_end opens looser]
    exact runs_accept (course.refl _)

private theorem keeps_expression {level : Precedence}
    (ih : ∀ task, lower task (.expression level start) → course.Keeps task)
    : course.Keeps (.expression level start) := by
  have first : course.Runs StatementCount.expression (course.here start) (readOperand start) :=
    ih (.operand start) (lower_of_rank (List.suffix_refl _) (by simp))
  rw [Keeps, readExpression_eq]
  refine first.andThen fun left last _ inside => ?_
  exact Runs.within (ih (.operators level left last) (lower_of_rank inside (by simp)))

private theorem keeps_arguments (ih : ∀ task, lower task (.arguments start) → course.Keeps task)
    : course.Keeps (.arguments start) := by
  have first : course.Runs StatementCount.expression (course.here start)
      (readExpression .lowest start) :=
    ih (.expression .lowest start) (lower_of_rank (List.suffix_refl _) (by simp))
  rw [Keeps, readArguments_eq]
  refine first.andThen fun e last within inside => ?_
  split
  · rename_i separates
    have shorter := length_tail_tail_lt (two_le_length separates (by decide))
    have others : course.Runs StatementCount.arguments (course.here last.tail.tail)
        (readArguments last.tail.tail) :=
      ih (.arguments last.tail.tail) (lower_of_length (Nat.lt_of_lt_of_le shorter within))
    have behind : course.spans (course.behind last) [] (course.here last.tail.tail) :=
      course.trans (course.step last) (course.enter last.tail)
    refine .after (course.spans_laden behind _) ((others.laden _).andThen fun es last' _ _ => ?_)
    exact runs_accept (course.refl _)
  · exact runs_expectNext (by decide) (runs_accept (course.refl _))

/-- A semicolon behind a statement belongs to it. -/
private theorem spans_optionalSemicolon (course : Course) (last : Position)
    : course.spans (course.behind last) [] (course.behind (optionalSemicolon last)) := by
  unfold optionalSemicolon
  split
  · exact course.step last
  · exact course.refl _

private theorem runs_closing {make : Expression → Statement} {position : Position}
    {within : position <:+ start}
    (first
      : course.Runs StatementCount.expression (course.here position)
          (readExpression .lowest position))
    (same : ∀ value, StatementCount.inside (make value) = StatementCount.expression value)
    : course.Runs StatementCount.inside (course.here position)
        (readClosing make position within) := by
  refine first.andThen fun value last _ _ => runs_accept ?_
  rw [same]
  exact course.spans_laden (course.spans_optionalSemicolon last) _

private theorem keeps_statement (ih : ∀ task, lower task (.statement start) → course.Keeps task)
    : course.Keeps (.statement start) := by
  have value (position : Position) (within : position <:+ start)
      : course.Runs StatementCount.expression (course.here position)
          (readExpression .lowest position) :=
    ih (.expression .lowest position) (lower_of_rank within (by simp))
  rw [Keeps]
  by_cases declares : Position.kind start = .letWord
  · rw [readStatement_letWord declares]
    refine .after (course.pass start) (runs_expectNext_zero (by decide) ?_)
    refine runs_expectNext_zero (by decide) ?_
    have within := tail_suffix (tail_suffix (List.tail_suffix start))
    exact (runs_closing (value _ within) fun _ => rfl).after (course.enter start.tail.tail)
  by_cases returns : Position.kind start = .returnWord
  · rw [readStatement_returnWord returns]
    exact (runs_closing (value _ (List.tail_suffix _)) fun _ => rfl).after (course.next start)
  · rw [readStatement_expression declares returns]
    exact runs_closing (value _ (List.suffix_refl _)) fun _ => rfl

/-- All but the statements of a place keeps to a course, if blocks do. The induction is along the
order of the tasks.
-/
theorem keeps (course : Course)
    (blocks
      : ∀ start,
          (∀ task, lower task (.block start) → course.Keeps task) → course.Keeps (.block start))
    (task : Task)
    : course.Keeps task := by
  induction task using lower_wellFounded.induction with
  | _ task ih =>
      cases task with
      | operand start => exact keeps_operand ih
      | operators level left start => exact keeps_operators ih
      | expression level start => exact keeps_expression ih
      | arguments start => exact keeps_arguments ih
      | statement start => exact keeps_statement ih
      | statements place start => trivial
      | block start => exact blocks start ih

end Course

end Parsing

end Guion
