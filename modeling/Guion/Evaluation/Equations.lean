import Guion.Evaluation.Basic

/-! What evaluation does, one equation for each kind of expression and statement.

What is evaluated within a task comes before it in the order of the tasks, so what is handed on from
there to the task holds of all tasks.
-/

namespace Guion.Evaluation

variable (limit : Nat) (scope : Scope) (depth : Nat) (store : Store)

private theorem evaluateExpression_eq (e : Expression)
    : evaluateExpression limit e scope depth store
      = (expressionSteps limit e scope depth store).result (evaluate limit) :=
  evaluate_eq ..

private theorem evaluateStatements_eq (ss : List Statement) (last : Value)
    : evaluateStatements limit ss last scope depth store
      = (statementsSteps limit ss last scope depth store).result (evaluate limit) :=
  evaluate_eq ..

private theorem evaluateArguments_eq (es : List Expression)
    : evaluateArguments limit es scope depth store
      = (argumentsSteps limit es scope depth store).result (evaluate limit) :=
  evaluate_eq ..

variable {α β : Type} {allowed : Task → Prop}

@[simp]
theorem result_afterExpression (e : Expression)
    (smaller : allowed (.expression e scope depth store))
    (next : Value → Store → Steps allowed β)
    : (afterExpression e scope depth store smaller next).result (evaluate limit)
      = (evaluateExpression limit e scope depth store).bind fun value store =>
        (next value store).result (evaluate limit) :=
  result_andThen ..

@[simp]
theorem result_afterArguments (es : List Expression)
    (smaller : allowed (.arguments es scope depth store))
    (next : List Value → Store → Steps allowed β)
    : (afterArguments es scope depth store smaller next).result (evaluate limit)
      = (evaluateArguments limit es scope depth store).bind fun values store =>
        (next values store).result (evaluate limit) :=
  result_andThen ..

@[simp]
theorem result_lastly (ss : List Statement) (last : Value)
    (smaller : allowed (.statements ss last scope depth store))
    : (lastly ss last scope depth store smaller).result (evaluate limit)
      = evaluateStatements limit ss last scope depth store :=
  rfl

@[simp]
theorem evaluateExpression_identifier (name : String)
    : evaluateExpression limit (.identifier name) scope depth store
      = settle (resolve store.heap scope name) store :=
  evaluate_eq ..

@[simp]
theorem evaluateExpression_integer (value : Integer)
    : evaluateExpression limit (.integer value) scope depth store
      = yield (.integer value) store :=
  evaluate_eq ..

@[simp]
theorem evaluateExpression_boolean (value : Bool)
    : evaluateExpression limit (.boolean value) scope depth store
      = yield (.boolean value) store :=
  evaluate_eq ..

@[simp]
theorem evaluateExpression_string (value : String)
    : evaluateExpression limit (.string value) scope depth store
      = yield (.string value) store :=
  evaluate_eq ..

@[simp]
theorem evaluateExpression_unary (operator : UnaryOperator) (operand : Expression)
    : evaluateExpression limit (.unary operator operand) scope depth store
      = (evaluateExpression limit operand scope depth store).bind fun operand store =>
        settle (operator.apply operand) store := by
  rw [evaluateExpression_eq]
  simp [expressionSteps]

@[simp]
theorem evaluateExpression_binary (left : Expression) (operator : BinaryOperator)
    (right : Expression)
    : evaluateExpression limit (.binary left operator right) scope depth store
      = (evaluateExpression limit left scope depth store).bind fun left store =>
        (evaluateExpression limit right scope depth store).bind fun right store =>
        settle (operator.apply left right) store := by
  rw [evaluateExpression_eq]
  simp [expressionSteps]

@[simp]
theorem evaluateExpression_conditional (condition : Expression) (consequence : Block)
    (alternative : Option Block)
    : evaluateExpression limit (.conditional condition consequence alternative) scope depth store
      = (evaluateExpression limit condition scope depth store).bind fun condition store =>
        if condition.isTruthy then
          evaluateBlock limit consequence scope depth store
        else
          alternative.elim (yield .null store) fun alternative =>
            evaluateBlock limit alternative scope depth store := by
  rw [evaluateExpression_eq]
  cases alternative <;> simp [expressionSteps, evaluateBlock]

@[simp]
theorem evaluateExpression_function (parameters : List String) (code : Block)
    : evaluateExpression limit (.function parameters code) scope depth store
      = close parameters code scope store :=
  evaluate_eq ..

/-- A callee that cannot be called stops evaluation in front of the arguments. -/
theorem evaluateExpression_call (callee : Expression) (arguments : List Expression)
    : evaluateExpression limit (.call callee arguments) scope depth store
      = (evaluateExpression limit callee scope depth store).bind fun callee store =>
        match callee with
        | .function closure =>
          (evaluateArguments limit arguments scope depth store).bind fun arguments store =>
          applyClosure limit closure arguments depth store
        | .builtin builtin =>
          (evaluateArguments limit arguments scope depth store).bind fun arguments store =>
          settle (builtin.apply arguments) store
        | other => settle (.error (.notAFunction other.kind)) store := by
  rw [evaluateExpression_eq]
  simp only [expressionSteps, result_afterExpression]
  congr 1
  funext callee store
  cases callee with
  | function closure =>
    simp only [result_afterArguments]
    congr 1
    funext arguments store
    unfold applyClosure
    cases allowCall limit closure arguments depth <;> rfl
  | builtin operation => simp
  | _ => rfl

@[simp]
theorem evaluateStatements_nil (last : Value)
    : evaluateStatements limit [] last scope depth store = yield last store :=
  evaluate_eq ..

@[simp]
theorem evaluateStatements_declare (name : String) (value : Expression) (rest : List Statement)
    (last : Value)
    : evaluateStatements limit (.declare name value :: rest) last scope depth store
      = (evaluateExpression limit value scope depth store).bind fun value store =>
        evaluateStatements limit rest .null scope depth
          (store.onHeap (·.bind scope name value)) := by
  rw [evaluateStatements_eq]
  simp [statementsSteps]

@[simp]
theorem evaluateStatements_returning (value : Expression) (rest : List Statement) (last : Value)
    : evaluateStatements limit (.returning value :: rest) last scope depth store
      = (evaluateExpression limit value scope depth store).bind fun value store =>
        ⟨.error (.returning value), store⟩ := by
  rw [evaluateStatements_eq]
  simp [statementsSteps]

@[simp]
theorem evaluateStatements_expression (value : Expression) (rest : List Statement)
    (last : Value)
    : evaluateStatements limit (.expression value :: rest) last scope depth store
      = (evaluateExpression limit value scope depth store).bind fun value store =>
        evaluateStatements limit rest value scope depth store := by
  rw [evaluateStatements_eq]
  simp [statementsSteps]

@[simp]
theorem evaluateArguments_nil
    : evaluateArguments limit [] scope depth store = yield [] store :=
  evaluate_eq ..

@[simp]
theorem evaluateArguments_cons (first : Expression) (rest : List Expression)
    : evaluateArguments limit (first :: rest) scope depth store
      = (evaluateExpression limit first scope depth store).bind fun first store =>
        (evaluateArguments limit rest scope depth store).bind fun rest store =>
        yield (first :: rest) store := by
  rw [evaluateArguments_eq]
  simp [argumentsSteps]

/-- Statements in a row are evaluated one after the other. -/
theorem evaluateStatements_append (first second : List Statement) (last : Value)
    : evaluateStatements limit (first ++ second) last scope depth store
      = (evaluateStatements limit first last scope depth store).bind fun last store =>
        evaluateStatements limit second last scope depth store := by
  induction first generalizing last store with
  | nil => simp
  | cons s first ih => cases s <;> simp [ih, Outcome.bind_assoc]

/-- Arguments in a row are evaluated one after the other. -/
theorem evaluateArguments_append (first second : List Expression)
    : evaluateArguments limit (first ++ second) scope depth store
      = (evaluateArguments limit first scope depth store).bind fun values store =>
        (evaluateArguments limit second scope depth store).bind fun others store =>
        yield (values ++ others) store := by
  induction first generalizing store with
  | nil => simp
  | cons e first ih => simp [ih, Outcome.bind_assoc]

open Size in
/-- What a task has whenever the tasks have it that are evaluated within it, all tasks have. The
induction is along the order of the tasks.
-/
@[elab_as_elim]
theorem Task.induction (limit : Nat) {motive : Task → Prop} (task : Task)
    (identifier
      : ∀ name scope depth store, motive (.expression (.identifier name) scope depth store))
    (integer : ∀ value scope depth store, motive (.expression (.integer value) scope depth store))
    (boolean : ∀ value scope depth store, motive (.expression (.boolean value) scope depth store))
    (string : ∀ value scope depth store, motive (.expression (.string value) scope depth store))
    (function
      : ∀ parameters body scope depth store,
          motive (.expression (.function parameters body) scope depth store))
    (unary
      : ∀ operator operand scope depth store,
          motive (.expression operand scope depth store)
          → motive (.expression (.unary operator operand) scope depth store))
    (binary
      : ∀ left operator right scope depth store,
          motive (.expression left scope depth store)
          → (∀ middle, motive (.expression right scope depth middle))
          → motive (.expression (.binary left operator right) scope depth store))
    (conditional
      : ∀ condition consequence alternative scope depth store,
          motive (.expression condition scope depth store)
          → (∀ middle, motive (.statements consequence .null scope depth middle))
          → (∀ block ∈ alternative, ∀ middle, motive (.statements block .null scope depth middle))
          → motive (.expression (.conditional condition consequence alternative) scope depth store))
    (call
      : ∀ callee es scope depth store,
          motive (.expression callee scope depth store)
          → (∀ middle, motive (.arguments es scope depth middle))
          → (depth < limit
              → ∀ body inner later, motive (.statements body .null inner (depth + 1) later))
          → motive (.expression (.call callee es) scope depth store))
    (noStatements : ∀ last scope depth store, motive (.statements [] last scope depth store))
    (declare
      : ∀ name e rest last scope depth store,
          motive (.expression e scope depth store)
          → (∀ later, motive (.statements rest .null scope depth later))
          → motive (.statements (.declare name e :: rest) last scope depth store))
    (returning
      : ∀ e rest last scope depth store,
          motive (.expression e scope depth store)
          → motive (.statements (.returning e :: rest) last scope depth store))
    (expression
      : ∀ e rest last scope depth store,
          motive (.expression e scope depth store)
          → (∀ value later, motive (.statements rest value scope depth later))
          → motive (.statements (.expression e :: rest) last scope depth store))
    (noArguments : ∀ scope depth store, motive (.arguments [] scope depth store))
    (argument
      : ∀ e es scope depth store,
          motive (.expression e scope depth store)
          → (∀ later, motive (.arguments es scope depth later))
          → motive (.arguments (e :: es) scope depth store))
    : motive task := by
  induction task using (lower_wellFounded limit).induction with
  | _ task ih =>
    match task with
    | .expression e scope depth store =>
      cases e with
      | identifier name => exact identifier name scope depth store
      | integer value => exact integer value scope depth store
      | boolean value => exact boolean value scope depth store
      | string value => exact string value scope depth store
      | function parameters body => exact function parameters body scope depth store
      | unary operator operand =>
        apply unary
        exact ih _ (lower_of_size rfl (operand_lt_unary ..))
      | binary left operator right =>
        apply binary
        · exact ih _ (lower_of_size rfl (left_lt_binary ..))
        · intro middle
          exact ih _ (lower_of_size rfl (right_lt_binary ..))
      | conditional condition consequence alternative =>
        apply conditional
        · exact ih _ (lower_of_size rfl (condition_lt_conditional ..))
        · intro middle
          exact ih _ (lower_of_size rfl (consequence_lt_conditional ..))
        · intro block inside middle
          cases inside
          exact ih _ (lower_of_size rfl (alternative_lt_conditional ..))
      | call callee es =>
        apply call
        · exact ih _ (lower_of_size rfl (callee_lt_call ..))
        · intro middle
          exact ih _ (lower_of_size rfl (arguments_lt_call ..))
        · intro below body inner later
          exact ih _ (lower_of_depth below (Nat.lt_succ_self depth))
    | .statements [] last scope depth store => exact noStatements last scope depth store
    | .statements (.declare name e :: rest) last scope depth store =>
      apply declare
      · exact ih _ (lower_of_size rfl (part_lt_cons (value_lt_declare ..) _))
      · intro later
        exact ih _ (lower_of_size rfl (rest_lt_cons ..))
    | .statements (.returning e :: rest) last scope depth store =>
      apply returning
      exact ih _ (lower_of_size rfl (part_lt_cons (value_lt_returning ..) _))
    | .statements (.expression e :: rest) last scope depth store =>
      apply expression
      · exact ih _ (lower_of_size rfl (part_lt_cons (value_lt_expression ..) _))
      · intro value later
        exact ih _ (lower_of_size rfl (rest_lt_cons ..))
    | .arguments [] scope depth store => exact noArguments scope depth store
    | .arguments (e :: es) scope depth store =>
      apply argument
      · exact ih _ (lower_of_size rfl (first_lt_cons ..))
      · intro later
        exact ih _ (lower_of_size rfl (rest_lt_cons ..))

end Guion.Evaluation
