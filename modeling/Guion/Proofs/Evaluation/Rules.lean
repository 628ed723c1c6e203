import Guion.Evaluation.Equations

/-! The rules of evaluation: how a task ends, from how its parts end.

The number of calls under way is a counter here, which evaluation changes: a call raises it in front
of the body of its function and lowers what it finds behind the body. No rule says anything about
how often rules are used.

Main statements: every task ends by the rules, in one way only and with the counter where it was,
and this is the way that the evaluator finds.
-/

namespace Guion.Evaluation

-----------------------------------------------------------------------------------------
-- Tasks and their parts
-----------------------------------------------------------------------------------------

namespace Task

/-- What a task yields unless it stops early. -/
abbrev Yield : Task → Type
  | expression .. => Value
  | statements .. => Value
  | arguments .. => List Value

/-- The part of a task that is evaluated in front of all others. -/
def first? : Task → Option Task
  | expression (.unary _ operand) scope depth store => some (expression operand scope depth store)
  | expression (.binary left _ _) scope depth store => some (expression left scope depth store)
  | expression (.conditional condition _ _) scope depth store =>
      some (expression condition scope depth store)
  | expression (.call callee _) scope depth store => some (expression callee scope depth store)
  | statements (.declare _ value :: _) _ scope depth store =>
      some (expression value scope depth store)
  | statements (.returning value :: _) _ scope depth store =>
      some (expression value scope depth store)
  | statements (.expression value :: _) _ scope depth store =>
      some (expression value scope depth store)
  | arguments (first :: _) scope depth store => some (expression first scope depth store)
  | _ => none

/-- How a task ends, as the evaluator finds. -/
def outcome (limit : Nat) : (task : Task) → Outcome task.Yield
  | expression e scope depth store => evaluateExpression limit e scope depth store
  | statements ss last scope depth store => evaluateStatements limit ss last scope depth store
  | arguments es scope depth store => evaluateArguments limit es scope depth store

end Task

-----------------------------------------------------------------------------------------
-- The rules
-----------------------------------------------------------------------------------------

/-- How a task ends under a limit on nested calls, and the number of calls that are under way
then.
-/
inductive Evaluates (limit : Nat) : (task : Task) → Outcome task.Yield → Nat → Prop where
  /-- A task stops with the part that is evaluated first. -/
  | stops {task part signal later counter} (first : task.first? = some part)
    (stopped : Evaluates limit part ⟨.error signal, later⟩ counter)
    : Evaluates limit task ⟨.error signal, later⟩ counter
  | identifier {name scope depth store}
    : Evaluates limit (.expression (.identifier name) scope depth store)
        (settle (resolve store.heap scope name) store) depth
  | integer {value scope depth store}
    : Evaluates limit (.expression (.integer value) scope depth store)
        (yield (.integer value) store) depth
  | boolean {value scope depth store}
    : Evaluates limit (.expression (.boolean value) scope depth store)
        (yield (.boolean value) store) depth
  | string {value scope depth store}
    : Evaluates limit (.expression (.string value) scope depth store)
        (yield (.string value) store) depth
  | function {parameters code scope depth store}
    : Evaluates limit (.expression (.function parameters code) scope depth store)
        (close parameters code scope store) depth
  | unary {operator operand value scope depth counter store later}
    (evaluated
      : Evaluates limit (.expression operand scope depth store) (yield value later) counter)
    : Evaluates limit (.expression (.unary operator operand) scope depth store)
        (settle (operator.apply value) later) counter
  | binary {operator left right a b scope depth between counter store middle later}
    (first : Evaluates limit (.expression left scope depth store) (yield a middle) between)
    (second : Evaluates limit (.expression right scope between middle) (yield b later) counter)
    : Evaluates limit (.expression (.binary left operator right) scope depth store)
        (settle (operator.apply a b) later) counter
  | rightStops {operator left right a signal scope depth between counter store middle later}
    (first : Evaluates limit (.expression left scope depth store) (yield a middle) between)
    (stopped
      : Evaluates limit (.expression right scope between middle) ⟨.error signal, later⟩ counter)
    : Evaluates limit (.expression (.binary left operator right) scope depth store)
        ⟨.error signal, later⟩ counter
  | consequence {condition consequence alternative test scope depth between counter store middle}
    {outcome : Outcome Value}
    (tested
      : Evaluates limit (.expression condition scope depth store) (yield test middle) between)
    (truthy : test.isTruthy = true)
    (taken
      : Evaluates limit (.statements consequence .null scope between middle) outcome counter)
    : Evaluates limit
        (.expression (.conditional condition consequence alternative) scope depth store)
        outcome counter
  | alternative {condition consequence alternative test scope depth between counter store middle}
    {outcome : Outcome Value}
    (tested
      : Evaluates limit (.expression condition scope depth store) (yield test middle) between)
    (falsy : test.isTruthy = false)
    (taken
      : Evaluates limit (.statements alternative .null scope between middle) outcome counter)
    : Evaluates limit
        (.expression (.conditional condition consequence (some alternative)) scope depth store)
        outcome counter
  | noAlternative {condition consequence test scope depth counter store later}
    (tested
      : Evaluates limit (.expression condition scope depth store) (yield test later) counter)
    (falsy : test.isTruthy = false)
    : Evaluates limit (.expression (.conditional condition consequence none) scope depth store)
        (yield .null later) counter
  /-- No argument is evaluated for a callee that cannot be called. -/
  | notAFunction {callee arguments value scope depth counter store later}
    (called : Evaluates limit (.expression callee scope depth store) (yield value later) counter)
    (other : value.kind ∉ [.function, .builtin])
    : Evaluates limit (.expression (.call callee arguments) scope depth store)
        ⟨.error (.failure (.notAFunction value.kind)), later⟩ counter
  | argumentsStop {callee arguments value signal scope depth between counter store middle later}
    (called
      : Evaluates limit (.expression callee scope depth store) (yield value middle) between)
    (callable : value.kind ∈ [.function, .builtin])
    (stopped
      : Evaluates limit (.arguments arguments scope between middle) ⟨.error signal, later⟩
          counter)
    : Evaluates limit (.expression (.call callee arguments) scope depth store)
        ⟨.error signal, later⟩ counter
  | builtin {callee arguments operation values scope depth between counter store middle later}
    (called
      : Evaluates limit (.expression callee scope depth store)
          (yield (.builtin operation) middle) between)
    (given
      : Evaluates limit (.arguments arguments scope between middle) (yield values later) counter)
    : Evaluates limit (.expression (.call callee arguments) scope depth store)
        (settle (operation.apply values) later) counter
  | wrongCount {callee arguments closure values scope depth between counter store middle later}
    (called
      : Evaluates limit (.expression callee scope depth store)
          (yield (.function closure) middle) between)
    (given
      : Evaluates limit (.arguments arguments scope between middle) (yield values later) counter)
    (different : closure.parameters.length ≠ values.length)
    : Evaluates limit (.expression (.call callee arguments) scope depth store)
        ⟨.error (.failure (.wrongArgumentCount closure.parameters.length values.length)), later⟩
        counter
  | tooDeep {callee arguments closure values scope depth between counter store middle later}
    (called
      : Evaluates limit (.expression callee scope depth store)
          (yield (.function closure) middle) between)
    (given
      : Evaluates limit (.arguments arguments scope between middle) (yield values later) counter)
    (same : closure.parameters.length = values.length)
    (reached : limit ≤ counter)
    : Evaluates limit (.expression (.call callee arguments) scope depth store)
        ⟨.error (.failure (.callDepthExceeded limit)), later⟩ counter
  /-- The counter is raised for the body of a function, and lowered behind it. -/
  | entered {callee arguments closure values scope depth between inside after store middle later}
    {outcome : Outcome Value}
    (called
      : Evaluates limit (.expression callee scope depth store)
          (yield (.function closure) middle) between)
    (given
      : Evaluates limit (.arguments arguments scope between middle) (yield values later) inside)
    (same : closure.parameters.length = values.length)
    (below : inside < limit)
    (body
      : Evaluates limit
          (.statements closure.body .null (enter closure values inside later).1 (inside + 1)
            (enter closure values inside later).2)
          outcome after)
    : Evaluates limit (.expression (.call callee arguments) scope depth store)
        outcome.returned (after - 1)
  | noStatements {last scope depth store}
    : Evaluates limit (.statements [] last scope depth store) (yield last store) depth
  | declare {name e rest last value scope depth between counter store middle}
    {outcome : Outcome Value}
    (evaluated : Evaluates limit (.expression e scope depth store) (yield value middle) between)
    (continued
      : Evaluates limit
          (.statements rest .null scope between (middle.onHeap (·.bind scope name value)))
          outcome counter)
    : Evaluates limit (.statements (.declare name e :: rest) last scope depth store)
        outcome counter
  | returning {e rest last value scope depth counter store later}
    (evaluated : Evaluates limit (.expression e scope depth store) (yield value later) counter)
    : Evaluates limit (.statements (.returning e :: rest) last scope depth store)
        ⟨.error (.returning value), later⟩ counter
  | expression {e rest last value scope depth between counter store middle}
    {outcome : Outcome Value}
    (evaluated : Evaluates limit (.expression e scope depth store) (yield value middle) between)
    (continued : Evaluates limit (.statements rest value scope between middle) outcome counter)
    : Evaluates limit (.statements (.expression e :: rest) last scope depth store)
        outcome counter
  | noArguments {scope depth store}
    : Evaluates limit (.arguments [] scope depth store) (yield [] store) depth
  | argument {e rest value values scope depth between counter store middle later}
    (evaluated : Evaluates limit (.expression e scope depth store) (yield value middle) between)
    (continued
      : Evaluates limit (.arguments rest scope between middle) (yield values later) counter)
    : Evaluates limit (.arguments (e :: rest) scope depth store) (yield (value :: values) later)
        counter
  | restStops {e rest value signal scope depth between counter store middle later}
    (evaluated : Evaluates limit (.expression e scope depth store) (yield value middle) between)
    (stopped
      : Evaluates limit (.arguments rest scope between middle) ⟨.error signal, later⟩ counter)
    : Evaluates limit (.arguments (e :: rest) scope depth store) ⟨.error signal, later⟩ counter

variable {limit : Nat} {scope : Scope} {depth : Nat} {store : Store}

-----------------------------------------------------------------------------------------
-- What ends by the rules ends so for the evaluator
-----------------------------------------------------------------------------------------

/-- The evaluator stops a task with the part that it evaluates first. -/
theorem outcome_of_first {task part : Task} {signal : Signal} {later : Store}
    (first : task.first? = some part) (stopped : part.outcome limit = ⟨.error signal, later⟩)
    : task.outcome limit = ⟨.error signal, later⟩ ∧ part.depth = task.depth := by
  unfold Task.first? at first
  split at first <;> cases first <;> simp only [Task.outcome] at stopped ⊢
  all_goals simp [evaluateExpression_call, stopped]

/-- A call stops at a callee that cannot be called. -/
theorem evaluateExpression_call_of_other {callee : Expression} {value : Value} {later : Store}
    (called : evaluateExpression limit callee scope depth store = yield value later)
    (other : value.kind ∉ [.function, .builtin]) (es : List Expression)
    : evaluateExpression limit (.call callee es) scope depth store
      = ⟨.error (.failure (.notAFunction value.kind)), later⟩ := by
  rw [evaluateExpression_call, called, Outcome.bind_yield]
  cases value with
  | function | builtin => simp [Value.kind] at other
  | _ => rfl

/-- A call stops with its arguments. -/
theorem evaluateExpression_call_of_stopped {callee : Expression} {value : Value}
    {signal : Signal} {middle later : Store} {es : List Expression}
    (called : evaluateExpression limit callee scope depth store = yield value middle)
    (callable : value.kind ∈ [.function, .builtin])
    (stopped : evaluateArguments limit es scope depth middle = ⟨.error signal, later⟩)
    : evaluateExpression limit (.call callee es) scope depth store
      = ⟨.error signal, later⟩ := by
  rw [evaluateExpression_call, called, Outcome.bind_yield]
  cases value with
  | function | builtin =>
      simp only
      rw [stopped, Outcome.bind_error]
  | _ => simp [Value.kind] at callable

/-- A function is not called with the wrong number of arguments. -/
theorem applyClosure_of_ne {closure : Closure} {values : List Value}
    (different : closure.parameters.length ≠ values.length)
    : applyClosure limit closure values depth store
      = ⟨.error (.failure (.wrongArgumentCount closure.parameters.length values.length)),
          store⟩ := by
  simp [applyClosure, allowCall, different]

/-- A function is not called at the limit. -/
theorem applyClosure_of_le {closure : Closure} {values : List Value}
    (same : closure.parameters.length = values.length) (reached : limit ≤ depth)
    : applyClosure limit closure values depth store
      = ⟨.error (.failure (.callDepthExceeded limit)), store⟩ := by
  simp [applyClosure, allowCall, same, Nat.not_lt_of_le reached]

/-- Below the limit the body of a function is run. -/
theorem applyClosure_of_lt {closure : Closure} {values : List Value}
    (same : closure.parameters.length = values.length) (below : depth < limit)
    : applyClosure limit closure values depth store
      = (evaluateBlock limit closure.body (enter closure values depth store).1 (depth + 1)
          (enter closure values depth store).2).returned := by
  rw [applyClosure, allowCall, if_neg (not_not_intro same), dif_pos below]

/-- The evaluator ends a task as the rules do, and the counter is back where it was, by induction on
the rules.
-/
theorem Evaluates.outcome_eq {task : Task} {outcome : Outcome task.Yield} {counter : Nat}
    (h : Evaluates limit task outcome counter)
    : task.outcome limit = outcome ∧ counter = task.depth := by
  induction h with
  | stops first _ ih =>
      obtain ⟨stopped, rfl⟩ := ih
      exact outcome_of_first first stopped
  | identifier | integer | boolean | string | function | noStatements | noArguments =>
      simp [Task.outcome]
  | unary _ ih | noAlternative _ _ ih | returning _ ih =>
      obtain ⟨evaluated, rfl⟩ := ih
      simp_all [Task.outcome]
  | binary _ _ ih ih' | rightStops _ _ ih ih' | declare _ _ ih ih' | expression _ _ ih ih'
  | argument _ _ ih ih' | restStops _ _ ih ih' =>
      obtain ⟨evaluated, rfl⟩ := ih
      obtain ⟨continued, rfl⟩ := ih'
      simp_all [Task.outcome]
  | consequence _ _ _ ih ih' | alternative _ _ _ ih ih' =>
      obtain ⟨tested, rfl⟩ := ih
      obtain ⟨taken, rfl⟩ := ih'
      simp_all [Task.outcome, evaluateBlock]
  | notAFunction _ other ih =>
      obtain ⟨called, rfl⟩ := ih
      exact ⟨evaluateExpression_call_of_other called other _, rfl⟩
  | argumentsStop _ callable _ ih ih' =>
      obtain ⟨called, rfl⟩ := ih
      obtain ⟨stopped, rfl⟩ := ih'
      exact ⟨evaluateExpression_call_of_stopped called callable stopped, rfl⟩
  | builtin _ _ ih ih' =>
      obtain ⟨called, rfl⟩ := ih
      obtain ⟨given, rfl⟩ := ih'
      simp_all [Task.outcome, evaluateExpression_call]
  | wrongCount _ _ different ih ih' =>
      obtain ⟨called, rfl⟩ := ih
      obtain ⟨given, rfl⟩ := ih'
      simp_all [Task.outcome, evaluateExpression_call, applyClosure_of_ne different]
  | tooDeep _ _ same reached ih ih' =>
      obtain ⟨called, rfl⟩ := ih
      obtain ⟨given, rfl⟩ := ih'
      simp_all [Task.outcome, evaluateExpression_call, applyClosure_of_le same reached]
  | entered _ _ same below _ ih ih' ih'' =>
      obtain ⟨called, rfl⟩ := ih
      obtain ⟨given, rfl⟩ := ih'
      obtain ⟨body, rfl⟩ := ih''
      simp_all [Task.outcome, evaluateExpression_call, applyClosure_of_lt same below,
        evaluateBlock]

-----------------------------------------------------------------------------------------
-- What the evaluator finds follows from the rules
-----------------------------------------------------------------------------------------

/-- A task that starts with an expression stops with it or goes on with its value. -/
private theorem Evaluates.bind_first {task : Task} {e : Expression}
    {next : Value → Store → Outcome task.Yield}
    (first : task.first? = some (.expression e scope depth store))
    (part
      : Evaluates limit (.expression e scope depth store)
          (evaluateExpression limit e scope depth store) depth)
    (continued
      : ∀ value later,
          Evaluates limit (.expression e scope depth store) (yield value later) depth
          → Evaluates limit task (next value later) depth)
    : Evaluates limit task ((evaluateExpression limit e scope depth store).bind next) depth := by
  generalize evaluateExpression limit e scope depth store = outcome at part ⊢
  rcases outcome with ⟨signal | value, later⟩
  · exact .stops first part
  · exact continued value later part

/-- Once there is a function to call and values to call it with, the call ends. -/
private theorem Evaluates.applyClosure {callee : Expression} {es : List Expression}
    {closure : Closure} {values : List Value} {middle later : Store}
    (called
      : Evaluates limit (.expression callee scope depth store) (yield (.function closure) middle)
          depth)
    (given : Evaluates limit (.arguments es scope depth middle) (yield values later) depth)
    (body
      : depth < limit
        → ∀ inner store,
            Evaluates limit (.statements closure.body .null inner (depth + 1) store)
              (evaluateBlock limit closure.body inner (depth + 1) store) (depth + 1))
    : Evaluates limit (.expression (.call callee es) scope depth store)
        (applyClosure limit closure values depth later) depth := by
  by_cases same : closure.parameters.length = values.length
  · rcases Nat.lt_or_ge depth limit with below | reached
    · rw [applyClosure_of_lt same below]
      exact .entered called given same below (body below _ _)
    · rw [applyClosure_of_le same reached]
      exact .tooDeep called given same reached
  · rw [applyClosure_of_ne same]
    exact .wrongCount called given same

/-- Every task ends by the rules as the evaluator finds, by induction along the order of tasks. -/
theorem evaluates_outcome (limit : Nat) (task : Task)
    : Evaluates limit task (task.outcome limit) task.depth := by
  induction task using Task.induction limit with
  | identifier =>
      simp only [Task.outcome, evaluateExpression_identifier]
      exact .identifier
  | integer =>
      simp only [Task.outcome, evaluateExpression_integer]
      exact .integer
  | boolean =>
      simp only [Task.outcome, evaluateExpression_boolean]
      exact .boolean
  | string =>
      simp only [Task.outcome, evaluateExpression_string]
      exact .string
  | function =>
      simp only [Task.outcome, evaluateExpression_function]
      exact .function
  | unary operator operand scope depth store ih =>
      simp only [Task.outcome, evaluateExpression_unary]
      refine .bind_first rfl ih ?_
      intro value later evaluated
      exact .unary evaluated
  | binary left operator right scope depth store ih ih' =>
      simp only [Task.outcome, evaluateExpression_binary]
      refine .bind_first rfl ih ?_
      intro a middle first
      have second := ih' middle
      simp only [Task.outcome] at second
      generalize evaluateExpression limit right scope depth middle = outcome at second ⊢
      rcases outcome with ⟨signal | b, later⟩
      · exact .rightStops first second
      · exact .binary first second
  | conditional condition consequence alternative scope depth store test taken refused =>
      simp only [Task.outcome, evaluateExpression_conditional]
      refine .bind_first rfl test ?_
      intro test middle tested
      split
      · rename_i truthy
        exact .consequence tested truthy (taken middle)
      · rename_i falsy
        rw [Bool.not_eq_true] at falsy
        cases alternative with
        | none => exact .noAlternative tested falsy
        | some alternative => exact .alternative tested falsy (refused alternative rfl middle)
  | call callee es scope depth store function given body =>
      simp only [Task.outcome, evaluateExpression_call]
      refine .bind_first rfl function ?_
      intro value middle called
      have given := given middle
      simp only [Task.outcome] at given
      cases value with
      | function closure =>
          simp only
          generalize evaluateArguments limit es scope depth middle = outcome at given ⊢
          rcases outcome with ⟨signal | values, later⟩
          · exact .argumentsStop called (by simp [Value.kind]) given
          · exact .applyClosure called given fun below => body below closure.body
      | builtin operation =>
          simp only
          generalize evaluateArguments limit es scope depth middle = outcome at given ⊢
          rcases outcome with ⟨signal | values, later⟩
          · exact .argumentsStop called (by simp [Value.kind]) given
          · exact .builtin called given
      | _ => exact .notAFunction called (by simp [Value.kind])
  | noStatements =>
      simp only [Task.outcome, evaluateStatements_nil]
      exact .noStatements
  | declare name e rest last scope depth store ih continued =>
      simp only [Task.outcome, evaluateStatements_declare]
      refine .bind_first rfl ih ?_
      intro value middle evaluated
      exact .declare evaluated (continued _)
  | returning e rest last scope depth store ih =>
      simp only [Task.outcome, evaluateStatements_returning]
      refine .bind_first rfl ih ?_
      intro value later evaluated
      exact .returning evaluated
  | expression e rest last scope depth store ih continued =>
      simp only [Task.outcome, evaluateStatements_expression]
      refine .bind_first rfl ih ?_
      intro value middle evaluated
      exact .expression evaluated (continued value middle)
  | noArguments =>
      simp only [Task.outcome, evaluateArguments_nil]
      exact .noArguments
  | argument e es scope depth store ih continued =>
      simp only [Task.outcome, evaluateArguments_cons]
      refine .bind_first rfl ih ?_
      intro value middle evaluated
      have continued := continued middle
      simp only [Task.outcome] at continued
      generalize evaluateArguments limit es scope depth middle = outcome at continued ⊢
      rcases outcome with ⟨signal | values, later⟩
      · exact .restStops evaluated continued
      · exact .argument evaluated continued

/-- The rules say how a task ends, and with which counter. -/
theorem evaluates_iff {task : Task} {outcome : Outcome task.Yield} {counter : Nat}
    : Evaluates limit task outcome counter
      ↔ task.outcome limit = outcome ∧ counter = task.depth := by
  constructor
  · exact Evaluates.outcome_eq
  · rintro ⟨rfl, rfl⟩
    exact evaluates_outcome limit task

end Guion.Evaluation
