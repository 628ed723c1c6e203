import Mathlib.Logic.Relation
import Guion.Proofs.Evaluation.Rules

/-! The moments of an evaluation: the tasks that are evaluated within a task.

What a task asks for is told by the plan that the evaluator follows. Main statement: everything that
is asked for is one of a few steps into the task, and each of these starts where an earlier part of
the task has ended.
-/

namespace Guion

namespace Plan

variable {Call : Type} {Answer : Call → Type} {allowed : Call → Prop} {α : Type}

/-- The calls that a plan asks for, in order, if `oracle` answers them. -/
def asked (oracle : (c : Call) → Answer c) : Plan Answer allowed α → List Call
  | .done _ => []
  | .ask c _ resume => c :: (resume (oracle c)).asked oracle

end Plan

namespace Evaluation

/-- The store that a task starts with. -/
def Task.store : Task → Store
  | expression _ _ _ store => store
  | statements _ _ _ _ store => store
  | arguments _ _ _ store => store

/-- The tasks that are evaluated directly within a task, in order. -/
def Task.asked (limit : Nat) (task : Task) : List Task :=
  (body limit task).asked (evaluate limit)

/-- A task is evaluated at some moment of another one: it is the other one, or is evaluated directly
within a task that is.
-/
def Within (limit : Nat) (outer inner : Task) : Prop :=
  Relation.ReflTransGen (fun task part => part ∈ task.asked limit) outer inner

-----------------------------------------------------------------------------------------
-- Steps into a task
-----------------------------------------------------------------------------------------

/-- The ways in which a task is evaluated directly within another one. -/
inductive Visits (limit : Nat) : Task → Task → Prop where
  | first {task part} (first : task.first? = some part) : Visits limit task part
  | right {operator left right a scope depth store middle}
    (first : evaluateExpression limit left scope depth store = yield a middle)
    : Visits limit (.expression (.binary left operator right) scope depth store)
        (.expression right scope depth middle)
  | consequence {condition consequence alternative test scope depth store middle}
    (tested : evaluateExpression limit condition scope depth store = yield test middle)
    (truthy : test.isTruthy = true)
    : Visits limit (.expression (.conditional condition consequence alternative) scope depth store)
        (.statements consequence .null scope depth middle)
  | alternative {condition consequence alternative test scope depth store middle}
    (tested : evaluateExpression limit condition scope depth store = yield test middle)
    (falsy : test.isTruthy = false)
    : Visits limit
        (.expression (.conditional condition consequence (some alternative)) scope depth store)
        (.statements alternative .null scope depth middle)
  | arguments {callee es value scope depth store middle}
    (called : evaluateExpression limit callee scope depth store = yield value middle)
    (callable : value.kind ∈ [.function, .builtin])
    : Visits limit (.expression (.call callee es) scope depth store)
        (.arguments es scope depth middle)
  /-- The body of a function is evaluated in a new scope, under one call more. -/
  | body {callee es closure values scope depth store middle later}
    (called
      : evaluateExpression limit callee scope depth store = yield (.function closure) middle)
    (given : evaluateArguments limit es scope depth middle = yield values later)
    (below : depth < limit)
    : Visits limit (.expression (.call callee es) scope depth store)
        (.statements closure.body .null (enter closure values depth later).1 (depth + 1)
          (enter closure values depth later).2)
  | afterDeclaration {name e rest last value scope depth store middle}
    (evaluated : evaluateExpression limit e scope depth store = yield value middle)
    : Visits limit (.statements (.declare name e :: rest) last scope depth store)
        (.statements rest .null scope depth (middle.onHeap (·.bind scope name value)))
  | afterExpression {e rest last value scope depth store middle}
    (evaluated : evaluateExpression limit e scope depth store = yield value middle)
    : Visits limit (.statements (.expression e :: rest) last scope depth store)
        (.statements rest value scope depth middle)
  | afterArgument {e rest value scope depth store middle}
    (evaluated : evaluateExpression limit e scope depth store = yield value middle)
    : Visits limit (.arguments (e :: rest) scope depth store) (.arguments rest scope depth middle)

variable {α β : Type} {limit : Nat} {allowed : Task → Prop} {inner outer : Task} {scope : Scope}
  {depth : Nat} {store : Store}

/-- Behind an outcome nothing is evaluated, or else what is evaluated with its value. -/
theorem mem_asked_andThen {oracle : (task : Task) → task.Answer} {outcome : Outcome β}
    {next : β → Store → Steps allowed α} (found : inner ∈ (outcome.andThen next).asked oracle)
    : ∃ value later, outcome = yield value later ∧ inner ∈ (next value later).asked oracle := by
  rcases outcome with ⟨signal | value, later⟩
  · cases found
  · exact ⟨value, later, rfl, found⟩

theorem mem_asked_afterExpression {e : Expression}
    {smaller : allowed (.expression e scope depth store)}
    {next : Value → Store → Steps allowed α}
    (found : inner ∈ (afterExpression e scope depth store smaller next).asked (evaluate limit))
    : inner = .expression e scope depth store
      ∨ ∃ value later,
          evaluateExpression limit e scope depth store = yield value later
          ∧ inner ∈ (next value later).asked (evaluate limit) :=
  (List.mem_cons.mp found).imp_right mem_asked_andThen

theorem mem_asked_afterArguments {es : List Expression}
    {smaller : allowed (.arguments es scope depth store)}
    {next : List Value → Store → Steps allowed α}
    (found : inner ∈ (afterArguments es scope depth store smaller next).asked (evaluate limit))
    : inner = .arguments es scope depth store
      ∨ ∃ values later,
          evaluateArguments limit es scope depth store = yield values later
          ∧ inner ∈ (next values later).asked (evaluate limit) :=
  (List.mem_cons.mp found).imp_right mem_asked_andThen

private theorem visits_of_mem_expression {e : Expression}
    (found : inner ∈ (expressionSteps limit e scope depth store).asked (evaluate limit))
    : Visits limit (.expression e scope depth store) inner := by
  cases e with
  | identifier | integer | boolean | string | function => cases found
  | unary operator operand =>
      rcases mem_asked_afterExpression found with same | ⟨_, _, -, found⟩
      · exact same ▸ .first rfl
      · cases found
  | binary left operator right =>
      rcases mem_asked_afterExpression found with same | ⟨a, middle, first, found⟩
      · exact same ▸ .first rfl
      · rcases mem_asked_afterExpression found with same | ⟨_, _, -, found⟩
        · exact same ▸ .right first
        · cases found
  | conditional condition consequence alternative =>
      rcases mem_asked_afterExpression found with same | ⟨test, middle, tested, found⟩
      · exact same ▸ .first rfl
      · split at found
        · rename_i truthy
          exact List.mem_singleton.mp found ▸ .consequence tested truthy
        · rename_i falsy
          cases alternative with
          | none => cases found
          | some alternative =>
              exact List.mem_singleton.mp found ▸
                .alternative tested (eq_false_of_ne_true falsy)
  | call callee es =>
      rcases mem_asked_afterExpression found with same | ⟨value, middle, called, found⟩
      · exact same ▸ .first rfl
      · split at found
        · rcases mem_asked_afterArguments found with same | ⟨values, later, given, found⟩
          · exact same ▸ .arguments called (by simp [Value.kind])
          · split at found
            · cases found
            · rename_i below _
              exact List.mem_singleton.mp found ▸ .body called given below.down
        · rcases mem_asked_afterArguments found with same | ⟨_, _, -, found⟩
          · exact same ▸ .arguments called (by simp [Value.kind])
          · cases found
        · cases found

private theorem visits_of_mem_statements {ss : List Statement} {last : Value}
    (found : inner ∈ (statementsSteps limit ss last scope depth store).asked (evaluate limit))
    : Visits limit (.statements ss last scope depth store) inner := by
  match ss with
  | [] => cases found
  | .declare name value :: rest =>
      rcases mem_asked_afterExpression found with same | ⟨_, _, evaluated, found⟩
      · exact same ▸ .first rfl
      · exact List.mem_singleton.mp found ▸ .afterDeclaration evaluated
  | .returning value :: rest =>
      rcases mem_asked_afterExpression found with same | ⟨_, _, -, found⟩
      · exact same ▸ .first rfl
      · cases found
  | .expression value :: rest =>
      rcases mem_asked_afterExpression found with same | ⟨_, _, evaluated, found⟩
      · exact same ▸ .first rfl
      · exact List.mem_singleton.mp found ▸ .afterExpression evaluated

private theorem visits_of_mem_arguments {es : List Expression}
    (found : inner ∈ (argumentsSteps limit es scope depth store).asked (evaluate limit))
    : Visits limit (.arguments es scope depth store) inner := by
  cases es with
  | nil => cases found
  | cons first rest =>
      rcases mem_asked_afterExpression found with same | ⟨_, _, evaluated, found⟩
      · exact same ▸ .first rfl
      · rcases mem_asked_afterArguments found with same | ⟨_, _, -, found⟩
        · exact same ▸ .afterArgument evaluated
        · cases found

/-- Whatever a task asks for is a step into it. -/
theorem visits_of_mem_asked (found : inner ∈ outer.asked limit) : Visits limit outer inner := by
  cases outer with
  | expression => exact visits_of_mem_expression found
  | statements => exact visits_of_mem_statements found
  | arguments => exact visits_of_mem_arguments found

/-- What holds of a task, and is handed on with every step into a task, holds at every moment. -/
theorem Within.induction {P : Task → Prop} (within : Within limit outer inner) (start : P outer)
    (step : ∀ task part, Visits limit task part → P task → P part)
    : P inner := by
  induction within with
  | refl => exact start
  | tail _ asked ih => exact step _ _ (visits_of_mem_asked asked) ih

end Evaluation

end Guion
