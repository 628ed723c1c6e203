import Guion.Recursion
import Guion.Program.Size
import Guion.Evaluation.Outcome
import Guion.Value.Operators

/-! Evaluation: what expressions and statements yield, and what they do to the variables.

A call is only entered below the limit on nested calls, and everything else goes into smaller parts
of the program. So every evaluation ends.
-/

namespace Guion.Evaluation

open Size

/-- What can be evaluated, in a scope and under a number of calls. -/
inductive Task where
  | expression (e : Expression) (scope : Scope) (depth : Nat) (store : Store)
  /-- Statements behind one that yields the value `last`. -/
  | statements (ss : List Statement) (last : Value) (scope : Scope) (depth : Nat) (store : Store)
  | arguments (es : List Expression) (scope : Scope) (depth : Nat) (store : Store)

namespace Task

/-- The number of calls around a task. -/
@[simp]
def depth : Task → Nat
  | expression _ _ depth _ => depth
  | statements _ _ _ depth _ => depth
  | arguments _ _ depth _ => depth

/-- The size of what is evaluated. -/
@[simp]
noncomputable def size : Task → Nat
  | expression e _ _ _ => sizeOf e
  | statements ss _ _ _ _ => sizeOf ss
  | arguments es _ _ _ => sizeOf es

/-- What a task yields. -/
abbrev Answer (task : Task) : Type :=
  match task with
  | expression .. => Outcome Value
  | statements .. => Outcome Value
  | arguments .. => Outcome (List Value)

end Task

/-- A task asks for tasks under one more call, as long as the limit allows it, and for tasks of
smaller size under the same number of calls.
-/
abbrev lower (limit : Nat) (a b : Task) : Prop :=
  Prod.Lex (· < ·) (· < ·) (limit - a.depth, a.size) (limit - b.depth, b.size)

theorem lower_wellFounded (limit : Nat) : WellFounded (lower limit) :=
  InvImage.wf (fun task : Task => (limit - task.depth, task.size))
    (Prod.lex Nat.lt_wfRel Nat.lt_wfRel).wf

theorem lower_of_size {limit : Nat} {a b : Task} (depths : a.depth = b.depth)
    (sizes : a.size < b.size)
    : lower limit a b := by
  unfold lower
  rw [depths]
  exact .right _ sizes

theorem lower_of_depth {limit : Nat} {a b : Task} (below : b.depth < limit)
    (deeper : b.depth < a.depth)
    : lower limit a b :=
  .left _ _ (Nat.sub_lt_sub_left below deeper)

/-- An evaluation of which parts are still to be evaluated. -/
abbrev Steps (allowed : Task → Prop) (α : Type) :=
  Plan Task.Answer allowed (Outcome α)

variable {α β : Type} {allowed : Task → Prop}

/-- Goes on with a value, unless evaluation has stopped. -/
def Outcome.andThen (outcome : Outcome α) (next : α → Store → Steps allowed β)
    : Steps allowed β :=
  match outcome with
  | ⟨.ok value, store⟩ => next value store
  | ⟨.error signal, store⟩ => .done ⟨.error signal, store⟩

@[simp]
theorem result_andThen (oracle : (task : Task) → task.Answer) (outcome : Outcome α)
    (next : α → Store → Steps allowed β)
    : (outcome.andThen next).result oracle
      = outcome.bind fun value store => (next value store).result oracle := by
  rcases outcome with ⟨_ | _, _⟩ <;> rfl

/-- Goes on behind an expression. -/
def afterExpression (e : Expression) (scope : Scope) (depth : Nat) (store : Store)
    (smaller : allowed (.expression e scope depth store))
    (next : Value → Store → Steps allowed β)
    : Steps allowed β :=
  .ask (.expression e scope depth store) smaller fun (outcome : Outcome Value) =>
  outcome.andThen next

/-- Goes on behind argument expressions. -/
def afterArguments (es : List Expression) (scope : Scope) (depth : Nat) (store : Store)
    (smaller : allowed (.arguments es scope depth store))
    (next : List Value → Store → Steps allowed β)
    : Steps allowed β :=
  .ask (.arguments es scope depth store) smaller fun (outcome : Outcome (List Value)) =>
  outcome.andThen next

/-- Ends as statements do. -/
def lastly (ss : List Statement) (last : Value) (scope : Scope) (depth : Nat) (store : Store)
    (smaller : allowed (.statements ss last scope depth store))
    : Steps allowed Value :=
  .ask (.statements ss last scope depth store) smaller .done

/-- The value of a name: that of a variable, or else the builtin function of the name. -/
def resolve (heap : Heap) (scope : Scope) (name : String) : Except RuntimeError Value :=
  match heap.lookup scope name with
  | some value => .ok value
  | none =>
    match Builtin.ofName? name with
    | some builtin => .ok (.builtin builtin)
    | none => .error (.identifierNotFound name)

/-- A new function value. -/
def close (parameters : List String) (body : Block) (scope : Scope) (store : Store)
    : Outcome Value :=
  yield (.function ⟨store.functions, parameters, body, scope⟩)
    { store with functions := store.functions + 1 }

/-- Enters a call: a new scope inside that of the function holds the arguments. -/
def enter (closure : Closure) (arguments : List Value) (depth : Nat) (store : Store)
    : Scope × Store :=
  let (scope, heap) := store.heap.enclose closure.scope
  (scope,
    { store with
      heap := heap.bindAll scope closure.parameters arguments
      calls := (closure, depth) :: store.calls })

/-- Whether a call can be entered: the number of arguments is right, and the limit allows it. -/
def allowCall (limit : Nat) (closure : Closure) (arguments : List Value) (depth : Nat)
    : Except RuntimeError (PLift (depth < limit)) :=
  if closure.parameters.length ≠ arguments.length then
    .error (.wrongArgumentCount closure.parameters.length arguments.length)
  else if h : depth < limit then
    .ok ⟨h⟩
  else
    .error (.callDepthExceeded limit)

/-- The evaluation of an expression, from the evaluations of lower tasks. -/
def expressionSteps (limit : Nat) (e : Expression) (scope : Scope) (depth : Nat) (store : Store)
    : Steps (lower limit · (.expression e scope depth store)) Value :=
  match e with
  | .identifier name => .done (settle (resolve store.heap scope name) store)
  | .integer value => .done (yield (.integer value) store)
  | .boolean value => .done (yield (.boolean value) store)
  | .string value => .done (yield (.string value) store)
  | .unary operator operand =>
    afterExpression operand scope depth store (lower_of_size rfl (operand_lt_unary ..))
      fun operand store =>
    .done (settle (operator.apply operand) store)
  | .binary left operator right =>
    afterExpression left scope depth store (lower_of_size rfl (left_lt_binary ..))
      fun left store =>
    afterExpression right scope depth store (lower_of_size rfl (right_lt_binary ..))
      fun right store =>
    .done (settle (operator.apply left right) store)
  | .conditional condition consequence alternative =>
    afterExpression condition scope depth store (lower_of_size rfl (condition_lt_conditional ..))
      fun condition store =>
    if condition.isTruthy then
      lastly consequence .null scope depth store
        (lower_of_size rfl (consequence_lt_conditional ..))
    else
      match alternative with
      | none => .done (yield .null store)
      | some alternative =>
        lastly alternative .null scope depth store
          (lower_of_size rfl (alternative_lt_conditional ..))
  | .function parameters body => .done (close parameters body scope store)
  | .call callee arguments =>
    afterExpression callee scope depth store (lower_of_size rfl (callee_lt_call ..))
      fun callee store =>
    -- No argument is evaluated for a callee that cannot be called.
    match callee with
    | .function closure =>
      afterArguments arguments scope depth store (lower_of_size rfl (arguments_lt_call ..))
        fun arguments store =>
      match allowCall limit closure arguments depth with
      | .error error => .done (settle (.error error) store)
      | .ok below =>
        let (inner, store) := enter closure arguments depth store
        .ask (.statements closure.body .null inner (depth + 1) store)
          (lower_of_depth below.down (Nat.lt_succ_self depth))
          fun (outcome : Outcome Value) =>
        .done outcome.returned
    | .builtin builtin =>
      afterArguments arguments scope depth store (lower_of_size rfl (arguments_lt_call ..))
        fun arguments store =>
      .done (settle (builtin.apply arguments) store)
    | other => .done (settle (.error (.notAFunction other.kind)) store)

/-- The evaluation of statements behind one that yields the value `last`. -/
def statementsSteps (limit : Nat) (ss : List Statement) (last : Value) (scope : Scope)
    (depth : Nat) (store : Store)
    : Steps (lower limit · (.statements ss last scope depth store)) Value :=
  match ss with
  | [] => .done (yield last store)
  | .declare name value :: rest =>
    afterExpression value scope depth store
      (lower_of_size rfl (part_lt_cons (value_lt_declare ..) _)) fun value store =>
    lastly rest .null scope depth (store.onHeap (·.bind scope name value))
      (lower_of_size rfl (rest_lt_cons ..))
  | .returning value :: _ =>
    afterExpression value scope depth store
      (lower_of_size rfl (part_lt_cons (value_lt_returning ..) _)) fun value store =>
    .done ⟨.error (.returning value), store⟩
  | .expression value :: rest =>
    afterExpression value scope depth store
      (lower_of_size rfl (part_lt_cons (value_lt_expression ..) _)) fun value store =>
    lastly rest value scope depth store (lower_of_size rfl (rest_lt_cons ..))

/-- The evaluation of argument expressions from left to right. -/
def argumentsSteps (limit : Nat) (es : List Expression) (scope : Scope) (depth : Nat)
    (store : Store)
    : Steps (lower limit · (.arguments es scope depth store)) (List Value) :=
  match es with
  | [] => .done (yield [] store)
  | first :: rest =>
    afterExpression first scope depth store (lower_of_size rfl (first_lt_cons ..))
      fun first store =>
    afterArguments rest scope depth store (lower_of_size rfl (rest_lt_cons ..))
      fun rest store =>
    .done (yield (first :: rest) store)

/-- The evaluation of a task, from the evaluations of lower tasks. -/
def body (limit : Nat) (task : Task) : Plan Task.Answer (lower limit · task) task.Answer :=
  match task with
  | .expression e scope depth store => expressionSteps limit e scope depth store
  | .statements ss last scope depth store => statementsSteps limit ss last scope depth store
  | .arguments es scope depth store => argumentsSteps limit es scope depth store

/-- How a task ends under a limit on nested calls. -/
def evaluate (limit : Nat) (task : Task) : task.Answer :=
  Plan.run (lower_wellFounded limit) (body limit) task

theorem evaluate_eq (limit : Nat) (task : Task)
    : evaluate limit task = (body limit task).result (evaluate limit) :=
  Plan.run_eq (lower_wellFounded limit) (body limit) task

/-- How an expression ends in a scope, under a number of calls. -/
def evaluateExpression (limit : Nat) (e : Expression) (scope : Scope) (depth : Nat)
    (store : Store)
    : Outcome Value :=
  evaluate limit (.expression e scope depth store)

/-- How statements end behind one that yields the value `last`. -/
def evaluateStatements (limit : Nat) (ss : List Statement) (last : Value) (scope : Scope)
    (depth : Nat) (store : Store)
    : Outcome Value :=
  evaluate limit (.statements ss last scope depth store)

/-- How a block ends. Its value is that of its last statement. -/
def evaluateBlock (limit : Nat) (block : Block) (scope : Scope) (depth : Nat) (store : Store)
    : Outcome Value :=
  evaluateStatements limit block .null scope depth store

/-- How argument expressions end, evaluated from left to right. -/
def evaluateArguments (limit : Nat) (es : List Expression) (scope : Scope) (depth : Nat)
    (store : Store)
    : Outcome (List Value) :=
  evaluate limit (.arguments es scope depth store)

/-- How a call of a function ends. -/
def applyClosure (limit : Nat) (closure : Closure) (arguments : List Value) (depth : Nat)
    (store : Store)
    : Outcome Value :=
  match allowCall limit closure arguments depth with
  | .error error => settle (.error error) store
  | .ok _ =>
    let (inner, store) := enter closure arguments depth store
    (evaluateBlock limit closure.body inner (depth + 1) store).returned

end Guion.Evaluation
