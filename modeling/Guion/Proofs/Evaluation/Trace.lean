import Guion.Proofs.Evaluation.Invariant
import Guion.Proofs.Evaluation.Termination

/-! Evaluations in the order in which they end, and the functions that they make.

Functions are numbered in this order, so a log of those that were made so far tells what a function
value is by its number. Main statement: while a task is evaluated, each function at hand is the one
that the log has under its number, and a literal makes the next one.
-/

namespace Guion.Evaluation

-----------------------------------------------------------------------------------------
-- Traces
-----------------------------------------------------------------------------------------

/-- A task that is evaluated under a limit on nested calls. -/
structure Event where
  limit : Nat
  task : Task

/-- The evaluations that end while a task is evaluated, in this order. Its own is the last one. -/
def Task.trace (limit : Nat) (task : Task) : List Event :=
  ((task.asked limit).attach.flatMap fun part => part.1.trace limit) ++ [⟨limit, task⟩]
termination_by (lower_wellFounded limit).wrap task
decreasing_by exact lower_of_mem_asked part.2

variable {α β : Type} {limit : Nat} {allowed : Task → Prop}

/-- The evaluations that end while a plan is carried out. -/
def traced (limit : Nat) (plan : Plan Task.Answer allowed α) : List Event :=
  (plan.asked (evaluate limit)).flatMap (Task.trace limit)

theorem Task.trace_eq (limit : Nat) (task : Task)
    : task.trace limit = traced limit (body limit task) ++ [⟨limit, task⟩] := by
  rw [Task.trace]
  simp [traced, Task.asked]

@[simp]
theorem traced_done (result : α) : traced limit (.done result : Plan _ allowed α) = [] :=
  rfl

theorem traced_ask (part : Task) (smaller : allowed part)
    (resume : part.Answer → Plan Task.Answer allowed α)
    : traced limit (.ask part smaller resume)
      = part.trace limit ++ traced limit (resume (evaluate limit part)) :=
  List.flatMap_cons

/-- The trace of a task has all that is evaluated at any moment of it, and nothing else. -/
theorem mem_trace {outer : Task} {event : Event}
    : event ∈ outer.trace limit ↔ event.limit = limit ∧ Within limit outer event.task := by
  induction outer using (lower_wellFounded limit).induction with
  | _ outer ih =>
      rw [Task.trace_eq, List.mem_append, traced, List.mem_flatMap, List.mem_singleton]
      constructor
      · rintro (⟨part, asked, found⟩ | rfl)
        · obtain ⟨same, within⟩ := (ih part (lower_of_mem_asked asked)).mp found
          exact ⟨same, .head asked within⟩
        · exact ⟨rfl, .refl⟩
      · rintro ⟨rfl, within⟩
        rcases within.cases_head with same | ⟨part, asked, within⟩
        · exact .inr (by rw [same])
        · exact .inl ⟨part, asked, (ih part (lower_of_mem_asked asked)).mpr ⟨rfl, within⟩⟩

-----------------------------------------------------------------------------------------
-- Values at hand
-----------------------------------------------------------------------------------------

/-- The values that an evaluation hands on: those in what it yields, or the one that is returned. -/
def Outcome.values (parts : α → List Value) (outcome : Outcome α) : List Value :=
  match outcome.result with
  | .ok yielded => parts yielded
  | .error (.returning value) => [value]
  | .error (.failure _) => []

/-- The values in what a task yields. -/
def Task.parts : (task : Task) → task.Yield → List Value
  | expression .. => fun value => [value]
  | statements .. => fun value => [value]
  | arguments .. => fun values => values

/-- The function that a task makes, if it is the evaluation of a function literal. -/
def Task.made? : Task → Option Closure
  | expression (.function parameters code) scope _ store =>
      some ⟨store.functions, parameters, code, scope⟩
  | _ => none

/-- A value is at hand during an evaluation: a variable holds it when the evaluation starts or ends,
or it is handed on.
-/
def Event.AtHand (event : Event) (value : Value) : Prop :=
  event.task.store.heap.Holds value
  ∨ (event.task.outcome event.limit).store.heap.Holds value
  ∨ value ∈ (event.task.outcome event.limit).values event.task.parts

-----------------------------------------------------------------------------------------
-- Logs
-----------------------------------------------------------------------------------------

/-- Functions in the order in which they were made. -/
abbrev Log := List Closure

/-- The functions that are made by evaluations that end one after the other. -/
def made (events : List Event) : Log :=
  events.filterMap (·.task.made?)

theorem made_append (first second : List Event)
    : made (first ++ second) = made first ++ made second :=
  List.filterMap_append

namespace Log

/-- A value is in a log, unless it is no function: it was made as what it is, under its number. -/
def Has (log : Log) (value : Value) : Prop :=
  ∀ closure, value = .function closure → log[closure.number]? = some closure

/-- A store has given away as many numbers as there are functions in a log, and holds no others. -/
structure Fits (log : Log) (store : Store) : Prop where
  functions : store.functions = log.length
  held : ∀ value, store.heap.Holds value → log.Has value

/-- An evaluation ends with functions that are in a log. -/
structure Ends (log : Log) (parts : α → List Value) (outcome : Outcome α) : Prop where
  fits : log.Fits outcome.store
  values : ∀ value ∈ outcome.values parts, log.Has value

/-- A task starts with functions that are in a log. -/
def Starts (log : Log) : Task → Prop
  | .expression _ _ _ store => log.Fits store
  | .statements _ last _ _ store => log.Fits store ∧ log.Has last
  | .arguments _ _ _ store => log.Fits store

/-- An evaluation ends behind others: what it starts with was made by them, and if it makes a
function this is the next one.
-/
structure Takes (log : Log) (event : Event) : Prop where
  held : ∀ value, event.task.store.heap.Holds value → log.Has value
  number : ∀ closure, event.task.made? = some closure → closure.number = log.length
  ends : (log ++ made [event]).Ends event.task.parts (event.task.outcome event.limit)

/-- Evaluations end one after the other, each of them behind those in front of it. -/
def Follows (log : Log) : List Event → Prop
  | [] => True
  | event :: events => log.Takes event ∧ (log ++ made [event]).Follows events

variable {log later : Log} {value : Value} {store : Store} {scope : Scope} {depth : Nat}
  {parts : α → List Value}

/-- Nothing that was made is ever lost. -/
theorem Has.mono (has : log.Has value) (grows : log <+: later) : later.Has value := by
  rintro closure rfl
  obtain ⟨more, rfl⟩ := grows
  have found := has closure rfl
  rw [List.getElem?_append_left (List.getElem?_eq_some_iff.mp found).1, found]

theorem has_of_kind_ne (other : value.kind ≠ .function) : log.Has value := by
  rintro closure rfl
  exact absurd rfl other

theorem has_of_isData (isData : value.IsData) : log.Has value := by
  apply has_of_kind_ne
  intro function
  simp [Value.IsData, function] at isData

theorem has_null : log.Has .null :=
  has_of_kind_ne (by simp [Value.kind])

theorem Fits.has_of_resolve {name : String} (fits : log.Fits store)
    (resolved : resolve store.heap scope name = .ok value)
    : log.Has value := by
  rcases holds_of_resolve resolved with held | builtin
  · exact fits.held _ held
  · exact has_of_kind_ne (by simp [builtin])

theorem Fits.bind (fits : log.Fits store) (has : log.Has value) (scope : Scope) (name : String)
    : log.Fits (store.onHeap (·.bind scope name value)) := by
  refine ⟨fits.functions, ?_⟩
  intro other held
  rcases held.of_bind with rfl | held
  · exact has
  · exact fits.held _ held

/-- A new frame holds nothing. -/
theorem Fits.push (fits : log.Fits store) (outer : Option Scope)
    : log.Fits (store.onHeap (·.push ⟨{}, outer⟩)) :=
  ⟨fits.functions, fun value held => fits.held value held.of_push⟩

theorem Fits.enter {values : List Value} (fits : log.Fits store)
    (given : ∀ value ∈ values, log.Has value) (closure : Closure) (depth : Nat)
    : log.Fits (enter closure values depth store).2 := by
  refine ⟨fits.functions, ?_⟩
  intro value held
  rcases Heap.Holds.of_bindAll held with argument | held
  · exact given value argument
  · exact fits.held value held.of_push

theorem ends_yield {yielded : α} (fits : log.Fits store)
    (has : ∀ value ∈ parts yielded, log.Has value)
    : log.Ends parts (yield yielded store) :=
  ⟨fits, has⟩

theorem ends_settle {result : Except RuntimeError α} (fits : log.Fits store)
    (has : ∀ yielded, result = .ok yielded → ∀ value ∈ parts yielded, log.Has value)
    : log.Ends parts (settle result store) := by
  cases result with
  | ok yielded => exact ends_yield fits (has yielded rfl)
  | error => exact ⟨fits, by simp [Outcome.values]⟩

/-- Data is in every log. -/
theorem ends_settle_data {result : Except RuntimeError Value} (fits : log.Fits store)
    (data : ∀ value, result = .ok value → value.IsData)
    : log.Ends ([·]) (settle result store) := by
  refine ends_settle fits ?_
  intro value same
  simpa using has_of_isData (data value same)

/-- What a function returns becomes the value of the call. -/
theorem Ends.returned {outcome : Outcome Value} (ends : log.Ends ([·]) outcome)
    : log.Ends ([·]) outcome.returned := by
  rcases outcome with ⟨(value | error) | value, later⟩
  · exact ends_yield ends.fits ends.values
  · exact ends
  · exact ends

theorem follows_append {first second : List Event}
    : log.Follows (first ++ second) ↔ log.Follows first ∧ (log ++ made first).Follows second := by
  induction first generalizing log with
  | nil => simp [Follows, made]
  | cons event events ih =>
      have cons : made (event :: events) = made [event] ++ made events := made_append [event] events
      rw [List.cons_append, Follows, Follows, ih, cons, List.append_assoc, and_assoc]

/-- Each of the evaluations ends behind those in front of it. -/
theorem Follows.takes {events : List Event} {event : Event} {index : Nat}
    (follows : log.Follows events) (found : events[index]? = some event)
    : (log ++ made (events.take index)).Takes event := by
  obtain ⟨inside, rfl⟩ := List.getElem?_eq_some_iff.mp found
  rw [← List.take_append_drop index events, follows_append, List.drop_eq_getElem_cons inside]
    at follows
  exact follows.2.1

end Log

-----------------------------------------------------------------------------------------
-- Plans
-----------------------------------------------------------------------------------------

/-- A task that starts with functions that are in a log goes on behind them. -/
def Task.Continues (limit : Nat) (task : Task) : Prop :=
  ∀ log : Log, log.Starts task → log.Follows (task.trace limit)

namespace Log

variable {log : Log} {parts : α → List Value} {further : β → List Value} {scope : Scope}
  {depth : Nat} {store : Store}

/-- A plan goes on behind what is in a log, and ends behind what it asks for. -/
structure Carries (limit : Nat) (log : Log) (parts : α → List Value) (plan : Steps allowed α)
    : Prop where
  follows : log.Follows (traced limit plan)
  ends : (log ++ made (traced limit plan)).Ends parts (plan.result (evaluate limit))

theorem Carries.done {outcome : Outcome α} (ends : log.Ends parts outcome)
    : log.Carries limit parts (.done outcome : Steps allowed α) :=
  ⟨trivial, by simpa [made] using ends⟩

theorem Carries.ask {part : Task} {smaller : allowed part} {resume : part.Answer → Steps allowed α}
    (first : log.Follows (part.trace limit))
    (second
      : (log ++ made (part.trace limit)).Carries limit parts (resume (evaluate limit part)))
    : log.Carries limit parts (.ask part smaller resume) := by
  obtain ⟨follows, ends⟩ := second
  constructor
  · rw [traced_ask]
    exact follows_append.mpr ⟨first, follows⟩
  · rw [traced_ask, made_append, ← List.append_assoc]
    exact ends

/-- Behind an outcome a plan goes on with its value, or it ends. -/
theorem Carries.andThen {outcome : Outcome β} {next : β → Store → Steps allowed α}
    (ends : log.Ends further outcome)
    (second
      : ∀ yielded later,
          log.Fits later
          → (∀ value ∈ further yielded, log.Has value)
          → log.Carries limit parts (next yielded later))
    : log.Carries limit parts (outcome.andThen next) := by
  rcases outcome with ⟨(value | error) | yielded, later⟩
  · exact .done ⟨ends.fits, ends.values⟩
  · exact .done ⟨ends.fits, ends.values⟩
  · exact second yielded later ends.fits ends.values

/-- Its own evaluation is the last one of a task. -/
theorem Follows.ends {task : Task} (follows : log.Follows (task.trace limit))
    : (log ++ made (task.trace limit)).Ends task.parts (task.outcome limit) := by
  rw [Task.trace_eq] at follows ⊢
  rw [made_append, ← List.append_assoc]
  exact (follows_append.mp follows).2.1.ends

theorem carries_afterExpression {e : Expression} {next : Value → Store → Steps allowed α}
    {smaller : allowed (.expression e scope depth store)}
    (continues : ∀ part, allowed part → part.Continues limit) (fits : log.Fits store)
    (second
      : ∀ value later (more : Log),
          log <+: more
          → more.Fits later
          → more.Has value
          → more.Carries limit parts (next value later))
    : log.Carries limit parts (afterExpression e scope depth store smaller next) := by
  have first := continues _ smaller log fits
  refine .ask first (.andThen first.ends ?_)
  intro value later fits has
  exact second value later _ (List.prefix_append ..) fits (has value (List.mem_singleton.mpr rfl))

theorem carries_afterArguments {es : List Expression} {next : List Value → Store → Steps allowed α}
    {smaller : allowed (.arguments es scope depth store)}
    (continues : ∀ part, allowed part → part.Continues limit) (fits : log.Fits store)
    (second
      : ∀ values later (more : Log),
          log <+: more
          → more.Fits later
          → (∀ value ∈ values, more.Has value)
          → more.Carries limit parts (next values later))
    : log.Carries limit parts (afterArguments es scope depth store smaller next) := by
  have first := continues _ smaller log fits
  refine .ask first (.andThen first.ends ?_)
  intro values later fits has
  exact second values later _ (List.prefix_append ..) fits has

theorem carries_lastly {ss : List Statement} {last : Value}
    {smaller : allowed (.statements ss last scope depth store)}
    (continues : ∀ part, allowed part → part.Continues limit) (fits : log.Fits store)
    (has : log.Has last)
    : log.Carries limit ([·]) (lastly ss last scope depth store smaller) := by
  have first := continues _ smaller log ⟨fits, has⟩
  exact .ask first (.done first.ends)

-----------------------------------------------------------------------------------------
-- Tasks
-----------------------------------------------------------------------------------------

/-- A call goes on with the body of its function, which finds the arguments in its scope. -/
private theorem carries_call {callee : Expression} {es : List Expression}
    (continues
      : ∀ part, lower limit part (.expression (.call callee es) scope depth store)
          → part.Continues limit)
    (fits : log.Fits store)
    : log.Carries limit ([·]) (expressionSteps limit (.call callee es) scope depth store) := by
  refine carries_afterExpression continues fits ?_
  intro value middle log _ fits _
  cases value with
  | function closure =>
      refine carries_afterArguments continues fits ?_
      intro values later log _ fits given
      dsimp only
      split
      · exact .done (ends_settle fits (by simp))
      · rename_i below _
        let inner : Task := .statements closure.body .null (enter closure values depth later).1
          (depth + 1) (enter closure values depth later).2
        have first := continues inner (lower_of_depth below.down (Nat.lt_succ_self depth)) log
          ⟨fits.enter given closure depth, has_null⟩
        exact .ask first (.done first.ends.returned)
  | builtin builtin =>
      refine carries_afterArguments continues fits ?_
      intro values later log _ fits _
      exact .done (ends_settle_data fits fun _ applied => Builtin.isData_of_apply applied)
  | integer | boolean | string | error | null => exact .done (ends_settle fits (by simp))

/-- An expression goes on with its parts. That of a function literal is left aside. -/
private theorem carries_expression {e : Expression}
    (continues : ∀ part, lower limit part (.expression e scope depth store) → part.Continues limit)
    (makesNone : (Task.expression e scope depth store).made? = none) (fits : log.Fits store)
    : log.Carries limit ([·]) (expressionSteps limit e scope depth store) := by
  cases e with
  | identifier name =>
      refine .done (ends_settle fits ?_)
      intro value resolved
      simpa using fits.has_of_resolve resolved
  | integer | boolean | string =>
      exact .done (ends_yield fits (by simpa using has_of_kind_ne (by simp [Value.kind])))
  | unary operator operand =>
      refine carries_afterExpression continues fits ?_
      intro value later log _ fits _
      exact .done (ends_settle_data fits fun _ applied => UnaryOperator.isData_of_apply applied)
  | binary left operator right =>
      refine carries_afterExpression continues fits ?_
      intro value middle log _ fits _
      refine carries_afterExpression continues fits ?_
      intro value later log _ fits _
      exact .done (ends_settle_data fits fun _ applied => BinaryOperator.isData_of_apply applied)
  | conditional condition consequence alternative =>
      refine carries_afterExpression continues fits ?_
      intro value middle log _ fits _
      split
      · exact carries_lastly continues fits has_null
      · cases alternative with
        | none => exact .done (ends_yield fits (by simpa using has_null))
        | some alternative => exact carries_lastly continues fits has_null
  | function => simp [Task.made?] at makesNone
  | call => exact carries_call continues fits

private theorem carries_statements {ss : List Statement} {last : Value}
    (continues
      : ∀ part, lower limit part (.statements ss last scope depth store) → part.Continues limit)
    (fits : log.Fits store) (has : log.Has last)
    : log.Carries limit ([·]) (statementsSteps limit ss last scope depth store) := by
  match ss with
  | [] => exact .done (ends_yield fits (by simpa using has))
  | .declare name e :: rest =>
      refine carries_afterExpression continues fits ?_
      intro value later log _ fits has
      exact carries_lastly continues (fits.bind has scope name) has_null
  | .returning e :: rest =>
      refine carries_afterExpression continues fits ?_
      intro value later log _ fits has
      exact .done ⟨fits, by simpa [Outcome.values] using has⟩
  | .expression e :: rest =>
      refine carries_afterExpression continues fits ?_
      intro value later log _ fits has
      exact carries_lastly continues fits has

private theorem carries_arguments {es : List Expression}
    (continues : ∀ part, lower limit part (.arguments es scope depth store) → part.Continues limit)
    (fits : log.Fits store)
    : log.Carries limit id (argumentsSteps limit es scope depth store) := by
  cases es with
  | nil => exact .done (ends_yield fits (by simp))
  | cons first rest =>
      refine carries_afterExpression continues fits ?_
      intro value middle log _ fits has
      refine carries_afterArguments continues fits ?_
      intro values later log' grows fits given
      exact .done (ends_yield fits (List.forall_mem_cons.mpr ⟨has.mono grows, given⟩))

/-- A task that makes no function ends behind all that it asks for. -/
private theorem follows_concat (task : Task) {plan : Steps allowed task.Yield}
    (fits : log.Fits task.store) (makesNone : task.made? = none)
    (carries : log.Carries limit task.parts plan)
    (ended : task.outcome limit = plan.result (evaluate limit))
    : log.Follows (traced limit plan ++ [⟨limit, task⟩]) := by
  refine follows_append.mpr ⟨carries.follows, ⟨?_, ?_, ?_⟩, trivial⟩
  · intro value held
    exact (fits.held value held).mono (List.prefix_append ..)
  · intro closure makes
    rw [makesNone] at makes
    cases makes
  · simpa [made, makesNone, ended] using carries.ends

/-- A function literal makes the next function. -/
private theorem takes_function {parameters : List String} {code : Block} (fits : log.Fits store)
    : log.Takes ⟨limit, .expression (.function parameters code) scope depth store⟩ := by
  let closure : Closure := ⟨store.functions, parameters, code, scope⟩
  have grows : log <+: log ++ [closure] := List.prefix_append ..
  have numbered : Has (log ++ [closure]) (.function closure) := by
    intro _ same
    cases same
    simp [closure, fits.functions]
  refine ⟨fits.held, ?_, ?_⟩
  · intro _ makes
    cases makes
    exact fits.functions
  · rw [Task.outcome, evaluateExpression_function]
    refine ends_yield ⟨?_, ?_⟩ (List.forall_mem_singleton.mpr numbered)
    · simp [made, Task.made?, fits.functions]
    · intro value held
      exact (fits.held value held).mono grows

end Log

/-- Evaluation goes on behind what was made before, by induction along the order of the tasks. -/
theorem Task.continues (limit : Nat) (task : Task) : task.Continues limit := by
  induction task using (lower_wellFounded limit).induction with
  | _ task ih =>
      intro log starts
      rw [Task.trace_eq]
      cases task with
      | expression e scope depth store =>
          cases e with
          | function => exact ⟨Log.takes_function starts, trivial⟩
          | _ =>
              have carries := Log.carries_expression ih rfl starts
              exact Log.follows_concat (.expression _ scope depth store) starts rfl carries
                (evaluate_eq ..)
      | statements ss last scope depth store =>
          have carries := Log.carries_statements ih starts.1 starts.2
          exact Log.follows_concat (.statements ss last scope depth store) starts.1 rfl carries
            (evaluate_eq ..)
      | arguments es scope depth store =>
          have carries := Log.carries_arguments ih starts
          exact Log.follows_concat (.arguments es scope depth store) starts rfl carries
            (evaluate_eq ..)

end Guion.Evaluation
