import Guion.Session
import Guion.Proofs.Evaluation.Trace
import Guion.Proofs.Program.Computation

/-! Which functions are the same.

Every evaluation of a function literal makes a function of its own, whatever was run before, in
which scopes and how often. Main statement: functions are the same if and only if they come from the
same evaluation, and a function stays the same wherever it is handed on to.
-/

namespace Guion

open Evaluation

-----------------------------------------------------------------------------------------
-- Chronicles
-----------------------------------------------------------------------------------------

/-- The evaluations that end while a source text is interpreted. One with errors is not run. -/
def interpreted (limit : Nat) (source : String) (scope : Scope) (store : Store) : List Event :=
  if (parse source).errors = [] then
    (Task.statements (parse source).program .null scope 0 store).trace limit
  else
    []

/-- The evaluations so far and the store that they leave, when scopes are opened, source texts are
interpreted in any of them and under any limits, and variables are set to values from outside. A
function comes from outside only if it was at hand before.
-/
inductive Chronicle : List Event → Store → Prop where
  | empty : Chronicle [] .empty
  | root {events store} (before : Chronicle events store) : Chronicle events store.root.2
  | enclose {events store outer} (before : Chronicle events store)
    (inside : outer < store.heap.size)
    : Chronicle events (store.enclose outer).2
  | set {events store scope name value} (before : Chronicle events store)
    (inside : scope < store.heap.size)
    (given
      : value.kind ≠ .function
        ∨ store.heap.Holds value
        ∨ ∃ event ∈ events, event.AtHand value)
    : Chronicle events (store.onHeap (·.bind scope name value))
  | interpret {events store limit source scope} (before : Chronicle events store)
    (inside : scope < store.heap.size)
    : Chronicle (events ++ interpreted limit source scope store)
        (interpret limit source scope store).2

/-- A function is the value of a function literal that is evaluated. -/
def Evaluation.Event.Makes (event : Event) (closure : Closure) : Prop :=
  ∃ parameters code scope depth before after,
    event.task = .expression (.function parameters code) scope depth before
    ∧ evaluateExpression event.limit (.function parameters code) scope depth before
      = yield (.function closure) after

/-- The evaluation at a place in a row makes a function. -/
def MadeAt (events : List Event) (place : Nat) (closure : Closure) : Prop :=
  ∃ event, events[place]? = some event ∧ event.Makes closure

variable {log : Log} {events : List Event} {event : Event} {store : Store} {value : Value}
  {closure other : Closure} {place : Nat}

theorem Evaluation.Event.makes_iff : event.Makes closure ↔ event.task.made? = some closure := by
  constructor
  · rintro ⟨parameters, code, scope, depth, before, after, task, yields⟩
    rw [evaluateExpression_function] at yields
    cases yields
    rw [task]
    rfl
  · intro made
    unfold Task.made? at made
    split at made <;> cases made
    rename_i parameters code scope depth before task
    exact ⟨parameters, code, scope, depth, before, _, task, evaluateExpression_function ..⟩

/-- What is at hand during an evaluation was made before, or by the evaluation itself. -/
theorem Evaluation.Log.Takes.has_of_atHand (takes : log.Takes event) (atHand : event.AtHand value)
    : (log ++ made [event]).Has value := by
  rcases atHand with held | held | handed
  · exact (takes.held value held).mono (List.prefix_append ..)
  · exact takes.ends.fits.held value held
  · exact takes.ends.values value handed

-----------------------------------------------------------------------------------------
-- Places in a row of evaluations
-----------------------------------------------------------------------------------------

theorem made_take_succ (found : events[place]? = some event)
    : made (events.take (place + 1)) = made (events.take place) ++ made [event] := by
  rw [← made_append, List.take_add_one, found]
  rfl

theorem made_take_of_le (events : List Event) {first second : Nat} (le : first ≤ second)
    : made (events.take first) <+: made (events.take second) :=
  (List.take_prefix_take_left le).filterMap _

/-- The functions of the first evaluations in a row are made by one of them each. -/
theorem exists_madeAt (found : closure ∈ made (events.take place))
    : ∃ earlier < place, MadeAt events earlier closure := by
  obtain ⟨event, mem, makes⟩ := List.mem_filterMap.mp found
  obtain ⟨earlier, inside, rfl⟩ := List.mem_take_iff_getElem.mp mem
  obtain ⟨less, inside⟩ := Nat.lt_min.mp inside
  exact ⟨earlier, less, _, List.getElem?_eq_getElem inside, Event.makes_iff.mpr makes⟩

/-- In a row of evaluations from the start, a function has the number of those made before. -/
theorem MadeAt.number_eq (madeAt : MadeAt events place closure) (follows : Log.Follows [] events)
    : closure.number = (made (events.take place)).length := by
  obtain ⟨event, found, makes⟩ := madeAt
  exact (follows.takes found).number closure (Event.makes_iff.mp makes)

theorem MadeAt.number_lt {first second : Nat} (madeAt : MadeAt events first closure)
    (later : MadeAt events second other) (follows : Log.Follows [] events) (less : first < second)
    : closure.number < other.number := by
  rw [madeAt.number_eq follows, later.number_eq follows]
  obtain ⟨event, found, makes⟩ := madeAt
  have longer := (made_take_of_le events (Nat.succ_le_of_lt less)).length_le
  have one : (made [event]).length = 1 := by simp [made, Event.makes_iff.mp makes]
  rw [Nat.succ_eq_add_one, made_take_succ found, List.length_append, one] at longer
  exact longer

/-- Functions have the same number if and only if they are made at the same place. -/
theorem MadeAt.number_eq_iff {first second : Nat} (madeAt : MadeAt events first closure)
    (madeAt' : MadeAt events second other) (follows : Log.Follows [] events)
    : closure.number = other.number ↔ first = second := by
  constructor
  · intro same
    rcases Nat.lt_trichotomy first second with less | same | less
    · have := madeAt.number_lt madeAt' follows less
      omega
    · exact same
    · have := madeAt'.number_lt madeAt follows less
      omega
  · rintro rfl
    rw [madeAt.number_eq follows, madeAt'.number_eq follows]

/-- One evaluation makes one function. -/
theorem MadeAt.unique (madeAt : MadeAt events place closure) (madeAt' : MadeAt events place other)
    : closure = other := by
  obtain ⟨event, found, makes⟩ := madeAt
  obtain ⟨_, found', makes'⟩ := madeAt'
  cases found.symm.trans found'
  exact Option.some.inj ((Event.makes_iff.mp makes).symm.trans (Event.makes_iff.mp makes'))

/-- What is at hand at a place was made there or before. -/
theorem has_of_atHand (follows : Log.Follows [] events) (found : events[place]? = some event)
    (atHand : event.AtHand value)
    : (made (events.take (place + 1))).Has value := by
  rw [made_take_succ found]
  exact (follows.takes found).has_of_atHand atHand

namespace Chronicle

/-- All functions so far are in the log of the evaluations, by induction on the chronicle. -/
theorem follows (chronicle : Chronicle events store)
    : Log.Follows [] events ∧ (made events).Fits store := by
  induction chronicle with
  | empty => exact ⟨trivial, rfl, fun value held => absurd held (Heap.not_holds_empty value)⟩
  | root _ ih => exact ⟨ih.1, ih.2.push none⟩
  | enclose _ _ ih => exact ⟨ih.1, ih.2.push _⟩
  | set _ _ given ih =>
      obtain ⟨follows, fits⟩ := ih
      refine ⟨follows, fits.bind ?_ _ _⟩
      rcases given with other | held | ⟨event, mem, atHand⟩
      · exact Log.has_of_kind_ne other
      · exact fits.held _ held
      · obtain ⟨place, found⟩ := List.mem_iff_getElem?.mp mem
        refine (has_of_atHand follows found atHand).mono (List.IsPrefix.filterMap _ ?_)
        exact List.take_prefix ..
  | @interpret events store limit source scope _ _ ih =>
      obtain ⟨follows, fits⟩ := ih
      rw [Log.follows_append, List.nil_append, made_append]
      by_cases silent : (parse source).errors = []
      · rw [interpreted, if_pos silent, interpret_of_silent silent]
        have run := (Task.statements (parse source).program .null scope 0 store).continues limit
          (made events) ⟨fits, Log.has_null⟩
        exact ⟨⟨follows, run⟩, run.ends.fits⟩
      · rw [interpreted, if_neg silent, interpret_of_errors silent]
        exact ⟨⟨follows, trivial⟩, by simpa [made] using fits⟩

end Chronicle

-----------------------------------------------------------------------------------------
-- Values on their way
-----------------------------------------------------------------------------------------

/-- Values are handed on as they are: by declarations, by names, by arguments, by functions that
end, and by programs that do.
-/
structure HandsOn (limit : Nat) : Prop where
  declared
    : ∀ {name e rest last scope depth store value middle},
        scope < store.heap.size
        → evaluateExpression limit e scope depth store = yield value middle
        → ∃ later,
            evaluateStatements limit (.declare name e :: rest) last scope depth store
              = evaluateStatements limit rest .null scope depth later
            ∧ evaluateExpression limit (.identifier name) scope depth later = yield value later
  read
    : ∀ {name scope depth store value later},
        evaluateExpression limit (.identifier name) scope depth store = yield value later
        → later = store
          ∧ evaluateExpression limit (.binary (.identifier name) .equal (.identifier name)) scope
              depth store
            = yield (.boolean true) store
  passed
    : ∀ {closure values depth store index name value},
        closure.parameters[index]? = some name
        → values[index]? = some value
        → name ∉ closure.parameters.drop (index + 1)
        → evaluateExpression limit (.identifier name) (enter closure values depth store).1
            (depth + 1) (enter closure values depth store).2
          = yield value (enter closure values depth store).2
  returned
    : ∀ {callee es closure values scope depth store middle later value last},
        evaluateExpression limit callee scope depth store = yield (.function closure) middle
        → evaluateArguments limit es scope depth middle = yield values later
        → closure.parameters.length = values.length
        → depth < limit
        → evaluateBlock limit closure.body (enter closure values depth later).1 (depth + 1)
              (enter closure values depth later).2
            = yield value last
          ∨ evaluateBlock limit closure.body (enter closure values depth later).1 (depth + 1)
              (enter closure values depth later).2
            = ⟨.error (.returning value), last⟩
        → evaluateExpression limit (.call callee es) scope depth store = yield value last
  finished
    : ∀ {program : Program} {scope store value last},
        program.run limit scope store = yield value last
          ∨ program.run limit scope store = ⟨.error (.returning value), last⟩
        → program.evaluate limit scope store = (value, last)

/-- A parameter has the value of its argument when a call is entered. -/
theorem lookup_enter {index depth : Nat} {name : String} {values : List Value}
    (named : closure.parameters[index]? = some name) (given : values[index]? = some value)
    (last : name ∉ closure.parameters.drop (index + 1))
    : (enter closure values depth store).2.heap.lookup (enter closure values depth store).1 name
      = some value := by
  have inside : store.heap.size < (store.heap.enclose closure.scope).2.size := by
    simp [Heap.enclose]
  exact Heap.lookup_bindAll inside named given last

theorem handsOn (limit : Nat) : HandsOn limit where
  declared := by
    intro name e rest last scope depth store value middle inside evaluated
    have still : scope < middle.heap.size := by
      have grows := grows_outcome limit (.expression e scope depth store)
      simp only [Task.outcome, evaluated] at grows
      exact grows.lt_size inside
    refine ⟨middle.onHeap (·.bind scope name value), ?_, ?_⟩
    · rw [evaluateStatements_declare, evaluated, Outcome.bind_yield]
    · have bound := Heap.lookup_bind_self middle.heap scope name value still
      simp [resolve, Store.onHeap, bound]
  read := by
    intro name scope depth store value later evaluated
    have same : later = store := by
      rw [evaluateExpression_identifier] at evaluated
      exact (congrArg Outcome.store evaluated).symm
    subst same
    refine ⟨rfl, ?_⟩
    rw [evaluateExpression_binary, evaluated, Outcome.bind_yield, evaluated, Outcome.bind_yield,
      BinaryOperator.apply_equal, Value.same_refl, settle_ok]
  passed := by
    intro closure values depth store index name value named given last
    rw [evaluateExpression_identifier, resolve, lookup_enter named given last, settle_ok]
  returned := by
    intro callee es closure values scope depth store middle later value last called given count
      below ended
    rw [evaluateExpression_call, called, Outcome.bind_yield]
    simp only [given, Outcome.bind_yield, applyClosure_of_lt count below]
    rcases ended with ended | ended <;> rw [ended] <;> rfl
  finished := by
    intro program scope store value last ended
    rw [Program.evaluate]
    rcases ended with ended | ended <;> rw [ended] <;> rfl

-----------------------------------------------------------------------------------------
-- The same function
-----------------------------------------------------------------------------------------

/-- The next function is none of those that were made before. -/
theorem same_eq_false_of_has (has : log.Has value) (next : closure.number = log.length)
    : (Value.function closure).same value = false := by
  cases value with
  | function other =>
      have before := (List.getElem?_eq_some_iff.mp (has other rfl)).1
      rw [Value.same, beq_eq_false_iff_ne]
      omega
  | _ => rfl

/-- A new function is none of those that some variable holds. -/
theorem MadeAt.same_eq_false_of_holds (madeAt : MadeAt events place closure)
    (follows : Log.Follows [] events) (found : events[place]? = some event)
    (held : event.task.store.heap.Holds value)
    : (Value.function closure).same value = false :=
  same_eq_false_of_has ((follows.takes found).held value held) (madeAt.number_eq follows)

/-- A new function is none of those that were at hand before. -/
theorem MadeAt.same_eq_false_of_atHand (madeAt : MadeAt events place closure)
    (follows : Log.Follows [] events) (mem : event ∈ events.take place)
    (atHand : event.AtHand value)
    : (Value.function closure).same value = false := by
  obtain ⟨earlier, inside, rfl⟩ := List.mem_take_iff_getElem.mp mem
  obtain ⟨less, inside⟩ := Nat.lt_min.mp inside
  have has := has_of_atHand follows (List.getElem?_eq_getElem inside) atHand
  exact same_eq_false_of_has (has.mono (made_take_of_le events less)) (madeAt.number_eq follows)

/-- A function that is at hand at a place was made there or before. -/
theorem exists_madeAt_of_atHand (follows : Log.Follows [] events)
    (found : events[place]? = some event) (atHand : event.AtHand (.function closure))
    : ∃ origin ≤ place, MadeAt events origin closure := by
  have has := has_of_atHand follows found atHand closure rfl
  obtain ⟨origin, less, madeAt⟩ := exists_madeAt (List.mem_of_getElem? has)
  exact ⟨origin, Nat.le_of_lt_succ less, madeAt⟩

/-- A function that some variable holds in the end was made at some place. -/
theorem exists_madeAt_of_holds (fits : (made events).Fits store)
    (held : store.heap.Holds (.function closure))
    : ∃ origin, MadeAt events origin closure := by
  have has := List.mem_of_getElem? (fits.held _ held closure rfl)
  rw [← List.take_length (l := events)] at has
  obtain ⟨origin, -, madeAt⟩ := exists_madeAt has
  exact ⟨origin, madeAt⟩

/-- Functions are the same if and only if they were made at the same place. -/
theorem MadeAt.same_iff {first second : Nat} (madeAt : MadeAt events first closure)
    (madeAt' : MadeAt events second other) (follows : Log.Follows [] events)
    : (Value.function closure).same (.function other) = true ↔ first = second := by
  rw [Value.same, beq_iff_eq]
  exact madeAt.number_eq_iff madeAt' follows

/-- Whatever was run so far and wherever, the evaluation of a literal makes a function that is not
the same as any value that some variable holds then or that was at hand before. All functions at
hand come from literals that were evaluated before. They are the same if and only if they come from
one evaluation, and then they have the same parameters, body and scope. Values are handed on as they
are, each is the same as itself, and values are unequal whenever they are not equal.
-/
theorem Chronicle.same_iff_same_place (chronicle : Chronicle events store)
    : (∀ place event parameters code scope depth before,
          events[place]? = some event
          → event.task = .expression (.function parameters code) scope depth before
          → ∃ closure,
              MadeAt events place closure
              ∧ closure.parameters = parameters
              ∧ closure.body = code
              ∧ closure.scope = scope
              ∧ (∀ value, before.heap.Holds value → (Value.function closure).same value = false)
              ∧ ∀ earlier ∈ events.take place,
                  ∀ value,
                    earlier.AtHand value → (Value.function closure).same value = false)
      ∧ (∀ place event closure,
          events[place]? = some event
          → event.AtHand (.function closure)
          → ∃ origin ≤ place, MadeAt events origin closure)
      ∧ (∀ closure, store.heap.Holds (.function closure) → ∃ origin, MadeAt events origin closure)
      ∧ (∀ first second a b,
          MadeAt events first a
          → MadeAt events second b
          → ((Value.function a).same (.function b) = true ↔ first = second)
            ∧ (first = second → a = b))
      ∧ (∀ limit, HandsOn limit)
      ∧ (∀ value : Value, value.same value = true)
      ∧ ∀ a b : Value,
          BinaryOperator.equal.apply a b = .ok (.boolean (a.same b))
          ∧ BinaryOperator.notEqual.apply a b = .ok (.boolean (!a.same b)) := by
  obtain ⟨follows, fits⟩ := chronicle.follows
  refine ⟨?_, ?_, ?_, ?_, handsOn, Value.same_refl, fun a b =>
    ⟨BinaryOperator.apply_equal a b, BinaryOperator.apply_notEqual a b⟩⟩
  · intro place event parameters code scope depth before found task
    have makes : event.Makes ⟨before.functions, parameters, code, scope⟩ :=
      ⟨parameters, code, scope, depth, before, _, task, evaluateExpression_function ..⟩
    have madeAt : MadeAt events place ⟨before.functions, parameters, code, scope⟩ :=
      ⟨event, found, makes⟩
    refine ⟨_, madeAt, rfl, rfl, rfl, ?_, ?_⟩
    · intro value held
      refine madeAt.same_eq_false_of_holds follows found ?_
      rw [task]
      exact held
    · intro earlier mem value atHand
      exact madeAt.same_eq_false_of_atHand follows mem atHand
  · intro place event closure found atHand
    exact exists_madeAt_of_atHand follows found atHand
  · intro closure held
    exact exists_madeAt_of_holds fits held
  · intro first second a b madeAt madeAt'
    refine ⟨madeAt.same_iff madeAt' follows, ?_⟩
    rintro rfl
    exact madeAt.unique madeAt'

/-- A source text of one function literal. -/
private def identity : String := "procedimiento(x) \x7b x \x7d"

private def literal : Expression := .function ["x"] [.expression (.identifier "x")]

/-- Two scopes with none around them. -/
private def rooted : Store := Store.empty.root.2.root.2

private def between : Store := (interpret 5 identity 0 rooted).2

private def twice : List Event :=
  interpreted 5 identity 0 rooted ++ interpreted 5 identity 1 between

private theorem parse_identity
    : (parse identity).program = [.expression literal] ∧ (parse identity).errors = [] :=
  parse_of_readsAs 12 _ _ _ (by decide +kernel)

/-- The literal is evaluated first, then the statements behind it, and then the program is. -/
private theorem interpreted_identity (limit : Nat) (scope : Scope) (store : Store)
    : ∃ rest program,
        interpreted limit identity scope store
          = [⟨limit, .expression literal scope 0 store⟩, rest, program] := by
  obtain ⟨program, silent⟩ := parse_identity
  have evaluated
      : evaluate limit (.expression literal scope 0 store)
        = close ["x"] [.expression (.identifier "x")] scope store :=
    evaluateExpression_function ..
  have alone
      : (Task.expression literal scope 0 store).trace limit
        = [⟨limit, .expression literal scope 0 store⟩] := by
    rw [Task.trace_eq]
    rfl
  have empty {last : Value} {store : Store}
      : (Task.statements [] last scope 0 store).trace limit
        = [⟨limit, .statements [] last scope 0 store⟩] := by
    rw [Task.trace_eq]
    rfl
  rw [interpreted, if_pos silent, program, Task.trace_eq, body, statementsSteps, afterExpression,
    traced_ask, alone, evaluated]
  simp only [close, yield, Outcome.andThen, lastly, traced_ask, empty]
  exact ⟨_, _, rfl⟩

/-- The same source text makes different functions in two scopes. -/
theorem same_iff_same_place_twice
    : Chronicle twice (interpret 5 identity 1 between).2
      ∧ ∃ a b,
          MadeAt twice 0 a
          ∧ MadeAt twice 3 b
          ∧ a.parameters = b.parameters
          ∧ a.body = b.body
          ∧ (Value.function a).same (.function b) = false := by
  have size : between.heap.size = rooted.heap.size := by
    rw [between, interpret_of_silent parse_identity.2, parse_identity.1, literal,
      Program.evaluate, Program.run, evaluateBlock, evaluateStatements_expression,
      evaluateExpression_function, close, Outcome.bind_yield, evaluateStatements_nil]
    rfl
  have chronicle : Chronicle twice (interpret 5 identity 1 between).2 :=
    .interpret (.interpret (.root (.root .empty)) Nat.zero_lt_two) (size ▸ Nat.one_lt_two)
  obtain ⟨_, _, earlier⟩ := interpreted_identity 5 0 rooted
  obtain ⟨_, _, later⟩ := interpreted_identity 5 1 between
  have first : twice[0]? = some ⟨5, .expression literal 0 0 rooted⟩ := by
    rw [twice, earlier]
    rfl
  have second : twice[3]? = some ⟨5, .expression literal 1 0 between⟩ := by
    rw [twice, earlier, later]
    rfl
  obtain ⟨fresh, -, -, apart, -⟩ := chronicle.same_iff_same_place
  obtain ⟨a, madeAt, parameters, body, -⟩ := fresh 0 _ _ _ _ _ _ first rfl
  obtain ⟨b, madeAt', parameters', body', -⟩ := fresh 3 _ _ _ _ _ _ second rfl
  refine ⟨chronicle, a, b, madeAt, madeAt', parameters.trans parameters'.symm,
    body.trans body'.symm, ?_⟩
  apply eq_false_of_ne_true
  intro same
  exact absurd ((apart 0 3 a b madeAt madeAt').1.mp same) (by decide)

end Guion
