import Guion.Interpreter
import Guion.Proofs.Evaluation.Rules

/-! Code that stops stops all of the code around it.

A context is code with a hole in it. It consists of layers, each of which evaluates something in
front of the code inside, or nothing.

Main statement: once the code in the hole is reached and stops, everything around it stops in the
same way and with the same store. Only a call and the whole program put an end to this.
-/

namespace Guion.Evaluation

-----------------------------------------------------------------------------------------
-- Code with a hole in it
-----------------------------------------------------------------------------------------

/-- The forms of code that ends with a value. -/
inductive Form where
  | expression
  | statement
  | block

/-- The code of a form. -/
abbrev Form.Code : Form → Type
  | expression => Expression
  | statement => Statement
  | block => Block

/-- Code around a place for other code, with nothing in between. The other code is evaluated in the
same scope, so the body of a function is no such place.
-/
inductive Layer : Form → Form → Type where
  | operand (operator : UnaryOperator) : Layer .expression .expression
  | left (operator : BinaryOperator) (right : Expression) : Layer .expression .expression
  | right (left : Expression) (operator : BinaryOperator) : Layer .expression .expression
  | condition (consequence : Block) (alternative : Option Block) : Layer .expression .expression
  | consequence (condition : Expression) (alternative : Option Block) : Layer .block .expression
  | alternative (condition : Expression) (consequence : Block) : Layer .block .expression
  | callee (arguments : List Expression) : Layer .expression .expression
  | argument (callee : Expression) (before after : List Expression)
    : Layer .expression .expression
  | declare (name : String) : Layer .expression .statement
  | returning : Layer .expression .statement
  | expression : Layer .expression .statement
  | statement (before after : List Statement) : Layer .statement .block

/-- Code with a hole in it: layers, from the inside to the outside. -/
inductive Context : Form → Form → Type where
  | hole {form : Form} : Context form form
  | inside {inner middle outer : Form} (layer : Layer inner middle) (around : Context middle outer)
    : Context inner outer

variable {inner outer : Form}

/-- The code that a layer makes of the code inside. -/
def Layer.fill : Layer inner outer → inner.Code → outer.Code
  | .operand operator, e => .unary operator e
  | .left operator second, e => .binary e operator second
  | .right first operator, e => .binary first operator e
  | .condition first second, e => .conditional e first second
  | .consequence test second, ss => .conditional test ss second
  | .alternative test first, ss => .conditional test first (some ss)
  | .callee es, e => .call e es
  | .argument called before after, e => .call called (before ++ e :: after)
  | .declare name, e => .declare name e
  | .returning, e => .returning e
  | .expression, e => .expression e
  | .statement before after, s => before ++ s :: after

/-- The code that a context makes of the code in its hole. -/
def Context.fill : {inner : Form} → Context inner outer → inner.Code → outer.Code
  | _, .hole, code => code
  | _, .inside layer around, code => around.fill (layer.fill code)

-----------------------------------------------------------------------------------------
-- Evaluation of the code in the hole
-----------------------------------------------------------------------------------------

variable {limit : Nat} {scope : Scope} {depth : Nat} {store later last : Store} {signal : Signal}

/-- How code ends, whatever its form. -/
def evaluateCode (limit : Nat) {form : Form} (code : form.Code) (scope : Scope) (depth : Nat)
    (store : Store)
    : Outcome Value :=
  match form with
  | .expression => evaluateExpression limit code scope depth store
  | .statement => evaluateStatements limit [code] .null scope depth store
  | .block => evaluateBlock limit code scope depth store

/-- What a layer evaluates in front of the code inside goes well and leaves the store `later`. -/
def Layer.Reaches (limit : Nat) (scope : Scope) (depth : Nat) (store later : Store)
    : Layer inner outer → Prop
  | .operand _ | .left _ _ | .condition _ _ | .callee _ | .declare _ | .returning | .expression =>
    later = store
  | .right first _ => ∃ value, evaluateExpression limit first scope depth store = yield value later
  | .consequence test _ =>
    ∃ value,
      evaluateExpression limit test scope depth store = yield value later
      ∧ value.isTruthy = true
  | .alternative test _ =>
    ∃ value,
      evaluateExpression limit test scope depth store = yield value later
      ∧ value.isTruthy = false
  | .argument called before _ =>
    ∃ value middle values,
      evaluateExpression limit called scope depth store = yield value middle
      ∧ value.kind ∈ [.function, .builtin]
      ∧ evaluateArguments limit before scope depth middle = yield values later
  | .statement before _ =>
    ∃ value, evaluateBlock limit before scope depth store = yield value later

/-- What a context evaluates in front of the code in its hole goes well and leaves the store
`later`.
-/
def Context.Reaches (limit : Nat) (scope : Scope) (depth : Nat) (store later : Store)
    : {inner : Form} → Context inner outer → Prop
  | _, .hole => later = store
  | _, .inside layer around =>
    ∃ middle,
      around.Reaches limit scope depth store middle
      ∧ layer.Reaches limit scope depth middle later

/-- The code in the hole of a context is evaluated, and stops. -/
def Context.Stops (limit : Nat) (context : Context inner outer) (code : inner.Code)
    (scope : Scope) (depth : Nat) (store : Store) (signal : Signal) (last : Store)
    : Prop :=
  ∃ later,
    context.Reaches limit scope depth store later
    ∧ evaluateCode limit code scope depth later = ⟨.error signal, last⟩

-----------------------------------------------------------------------------------------
-- Unwinding
-----------------------------------------------------------------------------------------

/-- Statements stop with the first of them, whatever is in front. -/
theorem evaluateStatements_cons_of_stopped {s : Statement}
    (stopped : evaluateStatements limit [s] .null scope depth store = ⟨.error signal, last⟩)
    (value : Value) (rest : List Statement)
    : evaluateStatements limit (s :: rest) value scope depth store = ⟨.error signal, last⟩ := by
  have first : evaluateStatements limit (s :: rest) value scope depth store
      = (evaluateStatements limit [s] .null scope depth store).bind fun value store =>
        evaluateStatements limit rest value scope depth store := by
    cases s <;> simp [Outcome.bind_assoc]
  rw [first, stopped, Outcome.bind_error]

/-- A layer stops with the code inside. -/
theorem Layer.evaluateCode_fill {layer : Layer inner outer} {code : inner.Code}
    (reached : layer.Reaches limit scope depth store later)
    (stopped : evaluateCode limit code scope depth later = ⟨.error signal, last⟩)
    : evaluateCode limit (layer.fill code) scope depth store = ⟨.error signal, last⟩ := by
  cases layer with
  | operand | left | condition | declare | returning | expression =>
      obtain rfl : later = store := reached
      replace stopped : evaluateExpression limit code scope depth later = _ := stopped
      simp [evaluateCode, Layer.fill, stopped]
  | callee =>
      obtain rfl : later = store := reached
      replace stopped : evaluateExpression limit code scope depth later = _ := stopped
      simp [evaluateCode, Layer.fill, evaluateExpression_call, stopped]
  | right first operator =>
      obtain ⟨value, found⟩ := reached
      replace stopped : evaluateExpression limit code scope depth later = _ := stopped
      simp [evaluateCode, Layer.fill, found, stopped]
  | consequence | alternative =>
      obtain ⟨test, tested, taken⟩ := reached
      replace stopped : evaluateBlock limit code scope depth later = _ := stopped
      simp [evaluateCode, Layer.fill, tested, taken, stopped]
  | argument callee before after =>
      obtain ⟨value, middle, values, called, callable, given⟩ := reached
      replace stopped : evaluateExpression limit code scope depth later = _ := stopped
      apply evaluateExpression_call_of_stopped called callable
      rw [evaluateArguments_append, given, Outcome.bind_yield, evaluateArguments_cons, stopped]
      rfl
  | statement before after =>
      obtain ⟨value, completed⟩ := reached
      have rest := evaluateStatements_cons_of_stopped stopped value after
      rw [evaluateBlock] at completed
      rw [Layer.fill, evaluateCode, evaluateBlock, evaluateStatements_append, completed]
      exact rest

/-- A context stops with the code in its hole, by induction on the layers. -/
theorem Context.evaluateCode_fill {context : Context inner outer} {code : inner.Code}
    (stops : context.Stops limit code scope depth store signal last)
    : evaluateCode limit (context.fill code) scope depth store = ⟨.error signal, last⟩ := by
  obtain ⟨later, reached, stopped⟩ := stops
  induction context generalizing later with
  | hole =>
      cases reached
      exact stopped
  | inside layer around ih =>
      obtain ⟨middle, outside, inside⟩ := reached
      exact ih middle outside (Layer.evaluateCode_fill inside stopped)

/-- A call ends with the code that stops in the body of its function. -/
theorem evaluateExpression_call_of_stops {callee : Expression} {arguments : List Expression}
    {closure : Closure} {values : List Value} {middle given : Store} {body : Context inner .block}
    {code : inner.Code}
    (called
      : evaluateExpression limit callee scope depth store = yield (.function closure) middle)
    (supplied : evaluateArguments limit arguments scope depth middle = yield values given)
    (same : closure.parameters.length = values.length) (below : depth < limit)
    (whole : closure.body = body.fill code)
    (stops
      : body.Stops limit code (enter closure values depth given).1 (depth + 1)
          (enter closure values depth given).2 signal last)
    : evaluateExpression limit (.call callee arguments) scope depth store
      = Outcome.returned ⟨.error signal, last⟩ := by
  have ended : evaluateBlock limit closure.body (enter closure values depth given).1 (depth + 1)
      (enter closure values depth given).2 = ⟨.error signal, last⟩ := by
    rw [whole]
    exact body.evaluateCode_fill stops
  rw [evaluateExpression_call, called, Outcome.bind_yield]
  simp only [supplied, Outcome.bind_yield, applyClosure_of_lt same below, ended]

/-- Code that stops stops everything around it, up to a call or the whole program. A call yields the
value of a statement that returns and fails with a failure, and so does a program, but for a failure
being its value.
-/
theorem stops_around (limit : Nat) {inner outer : Form} (code : inner.Code) (signal : Signal)
    (last : Store)
    : (∀ (context : Context inner outer) (scope : Scope) (depth : Nat) (store : Store),
        context.Stops limit code scope depth store signal last
        → evaluateCode limit (context.fill code) scope depth store = ⟨.error signal, last⟩)
      ∧ (∀ (body : Context inner .block) (callee : Expression) (arguments : List Expression)
            (closure : Closure) (values : List Value) (scope : Scope) (depth : Nat)
            (store middle given : Store),
          evaluateExpression limit callee scope depth store = yield (.function closure) middle
          → evaluateArguments limit arguments scope depth middle = yield values given
          → closure.parameters.length = values.length
          → depth < limit
          → closure.body = body.fill code
          → body.Stops limit code (enter closure values depth given).1 (depth + 1)
              (enter closure values depth given).2 signal last
          → evaluateExpression limit (.call callee arguments) scope depth store
            = match signal with
              | .returning value => yield value last
              | .failure error => ⟨.error (.failure error), last⟩)
      ∧ ∀ (program : Context inner .block) (scope : Scope) (store : Store),
          program.Stops limit code scope 0 store signal last
          → Program.evaluate limit (program.fill code) scope store
            = match signal with
              | .returning value => (value, last)
              | .failure error => (.error error, last) := by
  refine ⟨?_, ?_, ?_⟩
  · intro context scope depth store stops
    exact context.evaluateCode_fill stops
  · intro body callee arguments closure values scope depth store middle given called supplied same
      below whole stops
    rw [evaluateExpression_call_of_stops called supplied same below whole stops]
    cases signal <;> rfl
  · intro program scope store stops
    have ended : evaluateBlock limit (program.fill code) scope 0 store = ⟨.error signal, last⟩ :=
      program.evaluateCode_fill stops
    rw [Program.evaluate, Program.run, ended]
    cases signal <;> rfl

/-- A statement that returns from the middle of a branch, within a sum that is being declared. -/
theorem stops_around_branch
    : let code : Statement := .returning (.boolean true)
      let body : Context .statement .block :=
        .inside (.statement [.declare "a" (.boolean false)] [.expression (.identifier "b")])
          (.inside (.consequence (.boolean true) none)
            (.inside (.right (.boolean true) .add)
              (.inside (.declare "x")
                (.inside (.statement [] [.expression (.identifier "x")]) .hole))))
      let start := Store.empty.root
      let closure : Closure := ⟨0, [], body.fill code, start.1⟩
      let given := { start.2 with functions := 1 }
      let inside := enter closure [] 0 given
      let last := start.2.onHeap (·.bind start.1 "a" (.boolean false))
      let lastInside := inside.2.onHeap (·.bind inside.1 "a" (.boolean false))
      body.Stops 1 code start.1 0 start.2 (.returning (.boolean true)) last
      ∧ evaluateCode 1 (body.fill code) start.1 0 start.2
        = ⟨.error (.returning (.boolean true)), last⟩
      ∧ Program.evaluate 1 (body.fill code) start.1 start.2 = (.boolean true, last)
      ∧ body.Stops 1 code inside.1 1 inside.2 (.returning (.boolean true)) lastInside
      ∧ evaluateExpression 1 (.call (.function [] (body.fill code)) []) start.1 0 start.2
        = yield (.boolean true) lastInside := by
  intro code body start closure given inside last lastInside
  have stops : ∀ (scope : Scope) (depth : Nat) (store : Store),
      body.Stops 1 code scope depth store (.returning (.boolean true))
        (store.onHeap (·.bind scope "a" (.boolean false))) := by
    intro scope depth store
    have before : evaluateBlock 1 [.declare "a" (.boolean false)] scope depth store
        = yield .null (store.onHeap (·.bind scope "a" (.boolean false))) := by
      simp [evaluateBlock]
    have empty : evaluateBlock 1 [] scope depth store = yield .null store := by
      simp [evaluateBlock]
    have truth : evaluateExpression 1 (.boolean true) scope depth store
        = yield (.boolean true) store := by
      simp
    refine ⟨_, ⟨store, ⟨store, ⟨store, ⟨store, ⟨store, rfl, _, empty⟩, rfl⟩, _, truth⟩, _, truth,
      rfl⟩, _, before⟩, ?_⟩
    simp [evaluateCode, code]
  have callee : evaluateExpression 1 (.function [] (body.fill code)) start.1 0 start.2
      = yield (.function closure) given := by
    rw [evaluateExpression_function]
    rfl
  have unwinds := @stops_around 1 .statement .block code (.returning (.boolean true))
  have around := (unwinds last).1 body start.1 0 start.2 (stops ..)
  have program := (unwinds last).2.2 body start.1 start.2 (stops ..)
  have call := (unwinds lastInside).2.1 body _ [] closure [] start.1 0 start.2 given given callee
    (by simp) rfl (by decide) rfl (stops ..)
  exact ⟨stops .., around, program, stops .., call⟩

end Guion.Evaluation
