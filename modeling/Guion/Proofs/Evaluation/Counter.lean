import Mathlib.Algebra.Group.Nat.Defs
import Guion.Proofs.Evaluation.Rules
import Guion.Proofs.Session.Reachable

/-! The counter of the calls under way, as a machine word that evaluation changes.

A call raises the counter in front of the body of its function, and lowers it behind the body. A
machine word cannot hold every number, and nothing is lower than zero, so both may fail. Here
evaluation is told once more with such a counter, which is handed on from part to part.

Main statement: neither ever fails, whatever is evaluated and however it ends. The counter is back
where it was, and has not been above the limit. So an evaluator may be used again.

The counter is read when a call is entered, so it is not plain beforehand that evaluation ends.
Hence evaluation is cut off where too many tasks are in one another, and ends if some number is
enough.
-/

namespace Guion.Evaluation

variable {α β : Type}

-----------------------------------------------------------------------------------------
-- Counters
-----------------------------------------------------------------------------------------

/-- The number of calls under way, and the numbers that there were before, the latest one first. -/
structure Counter where
  depth : Nat
  passed : List Nat

/-- What a counter in a machine word cannot do. -/
inductive Fault where
  | overflow
  | underflow

/-- Something that may have a fault, and that may never end. -/
abbrev Attempt := ExceptT Fault Option

/-- Something that does not end. -/
def endless : Attempt α :=
  ExceptT.mk none

namespace Counter

/-- One call more, if a machine word can hold the number, which is at most `most`. -/
def increment (most : Nat) (counter : Counter) : Attempt Counter :=
  if counter.depth < most then
    pure ⟨counter.depth + 1, counter.depth :: counter.passed⟩
  else
    throw .overflow

/-- One call less, if there is any. -/
def decrement (counter : Counter) : Attempt Counter :=
  match counter.depth with
  | 0 => throw .underflow
  | depth + 1 => pure ⟨depth, counter.depth :: counter.passed⟩

/-- No calls. -/
def reset (counter : Counter) : Counter :=
  ⟨0, counter.depth :: counter.passed⟩

theorem increment_of_lt {most depth : Nat} (below : depth < most) (passed : List Nat)
    : increment most ⟨depth, passed⟩ = pure ⟨depth + 1, depth :: passed⟩ :=
  if_pos below

end Counter

-----------------------------------------------------------------------------------------
-- Evaluation with a counter
-----------------------------------------------------------------------------------------

/-- What is read and changed by an evaluation that counts its calls. -/
structure Memory where
  store : Store
  counter : Counter

/-- An evaluation that counts its calls. -/
abbrev Counted := ExceptT Signal (StateT Memory Attempt)

/-- An evaluation that leaves the counter alone. -/
def onStore (action : Store → Outcome α) : Counted α := fun memory =>
  pure ((action memory.store).result, { memory with store := (action memory.store).store })

/-- How tasks are evaluated. -/
structure Engine where
  expression : Expression → Scope → Counted Value
  /-- Statements behind one that yields a value. -/
  statements : List Statement → Value → Scope → Counted Value
  /-- Argument expressions from left to right. -/
  arguments : List Expression → Scope → Counted (List Value)

namespace Engine

/-- A call of a function. The counter is lowered behind the body of the function however that ends,
and only then it is looked at how it ended.
-/
def call (parts : Engine) (most limit : Nat) (closure : Closure) (values : List Value)
    : Counted Value := fun memory =>
  match allowCall limit closure values memory.counter.depth with
  | .error error => pure (.error (.failure error), memory)
  | .ok _ => do
    let (inner, store) := enter closure values memory.counter.depth memory.store
    let raised ← memory.counter.increment most
    let (result, later) ← parts.statements closure.body .null inner ⟨store, raised⟩
    let lowered ← later.counter.decrement
    pure ((Outcome.mk result later.store).returned.result, { later with counter := lowered })

/-- The evaluation of tasks of which the parts are evaluated by an engine. -/
def around (most limit : Nat) (parts : Engine) : Engine where
  expression
    | .identifier name, scope =>
      onStore fun store => settle (resolve store.heap scope name) store
    | .integer value, _ => pure (.integer value)
    | .boolean value, _ => pure (.boolean value)
    | .string value, _ => pure (.string value)
    | .unary operator operand, scope => do
      let operand ← parts.expression operand scope
      onStore (settle (operator.apply operand))
    | .binary left operator right, scope => do
      let left ← parts.expression left scope
      let right ← parts.expression right scope
      onStore (settle (operator.apply left right))
    | .conditional condition consequence alternative, scope => do
      let condition ← parts.expression condition scope
      if condition.isTruthy then
        parts.statements consequence .null scope
      else
        alternative.elim (pure .null) fun alternative => parts.statements alternative .null scope
    | .function parameters body, scope => onStore (close parameters body scope)
    | .call callee arguments, scope => do
      let callee ← parts.expression callee scope
      match callee with
      | .function closure => do
        let values ← parts.arguments arguments scope
        parts.call most limit closure values
      | .builtin builtin => do
        let values ← parts.arguments arguments scope
        onStore (settle (builtin.apply values))
      | other => throw (.failure (.notAFunction other.kind))
  statements
    | [], last, _ => pure last
    | .declare name value :: rest, _, scope => do
      let value ← parts.expression value scope
      onStore fun store => yield () (store.onHeap (·.bind scope name value))
      parts.statements rest .null scope
    | .returning value :: _, _, scope => do
      let value ← parts.expression value scope
      throw (.returning value)
    | .expression value :: rest, _, scope => do
      let value ← parts.expression value scope
      parts.statements rest value scope
  arguments
    | [], _ => pure []
    | first :: rest, scope => do
      let value ← parts.expression first scope
      let values ← parts.arguments rest scope
      pure (value :: values)

/-- An engine with which nothing ends. -/
def idle : Engine :=
  ⟨fun _ _ _ => endless, fun _ _ _ _ => endless, fun _ _ _ => endless⟩

/-- The engine with which everything ends that has no more than so many tasks in one another. -/
def nested (most limit : Nat) : Nat → Engine
  | 0 => idle
  | n + 1 => around most limit (nested most limit n)

end Engine

-----------------------------------------------------------------------------------------
-- What ends
-----------------------------------------------------------------------------------------

/-- Something ends with a value, and without a fault, as soon as enough tasks may be in one another.
With fewer of them it does not end.
-/
def Ends (attempt : Nat → Attempt α) (value : α) : Prop :=
  ∃ enough, ∀ n, attempt n = if enough ≤ n then pure value else endless

namespace Ends

theorem of_pure (value : α) : Ends (fun _ => pure value) value :=
  ⟨0, fun n => (if_pos n.zero_le).symm⟩

/-- There is only one value with which it ends. -/
theorem unique {attempt : Nat → Attempt α} {value other : α} (ends : Ends attempt value)
    (ends' : Ends attempt other)
    : value = other := by
  obtain ⟨enough, same⟩ := ends
  obtain ⟨enough', same'⟩ := ends'
  have both := (same (max enough enough')).symm.trans (same' (max enough enough'))
  rw [if_pos (Nat.le_max_left ..), if_pos (Nat.le_max_right ..)] at both
  exact Except.ok.inj (Option.some.inj both)

/-- Things that end with the same value end with the same values. -/
theorem iff {attempt other : Nat → Attempt α} {value : α} (ends : Ends attempt value)
    (ends' : Ends other value) {result : α}
    : Ends attempt result ↔ Ends other result :=
  ⟨fun found => ends.unique found ▸ ends', fun found => ends'.unique found ▸ ends⟩

/-- Two things in a row end if each of them does. -/
theorem bind {first : Nat → Attempt α} {next : Nat → α → Attempt β} {a : α} {b : β}
    (ends : Ends first a) (further : Ends (fun n => next n a) b)
    : Ends (fun n => first n >>= next n) b := by
  obtain ⟨enough, same⟩ := ends
  obtain ⟨enough', same'⟩ := further
  refine ⟨max enough enough', fun n => ?_⟩
  have both : max enough enough' ≤ n ↔ enough ≤ n ∧ enough' ≤ n := Nat.max_le
  change first n >>= next n = _
  by_cases large : enough ≤ n
  · have further : next n a = if enough' ≤ n then pure b else endless := same' n
    rw [same n, if_pos large, pure_bind, further]
    simp only [both, large, true_and]
  · rw [same n, if_neg large, if_neg fun fits => large (both.mp fits).1]
    rfl

/-- One more task around the others does not matter. -/
theorem of_succ {attempt : Nat → Attempt α} {value : α} (idle : attempt 0 = endless)
    (ends : Ends (fun n => attempt (n + 1)) value)
    : Ends attempt value := by
  obtain ⟨enough, same⟩ := ends
  refine ⟨enough + 1, fun n => ?_⟩
  cases n with
  | zero => rw [idle, if_neg (Nat.not_succ_le_zero _)]
  | succ n =>
      have ended : attempt (n + 1) = if enough ≤ n then pure value else endless := same n
      rw [ended]
      simp only [Nat.succ_le_succ_iff]

end Ends

-----------------------------------------------------------------------------------------
-- Balance
-----------------------------------------------------------------------------------------

/-- Under a number of calls and from a store on, an evaluation ends without a fault, and as an
outcome says. The counter is back where it was, and was never above the limit in between.
-/
def Balanced (limit : Nat) (action : Nat → Counted α) (depth : Nat) (store : Store)
    (outcome : Outcome α)
    : Prop :=
  ∀ passed, ∃ between,
    (∀ n ∈ between, n ≤ limit)
    ∧ Ends (fun n => action n ⟨store, depth, passed⟩)
        (outcome.result, ⟨outcome.store, depth, between ++ passed⟩)

variable {most limit depth : Nat} {store : Store} {scope : Scope}

theorem balanced_onStore (action : Store → Outcome α)
    : Balanced limit (fun _ => onStore action) depth store (action store) :=
  fun _ => ⟨[], by simp, .of_pure _⟩

theorem balanced_pure (value : α)
    : Balanced limit (fun _ => pure value) depth store (yield value store) :=
  fun _ => ⟨[], by simp, .of_pure _⟩

theorem balanced_throw (signal : Signal)
    : Balanced limit (fun _ => (throw signal : Counted α)) depth store
        ⟨.error signal, store⟩ :=
  fun _ => ⟨[], by simp, .of_pure _⟩

theorem bind_apply (action : Counted α) (next : α → Counted β) (memory : Memory)
    : (action >>= next) memory
      = (action memory : Attempt _) >>= fun ended =>
        match ended.1 with
        | .ok value => next value ended.2
        | .error signal => pure (.error signal, ended.2) := by
  change (action memory : Attempt _) >>= _ = _
  congr 1
  funext ⟨result, later⟩
  cases result <;> rfl

/-- Two evaluations in a row are balanced if each of them is. -/
theorem Balanced.bind {action : Nat → Counted α} {next : Nat → α → Counted β}
    {outcome : Outcome α} {further : α → Store → Outcome β}
    (first : Balanced limit action depth store outcome)
    (second
      : ∀ value later, Balanced limit (fun n => next n value) depth later (further value later))
    : Balanced limit (fun n => action n >>= next n) depth store (outcome.bind further) := by
  intro passed
  obtain ⟨between, low, ended⟩ := first passed
  simp only [bind_apply]
  rcases outcome with ⟨signal | value, later⟩
  · exact ⟨between, low, ended.bind (.of_pure _)⟩
  · obtain ⟨between', low', ended'⟩ := second value later (between ++ passed)
    refine ⟨between' ++ between, ?_, ?_⟩
    · intro n found
      exact (List.mem_append.mp found).elim (low' n) (low n)
    · rw [List.append_assoc]
      exact ended.bind ended'

/-- One more task around the others does not matter. -/
theorem Balanced.of_succ {action : Nat → Counted α} {outcome : Outcome α}
    (idle : ∀ memory, action 0 memory = endless)
    (balanced : Balanced limit (fun n => action (n + 1)) depth store outcome)
    : Balanced limit action depth store outcome := by
  intro passed
  obtain ⟨between, low, ended⟩ := balanced passed
  exact ⟨between, low, ended.of_succ (idle _)⟩

/-- A call is balanced if the body of its function is, under one call more. Where the limit does not
allow the call, the counter is not changed.
-/
theorem Balanced.call {parts : Nat → Engine} {closure : Closure} {values : List Value}
    (fits : limit ≤ most)
    (body
      : depth < limit
        → ∀ inner later,
            Balanced limit (fun n => (parts n).statements closure.body .null inner) (depth + 1)
              later (evaluateBlock limit closure.body inner (depth + 1) later))
    : Balanced limit (fun n => (parts n).call most limit closure values) depth store
        (applyClosure limit closure values depth store) := by
  intro passed
  simp only [Engine.call]
  by_cases same : closure.parameters.length = values.length
  · rcases Nat.lt_or_ge depth limit with below | reached
    · -- The body starts one call deeper, and comes back with the counter as deep as that.
      obtain ⟨between, low, ended⟩ := body below (enter closure values depth store).1
        (enter closure values depth store).2 (depth :: passed)
      refine ⟨(depth + 1) :: (between ++ [depth]), ?_, ?_⟩
      · intro n found
        simp only [List.mem_append, List.mem_cons, List.not_mem_nil, or_false] at found
        rcases found with rfl | inside | rfl
        · exact below
        · exact low n inside
        · exact Nat.le_of_lt below
      · obtain ⟨_, allowed⟩ : ∃ room, allowCall limit closure values depth = .ok room := by
          rw [allowCall, if_neg (not_not_intro same), dif_pos below]
          exact ⟨_, rfl⟩
        have raised := Counter.increment_of_lt (Nat.lt_of_lt_of_le below fits) passed
        simp only [applyClosure_of_lt same below, allowed, raised, pure_bind,
          Outcome.store_returned, List.cons_append, List.append_assoc, List.nil_append]
        exact ended.bind (.of_pure _)
    · have refused : allowCall limit closure values depth = .error (.callDepthExceeded limit) := by
        rw [allowCall, if_neg (not_not_intro same), dif_neg (Nat.not_lt_of_le reached)]
      rw [applyClosure_of_le same reached]
      simp only [refused]
      exact ⟨[], by simp, .of_pure _⟩
  · have refused
        : allowCall limit closure values depth
          = .error (.wrongArgumentCount closure.parameters.length values.length) :=
      if_pos same
    rw [applyClosure_of_ne same]
    simp only [refused]
    exact ⟨[], by simp, .of_pure _⟩

/-- What it means for a task that it is balanced: the evaluation with a counter ends as the
evaluation without one does.
-/
def Task.Counts (most limit : Nat) : Task → Prop
  | .expression e scope depth store =>
      Balanced limit (fun n => (Engine.nested most limit n).expression e scope) depth store
        (evaluateExpression limit e scope depth store)
  | .statements ss last scope depth store =>
      Balanced limit (fun n => (Engine.nested most limit n).statements ss last scope) depth store
        (evaluateStatements limit ss last scope depth store)
  | .arguments es scope depth store =>
      Balanced limit (fun n => (Engine.nested most limit n).arguments es scope) depth store
        (evaluateArguments limit es scope depth store)

/-- Every task is balanced, by induction along the order of the tasks. -/
theorem counts (fits : limit ≤ most) (task : Task) : task.Counts most limit := by
  induction task using Task.induction limit with
  | identifier name scope depth store =>
      rw [Task.Counts, evaluateExpression_identifier]
      exact .of_succ (fun _ => rfl)
        (balanced_onStore fun store => settle (resolve store.heap scope name) store)
  | integer =>
      rw [Task.Counts, evaluateExpression_integer]
      exact .of_succ (fun _ => rfl) (balanced_pure _)
  | boolean =>
      rw [Task.Counts, evaluateExpression_boolean]
      exact .of_succ (fun _ => rfl) (balanced_pure _)
  | string =>
      rw [Task.Counts, evaluateExpression_string]
      exact .of_succ (fun _ => rfl) (balanced_pure _)
  | function =>
      rw [Task.Counts, evaluateExpression_function]
      exact .of_succ (fun _ => rfl) (balanced_onStore _)
  | unary operator operand scope depth store ih =>
      rw [Task.Counts, evaluateExpression_unary]
      exact .of_succ (fun _ => rfl) (Balanced.bind ih fun value later => balanced_onStore _)
  | binary left operator right scope depth store ih ih' =>
      rw [Task.Counts, evaluateExpression_binary]
      refine .of_succ (fun _ => rfl) (Balanced.bind ih fun a middle => ?_)
      exact Balanced.bind (ih' middle) fun b later => balanced_onStore _
  | conditional condition consequence alternative scope depth store test taken refused =>
      rw [Task.Counts, evaluateExpression_conditional]
      refine .of_succ (fun _ => rfl) (Balanced.bind test fun value middle => ?_)
      split
      · exact taken middle
      · cases alternative with
        | none => exact balanced_pure _
        | some alternative => exact refused alternative rfl middle
  | call callee es scope depth store function given body =>
      rw [Task.Counts, evaluateExpression_call]
      refine .of_succ (fun _ => rfl) (Balanced.bind function fun value middle => ?_)
      cases value with
      | function closure =>
          refine Balanced.bind (given middle) fun values later => ?_
          exact .call fits fun below => body below closure.body
      | builtin operation =>
          exact Balanced.bind (given middle) fun values later => balanced_onStore _
      | _ => exact balanced_throw _
  | noStatements =>
      rw [Task.Counts, evaluateStatements_nil]
      exact .of_succ (fun _ => rfl) (balanced_pure _)
  | declare name e rest last scope depth store ih continued =>
      rw [Task.Counts, evaluateStatements_declare]
      refine .of_succ (fun _ => rfl) (Balanced.bind ih fun value middle => ?_)
      exact Balanced.bind (balanced_onStore _) fun _ later => continued later
  | returning e rest last scope depth store ih =>
      rw [Task.Counts, evaluateStatements_returning]
      exact .of_succ (fun _ => rfl) (Balanced.bind ih fun value later => balanced_throw _)
  | expression e rest last scope depth store ih continued =>
      rw [Task.Counts, evaluateStatements_expression]
      exact .of_succ (fun _ => rfl) (Balanced.bind ih fun value later => continued value later)
  | noArguments =>
      rw [Task.Counts, evaluateArguments_nil]
      exact .of_succ (fun _ => rfl) (balanced_pure _)
  | argument e es scope depth store ih continued =>
      rw [Task.Counts, evaluateArguments_cons]
      refine .of_succ (fun _ => rfl) (Balanced.bind ih fun value middle => ?_)
      exact Balanced.bind (continued middle) fun values later => balanced_pure _

-----------------------------------------------------------------------------------------
-- Evaluators that are used again
-----------------------------------------------------------------------------------------

/-- An evaluator: the limit on nested calls, and the counter of those under way. -/
structure Evaluator where
  limit : Nat
  counter : Counter

/-- A source text with the scope and the store in which it is run. -/
structure Line where
  source : String
  scope : Scope
  store : Store

namespace Evaluator

def new (limit : Nat) : Evaluator :=
  ⟨limit, 0, []⟩

/-- Runs a source text that has no errors, with the counter set to zero in front of it. No more than
so many tasks may be in one another.
-/
def interpret (most nesting : Nat) (evaluator : Evaluator) (line : Line)
    : Attempt ((Except (List ParseError) Value × Store) × Evaluator) :=
  let parsed := parse line.source
  if parsed.diagnostics.isEmpty then do
    let engine := Engine.nested most evaluator.limit nesting
    let (result, memory) ← engine.statements parsed.program .null line.scope
      ⟨line.store, evaluator.counter.reset⟩
    let outcome : Outcome Value := ⟨result, memory.store⟩
    pure ((.ok outcome.value, outcome.store), { evaluator with counter := memory.counter })
  else
    pure ((.error parsed.errors, line.store), evaluator)

/-- The evaluator after some lines. -/
def interpretAll (most nesting : Nat) (evaluator : Evaluator) : List Line → Attempt Evaluator
  | [] => pure evaluator
  | line :: lines => do
    let (_, later) ← evaluator.interpret most nesting line
    later.interpretAll most nesting lines

/-- What an evaluator yields for a line, and the store that it leaves. -/
def answer (most nesting : Nat) (evaluator : Evaluator) (line : Line)
    : Attempt (Except (List ParseError) Value × Store) := do
  let (answer, _) ← evaluator.interpret most nesting line
  pure answer

/-- An evaluator has come to rest: no call is under way, and there were never too many of them. -/
structure Rested (limit : Nat) (evaluator : Evaluator) : Prop where
  limit_eq : evaluator.limit = limit
  depth_eq : evaluator.counter.depth = 0
  low : ∀ n ∈ evaluator.counter.passed, n ≤ limit

theorem rested_new (limit : Nat) : (new limit).Rested limit :=
  ⟨rfl, rfl, by simp [new]⟩

variable {evaluator : Evaluator}

/-- Each line is run as the interpreter runs it, and the evaluator comes to rest again. -/
theorem Rested.interpret (rested : evaluator.Rested limit) (fits : limit ≤ most) (line : Line)
    : ∃ later,
        Ends (fun nesting => evaluator.interpret most nesting line)
          (Guion.interpret limit line.source line.scope line.store, later)
        ∧ later.Rested limit := by
  obtain ⟨rfl, depth_eq, low⟩ := rested
  cases silent : (parse line.source).diagnostics.isEmpty with
  | false =>
      simp only [Evaluator.interpret, Guion.interpret, silent, Bool.false_eq_true, if_false]
      exact ⟨evaluator, .of_pure _, rfl, depth_eq, low⟩
  | true =>
      simp only [Evaluator.interpret, Guion.interpret, silent, if_true]
      have balanced
          : Balanced evaluator.limit
              (fun n => (Engine.nested most evaluator.limit n).statements
                (parse line.source).program .null line.scope)
              0 line.store
              ((parse line.source).program.run evaluator.limit line.scope line.store) :=
        counts fits (.statements (parse line.source).program .null line.scope 0 line.store)
      obtain ⟨between, never, ended⟩ :=
        balanced (evaluator.counter.depth :: evaluator.counter.passed)
      refine ⟨⟨evaluator.limit, 0, between ++ evaluator.counter.depth :: evaluator.counter.passed⟩,
        ended.bind (.of_pure _), rfl, rfl, fun n found => ?_⟩
      rw [depth_eq] at found
      rcases List.mem_append.mp found with inside | before
      · exact never n inside
      · exact (List.mem_cons.mp before).elim (fun zero => zero ▸ Nat.zero_le _) (low n)

/-- After any lines an evaluator is at rest, by induction on the lines. -/
theorem Rested.interpretAll (rested : evaluator.Rested limit) (fits : limit ≤ most)
    (lines : List Line)
    : ∃ later,
        Ends (fun nesting => evaluator.interpretAll most nesting lines) later
        ∧ later.Rested limit := by
  induction lines generalizing evaluator with
  | nil => exact ⟨evaluator, .of_pure _, rested⟩
  | cons line lines ih =>
      obtain ⟨next, ran, rested⟩ := rested.interpret fits line
      obtain ⟨later, others, rested⟩ := ih rested
      exact ⟨later, ran.bind others, rested⟩

/-- An evaluator at rest answers as the interpreter does. -/
theorem Rested.answer (rested : evaluator.Rested limit) (fits : limit ≤ most) (line : Line)
    : Ends (fun nesting => evaluator.answer most nesting line)
        (Guion.interpret limit line.source line.scope line.store) := by
  obtain ⟨later, ran, -⟩ := rested.interpret fits line
  exact ran.bind (.of_pure _)

end Evaluator

/-- A session with the evaluator that it uses for all its lines. -/
structure LiveSession where
  evaluator : Evaluator
  scope : Scope
  store : Store

namespace LiveSession

/-- What a session runs for a source text. -/
def line (session : LiveSession) (source : String) : Line :=
  ⟨source, session.scope, session.store⟩

def new (limit : Nat) : LiveSession :=
  ⟨.new limit, Store.empty.root.1, Store.empty.root.2⟩

/-- The session after some source texts. -/
def evalAll (most nesting : Nat) (session : LiveSession) : List String → Attempt LiveSession
  | [] => pure session
  | source :: sources => do
    let ((_, store), evaluator) ← session.evaluator.interpret most nesting (session.line source)
    { session with evaluator, store }.evalAll most nesting sources

/-- A session that has come to rest with the same variables as another one. -/
structure Follows (live : LiveSession) (session : Session) : Prop where
  rested : live.evaluator.Rested session.limit
  scope_eq : live.scope = session.scope
  store_eq : live.store = session.store

/-- Sessions that follow each other still do so after any lines, by induction on these. -/
theorem Follows.evalAll {live : LiveSession} {session : Session} (follows : live.Follows session)
    (fits : session.limit ≤ most) (sources : List String)
    : ∃ later,
        Ends (fun nesting => live.evalAll most nesting sources) later
        ∧ later.Follows (session.evalAll sources) := by
  induction sources generalizing live session with
  | nil => exact ⟨live, .of_pure _, follows⟩
  | cons source sources ih =>
      obtain ⟨next, ran, rested⟩ := follows.rested.interpret fits (live.line source)
      have store_eq
          : (interpret session.limit source live.scope live.store).2
            = (session.eval source).2.store := by
        rw [Session.eval, ← follows.scope_eq, ← follows.store_eq]
      have followed
          : LiveSession.Follows
              ⟨next, live.scope, (interpret session.limit source live.scope live.store).2⟩
              (session.eval source).2 :=
        ⟨rested, follows.scope_eq, store_eq⟩
      obtain ⟨later, others, follows⟩ := ih followed fits
      exact ⟨later, ran.bind others, follows⟩

end LiveSession

/-- Whatever is evaluated, an expression, statements or a call of a function, the counter is back
where it was however that ends, and was never above the limit, so that it never gets too large for a
machine word or too small. After any lines an evaluator or a session has no call under way, and runs
the next line as a new evaluator with the same limit does in the same scope and store.
-/
theorem counter_balanced {most limit : Nat} (fits : limit ≤ most)
    : (∀ e scope depth store,
        Balanced limit (fun n => (Engine.nested most limit n).expression e scope) depth store
          (evaluateExpression limit e scope depth store))
      ∧ (∀ ss last scope depth store,
        Balanced limit (fun n => (Engine.nested most limit n).statements ss last scope) depth store
          (evaluateStatements limit ss last scope depth store))
      ∧ (∀ closure values depth store,
        Balanced limit (fun n => (Engine.nested most limit n).call most limit closure values)
          depth store (applyClosure limit closure values depth store))
      ∧ (∀ lines, ∃ evaluator,
        Ends (fun n => (Evaluator.new limit).interpretAll most n lines) evaluator
        ∧ evaluator.Rested limit
        ∧ ∀ line answer,
            Ends (fun n => evaluator.answer most n line) answer
            ↔ Ends (fun n => (Evaluator.new limit).answer most n line) answer)
      ∧ (∀ sources, ∃ session,
        Ends (fun n => (LiveSession.new limit).evalAll most n sources) session
        ∧ session.Follows ((Session.new limit).evalAll sources)
        ∧ ∀ source answer,
            Ends (fun n => session.evaluator.answer most n (session.line source)) answer
            ↔ Ends (fun n => (Evaluator.new limit).answer most n (session.line source)) answer)
      ∧ ∀ line,
        Ends (fun n => (Evaluator.new limit).answer most n line)
          (interpret limit line.source line.scope line.store) := by
  have new_rested := Evaluator.rested_new limit
  refine ⟨?_, ?_, ?_, ?_, ?_, new_rested.answer fits⟩
  · intro e scope depth store
    exact counts fits (.expression e scope depth store)
  · intro ss last scope depth store
    exact counts fits (.statements ss last scope depth store)
  · intro closure values depth store
    exact .call fits fun _ inner later =>
      counts fits (.statements closure.body .null inner (depth + 1) later)
  · intro lines
    obtain ⟨evaluator, ran, rested⟩ := new_rested.interpretAll fits lines
    refine ⟨evaluator, ran, rested, fun line answer => ?_⟩
    exact (rested.answer fits line).iff (new_rested.answer fits line)
  · intro sources
    have start : (LiveSession.new limit).Follows (Session.new limit) :=
      ⟨new_rested, rfl, rfl⟩
    obtain ⟨session, ran, follows⟩ := start.evalAll fits sources
    refine ⟨session, ran, follows, fun source answer => ?_⟩
    have rested : session.evaluator.Rested limit := by
      have rested := follows.rested
      rwa [Session.limit_evalAll] at rested
    exact (rested.answer fits _).iff (new_rested.answer fits _)

/-- A function that is called at zero, under a limit of one. The function literal that it calls is
one call too many, and the counter is back at zero.
-/
theorem counter_balanced_exceeded
    : 1 ≤ 2 ^ 64 - 1
      ∧ Balanced 1
          (fun n => (Engine.nested (2 ^ 64 - 1) 1 n).call (2 ^ 64 - 1) 1
            ⟨0, [], [.expression (.call (.function [] []) [])], 0⟩ [])
          0 Store.empty.root.2
          (applyClosure 1 ⟨0, [], [.expression (.call (.function [] []) [])], 0⟩ [] 0
            Store.empty.root.2)
      ∧ (applyClosure 1 ⟨0, [], [.expression (.call (.function [] []) [])], 0⟩ [] 0
          Store.empty.root.2).result
        = .error (.failure (.callDepthExceeded 1)) := by
  refine ⟨by decide, (counter_balanced (by decide)).2.2.1 _ _ _ _, ?_⟩
  rw [applyClosure_of_lt rfl Nat.zero_lt_one, evaluateBlock, evaluateStatements_expression,
    evaluateExpression_call, evaluateExpression_function, close, Outcome.bind_yield]
  simp only [evaluateArguments_nil, Outcome.bind_yield]
  rw [applyClosure_of_le rfl (Nat.le_refl 1)]
  rfl

end Guion.Evaluation
