import Guion.Proofs.Evaluation.Frame
import Guion.Proofs.Evaluation.Moments
import Guion.Proofs.Heap.Held
import Guion.Proofs.Value.Operators

/-! Invariants of evaluation.

An invariant says which values may be at hand in a store, which code may be evaluated in a scope of
it, and how its frames may lie. Main statement: if a task starts as an invariant says, then so does
all that is evaluated at any moment of it, and all of it ends so.
-/

namespace Guion

-----------------------------------------------------------------------------------------
-- Stores that grow
-----------------------------------------------------------------------------------------

/-- A later store has all functions and all frames of an earlier one, each frame inside the same
other one. Its variables may have changed.
-/
structure Store.Grows (before after : Store) : Prop where
  functions : before.functions ≤ after.functions
  frames
    : ∀ (scope : Scope) (frame : Frame),
        before.heap.frames[scope]? = some frame
        → ∃ later, after.heap.frames[scope]? = some later ∧ later.outer = frame.outer

namespace Store.Grows

variable {before middle after : Store}

theorem refl (store : Store) : store.Grows store :=
  ⟨Nat.le_refl _, fun _ frame found => ⟨frame, found, rfl⟩⟩

theorem trans (first : before.Grows middle) (second : middle.Grows after) : before.Grows after := by
  refine ⟨Nat.le_trans first.functions second.functions, ?_⟩
  intro scope frame found
  obtain ⟨between, found, outer⟩ := first.frames scope frame found
  obtain ⟨later, found, outer'⟩ := second.frames scope between found
  exact ⟨later, found, outer'.trans outer⟩

theorem lt_size (grows : before.Grows after) {scope : Scope} (inside : scope < before.heap.size)
    : scope < after.heap.size := by
  obtain ⟨later, found, -⟩ := grows.frames scope _ (Array.getElem?_eq_getElem inside)
  exact (Array.getElem?_eq_some_iff.mp found).1

theorem size_le (grows : before.Grows after) : before.heap.size ≤ after.heap.size := by
  apply Nat.le_of_not_lt
  intro less
  exact Nat.lt_irrefl _ (grows.lt_size less)

/-- A heap in which only variables of one scope change has all frames where they were. -/
theorem of_keeps {scope : Scope} {names : List String}
    (functions : before.functions ≤ after.functions)
    (keeps : before.heap.Keeps after.heap scope names)
    : before.Grows after := by
  refine ⟨functions, ?_⟩
  intro other frame found
  by_cases same : other = scope
  · subst same
    obtain ⟨later, found, outer, -⟩ := keeps.own frame found
    exact ⟨later, found, outer⟩
  · exact ⟨frame, keeps.others other frame same found, rfl⟩

end Store.Grows

namespace Evaluation

theorem grows_bind (store : Store) (scope : Scope) (name : String) (value : Value)
    : store.Grows (store.onHeap (·.bind scope name value)) :=
  .of_keeps (Nat.le_refl _) (Heap.keeps_bind store.heap scope name value)

theorem grows_push (store : Store) (frame : Frame) : store.Grows (store.onHeap (·.push frame)) :=
  .of_keeps (Nat.le_refl _) ((Heap.extends_push store.heap frame).keeps 0 [])

theorem grows_enter (closure : Closure) (values : List Value) (depth : Nat) (store : Store)
    : store.Grows (enter closure values depth store).2 :=
  .of_keeps (Nat.le_refl _) (keeps_enter closure values depth store)

theorem grows_close (store : Store)
    : store.Grows { store with functions := store.functions + 1 } :=
  ⟨Nat.le_succ _, fun _ frame found => ⟨frame, found, rfl⟩⟩

/-- A name stands for a value that some frame holds, or for a builtin function. -/
theorem holds_of_resolve {heap : Heap} {scope : Scope} {name : String} {value : Value}
    (resolved : resolve heap scope name = .ok value)
    : heap.Holds value ∨ value.kind = .builtin := by
  unfold resolve at resolved
  split at resolved
  · rename_i found
    cases resolved
    exact .inl (Heap.holds_of_lookup found)
  · split at resolved <;> cases resolved
    exact .inr rfl

-----------------------------------------------------------------------------------------
-- Invariants
-----------------------------------------------------------------------------------------

/-- Code that is evaluated in a scope. -/
inductive Code where
  | expression (e : Expression)
  | statements (ss : List Statement)
  | arguments (es : List Expression)

/-- The parts of code that are evaluated in the same scope. The body of a function is not among
them.
-/
inductive Code.Part : Code → Code → Prop where
  | operand {operator operand}
    : Part (.expression operand) (.expression (.unary operator operand))
  | left {left operator right} : Part (.expression left) (.expression (.binary left operator right))
  | right {left operator right}
    : Part (.expression right) (.expression (.binary left operator right))
  | condition {condition consequence alternative}
    : Part (.expression condition) (.expression (.conditional condition consequence alternative))
  | consequence {condition consequence alternative}
    : Part (.statements consequence)
        (.expression (.conditional condition consequence alternative))
  | alternative {condition consequence alternative}
    : Part (.statements alternative)
        (.expression (.conditional condition consequence (some alternative)))
  | callee {callee es} : Part (.expression callee) (.expression (.call callee es))
  | arguments {callee es} : Part (.arguments es) (.expression (.call callee es))
  | declared {name e rest} : Part (.expression e) (.statements (.declare name e :: rest))
  | returned {e rest} : Part (.expression e) (.statements (.returning e :: rest))
  | evaluated {e rest} : Part (.expression e) (.statements (.expression e :: rest))
  | statements {s rest} : Part (.statements rest) (.statements (s :: rest))
  | argument {e rest} : Part (.expression e) (.arguments (e :: rest))
  | otherArguments {e rest} : Part (.arguments rest) (.arguments (e :: rest))

/-- What is gathered from code. -/
def Code.gathered {α : Type} (g : Gathering α) : Code → α
  | .expression e => g.expression e
  | .statements ss => g.statements ss
  | .arguments es => g.arguments es

/-- What is gathered from a part of some code is gathered from the code. -/
theorem Code.Part.gathered {α : Type} {g : Gathering α} {le : α → α → Prop} (grows : g.Grows le)
    {part code : Code} (isPart : part.Part code)
    : le (part.gathered g) (code.gathered g) := by
  cases isPart with
  | operand => exact grows.refl _
  | left | callee | argument => exact grows.left ..
  | right | arguments | statements | otherArguments => exact grows.right ..
  | @condition _ _ alternative => cases alternative <;> exact grows.left ..
  | @consequence _ _ alternative =>
      cases alternative with
      | none => exact grows.right ..
      | some => exact grows.trans (grows.left ..) (grows.right ..)
  | alternative => exact grows.trans (grows.right ..) (grows.right ..)
  | declared | returned | evaluated => exact grows.trans (grows.statement ..) (grows.left ..)

/-- What evaluation may rely on and has to keep up. -/
structure Invariant where
  /-- The values that may be at hand in a store. -/
  value : Store → Value → Prop
  /-- The code that may be evaluated in a scope of a store. -/
  code : Store → Scope → Code → Prop
  /-- How the frames of a heap may lie. -/
  heap : Heap → Prop
  value_grows
    : ∀ {before after : Store} {v : Value}, before.Grows after → value before v → value after v
  code_grows
    : ∀ {before after : Store} {scope : Scope} {c : Code},
        before.Grows after → code before scope c → code after scope c
  code_part
    : ∀ {store : Store} {scope : Scope} {c part : Code},
        part.Part c → code store scope c → code store scope part
  plain : ∀ {store : Store} {v : Value}, v.kind ∉ [.function, .error] → value store v
  heap_bind
    : ∀ {h : Heap} (scope : Scope) (name : String) (v : Value), heap h → heap (h.bind scope name v)
  heap_enclose
    : ∀ {store : Store} {closure : Closure},
        value store (.function closure)
        → heap store.heap
        → heap (store.heap.enclose closure.scope).2
  closes
    : ∀ {store : Store} {scope : Scope} {parameters : List String} {body : Block},
        code store scope (.expression (.function parameters body))
        → value { store with functions := store.functions + 1 }
            (.function ⟨store.functions, parameters, body, scope⟩)
  enters
    : ∀ {store : Store} {closure : Closure} (values : List Value) (depth : Nat),
        value store (.function closure)
        → code (enter closure values depth store).2 (enter closure values depth store).1
            (.statements closure.body)

namespace Invariant

/-- A store is as the invariant says. -/
structure Fits (inv : Invariant) (store : Store) : Prop where
  heap : inv.heap store.heap
  held : ∀ value, store.heap.Holds value → inv.value store value

/-- An evaluation from a store leads to another one that is as the invariant says, and so is what it
yields or returns.
-/
structure Kept {α : Type} (inv : Invariant) (before : Store) (good : Store → α → Prop)
    (outcome : Outcome α)
    : Prop where
  grows : before.Grows outcome.store
  fits : inv.Fits outcome.store
  value : ∀ value, outcome.result = .ok value → good outcome.store value
  returning
    : ∀ value, outcome.result = .error (.returning value) → inv.value outcome.store value

variable {α β : Type} {inv : Invariant} {limit : Nat} {scope : Scope} {depth : Nat}
  {before store : Store}

theorem null (inv : Invariant) : inv.value store .null :=
  inv.plain (by simp [Value.kind])

theorem data (inv : Invariant) {value : Value} (isData : value.IsData) : inv.value store value := by
  refine inv.plain ?_
  intro other
  rcases List.mem_cons.mp other with function | error
  · simp [Value.IsData, function] at isData
  · exact isData.kind_ne_error (List.mem_singleton.mp error)

/-- Changes of the heap keep to an invariant if what is bound does. -/
theorem Fits.onHeap {change : Heap → Heap} (fits : inv.Fits store)
    (grows : store.Grows (store.onHeap change)) (heap : inv.heap (change store.heap))
    (held
      : ∀ value, (change store.heap).Holds value → inv.value store value ∨ store.heap.Holds value)
    : inv.Fits (store.onHeap change) := by
  refine ⟨heap, ?_⟩
  intro value found
  apply inv.value_grows grows
  rcases held value found with given | known
  · exact given
  · exact fits.held value known

theorem Fits.bind (fits : inv.Fits store) (scope : Scope) (name : String) {value : Value}
    (given : inv.value store value)
    : inv.Fits (store.onHeap (·.bind scope name value)) := by
  apply fits.onHeap (grows_bind ..) (inv.heap_bind scope name value fits.heap)
  intro other found
  rcases found.of_bind with same | known
  · exact .inl (same ▸ given)
  · exact .inr known

theorem heap_bindAll (inv : Invariant) {h : Heap} (holds : inv.heap h) (scope : Scope)
    (names : List String) (values : List Value)
    : inv.heap (h.bindAll scope names values) := by
  unfold Heap.bindAll
  induction names.zip values generalizing h with
  | nil => exact holds
  | cons binding bindings ih => exact ih (inv.heap_bind _ _ _ holds)

/-- A call is entered with its arguments as the only new variables. -/
theorem Fits.enter {closure : Closure} {values : List Value} (fits : inv.Fits store)
    (called : inv.value store (.function closure))
    (given : ∀ value ∈ values, inv.value store value) (depth : Nat)
    : inv.Fits (enter closure values depth store).2 := by
  refine ⟨inv.heap_bindAll (inv.heap_enclose called fits.heap) _ _ _, ?_⟩
  intro value found
  apply inv.value_grows (grows_enter closure values depth store)
  rcases Heap.Holds.of_bindAll found with argument | known
  · exact given value argument
  · exact fits.held value known.of_push

-----------------------------------------------------------------------------------------
-- Evaluations in a row
-----------------------------------------------------------------------------------------

variable {good : Store → α → Prop} {further : Store → β → Prop}

theorem kept_yield {value : α} (fits : inv.Fits store) (isGood : good store value)
    : inv.Kept store good (yield value store) := by
  refine ⟨.refl store, fits, ?_, ?_⟩
  · intro other same
    cases same
    exact isGood
  · intro other same
    cases same

theorem kept_settle {result : Except RuntimeError α} (fits : inv.Fits store)
    (isGood : ∀ value, result = .ok value → good store value)
    : inv.Kept store good (settle result store) := by
  cases result with
  | ok value => exact kept_yield fits (isGood value rfl)
  | error error =>
      refine ⟨.refl store, fits, ?_, ?_⟩ <;>
      · intro other same
        cases same

theorem kept_returning {value : Value} (fits : inv.Fits store) (isGood : inv.value store value)
    : inv.Kept store good ⟨.error (.returning value), store⟩ := by
  refine ⟨.refl store, fits, ?_, ?_⟩
  · intro other same
    cases same
  · intro other same
    cases same
    exact isGood

/-- An evaluation that starts in a later store starts behind an earlier one as well. -/
theorem Kept.after {outcome : Outcome α} {earlier : Store} (kept : inv.Kept store good outcome)
    (grows : earlier.Grows store)
    : inv.Kept earlier good outcome :=
  ⟨grows.trans kept.grows, kept.fits, kept.value, kept.returning⟩

theorem Kept.bind {outcome : Outcome α} {next : α → Store → Outcome β}
    (first : inv.Kept before good outcome)
    (second
      : ∀ value later, before.Grows later → inv.Fits later → good later value
        → inv.Kept later further (next value later))
    : inv.Kept before further (outcome.bind next) := by
  rcases outcome with ⟨signal | value, later⟩
  · refine ⟨first.grows, first.fits, ?_, ?_⟩
    · intro value same
      cases same
    · intro value same
      cases same
      exact first.returning value rfl
  · exact (second value later first.grows first.fits (first.value value rfl)).after first.grows

/-- What a function returns becomes the value of the call. -/
theorem Kept.returned {outcome : Outcome Value} (kept : inv.Kept before inv.value outcome)
    : inv.Kept before inv.value outcome.returned := by
  rcases outcome with ⟨(value | error) | value, later⟩
  · exact (kept_yield kept.fits (kept.returning value rfl)).after kept.grows
  · exact kept
  · exact kept

-----------------------------------------------------------------------------------------
-- Tasks
-----------------------------------------------------------------------------------------

/-- A task starts as the invariant says. -/
def Ready (inv : Invariant) : Task → Prop
  | .expression e scope _ store => inv.Fits store ∧ inv.code store scope (.expression e)
  | .statements ss last scope _ store =>
      inv.Fits store ∧ inv.code store scope (.statements ss) ∧ inv.value store last
  | .arguments es scope _ store => inv.Fits store ∧ inv.code store scope (.arguments es)

/-- The values that a task may yield. -/
def Good (inv : Invariant) : (task : Task) → Store → task.Yield → Prop
  | .expression .. => inv.value
  | .statements .. => inv.value
  | .arguments .. => fun store values => ∀ value ∈ values, inv.value store value

/-- A task that starts as the invariant says ends so. -/
def Keeps (inv : Invariant) (limit : Nat) (task : Task) : Prop :=
  inv.Ready task → inv.Kept task.store (inv.Good task) (task.outcome limit)

/-- A call keeps to an invariant if the body of its function does. -/
private theorem kept_applyClosure_of_body {closure : Closure} {values : List Value}
    (fits : inv.Fits store)
    (called : inv.value store (.function closure))
    (given : ∀ value ∈ values, inv.value store value)
    (body
      : depth < limit
        → ∀ inner store, inv.Keeps limit (.statements closure.body .null inner (depth + 1) store))
    : inv.Kept store inv.value (applyClosure limit closure values depth store) := by
  unfold applyClosure
  split
  · apply kept_settle fits
    intro value same
    cases same
  · rename_i below _
    have entered := fits.enter called given depth
    have inside := body below.down _ _ ⟨entered, inv.enters values depth called, inv.null⟩
    exact (inside.after (grows_enter closure values depth store)).returned

private theorem value_of_resolve {name : String} {value : Value} (fits : inv.Fits store)
    (resolved : resolve store.heap scope name = .ok value)
    : inv.value store value := by
  rcases holds_of_resolve resolved with held | builtin
  · exact fits.held _ held
  · exact inv.plain (by simp [builtin])

/-- Evaluation keeps to every invariant, by induction along the order of the tasks. -/
theorem keeps (inv : Invariant) (limit : Nat) (task : Task) : inv.Keeps limit task := by
  induction task using Task.induction limit with
  | identifier name scope depth store =>
      intro ready
      obtain ⟨fits, code⟩ := ready
      simp only [Task.outcome, Good, Task.store, evaluateExpression_identifier]
      exact kept_settle fits fun value resolved => value_of_resolve fits resolved
  | integer value =>
      intro ready
      obtain ⟨fits, code⟩ := ready
      simp only [Task.outcome, Good, Task.store, evaluateExpression_integer]
      exact kept_yield fits (inv.plain (by simp [Value.kind]))
  | boolean value =>
      intro ready
      obtain ⟨fits, code⟩ := ready
      simp only [Task.outcome, Good, Task.store, evaluateExpression_boolean]
      exact kept_yield fits (inv.plain (by simp [Value.kind]))
  | string value =>
      intro ready
      obtain ⟨fits, code⟩ := ready
      simp only [Task.outcome, Good, Task.store, evaluateExpression_string]
      exact kept_yield fits (inv.plain (by simp [Value.kind]))
  | function parameters body scope depth store =>
      intro ready
      obtain ⟨fits, code⟩ := ready
      simp only [Task.outcome, Good, Task.store, evaluateExpression_function]
      have later : inv.Fits { store with functions := store.functions + 1 } :=
        ⟨fits.heap, fun value held => inv.value_grows (grows_close store) (fits.held value held)⟩
      exact (kept_yield later (inv.closes code)).after (grows_close store)
  | unary operator operand scope depth store ih =>
      intro ready
      obtain ⟨fits, code⟩ := ready
      simp only [Task.outcome, Good, Task.store, evaluateExpression_unary]
      apply Kept.bind (ih ⟨fits, inv.code_part .operand code⟩)
      intro value later _ fits _
      exact kept_settle fits fun value applied => inv.data (UnaryOperator.isData_of_apply applied)
  | binary left operator right scope depth store ih ih' =>
      intro ready
      obtain ⟨fits, code⟩ := ready
      simp only [Task.outcome, Good, Task.store, evaluateExpression_binary]
      apply Kept.bind (ih ⟨fits, inv.code_part .left code⟩)
      intro a middle grows fits _
      apply Kept.bind (ih' middle ⟨fits, inv.code_grows grows (inv.code_part .right code)⟩)
      intro b later _ fits _
      exact kept_settle fits fun value applied => inv.data (BinaryOperator.isData_of_apply applied)
  | conditional condition consequence alternative scope depth store tested taken refused =>
      intro ready
      obtain ⟨fits, code⟩ := ready
      simp only [Task.outcome, Good, Task.store, evaluateExpression_conditional]
      apply Kept.bind (tested ⟨fits, inv.code_part .condition code⟩)
      intro test middle grows fits _
      split
      · have inside := inv.code_grows grows (inv.code_part .consequence code)
        exact taken middle ⟨fits, inside, inv.null⟩
      · cases alternative with
        | none => exact kept_yield fits inv.null
        | some alternative =>
            have inside := inv.code_grows grows (inv.code_part .alternative code)
            exact refused alternative rfl middle ⟨fits, inside, inv.null⟩
  | call callee es scope depth store called given body =>
      intro ready
      obtain ⟨fits, code⟩ := ready
      simp only [Task.outcome, Good, Task.store, evaluateExpression_call]
      apply Kept.bind (called ⟨fits, inv.code_part .callee code⟩)
      intro value middle grows fits isGood
      have given := given middle ⟨fits, inv.code_grows grows (inv.code_part .arguments code)⟩
      split
      · apply Kept.bind given
        intro values later grows fits areGood
        exact kept_applyClosure_of_body fits (inv.value_grows grows isGood) areGood
          fun below => body below _
      · apply Kept.bind given
        intro values later _ fits _
        exact kept_settle fits fun value applied => inv.data (Builtin.isData_of_apply applied)
      · apply kept_settle fits
        intro value same
        cases same
  | noStatements =>
      intro ready
      obtain ⟨fits, code, isLast⟩ := ready
      simp only [Task.outcome, Good, Task.store, evaluateStatements_nil]
      exact kept_yield fits isLast
  | declare name e rest last scope depth store evaluated continued =>
      intro ready
      obtain ⟨fits, code, -⟩ := ready
      simp only [Task.outcome, Good, Task.store, evaluateStatements_declare]
      apply Kept.bind (evaluated ⟨fits, inv.code_part .declared code⟩)
      intro value middle grows fits isGood
      have bound := grows_bind middle scope name value
      have rest := inv.code_grows (grows.trans bound) (inv.code_part .statements code)
      exact (continued _ ⟨fits.bind scope name isGood, rest, inv.null⟩).after bound
  | returning e rest last scope depth store evaluated =>
      intro ready
      obtain ⟨fits, code, -⟩ := ready
      simp only [Task.outcome, Good, Task.store, evaluateStatements_returning]
      apply Kept.bind (evaluated ⟨fits, inv.code_part .returned code⟩)
      intro value later _ fits isGood
      exact kept_returning fits isGood
  | expression e rest last scope depth store evaluated continued =>
      intro ready
      obtain ⟨fits, code, -⟩ := ready
      simp only [Task.outcome, Good, Task.store, evaluateStatements_expression]
      apply Kept.bind (evaluated ⟨fits, inv.code_part .evaluated code⟩)
      intro value middle grows fits isGood
      exact continued value middle
        ⟨fits, inv.code_grows grows (inv.code_part .statements code), isGood⟩
  | noArguments =>
      intro ready
      obtain ⟨fits, code⟩ := ready
      simp only [Task.outcome, Good, Task.store, evaluateArguments_nil]
      exact kept_yield fits (by simp)
  | argument e es scope depth store evaluated continued =>
      intro ready
      obtain ⟨fits, code⟩ := ready
      simp only [Task.outcome, Good, Task.store, evaluateArguments_cons]
      apply Kept.bind (evaluated ⟨fits, inv.code_part .argument code⟩)
      intro first middle grows fits isGood
      apply Kept.bind (continued middle
        ⟨fits, inv.code_grows grows (inv.code_part .otherArguments code)⟩)
      intro rest later grows fits areGood
      exact kept_yield fits (List.forall_mem_cons.mpr ⟨inv.value_grows grows isGood, areGood⟩)

/-- A call keeps to every invariant. -/
theorem kept_applyClosure {closure : Closure} {values : List Value} (fits : inv.Fits store)
    (called : inv.value store (.function closure))
    (given : ∀ value ∈ values, inv.value store value)
    : inv.Kept store inv.value (applyClosure limit closure values depth store) :=
  kept_applyClosure_of_body fits called given fun _ _ _ => inv.keeps limit _

/-- Nothing in particular is kept up. -/
def anything : Invariant where
  value _ _ := True
  code _ _ _ := True
  heap _ := True
  value_grows _ _ := trivial
  code_grows _ _ := trivial
  code_part _ _ := trivial
  plain _ := trivial
  heap_bind _ _ _ _ := trivial
  heap_enclose _ _ := trivial
  closes _ := trivial
  enters _ _ _ := trivial

-----------------------------------------------------------------------------------------
-- Moments
-----------------------------------------------------------------------------------------

/-- A part that is evaluated first starts with the store of the whole. -/
private theorem Ready.first {task part : Task} (ready : inv.Ready task)
    (first : task.first? = some part)
    : inv.Ready part := by
  unfold Task.first? at first
  split at first <;> cases first
  · exact ⟨ready.1, inv.code_part .operand ready.2⟩
  · exact ⟨ready.1, inv.code_part .left ready.2⟩
  · exact ⟨ready.1, inv.code_part .condition ready.2⟩
  · exact ⟨ready.1, inv.code_part .callee ready.2⟩
  · exact ⟨ready.1, inv.code_part .declared ready.2.1⟩
  · exact ⟨ready.1, inv.code_part .returned ready.2.1⟩
  · exact ⟨ready.1, inv.code_part .evaluated ready.2.1⟩
  · exact ⟨ready.1, inv.code_part .argument ready.2⟩

/-- An expression that yields a value keeps to an invariant. -/
theorem kept_of_yield {e : Expression} {value : Value} {later : Store} (fits : inv.Fits store)
    (code : inv.code store scope (.expression e))
    (evaluated : evaluateExpression limit e scope depth store = yield value later)
    : store.Grows later ∧ inv.Fits later ∧ inv.value later value := by
  have kept := inv.keeps limit (.expression e scope depth store) ⟨fits, code⟩
  simp only [Task.outcome, evaluated] at kept
  exact ⟨kept.grows, kept.fits, kept.value value rfl⟩

/-- Every step into a task starts as the invariant says. -/
theorem Ready.visits {task part : Task} (ready : inv.Ready task) (visits : Visits limit task part)
    : inv.Ready part := by
  cases visits with
  | first first => exact ready.first first
  | right first =>
      obtain ⟨fits, code⟩ := ready
      obtain ⟨grows, fits, -⟩ := kept_of_yield fits (inv.code_part .left code) first
      exact ⟨fits, inv.code_grows grows (inv.code_part .right code)⟩
  | consequence tested =>
      obtain ⟨fits, code⟩ := ready
      obtain ⟨grows, fits, -⟩ := kept_of_yield fits (inv.code_part .condition code) tested
      exact ⟨fits, inv.code_grows grows (inv.code_part .consequence code), inv.null⟩
  | alternative tested =>
      obtain ⟨fits, code⟩ := ready
      obtain ⟨grows, fits, -⟩ := kept_of_yield fits (inv.code_part .condition code) tested
      exact ⟨fits, inv.code_grows grows (inv.code_part .alternative code), inv.null⟩
  | arguments called =>
      obtain ⟨fits, code⟩ := ready
      obtain ⟨grows, fits, -⟩ := kept_of_yield fits (inv.code_part .callee code) called
      exact ⟨fits, inv.code_grows grows (inv.code_part .arguments code)⟩
  | @body callee es closure values scope depth store middle later called given below =>
      obtain ⟨fits, code⟩ := ready
      obtain ⟨grows, fits, isGood⟩ := kept_of_yield fits (inv.code_part .callee code) called
      have kept := inv.keeps limit (.arguments es scope depth middle)
        ⟨fits, inv.code_grows grows (inv.code_part .arguments code)⟩
      simp only [Task.outcome, given] at kept
      have called := inv.value_grows kept.grows isGood
      exact ⟨kept.fits.enter called (kept.value values rfl) depth, inv.enters values depth called,
        inv.null⟩
  | @afterDeclaration name e rest last value scope depth store middle evaluated =>
      obtain ⟨fits, code, -⟩ := ready
      obtain ⟨grows, fits, isGood⟩ := kept_of_yield fits (inv.code_part .declared code) evaluated
      have grows := grows.trans (grows_bind middle scope name value)
      exact ⟨fits.bind scope name isGood, inv.code_grows grows (inv.code_part .statements code),
        inv.null⟩
  | afterExpression evaluated =>
      obtain ⟨fits, code, -⟩ := ready
      obtain ⟨grows, fits, isGood⟩ := kept_of_yield fits (inv.code_part .evaluated code) evaluated
      exact ⟨fits, inv.code_grows grows (inv.code_part .statements code), isGood⟩
  | afterArgument evaluated =>
      obtain ⟨fits, code⟩ := ready
      obtain ⟨grows, fits, -⟩ := kept_of_yield fits (inv.code_part .argument code) evaluated
      exact ⟨fits, inv.code_grows grows (inv.code_part .otherArguments code)⟩

/-- At every moment of a task evaluation keeps to an invariant. -/
theorem Ready.within {outer inner : Task} (ready : inv.Ready outer)
    (within : Within limit outer inner)
    : inv.Ready inner ∧ inv.Kept inner.store (inv.Good inner) (inner.outcome limit) := by
  have start := within.induction ready fun _ _ visits ready => ready.visits visits
  exact ⟨start, inv.keeps limit inner start⟩

end Invariant

/-- No frame and no function is ever lost. -/
theorem grows_outcome (limit : Nat) (task : Task)
    : task.store.Grows (task.outcome limit).store := by
  have ready : Invariant.anything.Ready task := by
    cases task <;> exact ⟨⟨trivial, fun _ _ => trivial⟩, by simp [Invariant.anything]⟩
  exact (Invariant.anything.keeps limit task ready).grows

end Evaluation

end Guion
