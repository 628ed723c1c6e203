import Guion.Evaluation.Equations
import Guion.Proofs.Program.Gathering

/-! What evaluation may change: new variables in its own scope, and nothing in the others.

A call declares its parameters in a scope of its own, so whatever it does is kept from all scopes
that were there before.
-/

namespace Guion

/-- The names that are declared by the statements in a tree. Those in the body of a function are
declared elsewhere, whenever it is called.
-/
def Declared : Gathering (List String) where
  nothing := []
  join := (· ++ ·)
  ofFunction _ _ := []
  ofStatement
    | .declare name _, inside => name :: inside
    | .returning _, inside | .expression _, inside => inside

namespace Heap

/-- All frames of a heap are in the later one, and none of them has changed. -/
def Extends (before after : Heap) : Prop :=
  ∀ (scope : Scope) (frame : Frame),
    before.frames[scope]? = some frame → after.frames[scope]? = some frame

/-- All frames of a heap are in the later one, and only in that of `scope` has anything changed:
variables of the given names.
-/
structure Keeps (before after : Heap) (scope : Scope) (names : List String) : Prop where
  others
    : ∀ (other : Scope) (frame : Frame),
        other ≠ scope
        → before.frames[other]? = some frame
        → after.frames[other]? = some frame
  own
    : ∀ frame,
        before.frames[scope]? = some frame
        → ∃ later,
            after.frames[scope]? = some later
            ∧ later.outer = frame.outer
            ∧ ∀ name, name ∉ names → later.bindings[name]? = frame.bindings[name]?

variable {before middle after : Heap} {scope : Scope} {names more : List String}

theorem Extends.refl (heap : Heap) : heap.Extends heap :=
  fun _ _ found => found

/-- A heap that only grows keeps every variable. -/
theorem Extends.keeps (grows : before.Extends after) (scope : Scope) (names : List String)
    : before.Keeps after scope names :=
  ⟨fun other frame _ found => grows other frame found,
    fun frame found => ⟨frame, grows scope frame found, rfl, fun _ _ => rfl⟩⟩

theorem Keeps.refl (heap : Heap) (scope : Scope) (names : List String)
    : heap.Keeps heap scope names :=
  (Extends.refl heap).keeps scope names

/-- Changes one after another are changes of the names of both. -/
theorem Keeps.trans (first : before.Keeps middle scope names)
    (second : middle.Keeps after scope more)
    : before.Keeps after scope (names ++ more) := by
  constructor
  · intro other frame different found
    exact second.others other frame different (first.others other frame different found)
  · intro frame found
    obtain ⟨between, found, outer, same⟩ := first.own frame found
    obtain ⟨later, found, outer', same'⟩ := second.own between found
    refine ⟨later, found, outer'.trans outer, fun name fresh => ?_⟩
    rw [List.mem_append, not_or] at fresh
    rw [same' name fresh.2, same name fresh.1]

theorem Keeps.mono (keeps : before.Keeps after scope names) (inside : names ⊆ more)
    : before.Keeps after scope more := by
  refine ⟨keeps.others, fun frame found => ?_⟩
  obtain ⟨later, found, outer, same⟩ := keeps.own frame found
  exact ⟨later, found, outer, fun name fresh => same name fun found => fresh (inside found)⟩

/-- Changes in a scope that was not there before leave all that was there alone. -/
theorem Keeps.extends (keeps : before.Keeps after scope names) (new : before.size ≤ scope)
    : before.Extends after := by
  intro other frame found
  refine keeps.others other frame ?_ found
  rintro rfl
  obtain ⟨inside, -⟩ := Array.getElem?_eq_some_iff.mp found
  exact absurd inside (Nat.not_lt_of_le new)

/-- A new frame changes none of the others. -/
theorem extends_push (heap : Heap) (frame : Frame) : heap.Extends (heap.push frame) := by
  intro other found_frame found
  obtain ⟨inside, -⟩ := Array.getElem?_eq_some_iff.mp found
  have old : other ≠ heap.size := Nat.ne_of_lt inside
  rw [frames_push, if_neg old, found]

/-- A declaration changes the variable of its name in its scope. -/
theorem keeps_bind (heap : Heap) (scope : Scope) (name : String) (value : Value)
    : heap.Keeps (heap.bind scope name value) scope [name] := by
  constructor
  · intro other frame different found
    rw [frames_bind, if_neg (Ne.symm different), found]
  · intro frame found
    refine ⟨{ frame with bindings := frame.bindings.insert name value }, ?_, rfl, ?_⟩
    · rw [frames_bind, if_pos rfl, found]
      rfl
    · intro other fresh
      rw [List.mem_singleton] at fresh
      simp [Std.TreeMap.getElem?_insert, Ne.symm fresh]

/-- Several declarations change the variables of their names, by induction on the declarations. -/
theorem keeps_bindAll (heap : Heap) (scope : Scope) (names : List String) (values : List Value)
    : heap.Keeps (heap.bindAll scope names values) scope names := by
  unfold bindAll
  induction names generalizing heap values with
  | nil => exact Keeps.refl ..
  | cons name names ih =>
      cases values with
      | nil => exact Keeps.refl ..
      | cons value values => exact (keeps_bind heap scope name value).trans (ih ..)

end Heap

namespace Evaluation

open Heap

variable {α β : Type} {limit : Nat} {scope : Scope} {depth : Nat} {store : Store}

@[simp]
theorem store_settle (result : Except RuntimeError α) (store : Store)
    : (settle result store).store = store :=
  rfl

/-- Evaluations in a row change the names of both, and of the first one only if it stops early. -/
theorem Outcome.keeps_bind {before : Heap} {names more : List String} {outcome : Outcome α}
    {next : α → Store → Outcome β} (first : before.Keeps outcome.store.heap scope names)
    (second
      : ∀ value (store : Store), store.heap.Keeps (next value store).store.heap scope more)
    : before.Keeps (outcome.bind next).store.heap scope (names ++ more) := by
  rcases outcome with ⟨signal | value, store⟩
  · exact first.mono (List.subset_append_left ..)
  · exact first.trans (second value store)

/-- Nothing more is declared behind the last part of an evaluation. -/
theorem Outcome.keeps_bind_last {before : Heap} {names : List String} {outcome : Outcome α}
    {next : α → Store → Outcome β} (first : before.Keeps outcome.store.heap scope names)
    (last : ∀ value (store : Store), store.heap.Extends (next value store).store.heap)
    : before.Keeps (outcome.bind next).store.heap scope names := by
  rcases outcome with ⟨signal | value, store⟩
  · exact first
  · have second := (last value store).keeps scope []
    exact (first.trans second).mono (by simp)

/-- A task keeps all frames but its own, and there all names but those that it declares. -/
def Framed (limit : Nat) : Task → Prop
  | .expression e scope depth store =>
      store.heap.Keeps (evaluateExpression limit e scope depth store).store.heap scope
        (Declared.expression e)
  | .statements ss last scope depth store =>
      store.heap.Keeps (evaluateStatements limit ss last scope depth store).store.heap scope
        (Declared.statements ss)
  | .arguments es scope depth store =>
      store.heap.Keeps (evaluateArguments limit es scope depth store).store.heap scope
        (Declared.arguments es)

/-- Entering a call declares the parameters in a new scope. -/
theorem keeps_enter (closure : Closure) (arguments : List Value) (depth : Nat) (store : Store)
    : store.heap.Keeps (enter closure arguments depth store).2.heap store.heap.size
        closure.parameters := by
  have opened := (extends_push store.heap ⟨{}, some closure.scope⟩).keeps store.heap.size []
  exact opened.trans (keeps_bindAll _ store.heap.size closure.parameters arguments)

/-- A call keeps every frame, if the evaluation of its body keeps those that are not its own. -/
theorem extends_applyClosure {closure : Closure} {arguments : List Value}
    (body
      : depth < limit
        → ∀ scope store, Framed limit (.statements closure.body .null scope (depth + 1) store))
    : store.heap.Extends (applyClosure limit closure arguments depth store).store.heap := by
  unfold applyClosure
  split
  · exact Extends.refl _
  · rename_i below _
    have entered := keeps_enter closure arguments depth store
    have inside := body below.down store.heap.size (enter closure arguments depth store).2
    rw [Outcome.store_returned]
    exact (entered.trans inside).extends (Nat.le_refl _)

/-- Every task keeps all frames but its own, by induction along the order of the tasks. A call
enters the body of its function under one call more.
-/
theorem framed (limit : Nat) (task : Task) : Framed limit task := by
  induction task using Task.induction limit with
  | identifier | integer | boolean | string | function =>
      simp [Framed, yield, close, Keeps.refl]
  | unary operator operand scope depth store ih =>
      rw [Framed, evaluateExpression_unary, Gathering.expression]
      exact Outcome.keeps_bind_last ih fun _ _ => Extends.refl _
  | binary left operator right scope depth store ih ih' =>
      rw [Framed, evaluateExpression_binary, Gathering.expression]
      refine Outcome.keeps_bind ih fun _ middle => ?_
      exact Outcome.keeps_bind_last (ih' middle) fun _ _ => Extends.refl _
  | conditional condition consequence alternative scope depth store tested taken refused =>
      rw [Framed, evaluateExpression_conditional]
      cases alternative with
      | none =>
          rw [Gathering.expression]
          refine Outcome.keeps_bind tested fun value middle => ?_
          split
          · exact taken middle
          · exact Keeps.refl ..
      | some alternative =>
          rw [Gathering.expression]
          refine Outcome.keeps_bind tested fun value middle => ?_
          split
          · have kept : middle.heap.Keeps _ scope _ := taken middle
            exact kept.mono (List.subset_append_left ..)
          · have kept : middle.heap.Keeps _ scope _ := refused alternative rfl middle
            exact kept.mono (List.subset_append_right ..)
  | call callee es scope depth store called given body =>
      rw [Framed, evaluateExpression_call, Gathering.expression]
      refine Outcome.keeps_bind called fun callee middle => ?_
      split
      · refine Outcome.keeps_bind_last (given middle) fun values later => ?_
        exact extends_applyClosure fun below => body below _
      · exact Outcome.keeps_bind_last (given middle) fun _ _ => Extends.refl _
      · exact Keeps.refl ..
  | noStatements =>
      rw [Framed, evaluateStatements_nil]
      exact Keeps.refl ..
  | declare name e rest last scope depth store evaluated continued =>
      have names : Declared.statements (.declare name e :: rest)
          = name :: Declared.expression e ++ Declared.statements rest := rfl
      rw [Framed, evaluateStatements_declare, names]
      -- The value is computed before the name is declared.
      have whole := Outcome.keeps_bind evaluated fun value middle =>
        (keeps_bind middle.heap scope name value).trans
          (continued (middle.onHeap (·.bind scope name value)))
      exact whole.mono (by simp [List.subset_def, or_left_comm])
  | returning e rest last scope depth store evaluated =>
      rw [Framed, evaluateStatements_returning, Gathering.statements]
      exact Outcome.keeps_bind evaluated fun _ _ => Keeps.refl ..
  | expression e rest last scope depth store evaluated continued =>
      rw [Framed, evaluateStatements_expression, Gathering.statements]
      exact Outcome.keeps_bind evaluated continued
  | noArguments =>
      rw [Framed, evaluateArguments_nil]
      exact Keeps.refl ..
  | argument e es scope depth store evaluated continued =>
      rw [Framed, evaluateArguments_cons, Gathering.arguments]
      refine Outcome.keeps_bind evaluated fun first middle => ?_
      exact Outcome.keeps_bind_last (continued middle) fun _ _ => Extends.refl _

/-- Evaluation changes variables in its own scope only, and there only those that the evaluated code
declares outside of functions. A call changes no scope that was there before.
-/
theorem evaluation_keeps_frames (limit : Nat) (scope : Scope) (depth : Nat) (store : Store)
    : (∀ e,
        store.heap.Keeps (evaluateExpression limit e scope depth store).store.heap scope
          (Declared.expression e))
      ∧ (∀ ss last,
          store.heap.Keeps (evaluateStatements limit ss last scope depth store).store.heap scope
            (Declared.statements ss))
      ∧ (∀ es,
          store.heap.Keeps (evaluateArguments limit es scope depth store).store.heap scope
            (Declared.arguments es))
      ∧ (∀ closure arguments,
          store.heap.Extends (applyClosure limit closure arguments depth store).store.heap) := by
  refine ⟨fun e => ?_, fun ss last => ?_, fun es => ?_, fun closure arguments => ?_⟩
  · exact framed limit (.expression e scope depth store)
  · exact framed limit (.statements ss last scope depth store)
  · exact framed limit (.arguments es scope depth store)
  · exact extends_applyClosure fun _ inner store => framed limit _

end Evaluation

end Guion
