import Guion.Interpreter
import Guion.Proofs.Evaluation.Invariant

/-! No variable ever holds an error.

Evaluation yields no errors as values, as long as it finds none among the variables. So it binds
none either, and what it leaves is free of errors again.
-/

namespace Guion

-----------------------------------------------------------------------------------------
-- Variables
-----------------------------------------------------------------------------------------

namespace Heap

/-- No variable holds an error. -/
def ErrorFree (heap : Heap) : Prop :=
  ∀ (scope : Scope) (frame : Frame) (name : String) (value : Value),
    heap.frames[scope]? = some frame → frame.bindings[name]? = some value → value.kind ≠ .error

variable {heap : Heap}

theorem ErrorFree.held (free : heap.ErrorFree) {value : Value} (held : heap.Holds value)
    : value.kind ≠ .error := by
  obtain ⟨scope, frame, name, found, bound⟩ := held
  exact free scope frame name value found bound

theorem errorFree_of_held (held : ∀ value, heap.Holds value → value.kind ≠ .error)
    : heap.ErrorFree :=
  fun scope frame name value found bound => held value ⟨scope, frame, name, found, bound⟩

theorem ErrorFree.empty : Heap.empty.ErrorFree :=
  errorFree_of_held fun value held => absurd held (not_holds_empty value)

/-- A new frame holds no variable at all. -/
theorem ErrorFree.push (free : heap.ErrorFree) (outer : Option Scope)
    : (heap.push ⟨{}, outer⟩).ErrorFree :=
  errorFree_of_held fun _ held => free.held held.of_push

end Heap

-----------------------------------------------------------------------------------------
-- Evaluation
-----------------------------------------------------------------------------------------

namespace Evaluation

variable {α : Type} {limit : Nat} {scope : Scope} {store : Store}

/-- Errors are not at hand as values. -/
def Invariant.withoutErrors : Invariant where
  value _ value := value.kind ≠ .error
  code _ _ _ := True
  heap _ := True
  value_grows _ plain := plain
  code_grows _ _ := trivial
  code_part _ _ := trivial
  plain := by
    intro store value other error
    simp [error] at other
  heap_bind _ _ _ _ := trivial
  heap_enclose _ _ := trivial
  closes _ := by simp [Value.kind]
  enters _ _ _ := trivial

theorem Invariant.withoutErrors_fits (free : store.heap.ErrorFree)
    : Invariant.withoutErrors.Fits store :=
  ⟨trivial, fun _ held => free.held held⟩

namespace Task

/-- There are no errors among the variables in front of a task, nor is it behind one. -/
def ErrorFree : Task → Prop
  | expression _ _ _ store => store.heap.ErrorFree
  | statements _ last _ _ store => last.kind ≠ .error ∧ store.heap.ErrorFree
  | arguments _ _ _ store => store.heap.ErrorFree

/-- What a task yields is no error. -/
def Plain : (task : Task) → task.Yield → Prop
  | expression .., value => value.kind ≠ .error
  | statements .., value => value.kind ≠ .error
  | arguments .., values => ∀ value ∈ values, value.kind ≠ .error

theorem ErrorFree.ready {task : Task} (free : task.ErrorFree)
    : Invariant.withoutErrors.Ready task := by
  cases task with
  | expression => exact ⟨Invariant.withoutErrors_fits free, trivial⟩
  | statements => exact ⟨Invariant.withoutErrors_fits free.2, trivial, free.1⟩
  | arguments => exact ⟨Invariant.withoutErrors_fits free, trivial⟩

end Task

/-- An evaluation leaves no error among the variables, yields a plain value if any, and returns no
error as a value.
-/
structure Outcome.ErrorFree (plain : α → Prop) (outcome : Outcome α) : Prop where
  heap : outcome.store.heap.ErrorFree
  value : ∀ value, outcome.result = .ok value → plain value
  returning : ∀ value, outcome.result = .error (.returning value) → value.kind ≠ .error

/-- Evaluation finds and leaves no errors among the variables. -/
theorem Task.ErrorFree.outcome {task : Task} (free : task.ErrorFree) (limit : Nat)
    : (task.outcome limit).ErrorFree task.Plain := by
  have kept := Invariant.withoutErrors.keeps limit task free.ready
  refine ⟨Heap.errorFree_of_held kept.fits.held, ?_, kept.returning⟩
  intro value yielded
  cases task <;> exact kept.value value yielded

/-- A program ends with an error only if its evaluation stops for the error, since it finds no
errors among the variables.
-/
theorem result_of_value_eq_error {program : Program} (free : store.heap.ErrorFree)
    {error : RuntimeError} (failed : (program.evaluate limit scope store).1 = .error error)
    : (program.run limit scope store).result = .error (.failure error) := by
  have start : (Task.statements program .null scope 0 store).ErrorFree :=
    ⟨by simp [Value.kind], free⟩
  have plain : (program.run limit scope store).ErrorFree fun value => value.kind ≠ .error :=
    start.outcome limit
  rw [Program.evaluate] at failed
  generalize program.run limit scope store = outcome at failed plain ⊢
  rcases outcome with ⟨(value | found) | value, later⟩
  · exact absurd (congrArg Value.kind failed) (plain.returning value rfl)
  · cases failed
    rfl
  · exact absurd (congrArg Value.kind failed) (plain.value value rfl)

end Evaluation

end Guion
