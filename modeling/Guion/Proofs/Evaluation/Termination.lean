import Mathlib.Logic.ExistsUnique
import Guion.Interpreter
import Guion.Proofs.Evaluation.Moments

/-! Every program ends, whatever the limit on nested calls is and whatever the variables hold.

A task that is evaluated within another one has fewer calls left up to the limit, or as many and a
smaller part of a program to evaluate. So tasks are never nested without end, and the rules of
evaluation lead to an end for each of them.
-/

namespace Guion

namespace Evaluation

open Size

variable {limit : Nat} {scope : Scope} {store : Store} {inner : Task}

/-- What a task evaluates first is a part of it. -/
theorem size_lt_of_first {task part : Task} (first : task.first? = some part)
    : part.depth = task.depth ∧ part.size < task.size := by
  unfold Task.first? at first
  split at first <;> cases first
  · exact ⟨rfl, operand_lt_unary ..⟩
  · exact ⟨rfl, left_lt_binary ..⟩
  · exact ⟨rfl, condition_lt_conditional ..⟩
  · exact ⟨rfl, callee_lt_call ..⟩
  · exact ⟨rfl, part_lt_cons (value_lt_declare ..) _⟩
  · exact ⟨rfl, part_lt_cons (value_lt_returning ..) _⟩
  · exact ⟨rfl, part_lt_cons (value_lt_expression ..) _⟩
  · exact ⟨rfl, first_lt_cons ..⟩

/-- A task within another is about a smaller part of a program under as many calls, or it is the
body of a function under one call more, if the limit allows that.
-/
theorem depth_of_mem_asked {outer : Task} (found : inner ∈ outer.asked limit)
    : inner.depth = outer.depth ∧ inner.size < outer.size
      ∨ outer.depth < limit ∧ inner.depth = outer.depth + 1 := by
  cases visits_of_mem_asked found with
  | first first => exact .inl (size_lt_of_first first)
  | right => exact .inl ⟨rfl, right_lt_binary ..⟩
  | consequence => exact .inl ⟨rfl, consequence_lt_conditional ..⟩
  | alternative => exact .inl ⟨rfl, alternative_lt_conditional ..⟩
  | arguments => exact .inl ⟨rfl, arguments_lt_call ..⟩
  | body _ _ below => exact .inr ⟨below, rfl⟩
  | afterDeclaration | afterExpression | afterArgument => exact .inl ⟨rfl, rest_lt_cons ..⟩

/-- Either way it is lower than the other. -/
theorem lower_of_mem_asked {outer : Task} (found : inner ∈ outer.asked limit)
    : lower limit inner outer := by
  rcases depth_of_mem_asked found with ⟨depths, sizes⟩ | ⟨below, deeper⟩
  · exact lower_of_size depths sizes
  · exact lower_of_depth below (by omega)

/-- How a program finishes in a scope by the rules, which start with no call under way. -/
inductive Finishes (limit : Nat) (program : Program) (scope : Scope) (store : Store)
    : Value → Store → Prop where
  | yields {value later counter}
    (ends : Evaluates limit (.statements program .null scope 0 store) (yield value later) counter)
    : Finishes limit program scope store value later
  | returns {value later counter}
    (ends
      : Evaluates limit (.statements program .null scope 0 store)
          ⟨.error (.returning value), later⟩ counter)
    : Finishes limit program scope store value later
  | fails {error later counter}
    (ends
      : Evaluates limit (.statements program .null scope 0 store)
          ⟨.error (.failure error), later⟩ counter)
    : Finishes limit program scope store (.error error) later

variable {program : Program}

/-- A program finishes with the value that the interpreter finds. -/
theorem finishes_evaluate (limit : Nat) (program : Program) (scope : Scope) (store : Store)
    : Finishes limit program scope store (program.evaluate limit scope store).1
        (program.evaluate limit scope store).2 := by
  have ends := evaluates_outcome limit (.statements program .null scope 0 store)
  rw [Program.evaluate, Program.run, evaluateBlock]
  simp only [Task.outcome] at ends
  generalize evaluateStatements limit program .null scope 0 store = outcome at ends ⊢
  rcases outcome with ⟨(value | error) | value, later⟩
  · exact .returns ends
  · exact .fails ends
  · exact .yields ends

/-- It finishes in no other way. -/
theorem Finishes.eq_evaluate {value : Value} {later : Store}
    (finishes : Finishes limit program scope store value later)
    : (value, later) = program.evaluate limit scope store := by
  rw [Program.evaluate, Program.run, evaluateBlock]
  cases finishes with
  | yields ends | returns ends | fails ends =>
      have found : evaluateStatements limit program .null scope 0 store = _ := ends.outcome_eq.1
      rw [found]
      rfl

/-- The calls that are left up to the limit and the size of what is evaluated go down, in this
order, from a task to those within it. So there is an end to all nesting, and by the rules every
task ends in exactly one way. In particular a program finishes with one value, which the interpreter
finds.
-/
theorem evaluation_terminates (limit : Nat)
    : (∀ outer, ∀ inner ∈ Task.asked limit outer,
          Prod.Lex (· < ·) (· < ·) (limit - inner.depth, inner.size)
            (limit - outer.depth, outer.size))
      ∧ WellFounded (fun inner outer : Task => inner ∈ Task.asked limit outer)
      ∧ (∀ task, ∃! ended : Outcome task.Yield × Nat, Evaluates limit task ended.1 ended.2)
      ∧ ∀ program scope store,
          (∃! ended : Value × Store, Finishes limit program scope store ended.1 ended.2)
          ∧ Finishes limit program scope store (program.evaluate limit scope store).1
              (program.evaluate limit scope store).2 := by
  refine ⟨fun _ _ found => lower_of_mem_asked found, ?_, fun task => ?_,
    fun program scope store => ⟨?_, finishes_evaluate ..⟩⟩
  · exact Subrelation.wf lower_of_mem_asked (lower_wellFounded limit)
  · refine ⟨(task.outcome limit, task.depth), evaluates_outcome limit task, ?_⟩
    rintro ⟨outcome, counter⟩ ended
    obtain ⟨rfl, rfl⟩ := ended.outcome_eq
    rfl
  · refine ⟨program.evaluate limit scope store, finishes_evaluate .., ?_⟩
    rintro ⟨value, later⟩ ended
    exact ended.eq_evaluate

end Evaluation

end Guion
