import Guion.Evaluation.Basic
import Guion.Program.Parser

/-! The interpreter: source texts are read and run. -/

namespace Guion

/-- How many calls may be nested unless another limit is set. -/
def defaultLimit : Nat := 1000

namespace Program

open Evaluation

/-- How the statements of a program end in a scope. -/
def run (limit : Nat) (program : Program) (scope : Scope) (store : Store) : Outcome Value :=
  evaluateBlock limit program scope 0 store

/-- The value of a program in a scope. A statement that returns ends it with a value, and a failure
becomes a value as well.
-/
def evaluate (limit : Nat) (program : Program) (scope : Scope) (store : Store) : Value × Store :=
  let outcome := program.run limit scope store
  (outcome.value, outcome.store)

end Program

/-- The value of a source text in a scope, unless there is something wrong with it. -/
def interpret (limit : Nat) (source : String) (scope : Scope) (store : Store)
    : Except (List ParseError) Value × Store :=
  let parsed := parse source
  if parsed.diagnostics.isEmpty then
    let (value, store) := parsed.program.evaluate limit scope store
    (.ok value, store)
  else
    (.error parsed.errors, store)

variable {source : String}

/-- A source text without errors is run. -/
theorem interpret_of_silent (silent : (parse source).errors = []) (limit : Nat) (scope : Scope)
    (store : Store)
    : interpret limit source scope store
      = (.ok ((parse source).program.evaluate limit scope store).1,
          ((parse source).program.evaluate limit scope store).2) := by
  have none : (parse source).diagnostics = [] := List.map_eq_nil_iff.mp silent
  simp [interpret, none]

/-- A source text with errors changes nothing. -/
theorem interpret_of_errors (errors : (parse source).errors ≠ []) (limit : Nat) (scope : Scope)
    (store : Store)
    : interpret limit source scope store = (.error (parse source).errors, store) := by
  have some : (parse source).diagnostics ≠ [] := fun none => errors (by simp [Parsed.errors, none])
  simp [interpret, some]

end Guion
