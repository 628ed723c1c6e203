import Guion.Session
import Guion.Evaluation.Equations
import Guion.Proofs.Program.Segments

/-! Programs over several lines.

A program may be given to a session line by line: as long as each line runs to its end, this leads
to the same value and the same variables as the whole program does. A line that ends early ends the
whole program as well.
-/

namespace Guion

-----------------------------------------------------------------------------------------
-- Programs in a row
-----------------------------------------------------------------------------------------

namespace Program

open Evaluation

variable (limit : Nat) (scope : Scope) (store : Store)

/-- What stands in front of a statement does not show in what the statement yields. -/
theorem run_behind {program : Program} (nonempty : program ≠ []) (last : Value)
    : evaluateStatements limit program last scope 0 store = program.run limit scope store := by
  cases program with
  | nil => contradiction
  | cons s rest => cases s <;> simp [run, evaluateBlock]

/-- A program in front of another one is run first. The other follows if it runs to its end. -/
theorem run_append (first : Program) {second : Program} (nonempty : second ≠ [])
    : run limit (first ++ second) scope store
      = (run limit first scope store).bind fun _ store => run limit second scope store := by
  have row := evaluateStatements_append limit scope 0 store first second .null
  simp only [run_behind limit scope _ nonempty] at row
  exact row

end Program

-----------------------------------------------------------------------------------------
-- Lines
-----------------------------------------------------------------------------------------

namespace Session

/-- A source text runs to its end in a session: nothing goes wrong, and no statement at its top
returns.
-/
def Completes (session : Session) (source : String) : Prop :=
  ∃ value,
    ((parse source).program.run session.limit session.scope session.store).result = .ok value

/-- Two lines in a row have the value and leave the variables that they do one after the other, if
the first one is closed by a semicolon and runs to its end. If it does not run to its end, they are
as good as the first line alone.
-/
theorem eval_append (session : Session) {first second : String} (closed : IsClean first)
    (silent : (parse second).errors = []) (nonempty : (parse second).program ≠ [])
    : ∃ value after,
        session.eval (first ++ second) = (.ok value, after)
        ∧ (session.Completes first → (session.eval first).2.eval second = (.ok value, after))
        ∧ (¬ session.Completes first → session.eval first = (.ok value, after)) := by
  obtain ⟨program, errors⟩ := closed.standsAlone.parse_append second
  have whole : (parse (first ++ second)).errors = [] := by
    simpa [silent] using errors
  have run := Program.run_append session.limit session.scope session.store (parse first).program
    nonempty
  simp only [eval, interpret_of_silent whole, interpret_of_silent closed.silent,
    interpret_of_silent silent, Completes, program, Program.evaluate, run]
  refine ⟨_, _, rfl, ?_⟩
  generalize Program.run session.limit (parse first).program session.scope session.store = outcome
  rcases outcome with ⟨signal | value, later⟩
  · refine ⟨?_, fun _ => rfl⟩
    intro completes
    obtain ⟨value, yields⟩ := completes
    contradiction
  · refine ⟨fun _ => rfl, ?_⟩
    intro stops
    exact absurd ⟨value, rfl⟩ stops

/-- A session that knows a function which adds one. -/
private def counting : Session :=
  ((new 5).eval "variable f = procedimiento(x) \x7b x + 1 \x7d;").2

/-- The store of the session. -/
private def counted : Store :=
  ⟨Heap.empty.root.2.bind 0 "f"
      (.function
        ⟨0, ["x"], [.expression (.binary (.identifier "x") .add (.integer (.ofNat 1)))], 0⟩),
    1, []⟩

private theorem counting_eq : counting = ⟨5, 0, counted⟩ := by
  have declared := eval_declaration (parse_of_readsAs 12
    "variable f = procedimiento(x) \x7b x + 1 \x7d;"
    [.declare "f" (.function ["x"]
      [.expression (.binary (.identifier "x") .add (.integer (.ofNat 1)))])]
    [] (by decide +kernel))
  rw [counting, declared]
  rfl

/-- A statement that uses the function. -/
private def counts : Statement :=
  .declare "a" (.call (.identifier "f") [.integer (.ofNat 1)])

/-- A statement that uses the variable as well. -/
private def countsOn : Statement :=
  .expression (.call (.identifier "f") [.identifier "a"])

private theorem parse_counts
    : (parse "variable a = f(1);").program = [counts]
      ∧ (parse "variable a = f(1);").errors = [] :=
  parse_of_readsAs 12 _ _ _ (by decide +kernel)

private theorem parse_countsOn
    : (parse "f(a)").program = [countsOn] ∧ (parse "f(a)").errors = [] :=
  parse_of_readsAs 9 _ _ _ (by decide +kernel)

private theorem completes_counts : counting.Completes "variable a = f(1);" := by
  rw [counting_eq, Completes, parse_counts.1]
  have ended : (Program.run 5 [counts] 0 counted).result.isOk = true :=
    Evaluation.apply_evaluate_of_answer? 9 (.statements _ .null 0 0 counted) (·.result.isOk)
      (by decide +kernel)
  generalize (Program.run ..).result = result at ended ⊢
  cases result with
  | error => cases ended
  | ok value => exact ⟨value, rfl⟩

private theorem eval_counts_countsOn
    : (counting.eval ("variable a = f(1);" ++ "f(a)")).1 = .ok (.integer (.ofNat 3)) := by
  obtain ⟨program, silent⟩ :=
    parse_of_readsAs 12 ("variable a = f(1);" ++ "f(a)") [counts, countsOn] [] (by decide +kernel)
  have three : (Program.evaluate 5 [counts, countsOn] 0 counted).1 = .integer (.ofNat 3) :=
    Value.eq_integer_of_same (Evaluation.apply_evaluate_of_answer? 12
      (.statements _ .null 0 0 counted) (·.value.same _) (by decide +kernel))
  rw [counting_eq, eval, interpret_of_silent silent, program, three]

/-- A line that uses the function of an earlier line, in front of one that uses both, and a line
that returns in front of one that is never run.
-/
theorem eval_append_counting
    : ((counting.eval "variable a = f(1);").2.eval "f(a)"
          = counting.eval ("variable a = f(1);" ++ "f(a)")
        ∧ (counting.eval ("variable a = f(1);" ++ "f(a)")).1 = .ok (.integer (.ofNat 3)))
      ∧ counting.eval "regresa 1;" = counting.eval ("regresa 1;" ++ "f(a)") := by
  obtain ⟨ending, silent⟩ :=
    parse_of_readsAs 6 "regresa 1;" [.returning (.integer (.ofNat 1))] [] (by decide +kernel)
  have declares : IsClean "variable a = f(1);" := ⟨parse_counts.2, by decide +kernel⟩
  have returns : IsClean "regresa 1;" := ⟨silent, by decide +kernel⟩
  have nonempty : (parse "f(a)").program ≠ [] := by
    rw [parse_countsOn.1]
    exact List.cons_ne_nil _ _
  have stops : ¬ counting.Completes "regresa 1;" := by
    rw [Completes, ending]
    rintro ⟨value, yields⟩
    simp [Program.run, Evaluation.evaluateBlock] at yields
  have silent' : (parse "f(a)").errors = [] := parse_countsOn.2
  obtain ⟨value, after, whole, row, -⟩ := counting.eval_append declares silent' nonempty
  obtain ⟨value', after', whole', -, alone⟩ := counting.eval_append returns silent' nonempty
  refine ⟨⟨?_, eval_counts_countsOn⟩, (alone stops).trans whole'.symm⟩
  exact (row completes_counts).trans whole.symm

end Session

end Guion
