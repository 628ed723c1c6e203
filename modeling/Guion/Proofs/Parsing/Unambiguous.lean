import Guion.Program.Parser
import Guion.Proofs.Program.Computation
import Guion.Proofs.Parsing.Soundness
import Guion.Proofs.Parsing.Completeness

/-! What reading says about the grammar: it reads the one tree of the tokens that it takes.

As the rules are functions, a tree that completeness says is read is the only one.
-/

namespace Guion

open Grammar Parsing

/-- No tokens have two trees in the stratum of a level. -/
theorem Grammar.Derives.tree_unique {level : Precedence} {e other : Expression} {ts : List Token}
    (derived : Derives (.expression (.within level) e) ts)
    (derived' : Derives (.expression (.within level) other) ts)
    : e = other := by
  have stops : Stops level [] :=
    stops_of_not_continues (by simp [Continues, Position.kind, BinaryOperator.ofKind?])
  have no_else : Position.kind [] ≠ .elseWord := by decide
  obtain ⟨_, first, _⟩ := (complete derived).reads stops no_else
  obtain ⟨_, second, _⟩ := (complete derived').reads stops no_else
  exact (first.unique second).1

/-- An expression that is read without any report is the only tree of its stratum for the tokens
that were taken, and nothing that binds tighter than the level stands behind them.
-/
theorem readExpression_derives {level : Precedence} {start : Position} {e : Expression}
    (read : (readExpression level start).value = .ok e)
    (silent : (readExpression level start).diagnostics.toList = [])
    : ∃ ts,
        start = ts ++ (readExpression level start).position.tail
        ∧ Derives (.expression (.within level) e) ts
        ∧ (∀ other, Derives (.expression (.within level) other) ts → other = e)
        ∧ Stops level (readExpression level start).position.tail := by
  obtain ⟨ts, here, derived, stops⟩ :=
    sound (.expression level start) e _ ⟨read, rfl, silent⟩
  exact ⟨ts, here, derived, fun other derived' => derived'.tree_unique derived, stops⟩

/-- The tokens of `a - b - c`. -/
def differences : List Token :=
  [⟨.identifier, "a", 0, 1⟩, ⟨.minus, "-", 2, 3⟩, ⟨.identifier, "b", 4, 5⟩, ⟨.minus, "-", 6, 7⟩,
    ⟨.identifier, "c", 8, 9⟩]

/-- Differences group to the left, and to the left only. -/
theorem readExpression_derives_differences
    : ∃ ts,
        differences = ts ++ (readExpression .lowest differences).position.tail
        ∧ Derives
            (.expression (.within .lowest)
              (.binary (.binary (.identifier "a") .subtract (.identifier "b")) .subtract
                (.identifier "c")))
            ts
        ∧ (∀ other,
            Derives (.expression (.within .lowest) other) ts
            → other
              = .binary (.binary (.identifier "a") .subtract (.identifier "b")) .subtract
                  (.identifier "c"))
        ∧ Stops .lowest (readExpression .lowest differences).position.tail := by
  have value : (readExpression .lowest differences).value
      = .ok (.binary (.binary (.identifier "a") .subtract (.identifier "b")) .subtract
          (.identifier "c")) :=
    apply_read_of_answer? 6 (.expression .lowest differences) (·.value) rfl
  have silent : (readExpression .lowest differences).diagnostics.toList = [] :=
    apply_read_of_answer? 6 (.expression .lowest differences) (·.diagnostics.toList)
      (by decide +kernel)
  exact readExpression_derives value silent

end Guion
