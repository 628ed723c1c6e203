import Guion.Proofs.Program.RoundTrip
import Guion.Proofs.Session.Reachable

/-! Functions print as source text that makes them again.

Main statement: whatever was run before, the parameters and the body of a function are as they were
read from some source text. So its own text is read as a literal of the same function.
-/

namespace Guion

open Evaluation

variable {store : Store} {closure : Closure}

-----------------------------------------------------------------------------------------
-- Functions that were read
-----------------------------------------------------------------------------------------

/-- The text of a function is that of its literal. -/
theorem Closure.text_eq (closure : Closure)
    : closure.text = (Expression.function closure.parameters closure.body).text :=
  (Expression.text_function ..).symm

/-- Functions have names and bodies that can be written in a source text. -/
def Value.IsWritable : Value → Prop
  | .function closure => Valid.expression (.function closure.parameters closure.body)
  | _ => True

/-- Trees that can be written in a source text have no parts that cannot. -/
theorem Valid.grows : Valid.Grows fun part whole => whole → part where
  refl _ := id
  trans first second valid := first (second valid)
  left _ _ := And.left
  right _ _ := And.right
  statement
    | .declare _ _, _ => And.right
    | .returning _, _ | .expression _, _ => id

/-- All functions at hand and all code can be written in a source text. -/
def Evaluation.Invariant.writable : Invariant where
  value _ value := value.IsWritable
  code _ _ code := code.gathered Valid
  heap _ := True
  value_grows _ writable := writable
  code_grows _ writable := writable
  code_part isPart writable := isPart.gathered Valid.grows writable
  plain := by
    intro store value plain
    cases value with
    | function => exact absurd (by simp [Value.kind]) plain
    | _ => trivial
  heap_bind _ _ _ _ := trivial
  heap_enclose _ _ := trivial
  closes writable := writable
  enters _ _ writable := writable.2

/-- Programs that are read can be written again. -/
theorem Evaluation.Invariant.writable_starts : Invariant.writable.Starts IsSource := by
  refine ⟨trivial, fun _ => trivial, fun _ _ => trivial, ?_⟩
  intro program store scope isSource _
  obtain ⟨source, -, rfl⟩ := isSource
  exact valid_program_parse source

/-- The value of a source text can be written again if it is a function. -/
theorem isWritable_of_interpret {limit : Nat} {source : String} {scope : Scope}
    (reachable : Reachable IsSource store) (inside : scope < store.heap.size)
    (yielded : (interpret limit source scope store).1 = .ok (.function closure))
    : (Value.function closure).IsWritable := by
  by_cases silent : (parse source).errors = []
  · rw [interpret_of_silent silent] at yielded
    have same := Except.ok.inj yielded
    have value := reachable.value_evaluate Invariant.writable_starts ⟨source, silent, rfl⟩ inside
      (by rw [same]; simp [Value.kind])
    rw [same] at value
    exact value
  · rw [interpret_of_errors silent] at yielded
    cases yielded

-----------------------------------------------------------------------------------------
-- Reading functions back
-----------------------------------------------------------------------------------------

/-- The text of a function that a variable holds, or that a source text yields, is the text of the
literal of the function, and is read as this single expression. So it makes a function with the same
parameters and the same body again, unless there is the character of number zero in one of the
strings of the body.
-/
theorem interpret_text_function (reachable : Reachable IsSource store)
    (found
      : store.heap.Holds (.function closure)
        ∨ ∃ limit source scope,
            scope < store.heap.size
            ∧ (interpret limit source scope store).1 = .ok (.function closure))
    : ((∀ s ∈ Strings.statements closure.body, '\x00' ∉ s.toList)
        → parse closure.text = ⟨[.expression (.function closure.parameters closure.body)], []⟩
          ∧ ∀ limit scope later,
              ∃ made,
                (interpret limit closure.text scope later).1 = .ok (.function made)
                ∧ made.parameters = closure.parameters
                ∧ made.body = closure.body)
      ∧ closure.text = (Expression.function closure.parameters closure.body).text := by
  have writable : (Value.function closure).IsWritable := by
    rcases found with held | ⟨limit, source, scope, inside, yielded⟩
    · exact (reachable.fits Invariant.writable_starts).held _ held
    · exact isWritable_of_interpret reachable inside yielded
  refine ⟨?_, closure.text_eq⟩
  intro visible
  have read := parse_text_expression writable visible
  rw [← closure.text_eq] at read
  refine ⟨read, ?_⟩
  intro limit scope later
  refine ⟨⟨later.functions, closure.parameters, closure.body, scope⟩, ?_, rfl, rfl⟩
  simp [interpret, read, Program.evaluate, Program.run, evaluateBlock, close, Outcome.value]
  rfl

/-- The function that is declared by a line of a session. -/
private def adder : Closure :=
  ⟨0, ["a", "b"], [.expression (.binary (.identifier "a") .add (.identifier "b"))], 0⟩

/-- A function that a variable of a session holds is read back from what is printed for it. -/
theorem interpret_text_function_adder
    : ((Session.new 5).evalAll ["variable f = procedimiento(a, b) \x7b a + b \x7d"]).get? "f"
        = some (.function adder)
      ∧ parse "procedimiento(a, b) \x7b (a + b); \x7d"
        = ⟨[.expression (.function adder.parameters adder.body)], []⟩ := by
  have reachable :=
    (Session.reachable_evalAll 5 ["variable f = procedimiento(a, b) \x7b a + b \x7d"]).1
  have held : ((Session.new 5).evalAll ["variable f = procedimiento(a, b) \x7b a + b \x7d"]).get?
      "f" = some (.function adder) := by
    have declared := Session.eval_declaration (parse_of_readsAs 12
      "variable f = procedimiento(a, b) \x7b a + b \x7d"
      [.declare "f" (.function adder.parameters adder.body)] [] (by decide +kernel))
    rw [Session.evalAll, List.foldl_cons, declared]
    exact Heap.lookup_bind_self _ _ _ _ Nat.zero_lt_one
  have visible : ∀ s ∈ Strings.statements adder.body, '\x00' ∉ s.toList := by
    have none : Strings.statements adder.body = [] := rfl
    simp [none]
  have text : adder.text = "procedimiento(a, b) \x7b (a + b); \x7d" := by
    simp [Closure.text_eq, adder, Printing.blockText, BinaryOperator.symbol]
  obtain ⟨read, -⟩ :=
    (interpret_text_function reachable (.inl (Heap.holds_of_lookup held))).1 visible
  rw [text] at read
  exact ⟨held, read⟩

end Guion
