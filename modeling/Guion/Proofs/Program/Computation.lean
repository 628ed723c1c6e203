import Guion.Evaluation.Equations
import Guion.Program.Equality
import Guion.Session

/-! Answers that are found in a bounded depth.

The recursion of the parser and of the evaluator goes over a stack, and that it ends is an argument
of its own. If calls are nested in each other to a bounded depth only, the same answers are found by
structural recursion. So those of closed calls can be computed.
-/

namespace Guion

namespace Plan

variable {Call : Type} {Answer : Call → Type} {allowed : Call → Prop} {α β : Type}
  {lower : Call → Call → Prop} {wf : WellFounded lower}
  {body : (c : Call) → Plan Answer (lower · c) (Answer c)}

/-- What a plan yields, if `oracle` answers all of its questions. -/
def result? (oracle : (c : Call) → Option (Answer c)) : Plan Answer allowed α → Option α
  | .done a => some a
  | .ask c _ resume => (oracle c).bind fun answer => (resume answer).result? oracle

/-- The answer to a call, if fewer than `depth` calls are ever made inside of each other. -/
def answer? (body : (c : Call) → Plan Answer (lower · c) (Answer c))
    : Nat → (c : Call) → Option (Answer c)
  | 0, _ => none
  | depth + 1, c => (body c).result? (answer? body depth)

theorem result_of_result? {oracle : (c : Call) → Answer c}
    {partly : (c : Call) → Option (Answer c)}
    (agrees : ∀ c answer, partly c = some answer → oracle c = answer)
    {plan : Plan Answer allowed α} {a : α} (found : plan.result? partly = some a)
    : plan.result oracle = a := by
  induction plan with
  | done b => exact Option.some.inj found
  | ask c h resume ih =>
      obtain ⟨answer, known, found⟩ := Option.bind_eq_some_iff.mp found
      rw [result_ask, agrees c answer known]
      exact ih answer found

/-- What is found in a bounded depth is the answer, by induction on the depth. -/
theorem run_of_answer? {depth : Nat} {c : Call} {a : Answer c}
    (found : answer? body depth c = some a)
    : run wf body c = a := by
  induction depth generalizing c with
  | zero => cases found
  | succ depth ih =>
      rw [run_eq]
      exact result_of_result? (fun _ _ => ih) found

/-- What is to be known of an answer may be found in a bounded depth. -/
theorem apply_run_of_answer? {depth : Nat} {c : Call} {f : Answer c → β} {b : β}
    (found : (answer? body depth c).map f = some b)
    : f (run wf body c) = b := by
  obtain ⟨a, answered, rfl⟩ := Option.map_eq_some_iff.mp found
  rw [run_of_answer? answered]

end Plan

open Plan

/-- Programs are the same tree if a comparison in a bounded depth finds so. -/
theorem Program.eq_of_answer? {first second : Program} {depth : Nat}
    (same : answer? Comparison.body depth (.blocks first second) = some true)
    : first = second :=
  (Comparison.same_iff _).mp (run_of_answer? same)

theorem Parsing.apply_read_of_answer? {β : Type} (depth : Nat) (task : Task) (f : task.Answer → β)
    {b : β} (found : (answer? body depth task).map f = some b)
    : f (read task) = b :=
  apply_run_of_answer? found

/-- Whether a source text is found to be a program with some errors in it, in a bounded depth. -/
def readsAs (depth : Nat) (source : String) (program : Program) (errors : List ParseError) : Bool :=
  (answer? Parsing.body depth (.statements .program (words source))).any fun reading =>
    reading.diagnostics.toList.map Diagnostic.error == errors
      && answer? Comparison.body depth (.blocks reading.value program) == some true

theorem parse_of_readsAs (depth : Nat) (source : String) (program : Program)
    (errors : List ParseError) (found : readsAs depth source program errors = true)
    : (parse source).program = program ∧ (parse source).errors = errors := by
  obtain ⟨reading, read, found⟩ := (Option.any_eq_true ..).mp found
  rw [Bool.and_eq_true, beq_iff_eq, beq_iff_eq] at found
  have same : Parsing.readStatements .program (words source) = reading := run_of_answer? read
  refine ⟨?_, ?_⟩
  · exact (congrArg Parsing.Reading.value same).trans (Program.eq_of_answer? found.2)
  · rw [← found.1, ← same]
    rfl

theorem Evaluation.apply_evaluate_of_answer? {β : Type} {limit : Nat} (depth : Nat) (task : Task)
    (f : task.Answer → β) {b : β} (found : (answer? (body limit) depth task).map f = some b)
    : f (evaluate limit task) = b :=
  apply_run_of_answer? found

theorem Value.eq_integer_of_same {value : Value} {n : Integer}
    (same : value.same (.integer n) = true)
    : value = .integer n := by
  cases value with
  | integer m => rw [eq_of_beq same]
  | _ => cases same

/-- A source text that declares a function. -/
theorem Session.eval_declaration {source name : String} {parameters : List String} {code : Block}
    (read
      : (parse source).program = [.declare name (.function parameters code)]
        ∧ (parse source).errors = [])
    (session : Session)
    : session.eval source
      = (.ok .null,
          { session with
            store :=
              { session.store with
                heap :=
                  session.store.heap.bind session.scope name
                    (.function ⟨session.store.functions, parameters, code, session.scope⟩)
                functions := session.store.functions + 1 } }) := by
  obtain ⟨program, silent⟩ := read
  rw [eval, interpret_of_silent silent, program, Program.evaluate, Program.run,
    Evaluation.evaluateBlock, Evaluation.evaluateStatements_declare,
    Evaluation.evaluateExpression_function, Evaluation.close, Evaluation.Outcome.bind_yield,
    Evaluation.evaluateStatements_nil]
  rfl

end Guion
