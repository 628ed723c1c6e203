import Mathlib.Data.List.Forall2
import Guion.Proofs.Evaluation.Invariant

/-! Evaluation in two stores that correspond to each other.

A correspondence says which stores, scopes and functions of two runs belong together, and which code
may be evaluated. Main statement: code that is evaluated in stores that correspond ends in stores
that do, with values that do.
-/

namespace Guion

-----------------------------------------------------------------------------------------
-- Values
-----------------------------------------------------------------------------------------

/-- Functions that belong together, or the same value of another kind. -/
inductive Value.Alike (functions : Closure → Closure → Prop) : Value → Value → Prop where
  | function {closure other : Closure} (alike : functions closure other)
    : Alike functions (.function closure) (.function other)
  | plain {value : Value} (other : value.kind ≠ .function) : Alike functions value value

/-- Functions are told apart in both of two runs or in neither. -/
def Closure.ToldApart (functions : Closure → Closure → Prop) : Prop :=
  ∀ {c c' d d'}, functions c c' → functions d d' → (c.number = d.number ↔ c'.number = d'.number)

namespace Value.Alike

variable {functions : Closure → Closure → Prop} {value other a b a' b' : Value}

theorem isTruthy_eq (alike : value.Alike functions other) : value.isTruthy = other.isTruthy := by
  cases alike <;> rfl

theorem data (isData : value.IsData) : value.Alike functions value := by
  refine .plain ?_
  intro function
  simp [IsData, function] at isData

/-- Values of two runs are told apart in both or in neither. -/
theorem same_eq (apart : Closure.ToldApart functions) (first : a.Alike functions a')
    (second : b.Alike functions b')
    : a.same b = a'.same b' := by
  cases first with
  | function alike =>
      cases second with
      | function alike' =>
          rw [Bool.eq_iff_iff, same, same, beq_iff_eq, beq_iff_eq]
          exact apart alike alike'
      | plain other =>
          cases b with
          | function => exact absurd rfl other
          | _ => rfl
  | plain other =>
      cases second with
      | function =>
          cases a with
          | function => exact absurd rfl other
          | _ => rfl
      | plain => rfl

end Value.Alike

variable {functions : Closure → Closure → Prop} {a b a' b' : Value}

theorem UnaryOperator.apply_alike (operator : UnaryOperator) (alike : a.Alike functions a')
    : operator.apply a = operator.apply a' := by
  cases alike with
  | function => cases operator <;> rfl
  | plain => rfl

theorem BinaryOperator.apply_alike (operator : BinaryOperator)
    (apart : Closure.ToldApart functions) (first : a.Alike functions a')
    (second : b.Alike functions b')
    : operator.apply a b = operator.apply a' b' := by
  have same := first.same_eq apart second
  cases first with
  | function =>
      cases second with
      | function => simp [apply, same, Value.kind]
      | plain => cases b <;> simp [apply, same, Value.kind]
  | plain =>
      cases second with
      | function => cases a <;> simp [apply, same, Value.kind]
      | plain => rfl

theorem Builtin.apply_alike (builtin : Builtin) {values others : List Value}
    (alike : List.Forall₂ (Value.Alike functions) values others)
    : builtin.apply values = builtin.apply others := by
  cases builtin with
  | length =>
      cases alike with
      | nil => rfl
      | cons first rest =>
          cases rest with
          | nil => cases first <;> rfl
          | cons _ rest => simp [apply, rest.length_eq]

namespace Evaluation

-----------------------------------------------------------------------------------------
-- Correspondences
-----------------------------------------------------------------------------------------

/-- What belongs together in two runs, and which code may be evaluated in both. -/
structure Correspondence where
  store : Store → Store → Prop
  scope : Scope → Scope → Prop
  functions : Closure → Closure → Prop
  code : Code → Prop
  code_part : ∀ {c part : Code}, part.Part c → code c → code part
  apart : Closure.ToldApart functions
  lookup
    : ∀ {s s' : Store} {inner inner' : Scope} {name : String},
        store s s'
        → scope inner inner'
        → code (.expression (.identifier name))
        → Option.Rel (Value.Alike functions) (s.heap.lookup inner name)
            (s'.heap.lookup inner' name)
  bind
    : ∀ {s s' : Store} {inner inner' : Scope} {v v' : Value} (name : String),
        store s s'
        → scope inner inner'
        → v.Alike functions v'
        → store (s.onHeap (·.bind inner name v)) (s'.onHeap (·.bind inner' name v'))
  closes
    : ∀ {s s' : Store} {inner inner' : Scope} {parameters : List String} {body : Block},
        store s s'
        → scope inner inner'
        → code (.expression (.function parameters body))
        → functions ⟨s.functions, parameters, body, inner⟩ ⟨s'.functions, parameters, body, inner'⟩
          ∧ store { s with functions := s.functions + 1 } { s' with functions := s'.functions + 1 }
  calls
    : ∀ {c c' : Closure},
        functions c c'
        → c'.parameters = c.parameters ∧ c'.body = c.body ∧ code (.statements c.body)
  enters
    : ∀ {s s' : Store} {c c' : Closure} {values values' : List Value} (depth : Nat),
        store s s'
        → functions c c'
        → List.Forall₂ (Value.Alike functions) values values'
        → scope (enter c values depth s).1 (enter c' values' depth s').1
          ∧ store (enter c values depth s).2 (enter c' values' depth s').2

namespace Correspondence

/-- Two evaluations end in the same way, with what belongs together. -/
inductive Ends {α : Type} (c : Correspondence) (good : α → α → Prop)
    : Outcome α → Outcome α → Prop where
  | yields {value value' : α} {s s' : Store} (stores : c.store s s') (values : good value value')
    : Ends c good (yield value s) (yield value' s')
  | returns {value value' : Value} {s s' : Store} (stores : c.store s s')
    (values : value.Alike c.functions value')
    : Ends c good ⟨.error (.returning value), s⟩ ⟨.error (.returning value'), s'⟩
  | fails {error : RuntimeError} {s s' : Store} (stores : c.store s s')
    : Ends c good ⟨.error (.failure error), s⟩ ⟨.error (.failure error), s'⟩

variable {α β : Type} {c : Correspondence} {good : α → α → Prop} {further : β → β → Prop}
  {limit : Nat} {scope scope' : Scope} {depth : Nat} {store store' : Store}

theorem Ends.bind {outcome outcome' : Outcome α} {next next' : α → Store → Outcome β}
    (first : c.Ends good outcome outcome')
    (second
      : ∀ value value' store store',
          c.store store store'
          → good value value'
          → c.Ends further (next value store) (next' value' store'))
    : c.Ends further (outcome.bind next) (outcome'.bind next') := by
  cases first with
  | yields stores values => exact second _ _ _ _ stores values
  | returns stores values => exact .returns stores values
  | fails stores => exact .fails stores

/-- What a function returns becomes the value of the call. -/
theorem Ends.returned {outcome outcome' : Outcome Value}
    (ends : c.Ends (Value.Alike c.functions) outcome outcome')
    : c.Ends (Value.Alike c.functions) outcome.returned outcome'.returned := by
  cases ends with
  | yields stores values => exact .yields stores values
  | returns stores values => exact .yields stores values
  | fails stores => exact .fails stores

/-- Data is found alike in both runs. -/
theorem ends_settle (stores : c.store store store') {result : Except RuntimeError Value}
    (data : ∀ value, result = .ok value → value.IsData)
    : c.Ends (Value.Alike c.functions) (settle result store) (settle result store') := by
  cases result with
  | error => exact .fails stores
  | ok value => exact .yields stores (.data (data value rfl))

-----------------------------------------------------------------------------------------
-- Tasks
-----------------------------------------------------------------------------------------

/-- A task ends in stores that correspond if it starts in some. -/
def Keeps (c : Correspondence) (limit : Nat) : Task → Prop
  | .expression e scope depth store =>
      ∀ scope' store',
        c.store store store'
        → c.scope scope scope'
        → c.code (.expression e)
        → c.Ends (Value.Alike c.functions) (evaluateExpression limit e scope depth store)
            (evaluateExpression limit e scope' depth store')
  | .statements ss last scope depth store =>
      ∀ last' scope' store',
        c.store store store'
        → c.scope scope scope'
        → c.code (.statements ss)
        → last.Alike c.functions last'
        → c.Ends (Value.Alike c.functions) (evaluateStatements limit ss last scope depth store)
            (evaluateStatements limit ss last' scope' depth store')
  | .arguments es scope depth store =>
      ∀ scope' store',
        c.store store store'
        → c.scope scope scope'
        → c.code (.arguments es)
        → c.Ends (List.Forall₂ (Value.Alike c.functions))
            (evaluateArguments limit es scope depth store)
            (evaluateArguments limit es scope' depth store')

theorem null (c : Correspondence) : Value.null.Alike c.functions .null :=
  .plain (by simp [Value.kind])

/-- A name stands for values that belong together, or for the same builtin function. -/
private theorem ends_resolve {name : String} (stores : c.store store store')
    (scopes : c.scope scope scope') (code : c.code (.expression (.identifier name)))
    : c.Ends (Value.Alike c.functions) (settle (resolve store.heap scope name) store)
        (settle (resolve store'.heap scope' name) store') := by
  have found := c.lookup stores scopes code
  unfold resolve
  generalize store.heap.lookup scope name = value at found ⊢
  generalize store'.heap.lookup scope' name = value' at found ⊢
  cases found with
  | some alike => exact .yields stores alike
  | none =>
      cases Builtin.ofName? name with
      | none => exact .fails stores
      | some => exact .yields stores (.plain (by simp [Value.kind]))

/-- A call keeps to a correspondence if the body of its function does. -/
private theorem ends_applyClosure_of_body {closure closure' : Closure} {values values' : List Value}
    (stores : c.store store store') (alike : c.functions closure closure')
    (given : List.Forall₂ (Value.Alike c.functions) values values')
    (body
      : depth < limit
        → ∀ inner store, c.Keeps limit (.statements closure.body .null inner (depth + 1) store))
    : c.Ends (Value.Alike c.functions) (applyClosure limit closure values depth store)
        (applyClosure limit closure' values' depth store') := by
  obtain ⟨parameters, code, mayRun⟩ := c.calls alike
  have allowed : allowCall limit closure' values' depth = allowCall limit closure values depth := by
    unfold allowCall
    rw [parameters, given.length_eq]
  unfold applyClosure
  rw [allowed, code]
  split
  · exact .fails stores
  · rename_i below _
    obtain ⟨scopes, entered⟩ := c.enters depth stores alike given
    exact (body below.down _ _ _ _ _ entered scopes mayRun c.null).returned

/-- Evaluation keeps to every correspondence, by induction along the order of the tasks. -/
theorem keeps (c : Correspondence) (limit : Nat) (task : Task) : c.Keeps limit task := by
  induction task using Task.induction limit with
  | identifier name scope depth store =>
      intro scope' store' stores scopes code
      rw [evaluateExpression_identifier, evaluateExpression_identifier]
      exact ends_resolve stores scopes code
  | integer | boolean | string =>
      intro scope' store' stores _ _
      simp only [evaluateExpression_integer, evaluateExpression_boolean, evaluateExpression_string]
      exact .yields stores (.plain (by simp [Value.kind]))
  | function parameters body scope depth store =>
      intro scope' store' stores scopes code
      obtain ⟨alike, later⟩ := c.closes stores scopes code
      rw [evaluateExpression_function, evaluateExpression_function]
      exact .yields later (.function alike)
  | unary operator operand scope depth store ih =>
      intro scope' store' stores scopes code
      rw [evaluateExpression_unary, evaluateExpression_unary]
      apply Ends.bind (ih _ _ stores scopes (c.code_part .operand code))
      intro a a' store store' stores alike
      rw [operator.apply_alike alike]
      exact ends_settle stores fun value applied => UnaryOperator.isData_of_apply applied
  | binary left operator right scope depth store ih ih' =>
      intro scope' store' stores scopes code
      rw [evaluateExpression_binary, evaluateExpression_binary]
      apply Ends.bind (ih _ _ stores scopes (c.code_part .left code))
      intro a a' store store' stores first
      apply Ends.bind (ih' store _ _ stores scopes (c.code_part .right code))
      intro b b' store store' stores second
      rw [operator.apply_alike c.apart first second]
      exact ends_settle stores fun value applied => BinaryOperator.isData_of_apply applied
  | conditional condition consequence alternative scope depth store tested taken refused =>
      intro scope' store' stores scopes code
      rw [evaluateExpression_conditional, evaluateExpression_conditional]
      apply Ends.bind (tested _ _ stores scopes (c.code_part .condition code))
      intro test test' store store' stores alike
      rw [alike.isTruthy_eq]
      split
      · exact taken store _ _ _ stores scopes (c.code_part .consequence code) c.null
      · cases alternative with
        | none => exact .yields stores c.null
        | some alternative =>
            have inside := c.code_part .alternative code
            exact refused alternative rfl store _ _ _ stores scopes inside c.null
  | call callee es scope depth store called given body =>
      intro scope' store' stores scopes code
      rw [evaluateExpression_call, evaluateExpression_call]
      apply Ends.bind (called _ _ stores scopes (c.code_part .callee code))
      intro callee callee' store store' stores alike
      have given := given store _ _ stores scopes (c.code_part .arguments code)
      cases alike with
      | function alike =>
          apply Ends.bind given
          intro values values' store store' stores values
          exact ends_applyClosure_of_body stores alike values fun below => body below _
      | plain other =>
          cases callee with
          | function => exact absurd rfl other
          | builtin builtin =>
              apply Ends.bind given
              intro values values' store store' stores values
              rw [builtin.apply_alike values]
              exact ends_settle stores fun value applied => Builtin.isData_of_apply applied
          | _ => exact .fails stores
  | noStatements last =>
      intro last' scope' store' stores _ _ alike
      rw [evaluateStatements_nil, evaluateStatements_nil]
      exact .yields stores alike
  | declare name e rest last scope depth store evaluated continued =>
      intro last' scope' store' stores scopes code _
      rw [evaluateStatements_declare, evaluateStatements_declare]
      apply Ends.bind (evaluated _ _ stores scopes (c.code_part .declared code))
      intro value value' store store' stores alike
      exact continued _ _ _ _ (c.bind name stores scopes alike) scopes
        (c.code_part .statements code) c.null
  | returning e rest last scope depth store evaluated =>
      intro last' scope' store' stores scopes code _
      rw [evaluateStatements_returning, evaluateStatements_returning]
      apply Ends.bind (evaluated _ _ stores scopes (c.code_part .returned code))
      intro value value' store store' stores alike
      exact .returns stores alike
  | expression e rest last scope depth store evaluated continued =>
      intro last' scope' store' stores scopes code _
      rw [evaluateStatements_expression, evaluateStatements_expression]
      apply Ends.bind (evaluated _ _ stores scopes (c.code_part .evaluated code))
      intro value value' store store' stores alike
      exact continued value store _ _ _ stores scopes (c.code_part .statements code) alike
  | noArguments =>
      intro scope' store' stores _ _
      rw [evaluateArguments_nil, evaluateArguments_nil]
      exact .yields stores .nil
  | argument e es scope depth store evaluated continued =>
      intro scope' store' stores scopes code
      rw [evaluateArguments_cons, evaluateArguments_cons]
      apply Ends.bind (evaluated _ _ stores scopes (c.code_part .argument code))
      intro first first' store store' stores alike
      apply Ends.bind (continued store _ _ stores scopes (c.code_part .otherArguments code))
      intro rest rest' store store' stores others
      exact .yields stores (.cons alike others)

/-- A call keeps to every correspondence. -/
theorem ends_applyClosure (limit depth : Nat) {closure closure' : Closure}
    {values values' : List Value} (stores : c.store store store')
    (alike : c.functions closure closure')
    (given : List.Forall₂ (Value.Alike c.functions) values values')
    : c.Ends (Value.Alike c.functions) (applyClosure limit closure values depth store)
        (applyClosure limit closure' values' depth store') :=
  ends_applyClosure_of_body stores alike given fun _ _ _ => c.keeps limit _

end Correspondence

end Evaluation

end Guion
