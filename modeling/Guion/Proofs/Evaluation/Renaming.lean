import Guion.Proofs.Evaluation.Correspondence
import Guion.Proofs.Heap.Renaming

/-! Evaluation cannot tell scopes and numbers of functions.

Main statement: a call of a function in two stores that are alike but for a renaming ends alike but
for the same renaming.
-/

namespace Guion.Evaluation

/-- The same signal with its value renamed. -/
def Signal.rename (r : Renaming) : Signal → Signal
  | .returning value => .returning (value.rename r)
  | .failure error => .failure error

variable {α : Type} {r : Renaming} {store other : Store}

-----------------------------------------------------------------------------------------
-- Outcomes
-----------------------------------------------------------------------------------------

/-- The same end of an evaluation with what it yields or returns renamed, in a renamed store. -/
structure Outcome.Renamed (r : Renaming) (rename : α → α) (outcome other : Outcome α) : Prop where
  result : other.result = (outcome.result.map rename).mapError (Signal.rename r)
  store : outcome.store.Renamed r other.store

namespace Outcome.Renamed

variable {outcome outcome' : Outcome Value}

theorem result_of_ok {value : Value} (renamed : outcome.Renamed r (Value.rename r) outcome')
    (yielded : outcome.result = .ok value)
    : outcome'.result = .ok (value.rename r) := by
  have result := renamed.result
  rw [yielded] at result
  exact result

/-- There is nothing to rename in a failure. -/
theorem result_of_failure {error : RuntimeError}
    (renamed : outcome.Renamed r (Value.rename r) outcome')
    (failed : outcome.result = .error (.failure error))
    : outcome'.result = .error (.failure error) := by
  have result := renamed.result
  rw [failed] at result
  exact result

end Outcome.Renamed

-----------------------------------------------------------------------------------------
-- Renaming as a correspondence
-----------------------------------------------------------------------------------------

/-- Values that belong together are the same but for the renaming. -/
theorem alike_iff_rename_eq {value other : Value}
    : value.Alike (fun closure other => closure.rename r = other) other
      ↔ value.rename r = other := by
  constructor
  · intro alike
    cases alike with
    | function same => exact congrArg Value.function same
    | plain different => exact Value.rename_of_kind_ne r different
  · rintro rfl
    cases value with
    | function => exact .function rfl
    | _ => exact .plain (by simp [Value.kind])

theorem forall₂_alike_iff_map_eq {values others : List Value}
    : List.Forall₂ (Value.Alike fun closure other => closure.rename r = other) values others
      ↔ values.map (Value.rename r) = others := by
  have renamed : Value.Alike (fun closure other => closure.rename r = other)
      = fun value other => value.rename r = other :=
    funext₂ fun _ _ => propext alike_iff_rename_eq
  rw [renamed, ← List.forall₂_map_left_iff, List.forall₂_eq_eq_eq]

/-- A renamed call is entered in a renamed scope. -/
theorem enter_renamed (stores : store.Renamed r other) (closure : Closure) (values : List Value)
    (depth : Nat)
    : (enter (closure.rename r) (values.map (Value.rename r)) depth other).1
        = r.scope (enter closure values depth store).1
      ∧ (enter closure values depth store).2.Renamed r
          (enter (closure.rename r) (values.map (Value.rename r)) depth other).2 := by
  have next : r.scope store.heap.size = other.heap.size := stores.heap.fresh 0
  refine ⟨next.symm, ?_, stores.functions⟩
  have bound := (stores.heap.push (some closure.scope)).bindAll store.heap.size closure.parameters
    values
  rw [next] at bound
  exact bound

/-- Any code may be evaluated in stores that are alike but for a renaming. -/
def Correspondence.ofRenaming (r : Renaming) : Correspondence where
  store := Store.Renamed r
  scope scope other := r.scope scope = other
  functions closure other := closure.rename r = other
  code _ := True
  code_part _ _ := trivial
  apart := by
    rintro c _ d _ rfl rfl
    exact r.number_injective.eq_iff.symm
  lookup := by
    rintro store other scope _ name stores rfl -
    rw [stores.heap.lookup]
    cases store.heap.lookup scope name with
    | none => exact .none
    | some value => exact .some (alike_iff_rename_eq.mpr rfl)
  bind := by
    rintro store other scope _ value value' name stores rfl alike
    rw [← alike_iff_rename_eq.mp alike]
    exact stores.bind scope name value
  closes := by
    rintro store other scope _ parameters body stores rfl -
    have next : r.number store.functions = other.functions := stores.functions 0
    exact ⟨by simp only [Closure.rename, next], stores.close⟩
  calls := by
    rintro closure _ rfl
    exact ⟨rfl, rfl, trivial⟩
  enters := by
    rintro store other closure _ values values' depth stores rfl alike
    rw [← forall₂_alike_iff_map_eq.mp alike]
    obtain ⟨inner, entered⟩ := enter_renamed stores closure values depth
    exact ⟨inner.symm, entered⟩

/-- Evaluations that end with what belongs together end alike but for the renaming. -/
theorem Correspondence.Ends.renamed {good : α → α → Prop} {rename : α → α}
    {outcome outcome' : Outcome α} (ends : (ofRenaming r).Ends good outcome outcome')
    (same : ∀ value other, good value other → rename value = other)
    : outcome.Renamed r rename outcome' := by
  cases ends with
  | yields stores values => exact ⟨congrArg Except.ok (same _ _ values).symm, stores⟩
  | returns stores values =>
      rw [← alike_iff_rename_eq.mp values]
      exact ⟨rfl, stores⟩
  | fails stores => exact ⟨rfl, stores⟩

/-- A call ends alike in renamed stores. -/
theorem applyClosure_renamed (limit : Nat) (closure : Closure) (values : List Value) (depth : Nat)
    (stores : store.Renamed r other)
    : (applyClosure limit closure values depth store).Renamed r (Value.rename r)
        (applyClosure limit (closure.rename r) (values.map (Value.rename r)) depth other) := by
  have given := forall₂_alike_iff_map_eq.mpr (rfl : values.map (Value.rename r) = _)
  have called : (Correspondence.ofRenaming r).functions closure (closure.rename r) := rfl
  have ends := Correspondence.ends_applyClosure limit depth stores called given
  exact ends.renamed fun _ _ => alike_iff_rename_eq.mp

end Guion.Evaluation
