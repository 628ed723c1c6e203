import Mathlib.Data.Set.Function
import Mathlib.Order.Interval.Set.Defs
import Guion.Proofs.Evaluation.Renaming
import Guion.Proofs.Session.Known

/-! Calling a function again.

A call leaves all that was there before as it was, and what it adds is only found by what it yields.
Main statement: a second call of a function with the same arguments ends as the first one does, but
for the scopes and the functions that the calls add.
-/

namespace Guion

open Evaluation

variable {store later : Store} {closure : Closure} {values : List Value}

-----------------------------------------------------------------------------------------
-- Moving what is new
-----------------------------------------------------------------------------------------

/-- Moves everything from `start` on behind `stop`. -/
def moved (start stop n : Nat) : Nat :=
  if n < start then n else n + (stop - start)

theorem moved_strictMono (start stop : Nat) : StrictMono (moved start stop) := by
  intro a b less
  unfold moved
  split <;> split <;> omega

theorem moved_of_lt {start stop n : Nat} (before : n < start) : moved start stop n = n :=
  if_pos before

theorem moved_add {start stop : Nat} (ordered : start ≤ stop) (k : Nat)
    : moved start stop (start + k) = stop + k := by
  unfold moved
  split <;> omega

/-- What lies between start and stop is moved to as many places behind stop. -/
theorem bijOn_moved {start stop : Nat} (ordered : start ≤ stop)
    : Set.BijOn (moved start stop) (Set.Ico start stop) (Set.Ico stop (moved start stop stop)) := by
  refine ⟨?_, (moved_strictMono start stop).injective.injOn, ?_⟩
  · intro n inside
    simp only [Set.mem_Ico, moved] at inside ⊢
    split <;> split <;> omega
  · intro n inside
    simp only [Set.mem_Ico, moved] at inside
    refine ⟨n - (stop - start), ?_, ?_⟩
    · simp only [Set.mem_Ico]
      split at inside <;> omega
    · unfold moved
      split at inside <;> split <;> omega

/-- Renames what comes after a store to what comes after a later one. -/
def Renaming.between (store later : Store) : Renaming where
  scope := moved store.heap.size later.heap.size
  number := moved store.functions later.functions
  scope_strictMono := moved_strictMono ..
  number_injective := (moved_strictMono ..).injective

/-- Known functions keep their numbers and their scopes. -/
theorem rename_of_knows {value : Value} (isKnown : store.Knows value)
    : value.rename (.between store later) = value := by
  cases value with
  | function closure =>
      simp [Value.rename, Closure.rename, Renaming.between, moved_of_lt isKnown.1,
        moved_of_lt isKnown.2]
  | _ => rfl

/-- Nothing has to be renamed in a store in which all is known. -/
theorem renamed_between (fits : Invariant.known.Fits store) (grows : store.Grows later)
    (extended : store.heap.Extends later.heap)
    : store.Renamed (.between store later) later := by
  refine ⟨⟨?_, ?_⟩, ?_⟩
  · intro scope frame found
    have inside : scope < store.heap.size := (Array.getElem?_eq_some_iff.mp found).1
    refine ⟨frame, ?_, ?_, ?_⟩
    · simp only [Renaming.between, moved_of_lt inside]
      exact extended scope frame found
    · cases outer : frame.outer with
      | none => rfl
      | some outside =>
          have less := Nat.lt_trans (fits.heap scope frame found outside outer) inside
          simp [Renaming.between, moved_of_lt less]
    · intro name
      cases bound : frame.bindings[name]? with
      | none => rfl
      | some value =>
          have isKnown := fits.held value ⟨scope, frame, name, found, bound⟩
          exact congrArg some (rename_of_knows isKnown).symm
  · exact moved_add grows.size_le
  · exact moved_add grows.functions

/-- What comes after a store up to a later one is renamed to what comes after that one up to a
renamed store.
-/
theorem bijOn_between {last : Store} (grows : store.Grows later)
    (renamed : later.Renamed (.between store later) last)
    : Set.BijOn (Renaming.between store later).scope (Set.Ico store.heap.size later.heap.size)
        (Set.Ico later.heap.size last.heap.size)
      ∧ Set.BijOn (Renaming.between store later).number (Set.Ico store.functions later.functions)
          (Set.Ico later.functions last.functions) := by
  have size : moved store.heap.size later.heap.size later.heap.size = last.heap.size :=
    renamed.heap.fresh 0
  have functions : moved store.functions later.functions later.functions = last.functions :=
    renamed.functions 0
  rw [← size, ← functions]
  exact ⟨bijOn_moved grows.size_le, bijOn_moved grows.functions⟩

-----------------------------------------------------------------------------------------
-- Calling again
-----------------------------------------------------------------------------------------

/-- Where all is known, a call ends in the store that it leaves as it does before. -/
theorem renamed_applyClosure_again (fits : Invariant.known.Fits store)
    (called : store.Knows (.function closure)) (given : ∀ value ∈ values, store.Knows value)
    (grows : store.Grows later) (extended : store.heap.Extends later.heap) (limit depth : Nat)
    : (applyClosure limit closure values depth store).Renamed (.between store later)
        (Value.rename (.between store later)) (applyClosure limit closure values depth later) := by
  have sameClosure : closure.rename (.between store later) = closure :=
    Value.function.inj (rename_of_knows called)
  have sameValues : values.map (Value.rename (.between store later)) = values := by
    rw [List.map_congr_left fun value inside => rename_of_knows (given value inside)]
    exact List.map_id' values
  have alike := applyClosure_renamed limit closure values depth
    (renamed_between fits grows extended)
  rw [sameClosure, sameValues] at alike
  exact alike

/-- A second call of a function with the same arguments ends as the first one, but for a one-to-one
renaming of the scopes and of the functions that the first call adds to those that the second one
adds. In particular a value that is no function is the same, and so is a failure, and a function has
the same parameters and the same body.
-/
theorem applyClosure_repeats {kind : Program → Prop} (reachable : Reachable kind store)
    (called : store.Knows (.function closure)) (given : ∀ value ∈ values, store.Knows value)
    (limit depth : Nat)
    : let first := applyClosure limit closure values depth store
      let second := applyClosure limit closure values depth first.store
      (∃ r : Renaming,
        (∀ scope < store.heap.size, r.scope scope = scope)
        ∧ (∀ number < store.functions, r.number number = number)
        ∧ Set.BijOn r.scope (Set.Ico store.heap.size first.store.heap.size)
            (Set.Ico first.store.heap.size second.store.heap.size)
        ∧ Set.BijOn r.number (Set.Ico store.functions first.store.functions)
            (Set.Ico first.store.functions second.store.functions)
        ∧ first.Renamed r (Value.rename r) second)
      ∧ (∀ value, first.result = .ok value → value.kind ≠ .function → second.result = .ok value)
      ∧ (∀ error,
          first.result = .error (.failure error) → second.result = .error (.failure error))
      ∧ ∀ made,
          first.result = .ok (.function made)
          → ∃ again,
              second.result = .ok (.function again)
              ∧ again.parameters = made.parameters
              ∧ again.body = made.body := by
  intro first second
  have fits := reachable.fits (Invariant.known_starts kind)
  have grows : store.Grows first.store := (Invariant.kept_applyClosure fits called given).grows
  have extended : store.heap.Extends first.store.heap :=
    extends_applyClosure fun _ _ _ => framed limit _
  have alike := renamed_applyClosure_again fits called given grows extended limit depth
  obtain ⟨scopes, numbers⟩ := bijOn_between grows alike.store
  refine ⟨⟨.between store first.store, ?_, ?_, scopes, numbers, alike⟩, ?_, ?_, ?_⟩
  · intro scope inside
    exact moved_of_lt inside
  · intro number inside
    exact moved_of_lt inside
  · intro value yielded different
    have same : value.rename (.between store first.store) = value :=
      Value.rename_of_kind_ne _ different
    have again := alike.result_of_ok yielded
    rw [same] at again
    exact again
  · intro error failed
    exact alike.result_of_failure failed
  · intro made yielded
    exact ⟨_, alike.result_of_ok yielded, rfl, rfl⟩

/-- A function that yields functions. -/
private def adding : Closure :=
  ⟨0, ["x"], [.returning (.function ["y"] [.expression (.identifier "x")])], 0⟩

/-- The store in which it was declared. -/
private def added : Store :=
  (Program.run 1 [.declare "sumador" (.function adding.parameters adding.body)] 0
    Store.empty.root.2).store

/-- Two functions of the same parameters and body are made by two calls. -/
theorem applyClosure_repeats_adding
    : let first := applyClosure 1 adding [.integer (.ofNat 2)] 0 added
      let second := applyClosure 1 adding [.integer (.ofNat 2)] 0 first.store
      Reachable (fun _ => True) added
      ∧ added.Knows (.function adding)
      ∧ ∃ made again,
          first.result = .ok (.function made)
          ∧ second.result = .ok (.function again)
          ∧ again.parameters = made.parameters
          ∧ again.body = made.body := by
  intro first second
  have reachable : Reachable (fun _ => True) added :=
    Reachable.run (.root .empty) trivial Nat.zero_lt_one 1
  have found : added.heap.lookup 0 "sumador" = some (.function adding) := by
    simp only [added, Program.run, evaluateBlock, evaluateStatements_declare,
      evaluateExpression_function, close, Outcome.bind_yield, evaluateStatements_nil]
    exact Heap.lookup_bind_self _ _ _ _ Nat.zero_lt_one
  have called : added.Knows (.function adding) := reachable.knows (Heap.holds_of_lookup found)
  have given : ∀ value ∈ [Value.integer (.ofNat 2)], added.Knows value := by simp [Store.Knows]
  obtain ⟨-, -, -, functions⟩ := applyClosure_repeats reachable called given 1 0
  have yielded : first.result = .ok (.function
      ⟨added.functions, ["y"], [.expression (.identifier "x")], added.heap.size⟩) := by
    have same : adding.parameters.length = [Value.integer (.ofNat 2)].length := rfl
    simp only [first, applyClosure_of_lt same Nat.zero_lt_one]
    simp [adding, evaluateBlock, close, yield, Outcome.bind, Outcome.returned]
    exact ⟨rfl, rfl⟩
  obtain ⟨again, repeated, alike⟩ := functions _ yielded
  exact ⟨reachable, called, _, again, yielded, repeated, alike⟩

end Guion
