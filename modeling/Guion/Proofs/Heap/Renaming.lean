import Mathlib.Order.Monotone.Basic
import Guion.Store

/-! Stores that are alike but for the scopes and the numbers of functions.

Nothing that is done with variables tells such stores apart, since scopes are only followed outward.
-/

namespace Guion

/-- Other scopes and other numbers of functions. Scopes keep their order. -/
structure Renaming where
  scope : Scope → Scope
  number : Nat → Nat
  scope_strictMono : StrictMono scope
  number_injective : Function.Injective number

variable (r : Renaming)

-----------------------------------------------------------------------------------------
-- Values
-----------------------------------------------------------------------------------------

/-- The same function under its other number, in its other scope. -/
def Closure.rename (closure : Closure) : Closure :=
  { closure with number := r.number closure.number, scope := r.scope closure.scope }

/-- Only functions have something to rename. -/
def Value.rename : Value → Value
  | .function closure => .function (closure.rename r)
  | other => other

namespace Value

theorem rename_of_kind_ne {value : Value} (different : value.kind ≠ .function)
    : value.rename r = value := by
  cases value with
  | function => exact absurd rfl different
  | _ => rfl

end Value

-----------------------------------------------------------------------------------------
-- Stores
-----------------------------------------------------------------------------------------

/-- A frame with the same variables, their values renamed. -/
structure Frame.Renamed (frame other : Frame) : Prop where
  outer : other.outer = frame.outer.map r.scope
  bindings : ∀ name : String, other.bindings[name]? = frame.bindings[name]?.map (Value.rename r)

/-- A heap that has every frame of another one under its other scope, and may have more. The next
scopes of one are renamed to the next ones of the other.
-/
structure Heap.Renamed (heap other : Heap) : Prop where
  frames
    : ∀ (scope : Scope) (frame : Frame),
        heap.frames[scope]? = some frame
        → ∃ renamed, other.frames[r.scope scope]? = some renamed ∧ frame.Renamed r renamed
  fresh : ∀ k, r.scope (heap.size + k) = other.size + k

/-- A store with a renamed heap, in which the next functions are renamed to the next ones as well.
-/
structure Store.Renamed (store other : Store) : Prop where
  heap : store.heap.Renamed r other.heap
  functions : ∀ k, r.number (store.functions + k) = other.functions + k

variable {r}

namespace Heap.Renamed

variable {heap other : Heap}

/-- A name has the renamed value, by induction on the scope. -/
theorem lookup (renamed : heap.Renamed r other) (scope : Scope) (name : String)
    : other.lookup (r.scope scope) name = (heap.lookup scope name).map (Value.rename r) := by
  induction scope using Nat.strongRecOn with
  | _ scope ih =>
      cases found : heap.frames[scope]? with
      | none =>
          have missing : other.frames[r.scope scope]? = none := by
            have new : heap.size ≤ scope := Array.getElem?_eq_none_iff.mp found
            have moved := renamed.fresh (scope - heap.size)
            rw [Nat.add_sub_of_le new] at moved
            rw [moved]
            exact Array.getElem?_eq_none_iff.mpr (Nat.le_add_right ..)
          rw [Heap.lookup, Heap.lookup, found, missing]
          rfl
      | some frame =>
          obtain ⟨later, found', alike⟩ := renamed.frames scope frame found
          rw [lookup_of_frame found', lookup_of_frame found, alike.bindings, alike.outer]
          cases frame.bindings[name]? with
          | some value => rfl
          | none =>
              cases frame.outer with
              | none => rfl
              | some outer =>
                  simp only [Option.map_some, Option.map_none, Option.none_or, Option.bind_some,
                    r.scope_strictMono.lt_iff_lt]
                  split
                  · exact ih outer (by assumption)
                  · rfl

theorem push (renamed : heap.Renamed r other) (outer : Option Scope)
    : (heap.push ⟨{}, outer⟩).Renamed r (other.push ⟨{}, outer.map r.scope⟩) := by
  have next : r.scope heap.size = other.size := renamed.fresh 0
  constructor
  · intro scope frame found
    rw [frames_push] at found
    simp only [frames_push, ← next, r.scope_strictMono.injective.eq_iff]
    split at found
    · cases found
      rw [if_pos (by assumption)]
      exact ⟨_, rfl, rfl, by simp⟩
    · rw [if_neg (by assumption)]
      exact renamed.frames scope frame found
  · intro k
    rw [size_push, size_push, Nat.add_assoc, Nat.add_assoc]
    exact renamed.fresh (1 + k)

theorem bind (renamed : heap.Renamed r other) (scope : Scope) (name : String) (value : Value)
    : (heap.bind scope name value).Renamed r
        (other.bind (r.scope scope) name (value.rename r)) := by
  constructor
  · intro inside frame found
    rw [frames_bind] at found
    simp only [frames_bind, r.scope_strictMono.injective.eq_iff]
    split at found
    · obtain ⟨before, earlier, rfl⟩ := Option.map_eq_some_iff.mp found
      obtain ⟨later, found', alike⟩ := renamed.frames inside before earlier
      rw [if_pos (by assumption), found']
      refine ⟨_, rfl, alike.outer, ?_⟩
      intro known
      rw [Std.TreeMap.getElem?_insert, Std.TreeMap.getElem?_insert, alike.bindings]
      split <;> rfl
    · rw [if_neg (by assumption)]
      exact renamed.frames inside frame found
  · intro k
    rw [size_bind, size_bind]
    exact renamed.fresh k

theorem bindAll (renamed : heap.Renamed r other) (scope : Scope) (names : List String)
    (values : List Value)
    : (heap.bindAll scope names values).Renamed r
        (other.bindAll (r.scope scope) names (values.map (Value.rename r))) := by
  unfold Heap.bindAll
  induction names generalizing heap other values with
  | nil => exact renamed
  | cons name names ih =>
      cases values with
      | nil => exact renamed
      | cons value values => exact ih (renamed.bind scope name value) values

end Heap.Renamed

namespace Store.Renamed

variable {store other : Store}

theorem bind (renamed : store.Renamed r other) (scope : Scope) (name : String) (value : Value)
    : (store.onHeap (·.bind scope name value)).Renamed r
        (other.onHeap (·.bind (r.scope scope) name (value.rename r))) :=
  ⟨renamed.heap.bind scope name value, renamed.functions⟩

/-- The next function is renamed to the next one. -/
theorem close (renamed : store.Renamed r other)
    : Store.Renamed r { store with functions := store.functions + 1 }
        { other with functions := other.functions + 1 } := by
  refine ⟨renamed.heap, ?_⟩
  intro k
  rw [Nat.add_assoc, Nat.add_assoc]
  exact renamed.functions (1 + k)

end Store.Renamed

end Guion
