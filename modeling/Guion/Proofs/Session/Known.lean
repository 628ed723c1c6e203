import Guion.Proofs.Session.Reachable

/-! The values that are known to a store.

Functions get the next number and stay in a scope that was opened, and frames lie in earlier ones.
Main statement: whatever is held or yielded is known.
-/

namespace Guion

open Evaluation

/-- A function is known to a store if its number has been given away and its scope was opened. All
other values are known anyway.
-/
def Store.Knows (store : Store) : Value → Prop
  | .function closure => closure.number < store.functions ∧ closure.scope < store.heap.size
  | _ => True

/-- Every frame lies in one that was opened before it. -/
def Heap.Ordered (heap : Heap) : Prop :=
  ∀ (scope : Scope) (frame : Frame),
    heap.frames[scope]? = some frame → ∀ outer ∈ frame.outer, outer < scope

variable {heap : Heap} {store later : Store}

theorem Heap.Ordered.push (ordered : heap.Ordered) {outer : Option Scope}
    (inside : ∀ scope ∈ outer, scope < heap.size)
    : (heap.push ⟨{}, outer⟩).Ordered := by
  intro scope frame found
  rw [frames_push] at found
  split at found
  · rename_i new
    cases found
    exact new ▸ inside
  · exact ordered scope frame found

theorem Heap.Ordered.bind (ordered : heap.Ordered) (scope : Scope) (name : String) (value : Value)
    : (heap.bind scope name value).Ordered := by
  intro other frame found
  rw [frames_bind] at found
  split at found
  · obtain ⟨before, earlier, rfl⟩ := Option.map_eq_some_iff.mp found
    exact ordered other before earlier
  · exact ordered other frame found

/-- All values at hand are known, and frames lie in earlier ones. -/
def Evaluation.Invariant.known : Invariant where
  value := Store.Knows
  code store scope _ := scope < store.heap.size
  heap := Heap.Ordered
  value_grows := by
    intro before after value grows isKnown
    cases value with
    | function closure =>
        exact ⟨Nat.lt_of_lt_of_le isKnown.1 grows.functions, grows.lt_size isKnown.2⟩
    | _ => trivial
  code_grows grows inside := grows.lt_size inside
  code_part _ inside := inside
  plain := by
    intro store value plain
    cases value with
    | function => exact absurd (by simp [Value.kind]) plain
    | _ => trivial
  heap_bind scope name value ordered := ordered.bind scope name value
  heap_enclose := by
    intro store closure isKnown ordered
    apply ordered.push
    intro outer same
    cases same
    exact isKnown.2
  closes inside := ⟨Nat.lt_succ_self _, inside⟩
  enters := by
    intro store closure values depth _
    simp [enter, Heap.enclose]

/-- Every program may be run where all is known. -/
theorem Evaluation.Invariant.known_starts (kind : Program → Prop)
    : Invariant.known.Starts kind where
  empty scope frame found := by simp [Heap.empty] at found
  root ordered := ordered.push (by simp)
  enclose inside ordered := ordered.push (by simpa using inside)
  program _ inside := inside

/-- What a reachable store holds is known to it. -/
theorem Reachable.knows {kind : Program → Prop} {value : Value} (reachable : Reachable kind store)
    (held : store.heap.Holds value)
    : store.Knows value :=
  (reachable.fits (Invariant.known_starts kind)).held value held

/-- What a program yields at some moment is known to the store that is left then. -/
theorem Reachable.knows_yield {kind : Program → Prop} {limit depth : Nat} {program : Program}
    {e : Expression} {value : Value} {scope inner : Scope} {middle : Store}
    (reachable : Reachable kind store) (isKind : kind program) (inside : scope < store.heap.size)
    (within
      : Within limit (.statements program .null scope 0 store) (.expression e inner depth middle))
    (yielded : evaluateExpression limit e inner depth middle = yield value later)
    : later.Knows value := by
  have kept := (reachable.within (Invariant.known_starts kind) isKind inside within).2
  simp only [Task.outcome, yielded] at kept
  exact kept.value value rfl

end Guion
