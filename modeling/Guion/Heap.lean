import Guion.Value.Basic
import Std.Data.TreeMap

/-! The heap: the frames that hold the values of variables.

A frame is shared by all that know its scope, and lives as long as the heap. Names are looked up
from a frame outward.
-/

namespace Guion

/-- The variables declared in one scope, and the scope around it. -/
structure Frame where
  bindings : Std.TreeMap String Value
  outer : Option Scope

/-- The frames of all scopes so far. -/
structure Heap where
  frames : Array Frame

namespace Heap

def empty : Heap :=
  ⟨#[]⟩

/-- The number of scopes so far, which is the next scope as well. -/
def size (heap : Heap) : Nat :=
  heap.frames.size

/-- Opens a scope. -/
def push (heap : Heap) (frame : Frame) : Heap :=
  ⟨heap.frames.push frame⟩

/-- A new scope with none around it. -/
def root (heap : Heap) : Scope × Heap :=
  (heap.size, heap.push ⟨{}, none⟩)

/-- A new scope inside another. -/
def enclose (heap : Heap) (outer : Scope) : Scope × Heap :=
  (heap.size, heap.push ⟨{}, some outer⟩)

/-- Declares a variable in a scope, or gives it a new value there. Scopes around it keep theirs. -/
def bind (heap : Heap) (scope : Scope) (name : String) (value : Value) : Heap :=
  ⟨heap.frames.modify scope fun frame =>
    { frame with bindings := frame.bindings.insert name value }⟩

/-- Declares several variables, in order. -/
def bindAll (heap : Heap) (scope : Scope) (names : List String) (values : List Value) : Heap :=
  (names.zip values).foldl (fun heap binding => heap.bind scope binding.1 binding.2) heap

/-- The value of a variable in the nearest scope that declares it. A scope lies only in scopes that
were opened before it.
-/
def lookup (heap : Heap) (scope : Scope) (name : String) : Option Value :=
  match heap.frames[scope]? with
  | none => none
  | some frame =>
    match frame.bindings[name]? with
    | some value => some value
    | none =>
      match frame.outer with
      | none => none
      | some outer => if outer < scope then heap.lookup outer name else none

variable (heap : Heap) (scope other : Scope) (name : String) (value : Value)

@[simp]
theorem size_push (frame : Frame) : (heap.push frame).size = heap.size + 1 :=
  Array.size_push ..

@[simp]
theorem size_bind : (heap.bind scope name value).size = heap.size :=
  Array.size_modify

@[simp]
theorem size_bindAll (names : List String) (values : List Value)
    : (heap.bindAll scope names values).size = heap.size := by
  unfold bindAll
  generalize names.zip values = bindings
  induction bindings generalizing heap with
  | nil => rfl
  | cons binding bindings ih => exact (ih _).trans (size_bind ..)

/-- A new scope is the last one, and no other frame changes. -/
theorem frames_push (frame : Frame)
    : (heap.push frame).frames[other]?
      = if other = heap.size then some frame else heap.frames[other]? :=
  Array.getElem?_push

/-- A declaration changes one variable of its frame, and no other frame. -/
theorem frames_bind
    : (heap.bind scope name value).frames[other]?
      = if scope = other then
          heap.frames[other]?.map fun frame =>
            { frame with bindings := frame.bindings.insert name value }
        else
          heap.frames[other]? :=
  Array.getElem?_modify

/-- A name is looked up in a frame, and then in the frame around it. -/
theorem lookup_of_frame {heap : Heap} {scope : Scope} {frame : Frame}
    (found : heap.frames[scope]? = some frame) (name : String)
    : heap.lookup scope name
      = frame.bindings[name]?.or
          (frame.outer.bind fun outer =>
            if outer < scope then heap.lookup outer name else none) := by
  rw [lookup, found]
  simp only
  cases frame.bindings[name]? <;> cases frame.outer <;> simp

/-- A variable has the value that it was given last. -/
theorem lookup_bind_self (inside : scope < heap.size)
    : (heap.bind scope name value).lookup scope name = some value := by
  have found := frames_bind heap scope scope name value
  rw [if_pos rfl, Array.getElem?_eq_getElem inside] at found
  rw [lookup_of_frame found]
  simp

/-- A declaration leaves all other names alone. -/
theorem lookup_bind_of_ne {name changed : String} (different : changed ≠ name)
    : (heap.bind scope changed value).lookup other name = heap.lookup other name := by
  induction other using Nat.strongRecOn with
  | _ other ih =>
    cases found : heap.frames[other]? with
    | none =>
      rw [lookup, lookup, frames_bind, found]
      simp
    | some frame =>
      have outer : ∀ outer : Scope,
          (if outer < other then
            (heap.bind scope changed value).lookup outer name else none)
          = if outer < other then heap.lookup outer name else none := by
        intro outer
        split
        · exact ih outer (by assumption)
        · rfl
      rw [lookup_of_frame found]
      have bound := frames_bind heap scope other changed value
      rw [found] at bound
      split at bound <;> rw [lookup_of_frame bound] <;>
        simp [outer, Std.TreeMap.getElem?_insert, different]

end Heap

end Guion
