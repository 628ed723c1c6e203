import Guion.Heap

/-! The store: everything that a run reads and changes. -/

namespace Guion

/-- The variables, how many functions there have been, and the calls that were entered, each with
the number of calls around it, the last one first.
-/
structure Store where
  heap : Heap
  functions : Nat
  calls : List (Closure × Nat)

namespace Store

def empty : Store :=
  ⟨.empty, 0, []⟩

/-- Changes the variables only. -/
def onHeap (store : Store) (change : Heap → Heap) : Store :=
  { store with heap := change store.heap }

/-- A new scope with none around it. -/
def root (store : Store) : Scope × Store :=
  let (scope, heap) := store.heap.root
  (scope, { store with heap })

/-- A new scope inside another. -/
def enclose (store : Store) (outer : Scope) : Scope × Store :=
  let (scope, heap) := store.heap.enclose outer
  (scope, { store with heap })

end Store

end Guion
