import Guion.Interpreter
import Guion.Proofs.Evaluation.Correspondence
import Guion.Proofs.Program.Computation

/-! Names that are never read.

A name is read by an expression that consists of it, and in no other way. Main statement: a variable
that is read neither by a program nor by the functions that it can get hold of has no influence on
the program, whether it is there or not, and whatever its value is.
-/

namespace Guion

open Evaluation

-----------------------------------------------------------------------------------------
-- Names that are read
-----------------------------------------------------------------------------------------

/-- The names that are read in a tree, be it in the body of a function. -/
def Reads : Gathering (List String) where
  nothing := []
  join := (· ++ ·)
  ofName name := [name]

theorem Reads.grows : Reads.Grows (· ⊆ ·) where
  refl := List.Subset.refl
  trans := List.Subset.trans
  left := List.subset_append_left
  right := List.subset_append_right
  statement _ := List.Subset.refl

-----------------------------------------------------------------------------------------
-- Heaps that differ in one variable
-----------------------------------------------------------------------------------------

namespace Heap

/-- Two heaps differ at most in whether a scope binds a name, and to which value. -/
structure AgreesBut (heap other : Heap) (scope : Scope) (name : String) : Prop where
  size : other.size = heap.size
  outer
    : ∀ inside : Scope,
        (other.frames[inside]?).bind Frame.outer = (heap.frames[inside]?).bind Frame.outer
  bound
    : ∀ inside known,
        inside ≠ scope ∨ known ≠ name → other.bound? inside known = heap.bound? inside known

/-- A name is not read by any function that has another name. -/
def Hides (heap : Heap) (name : String) : Prop :=
  ∀ inside known closure,
    known ≠ name
    → heap.bound? inside known = some (.function closure)
    → name ∉ Reads.statements closure.body

variable {heap other : Heap} {scope : Scope} {name : String}

theorem bound?_push (heap : Heap) (outer : Option Scope) (inside : Scope) (name : String)
    : (heap.push ⟨{}, outer⟩).bound? inside name = heap.bound? inside name := by
  unfold bound?
  rw [frames_push]
  split
  · rename_i new
    have unopened : heap.frames[heap.size]? = none := Array.getElem?_eq_none (Nat.le_refl _)
    rw [new, unopened]
    simp
  · rfl

theorem bound?_bind (heap : Heap) (scope inside : Scope) (name known : String) (value : Value)
    : (heap.bind scope name value).bound? inside known
      = if scope = inside ∧ name = known ∧ inside < heap.size then
          some value
        else
          heap.bound? inside known := by
  unfold bound?
  rw [frames_bind]
  by_cases same : scope = inside
  · rw [if_pos same]
    cases found : heap.frames[inside]? with
    | none =>
        have outside : ¬ inside < heap.size := by
          intro less
          rw [Array.getElem?_eq_getElem less] at found
          cases found
        simp [outside]
    | some frame =>
        have less : inside < heap.size := (Array.getElem?_eq_some_iff.mp found).1
        simp [same, less, Std.TreeMap.getElem?_insert]
  · rw [if_neg same, if_neg (not_and_of_not_left _ same)]

theorem outer_bind (heap : Heap) (scope inside : Scope) (name : String) (value : Value)
    : ((heap.bind scope name value).frames[inside]?).bind Frame.outer
      = (heap.frames[inside]?).bind Frame.outer := by
  rw [frames_bind]
  split
  · cases heap.frames[inside]? <;> rfl
  · rfl

/-- A name is looked up alike in both heaps if it is another one, by induction on the scope. -/
theorem AgreesBut.lookup (agrees : heap.AgreesBut other scope name) {known : String}
    (different : known ≠ name) (inside : Scope)
    : other.lookup inside known = heap.lookup inside known := by
  induction inside using Nat.strongRecOn with
  | _ inside ih =>
      rw [lookup_eq, lookup_eq, agrees.bound inside known (.inr different), agrees.outer]
      congr 2
      funext outer
      split
      · exact ih outer (by assumption)
      · rfl

theorem AgreesBut.push (agrees : heap.AgreesBut other scope name) (outer : Option Scope)
    : (heap.push ⟨{}, outer⟩).AgreesBut (other.push ⟨{}, outer⟩) scope name := by
  refine ⟨?_, fun inside => ?_, fun inside known apart => ?_⟩
  · rw [size_push, size_push, agrees.size]
  · rw [frames_push, frames_push, agrees.size]
    split
    · rfl
    · exact agrees.outer inside
  · rw [bound?_push, bound?_push, agrees.bound inside known apart]

theorem AgreesBut.bind (agrees : heap.AgreesBut other scope name) (inside : Scope)
    (known : String) (value : Value)
    : (heap.bind inside known value).AgreesBut (other.bind inside known value) scope name := by
  refine ⟨?_, fun further => ?_, fun further found apart => ?_⟩
  · rw [size_bind, size_bind, agrees.size]
  · rw [outer_bind, outer_bind, agrees.outer]
  · rw [bound?_bind, bound?_bind, agrees.size, agrees.bound further found apart]

/-- A declaration makes no other difference. -/
theorem agreesBut_bind (heap : Heap) (scope : Scope) (name : String) (value : Value)
    : heap.AgreesBut (heap.bind scope name value) scope name := by
  refine ⟨size_bind .., fun inside => outer_bind .., fun inside known apart => ?_⟩
  rw [bound?_bind, if_neg]
  rintro ⟨sameScope, sameName, -⟩
  rcases apart with otherScope | otherName
  · exact otherScope sameScope.symm
  · exact otherName sameName.symm

theorem Hides.push (hides : heap.Hides name) (outer : Option Scope)
    : (heap.push ⟨{}, outer⟩).Hides name := by
  intro inside known closure different bound
  rw [bound?_push] at bound
  exact hides inside known closure different bound

theorem Hides.bind (hides : heap.Hides name) (inside : Scope) (known : String) {value : Value}
    (hidden : ∀ closure, value = .function closure → name ∉ Reads.statements closure.body)
    : (heap.bind inside known value).Hides name := by
  intro further found closure different bound
  rw [bound?_bind] at bound
  split at bound
  · exact hidden closure (Option.some.inj bound)
  · exact hides further found closure different bound

end Heap

-----------------------------------------------------------------------------------------
-- Evaluation without the name
-----------------------------------------------------------------------------------------

namespace Evaluation

/-- Stores that differ at most in one variable, whose name no function of another name reads. -/
structure DifferUnread (scope : Scope) (name : String) (store other : Store) : Prop where
  functions : other.functions = store.functions
  heap : store.heap.AgreesBut other.heap scope name
  hides : store.heap.Hides name

variable {scope : Scope} {name : String} {store other : Store} {value value' : Value}

/-- The same value in both runs, which does not read a name. -/
theorem alike_iff
    : value.Alike (fun c c' => c = c' ∧ name ∉ Reads.statements c.body) value'
      ↔ value = value'
        ∧ ∀ closure, value = .function closure → name ∉ Reads.statements closure.body := by
  constructor
  · intro alike
    cases alike with
    | function both =>
        obtain ⟨rfl, hidden⟩ := both
        refine ⟨rfl, ?_⟩
        rintro _ ⟨⟩
        exact hidden
    | plain different =>
        refine ⟨rfl, ?_⟩
        rintro closure rfl
        exact absurd rfl different
  · rintro ⟨rfl, hidden⟩
    cases value with
    | function closure => exact .function ⟨rfl, hidden closure rfl⟩
    | _ => exact .plain (by simp [Value.kind])

theorem DifferUnread.bind (differ : DifferUnread scope name store other) (inside : Scope)
    (known : String)
    (hidden : ∀ closure, value = .function closure → name ∉ Reads.statements closure.body)
    : DifferUnread scope name (store.onHeap (·.bind inside known value))
        (other.onHeap (·.bind inside known value)) :=
  ⟨differ.functions, differ.heap.bind inside known value, differ.hides.bind inside known hidden⟩

/-- Arguments are declared alike, by induction on the arguments. -/
theorem DifferUnread.bindAll (differ : DifferUnread scope name store other) (inside : Scope)
    (names : List String) {values values' : List Value}
    (alike
      : List.Forall₂ (Value.Alike fun c c' => c = c' ∧ name ∉ Reads.statements c.body) values
          values')
    : DifferUnread scope name (store.onHeap (·.bindAll inside names values))
        (other.onHeap (·.bindAll inside names values')) := by
  induction alike generalizing names store other with
  | nil =>
      have none : names.zip ([] : List Value) = [] := List.zip_nil_right
      simp only [Heap.bindAll, none]
      exact differ
  | cons first _ ih =>
      cases names with
      | nil => exact differ
      | cons known names =>
          obtain ⟨rfl, hidden⟩ := alike_iff.mp first
          exact ih (differ.bind inside known hidden) names

/-- Code that does not read a name may be evaluated in stores that differ in a variable of this
name.
-/
def Correspondence.unread (scope : Scope) (name : String) : Correspondence where
  store := DifferUnread scope name
  scope inside inside' := inside = inside'
  functions c c' := c = c' ∧ name ∉ Reads.statements c.body
  code code := name ∉ code.gathered Reads
  code_part isPart unread read := unread (isPart.gathered Reads.grows read)
  apart := by
    rintro c c' d d' ⟨rfl, -⟩ ⟨rfl, -⟩
    exact Iff.rfl
  lookup := by
    rintro store other inside _ known differ rfl unread
    have different : known ≠ name := by
      rintro rfl
      exact unread (List.mem_singleton_self _)
    rw [differ.heap.lookup different]
    cases found : store.heap.lookup inside known with
    | none => exact .none
    | some value =>
        refine .some (alike_iff.mpr ⟨rfl, ?_⟩)
        rintro closure rfl
        obtain ⟨further, bound⟩ := Heap.exists_bound?_of_lookup found
        exact differ.hides further known closure different bound
  bind := by
    rintro store other inside _ value value' known differ rfl alike
    obtain ⟨rfl, hidden⟩ := alike_iff.mp alike
    exact differ.bind inside known hidden
  closes := by
    rintro store other inside _ parameters body differ rfl unread
    refine ⟨⟨by rw [differ.functions], unread⟩, ?_, differ.heap, differ.hides⟩
    rw [differ.functions]
  calls := by
    rintro c c' ⟨rfl, hidden⟩
    exact ⟨rfl, rfl, hidden⟩
  enters := by
    rintro store other c c' values values' depth differ ⟨rfl, hidden⟩ alike
    let around : Option Scope := some c.scope
    have opened : DifferUnread scope name (store.onHeap (·.push ⟨{}, around⟩))
        (other.onHeap (·.push ⟨{}, around⟩)) :=
      ⟨differ.functions, differ.heap.push around, differ.hides.push around⟩
    have entered := opened.bindAll store.heap.size c.parameters alike
    refine ⟨differ.heap.size.symm, differ.functions, ?_, entered.hides⟩
    have inside : other.heap.size = store.heap.size := differ.heap.size
    simp only [enter, Heap.enclose, inside]
    exact entered.heap

/-- A variable has no influence on a program that does not read its name, unless a function of
another name reads it: the program has the same value in all heaps that differ from one in this
variable only, and leaves heaps that differ in it only, so that all other names have the same values
in them.
-/
theorem evaluate_of_unread {program : Program} {heap : Heap}
    (unread : name ∉ Reads.statements program) (hides : store.heap.Hides name)
    (agrees : store.heap.AgreesBut heap scope name) (limit : Nat) (inside : Scope)
    : let first := program.evaluate limit inside store
      let second := program.evaluate limit inside { store with heap }
      second.1 = first.1
      ∧ second.2.functions = first.2.functions
      ∧ first.2.heap.AgreesBut second.2.heap scope name
      ∧ ∀ further known,
          known ≠ name
          → second.2.heap.bound? further known = first.2.heap.bound? further known := by
  intro first second
  have start : DifferUnread scope name store { store with heap } := ⟨rfl, agrees, hides⟩
  have ends := (Correspondence.unread scope name).keeps limit
    (.statements program .null inside 0 store) .null inside { store with heap } start rfl unread
    (Correspondence.null _)
  suffices same : second.1 = first.1 ∧ DifferUnread scope name first.2 second.2 by
    obtain ⟨value, differ⟩ := same
    exact ⟨value, differ.functions, differ.heap,
      fun further known different => differ.heap.bound further known (.inr different)⟩
  simp only [first, second, Program.evaluate, Program.run, evaluateBlock]
  generalize evaluateStatements limit program .null inside 0 store = outcome at ends ⊢
  generalize evaluateStatements limit program .null inside 0 { store with heap } = other at ends ⊢
  cases ends with
  | yields stores alike => exact ⟨(alike_iff.mp alike).1.symm, stores⟩
  | returns stores alike => exact ⟨(alike_iff.mp alike).1.symm, stores⟩
  | fails stores => exact ⟨rfl, stores⟩

/-- A function that has a parameter of a name, and does not read it. -/
private def ignoring : Closure :=
  ⟨0, ["n"], [.expression (.integer (.ofNat 1))], 0⟩

/-- A function that reads the name. -/
private def reading : Closure :=
  ⟨1, [], [.expression (.identifier "n")], 0⟩

/-- A store where the first of them can be called. -/
private def declaring : Store :=
  Store.empty.root.2.onHeap (·.bind 0 "f" (.function ignoring))

/-- A program that declares the name, and calls the function. -/
private def overwriting : Program :=
  [.declare "n" (.integer (.ofNat 2)),
    .expression (.call (.identifier "f") [.integer (.ofNat 3)])]

/-- The program does not notice that the name was declared before. -/
theorem evaluate_of_unread_overwriting
    : let heap := declaring.heap.bind 0 "n" (.function reading)
      "n" ∉ Reads.statements overwriting
      ∧ declaring.heap.Hides "n"
      ∧ declaring.heap.AgreesBut heap 0 "n"
      ∧ declaring.heap.bound? 0 "n" = none
      ∧ heap.bound? 0 "n" = some (.function reading)
      ∧ (overwriting.evaluate 1 0 declaring).1 = .integer (.ofNat 1)
      ∧ (overwriting.evaluate 1 0 { declaring with heap }).1 = .integer (.ofNat 1) := by
  intro heap
  have unread : "n" ∉ Reads.statements overwriting := by decide
  have start : Store.empty.root.2.heap.Hides "n" := by
    intro inside known closure different bound
    exact absurd (Heap.holds_of_bound? bound).of_push (Heap.not_holds_empty _)
  have hides : declaring.heap.Hides "n" := by
    refine start.bind 0 "f" ?_
    rintro _ ⟨⟩
    decide
  have agrees := declaring.heap.agreesBut_bind 0 "n" (.function reading)
  have value : (overwriting.evaluate 1 0 declaring).1 = .integer (.ofNat 1) :=
    Value.eq_integer_of_same (apply_evaluate_of_answer? 7
      (.statements overwriting .null 0 0 declaring) (·.value.same _) (by decide +kernel))
  obtain ⟨same, -⟩ := evaluate_of_unread unread hides agrees 1 0
  refine ⟨unread, hides, agrees, ?_, ?_, value, same.trans value⟩
  · rw [declaring, Store.onHeap, Heap.bound?_bind, if_neg (by decide)]
    rfl
  · rw [Heap.bound?_bind, if_pos ⟨rfl, rfl, Nat.zero_lt_one⟩]

end Evaluation

end Guion
