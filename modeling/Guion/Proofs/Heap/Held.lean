import Guion.Heap

/-! The values that a heap holds.

A value gets into a heap by being bound to a name, and names stand for what is held. So what is true
of all values that are ever bound is true of all that are held and found.
-/

namespace Guion.Heap

/-- Some frame of the heap binds a name to the value. -/
def Holds (heap : Heap) (value : Value) : Prop :=
  ∃ (scope : Scope) (frame : Frame) (name : String),
    heap.frames[scope]? = some frame ∧ frame.bindings[name]? = some value

variable {heap : Heap} {value : Value}

theorem not_holds_empty (value : Value) : ¬ Heap.empty.Holds value := by
  intro held
  obtain ⟨scope, frame, name, found, -⟩ := held
  simp [Heap.empty] at found

/-- A new frame holds nothing. -/
theorem Holds.of_push {outer : Option Scope} (held : (heap.push ⟨{}, outer⟩).Holds value)
    : heap.Holds value := by
  obtain ⟨scope, frame, name, found, bound⟩ := held
  rw [frames_push] at found
  split at found
  · cases found
    simp at bound
  · exact ⟨scope, frame, name, found, bound⟩

theorem Holds.of_bind {scope : Scope} {name : String} {new : Value}
    (held : (heap.bind scope name new).Holds value)
    : value = new ∨ heap.Holds value := by
  obtain ⟨other, frame, known, found, bound⟩ := held
  rw [frames_bind] at found
  split at found
  · obtain ⟨before, earlier, rfl⟩ := Option.map_eq_some_iff.mp found
    rw [Std.TreeMap.getElem?_insert] at bound
    split at bound
    · exact .inl (Option.some.inj bound).symm
    · exact .inr ⟨other, before, known, earlier, bound⟩
  · exact .inr ⟨other, frame, known, found, bound⟩

theorem Holds.of_bindAll {scope : Scope} {names : List String} {values : List Value}
    (held : (heap.bindAll scope names values).Holds value)
    : value ∈ values ∨ heap.Holds value := by
  unfold bindAll at held
  induction names generalizing heap values with
  | nil => exact .inr held
  | cons name names ih =>
      cases values with
      | nil => exact .inr held
      | cons first values =>
          rcases ih held with further | held
          · exact .inl (List.mem_cons_of_mem _ further)
          · rcases held.of_bind with same | held
            · exact .inl (List.mem_cons.mpr (.inl same))
            · exact .inr held

/-- The value of a name in a frame, if the frame binds it. -/
def bound? (heap : Heap) (scope : Scope) (name : String) : Option Value :=
  (heap.frames[scope]?).bind fun frame => frame.bindings[name]?

theorem holds_of_bound? {scope : Scope} {name : String}
    (bound : heap.bound? scope name = some value)
    : heap.Holds value := by
  obtain ⟨frame, found, bound⟩ := Option.bind_eq_some_iff.mp bound
  exact ⟨scope, frame, name, found, bound⟩

/-- A name is looked up in a frame, and then in the frame around it. -/
theorem lookup_eq (heap : Heap) (scope : Scope) (name : String)
    : heap.lookup scope name
      = (heap.bound? scope name).or
          (((heap.frames[scope]?).bind Frame.outer).bind fun outer =>
            if outer < scope then heap.lookup outer name else none) := by
  unfold bound?
  cases found : heap.frames[scope]? with
  | none =>
      rw [lookup, found]
      rfl
  | some frame => exact lookup_of_frame found name

/-- What is found for a name is bound to it in some frame, by induction on the scope. -/
theorem exists_bound?_of_lookup {scope : Scope} {name : String}
    (found : heap.lookup scope name = some value)
    : ∃ inside, heap.bound? inside name = some value := by
  induction scope using Nat.strongRecOn with
  | _ scope ih =>
      rw [lookup_eq, Option.or_eq_some_iff] at found
      rcases found with bound | ⟨-, outside⟩
      · exact ⟨scope, bound⟩
      · obtain ⟨outer, -, found⟩ := Option.bind_eq_some_iff.mp outside
        split at found
        · exact ih outer (by assumption) found
        · cases found

theorem holds_of_lookup {scope : Scope} {name : String}
    (found : heap.lookup scope name = some value)
    : heap.Holds value := by
  obtain ⟨inside, bound⟩ := exists_bound?_of_lookup found
  exact holds_of_bound? bound

-----------------------------------------------------------------------------------------
-- Several declarations
-----------------------------------------------------------------------------------------

/-- Declarations leave all other names alone, by induction on the declarations. -/
theorem lookup_bindAll_of_notMem {scope other : Scope} {name : String} {names : List String}
    {values : List Value} (fresh : name ∉ names)
    : (heap.bindAll scope names values).lookup other name = heap.lookup other name := by
  unfold bindAll
  induction names generalizing heap values with
  | nil => rfl
  | cons first names ih =>
      rw [List.mem_cons, not_or] at fresh
      cases values with
      | nil => rfl
      | cons => exact (ih fresh.2).trans (lookup_bind_of_ne _ _ _ _ (Ne.symm fresh.1))

/-- A variable has the value that it is given last. -/
theorem lookup_bindAll {scope : Scope} {index : Nat} {name : String} {names : List String}
    {values : List Value} (inside : scope < heap.size) (named : names[index]? = some name)
    (given : values[index]? = some value) (last : name ∉ names.drop (index + 1))
    : (heap.bindAll scope names values).lookup scope name = some value := by
  induction names generalizing heap values index with
  | nil => cases named
  | cons first names ih =>
      cases values with
      | nil => cases given
      | cons other values =>
          cases index with
          | zero =>
              cases named
              cases given
              exact (lookup_bindAll_of_notMem last).trans (lookup_bind_self _ _ _ _ inside)
          | succ index =>
              have still : scope < (heap.bind scope first other).size := by simpa using inside
              exact ih still named given last

end Guion.Heap
