import Mathlib.Logic.ExistsUnique
import Guion.Proofs.Session.Known

/-! Scopes that are shared by several handles, and what is found in them.

The heap is compared with the history of all that was done to it. Main statement: a name is found
with the value that was given last in the nearest frame in which it was ever given one, through
whatever handle, and in whatever order frames were opened and values were given.
-/

namespace Guion

variable {n : Nat}

-----------------------------------------------------------------------------------------
-- Histories
-----------------------------------------------------------------------------------------

/-- What has been done with `n` handles so far, the last operation outermost. A handle is known by
the number of handles that were made before it, and only those that were made are ever used.
-/
inductive History : Nat → Type where
  | start : History 0
  /-- A handle of a new frame with none around it. -/
  | root {n : Nat} (before : History n) : History (n + 1)
  /-- A handle of a new frame inside that of another handle. -/
  | enclose {n : Nat} (before : History n) (outer : Fin n) : History (n + 1)
  /-- Another handle of the same frame. -/
  | clone {n : Nat} (before : History n) (handle : Fin n) : History (n + 1)
  | set {n : Nat} (before : History n) (handle : Fin n) (name : String) (value : Value) : History n
  | get {n : Nat} (before : History n) (handle : Fin n) (name : String) : History n

/-- A heap, and the scopes that `n` handles stand for. -/
structure Shared (n : Nat) where
  heap : Heap
  scopes : Vector Scope n

namespace History

/-- The heap that a history leaves, with the scopes of all handles. -/
def run {n : Nat} : History n → Shared n
  | start => ⟨.empty, #v[]⟩
  | root before =>
      let (scope, heap) := before.run.heap.root
      ⟨heap, before.run.scopes.push scope⟩
  | enclose before outer =>
      let (scope, heap) := before.run.heap.enclose (before.run.scopes.get outer)
      ⟨heap, before.run.scopes.push scope⟩
  | clone before handle => ⟨before.run.heap, before.run.scopes.push (before.run.scopes.get handle)⟩
  | set before handle name value =>
      ⟨before.run.heap.bind (before.run.scopes.get handle) name value, before.run.scopes⟩
  | get before _ _ => before.run

/-- What is found for a name through a handle. -/
def get? (history : History n) (handle : Fin n) (name : String) : Option Value :=
  history.run.heap.lookup (history.run.scopes.get handle) name

-----------------------------------------------------------------------------------------
-- What a history tells
-----------------------------------------------------------------------------------------

/-- The number of frames so far. Frames are known by the number of frames in front of them. -/
def opened {n : Nat} : History n → Nat
  | start => 0
  | root before | enclose before _ => before.opened + 1
  | clone before _ | set before _ _ _ | get before _ _ => before.opened

/-- The frames that the handles stand for. -/
def frames {n : Nat} : History n → Vector Nat n
  | start => #v[]
  | root before | enclose before _ => before.frames.push before.opened
  | clone before handle => before.frames.push (before.frames.get handle)
  | set before _ _ _ | get before _ _ => before.frames

/-- The frame around another one. -/
def outer? {n : Nat} : History n → Nat → Option Nat
  | start, _ => none
  | root before, frame => if frame = before.opened then none else before.outer? frame
  | enclose before outer, frame =>
      if frame = before.opened then some (before.frames.get outer) else before.outer? frame
  | clone before _, frame | set before _ _ _, frame | get before _ _, frame => before.outer? frame

/-- The value that a name was given last in a frame, through whatever handle. -/
def latest? {n : Nat} : History n → Nat → String → Option Value
  | start, _, _ => none
  | set before handle changed value, frame, name =>
      if before.frames.get handle = frame ∧ changed = name then
        some value
      else
        before.latest? frame name
  | root before, frame, name | enclose before _, frame, name | clone before _, frame, name
  | get before _ _, frame, name =>
      before.latest? frame name

/-- The frames from one of them outward, up to one with none around it. -/
inductive Walk (history : History n) : Nat → List Nat → Prop where
  | ends {frame : Nat} (outermost : history.outer? frame = none) : Walk history frame [frame]
  | outward {frame outer : Nat} {further : List Nat} (inside : history.outer? frame = some outer)
      (walk : Walk history outer further)
      : Walk history frame (frame :: further)

variable {history : History n} {frame outer : Nat} {walked : List Nat}

-----------------------------------------------------------------------------------------
-- Walks end
-----------------------------------------------------------------------------------------

/-- A new handle stands for the frame that it was made for, and all others for what they stood for
before.
-/
private theorem get_push (frames : Vector Nat n) (frame : Nat) (handle : Fin (n + 1))
    : (frames.push frame).get handle
      = if made : handle.val < n then frames.get ⟨handle, made⟩ else frame :=
  Vector.getElem_push ..

/-- Handles stand for frames that were opened. -/
theorem frames_lt (history : History n) (handle : Fin n)
    : history.frames.get handle < history.opened := by
  induction history with
  | start => exact handle.elim0
  | root before ih | enclose before _ ih =>
      rw [frames, opened, get_push]
      split
      · rename_i made
        exact Nat.lt_succ_of_lt (ih ⟨handle, made⟩)
      · exact Nat.lt_succ_self _
  | clone before cloned ih =>
      rw [frames, opened, get_push]
      split
      · rename_i made
        exact ih ⟨handle, made⟩
      · exact ih cloned
  | set before _ _ _ ih | get before _ _ ih => exact ih handle

/-- A frame lies in one that was opened before it. -/
theorem outer?_lt (inside : history.outer? frame = some outer) : outer < frame := by
  induction history with
  | start => cases inside
  | root before ih =>
      simp only [outer?] at inside
      split at inside
      · cases inside
      · exact ih inside
  | enclose before handle ih =>
      simp only [outer?] at inside
      split at inside
      · rename_i new
        cases inside
        exact new ▸ before.frames_lt handle
      · exact ih inside
  | clone before _ ih | set before _ _ _ ih | get before _ _ ih => exact ih inside

/-- There is one walk from every frame, by induction on the number of the frame. -/
theorem existsUnique_walk (history : History n) (frame : Nat)
    : ∃! walked, history.Walk frame walked := by
  induction frame using Nat.strongRecOn with
  | _ frame ih =>
      cases around : history.outer? frame with
      | none =>
          refine ⟨[frame], .ends around, fun other walk => ?_⟩
          cases walk with
          | ends => rfl
          | outward inside => cases inside.symm.trans around
      | some outer =>
          obtain ⟨further, walk, unique⟩ := ih outer (outer?_lt around)
          refine ⟨frame :: further, .outward around walk, fun other walk => ?_⟩
          cases walk with
          | ends outermost => cases outermost.symm.trans around
          | outward inside walk =>
              cases inside.symm.trans around
              rw [unique _ walk]

/-- A walk only goes to frames that were opened before. -/
theorem Walk.le (walk : history.Walk frame walked) : ∀ passed ∈ walked, passed ≤ frame := by
  induction walk with
  | ends => simp
  | outward inside _ ih =>
      rw [List.forall_mem_cons]
      refine ⟨Nat.le_refl _, fun passed found => ?_⟩
      exact Nat.le_trans (ih passed found) (Nat.le_of_lt (outer?_lt inside))

/-- So it never comes back to a frame. -/
theorem Walk.pairwise (walk : history.Walk frame walked)
    : walked.Pairwise fun passed further => further < passed := by
  induction walk with
  | ends => exact List.pairwise_singleton ..
  | outward inside walk ih =>
      exact .cons (fun passed found => Nat.lt_of_le_of_lt (walk.le passed found) (outer?_lt inside))
        ih

-----------------------------------------------------------------------------------------
-- The heap is as the history tells
-----------------------------------------------------------------------------------------

/-- The heap that a history leaves holds what the history tells. -/
structure Represents (history : History n) (shared : Shared n) : Prop where
  scopes : shared.scopes = history.frames
  size : shared.heap.size = history.opened
  outer : ∀ frame, (shared.heap.frames[frame]?).bind Frame.outer = history.outer? frame
  bound
    : ∀ frame name,
        (shared.heap.frames[frame]?).bind (fun found => found.bindings[name]?)
        = history.latest? frame name

/-- What is asked of a frame, once another one is opened. -/
private theorem bind_frames_push {α : Type} (heap : Heap) (opened : Frame) (frame : Nat)
    (ask : Frame → Option α)
    : ((heap.push opened).frames[frame]?).bind ask
      = if frame = heap.size then ask opened else (heap.frames[frame]?).bind ask := by
  rw [Heap.frames_push]
  split <;> rfl

/-- A new frame is empty, whether it lies in another one or not. -/
private theorem Represents.push {before : History n} {after : History (n + 1)}
    {around : Option Nat} (represents : before.Represents before.run)
    (run
      : after.run
        = ⟨before.run.heap.push ⟨{}, around⟩, before.run.scopes.push before.run.heap.size⟩)
    (frames : after.frames = before.frames.push before.opened)
    (opened : after.opened = before.opened + 1)
    (outer
      : ∀ frame, after.outer? frame = if frame = before.opened then around else before.outer? frame)
    (latest : ∀ frame name, after.latest? frame name = before.latest? frame name)
    : after.Represents after.run := by
  have size := represents.size
  have unopened : before.run.heap.frames[before.run.heap.size]? = none :=
    Array.getElem?_eq_none (Nat.le_refl _)
  rw [run]
  refine ⟨?_, ?_, fun frame => ?_, fun frame name => ?_⟩
  · simp only [represents.scopes, size, frames]
  · simp only [Heap.size_push, size, opened]
  · simp only [bind_frames_push, represents.outer, size, outer]
  · simp only [bind_frames_push, represents.bound, latest]
    split
    · rename_i new
      rw [← represents.bound, new, unopened]
      simp
    · rfl

/-- Every operation keeps to that. -/
theorem represents_run (history : History n) : history.Represents history.run := by
  induction history with
  | start => exact ⟨rfl, rfl, fun _ => rfl, fun _ _ => rfl⟩
  | root before ih => exact ih.push rfl rfl rfl (fun _ => rfl) fun _ _ => rfl
  | enclose before handle ih =>
      refine ih.push rfl rfl rfl (fun frame => ?_) fun _ _ => rfl
      simp only [outer?, ih.scopes]
  | clone before handle ih =>
      obtain ⟨scopes, size, outer, bound⟩ := ih
      exact ⟨by simp only [run, frames, scopes], size, outer, bound⟩
  | set before handle name value ih =>
      obtain ⟨scopes, size, outer, bound⟩ := ih
      have inside : before.frames.get handle < before.run.heap.frames.size :=
        Nat.lt_of_lt_of_eq (before.frames_lt handle) size.symm
      refine ⟨scopes, ?_, fun frame => ?_, fun frame other => ?_⟩
      · simpa only [run, opened, Heap.size_bind] using size
      · simp only [run, outer?, Heap.frames_bind, ← outer]
        split
        · cases before.run.heap.frames[frame]? <;> rfl
        · rfl
      · simp only [run, latest?, Heap.frames_bind, ← bound, scopes]
        by_cases same : before.frames.get handle = frame
        · subst same
          rw [if_pos rfl, Array.getElem?_eq_getElem inside]
          simp [Std.TreeMap.getElem?_insert]
        · rw [if_neg same, if_neg (not_and_of_not_left _ same)]
  | get before handle name ih => exact ⟨ih.scopes, ih.size, ih.outer, ih.bound⟩

-----------------------------------------------------------------------------------------
-- What is found
-----------------------------------------------------------------------------------------

/-- A name is looked up along the walk. -/
theorem lookup_walk (walk : history.Walk frame walked) (name : String)
    : history.run.heap.lookup frame name = walked.findSome? (history.latest? · name) := by
  have represents := history.represents_run
  have bound : ∀ frame name, history.run.heap.bound? frame name = history.latest? frame name :=
    represents.bound
  induction walk with
  | ends outermost =>
      rw [Heap.lookup_eq, bound, represents.outer, outermost]
      simp
  | outward inside _ ih =>
      rw [Heap.lookup_eq, bound, represents.outer, inside, Option.bind_some,
        if_pos (outer?_lt inside), ih, List.findSome?_cons]
      cases history.latest? _ name <;> rfl

theorem get?_walk {handle : Fin n} (walk : history.Walk (history.frames.get handle) walked)
    (name : String)
    : history.get? handle name = walked.findSome? (history.latest? · name) := by
  rw [get?, history.represents_run.scopes]
  exact lookup_walk walk name

/-- A value is found where no frame in front of its own has one for the name. -/
theorem get?_of_walk {handle : Fin n} {inner further : List Nat} {name : String} {value : Value}
    (walk : history.Walk (history.frames.get handle) (inner ++ frame :: further))
    (free : ∀ passed ∈ inner, history.latest? passed name = none)
    (latest : history.latest? frame name = some value)
    : history.get? handle name = some value := by
  have none_inner : inner.findSome? (history.latest? · name) = none :=
    List.findSome?_eq_none_iff.mpr free
  rw [get?_walk walk, List.findSome?_append, none_inner, List.findSome?_cons, latest]
  rfl

-----------------------------------------------------------------------------------------
-- From where a value is not seen
-----------------------------------------------------------------------------------------

variable {giver reader : Fin n} {name : String} {value : Value}

/-- Giving a value changes no walk. -/
theorem Walk.set (walk : history.Walk frame walked) (giver : Fin n) (name : String) (value : Value)
    : (history.set giver name value).Walk frame walked := by
  induction walk with
  | ends outermost => exact .ends outermost
  | outward inside _ ih => exact .outward inside ih

/-- Nothing changes for those that do not come by. -/
theorem get?_set_of_not_mem (walk : history.Walk (history.frames.get reader) walked)
    (apart : history.frames.get giver ∉ walked) (other : String)
    : (history.set giver name value).get? reader other = history.get? reader other := by
  have same : ∀ passed ∈ walked,
      (history.set giver name value).latest? passed other = history.latest? passed other := by
    intro passed found
    refine if_neg (not_and_of_not_left _ ?_)
    rintro rfl
    exact apart found
  rw [get?_walk (walk.set giver name value), get?_walk walk]
  clear apart walk
  induction walked with
  | nil => rfl
  | cons passed walked ih =>
      rw [List.forall_mem_cons] at same
      rw [List.findSome?_cons, List.findSome?_cons, same.1, ih same.2]

/-- No walk that starts in a frame around another one comes by that one. -/
theorem Walk.not_mem_of_around {inner : Nat} {around : List Nat}
    (walk : history.Walk inner around) (found : frame ∈ around) (different : frame ≠ inner)
    (outward : history.Walk frame walked)
    : inner ∉ walked := by
  intro back
  have forth := walk.le frame found
  exact different (Nat.le_antisymm forth (outward.le inner back))

/-- Nor does one that starts in another frame next to it. -/
theorem Walk.not_mem_of_beside {other : Nat}
    (beside : history.outer? frame = history.outer? other) (different : frame ≠ other)
    (walk : history.Walk frame walked)
    : other ∉ walked := by
  cases walk with
  | ends => simpa using different.symm
  | outward inside walk =>
      rw [List.mem_cons, not_or]
      refine ⟨different.symm, fun found => ?_⟩
      have := outer?_lt (beside.symm.trans inside)
      have := walk.le _ found
      omega

/-- Frames lie in earlier ones, so every walk outward ends, and there is one from every frame. What
is found through a handle is what the nearest frame was given last of all those on the walk from its
frame that were ever given a value for the name, and nothing if there is none.

In particular a value is found through all handles of its frame, and through those of frames inside
that have none of their own for the name. Giving it changes nothing for frames around its own and
for those beside it.
-/
theorem get?_eq_nearest (history : History n)
    : history.run.heap.Ordered
      ∧ (∀ frame, ∃! walked, history.Walk frame walked)
      ∧ (∀ (reader : Fin n) (name : String) (walked : List Nat),
          history.Walk (history.frames.get reader) walked
          → history.get? reader name = walked.findSome? (history.latest? · name))
      ∧ (∀ (reader giver : Fin n) (name : String) (inner further : List Nat),
          history.Walk (history.frames.get reader) (inner ++ history.frames.get giver :: further)
          → (∀ frame ∈ inner, history.latest? frame name = none)
          → (∀ value,
              history.latest? (history.frames.get giver) name = some value
              → history.get? reader name = some value)
            ∧ ∀ value, (history.set giver name value).get? reader name = some value)
      ∧ ∀ (reader giver : Fin n),
          history.frames.get reader ≠ history.frames.get giver
          → (∃ walked,
              history.Walk (history.frames.get giver) walked ∧ history.frames.get reader ∈ walked)
            ∨ history.outer? (history.frames.get reader) = history.outer? (history.frames.get giver)
          → ∀ name value other,
              (history.set giver name value).get? reader other = history.get? reader other := by
  refine ⟨?_, history.existsUnique_walk, fun _ _ _ walk => get?_walk walk _, ?_, ?_⟩
  · intro scope frame found outer around
    have represents := history.represents_run.outer scope
    rw [found, Option.bind_some, around] at represents
    exact outer?_lt represents.symm
  · intro reader giver name inner further walk free
    refine ⟨fun value latest => get?_of_walk walk free latest, fun value => ?_⟩
    refine get?_of_walk (walk.set giver name value) (fun frame passed => ?_) (if_pos ⟨rfl, rfl⟩)
    have earlier : history.frames.get giver < frame :=
      (List.pairwise_append.mp walk.pairwise).2.2 frame passed _ (List.mem_cons_self ..)
    exact (if_neg fun same => absurd same.1 (Nat.ne_of_lt earlier)).trans (free frame passed)
  · intro reader giver different placed name value other
    obtain ⟨walked, outward, -⟩ := history.existsUnique_walk (history.frames.get reader)
    refine get?_set_of_not_mem outward ?_ other
    rcases placed with ⟨around, walk, found⟩ | beside
    · exact walk.not_mem_of_around found different outward
    · exact outward.not_mem_of_beside beside different

/-- A root with two handles, and two frames beside each other in it. -/
private def branching : History 4 :=
  start.root |>.clone 0 |>.enclose 0 |>.enclose 0

/-- A value given through the second handle of the root is found through the first one and in the
frames inside. A value given in the first of these is found there only.
-/
theorem get?_eq_nearest_branching
    : ((branching.set 1 "x" .null).get? 0 "x" = some .null
        ∧ (branching.set 1 "x" .null).get? 2 "x" = some .null
        ∧ (branching.set 1 "x" .null).get? 3 "x" = some .null)
      ∧ (branching.set 2 "x" .null).get? 2 "x" = some .null
      ∧ (branching.set 2 "x" .null).get? 1 "x" = branching.get? 1 "x"
      ∧ (branching.set 2 "x" .null).get? 3 "x" = branching.get? 3 "x" := by
  obtain ⟨-, -, -, seen, hidden⟩ := get?_eq_nearest branching
  have root : branching.Walk 0 ([] ++ [0]) := .ends rfl
  have first : branching.Walk 1 ([1] ++ [0]) := .outward rfl root
  have second : branching.Walk 2 ([2] ++ [0]) := .outward rfl root
  refine ⟨⟨?_, ?_, ?_⟩, ?_, ?_, ?_⟩
  · exact (seen 0 1 "x" [] [] root (by simp)).2 .null
  · exact (seen 2 1 "x" [1] [] first (by simp [branching, latest?])).2 .null
  · exact (seen 3 1 "x" [2] [] second (by simp [branching, latest?])).2 .null
  · exact (seen 2 2 "x" [] [0] first (by simp)).2 .null
  · exact hidden 1 2 (by decide) (.inl ⟨[1, 0], first, by decide⟩) "x" .null "x"
  · exact hidden 3 2 (by decide) (.inr rfl) "x" .null "x"

end History

end Guion
