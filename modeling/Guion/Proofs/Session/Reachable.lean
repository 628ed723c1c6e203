import Guion.Session
import Guion.Proofs.Evaluation.Invariant

/-! The stores that the interpreter gets to.

Scopes are opened and programs are run, one after the other. Main statement: an invariant that holds
at the start of every program holds of all stores that there ever are on the way.
-/

namespace Guion

open Evaluation

-----------------------------------------------------------------------------------------
-- Reachable stores
-----------------------------------------------------------------------------------------

/-- The stores that there are at some moment while scopes are opened and programs of a kind are run
in them, one after the other and under any limits on nested calls.
-/
inductive Reachable (kind : Program → Prop) : Store → Prop where
  | empty : Reachable kind .empty
  | root {store} (before : Reachable kind store) : Reachable kind store.root.2
  | enclose {store outer} (before : Reachable kind store) (inside : outer < store.heap.size)
    : Reachable kind (store.enclose outer).2
  | starts {store limit program scope task} (before : Reachable kind store)
    (isKind : kind program) (inside : scope < store.heap.size)
    (within : Within limit (.statements program .null scope 0 store) task)
    : Reachable kind task.store
  | ends {store limit program scope task} (before : Reachable kind store)
    (isKind : kind program) (inside : scope < store.heap.size)
    (within : Within limit (.statements program .null scope 0 store) task)
    : Reachable kind (task.outcome limit).store

/-- An invariant holds before anything is run, in every new scope, and at the start of every program
of a kind.
-/
structure Evaluation.Invariant.Starts (inv : Invariant) (kind : Program → Prop) : Prop where
  empty : inv.heap .empty
  root : ∀ {heap : Heap}, inv.heap heap → inv.heap heap.root.2
  enclose
    : ∀ {heap : Heap} {outer : Scope},
        outer < heap.size → inv.heap heap → inv.heap (heap.enclose outer).2
  program
    : ∀ {program : Program} {store : Store} {scope : Scope},
        kind program → scope < store.heap.size → inv.code store scope (.statements program)

variable {kind : Program → Prop} {inv : Invariant} {limit : Nat} {program : Program}
  {scope : Scope} {store : Store}

theorem Evaluation.Invariant.Starts.ready (starts : inv.Starts kind) (fits : inv.Fits store)
    (isKind : kind program) (inside : scope < store.heap.size)
    : inv.Ready (.statements program .null scope 0 store) :=
  ⟨fits, starts.program isKind inside, inv.null⟩

namespace Evaluation.Invariant

/-- A new frame is not inside any that was there before, and holds nothing. -/
theorem Fits.open {outer : Option Scope} (fits : inv.Fits store)
    (heap : inv.heap (store.heap.push ⟨{}, outer⟩))
    : inv.Fits (store.onHeap (·.push ⟨{}, outer⟩)) :=
  fits.onHeap (grows_push ..) heap fun _ held => .inr held.of_push

end Evaluation.Invariant

/-- Every reachable store is as an invariant says, by induction on how it is reached. -/
theorem Reachable.fits (reachable : Reachable kind store) (starts : inv.Starts kind)
    : inv.Fits store := by
  induction reachable with
  | empty => exact ⟨starts.empty, fun value held => absurd held (Heap.not_holds_empty value)⟩
  | root _ ih => exact ih.open (starts.root ih.heap)
  | enclose _ inside ih => exact ih.open (starts.enclose inside ih.heap)
  | @starts store limit program scope task _ isKind inside within ih =>
      obtain ⟨ready, -⟩ := (starts.ready ih isKind inside).within within
      cases task with
      | expression | statements | arguments => exact ready.1
  | ends _ isKind inside within ih =>
      obtain ⟨-, kept⟩ := (starts.ready ih isKind inside).within within
      exact kept.fits

/-- At every moment of a program that is run in a reachable store, evaluation keeps to an invariant.
-/
theorem Reachable.within (reachable : Reachable kind store) (starts : inv.Starts kind)
    (isKind : kind program) (inside : scope < store.heap.size) {task : Task}
    (within : Within limit (.statements program .null scope 0 store) task)
    : inv.Ready task ∧ inv.Kept task.store (inv.Good task) (task.outcome limit) :=
  (starts.ready (reachable.fits starts) isKind inside).within within

/-- What a program leaves is reachable. -/
theorem Reachable.run (reachable : Reachable kind store) (isKind : kind program)
    (inside : scope < store.heap.size) (limit : Nat)
    : Reachable kind (program.run limit scope store).store := by
  have within : Within limit (.statements program .null scope 0 store)
      (.statements program .null scope 0 store) :=
    .refl
  exact .ends reachable isKind inside within

/-- The value of a program is as an invariant says, unless it is an error. -/
theorem Reachable.value_evaluate (reachable : Reachable kind store) (starts : inv.Starts kind)
    (isKind : kind program) (inside : scope < store.heap.size)
    (plain : (program.evaluate limit scope store).1.kind ≠ .error)
    : inv.value (program.evaluate limit scope store).2 (program.evaluate limit scope store).1 := by
  have kept : inv.Kept store inv.value (program.run limit scope store) :=
    (reachable.within starts isKind inside .refl).2
  unfold Program.evaluate at plain ⊢
  generalize program.run limit scope store = outcome at kept plain ⊢
  rcases outcome with ⟨(value | error) | value, later⟩
  · exact kept.returning value rfl
  · exact absurd rfl plain
  · exact kept.value value rfl

-----------------------------------------------------------------------------------------
-- Sessions
-----------------------------------------------------------------------------------------

/-- Programs that are read from source texts without errors. -/
def IsSource (program : Program) : Prop :=
  ∃ source, (parse source).errors = [] ∧ (parse source).program = program

/-- What the interpreter leaves is reachable, also if it refuses the source text. -/
theorem Reachable.interpret (reachable : Reachable IsSource store)
    (inside : scope < store.heap.size) (limit : Nat) (source : String)
    : Reachable IsSource (interpret limit source scope store).2
      ∧ scope < (Guion.interpret limit source scope store).2.heap.size := by
  by_cases silent : (parse source).errors = []
  · rw [interpret_of_silent silent]
    have grows := grows_outcome limit (.statements (parse source).program .null scope 0 store)
    exact ⟨reachable.run ⟨source, silent, rfl⟩ inside limit, grows.lt_size inside⟩
  · rw [interpret_of_errors silent]
    exact ⟨reachable, inside⟩

namespace Session

/-- The session after some source texts have been run in it. -/
def evalAll (session : Session) (sources : List String) : Session :=
  sources.foldl (fun session source => (session.eval source).2) session

/-- A session keeps its limit. -/
theorem limit_evalAll (session : Session) (sources : List String)
    : (session.evalAll sources).limit = session.limit := by
  induction sources generalizing session with
  | nil => rfl
  | cons source sources ih => exact ih (session.eval source).2

/-- Whatever is run in a session, its store is reachable and has the scope of the session. -/
theorem reachable_evalAll (limit : Nat) (sources : List String)
    : Reachable IsSource ((new limit).evalAll sources).store
      ∧ ((new limit).evalAll sources).scope < ((new limit).evalAll sources).store.heap.size := by
  have start
      : Reachable IsSource (new limit).store
        ∧ (new limit).scope < (new limit).store.heap.size :=
    ⟨.root .empty, Nat.zero_lt_one⟩
  unfold evalAll
  generalize new limit = session at start ⊢
  induction sources generalizing session with
  | nil => exact start
  | cons source sources ih => exact ih _ (start.1.interpret start.2 session.limit source)

end Session

end Guion
