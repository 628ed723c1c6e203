import Guion.Proofs.Program.Computation
import Guion.Proofs.Session.Reachable

/-! The chains of scopes in a session.

A call opens its scope inside that of its function, and not inside that of its caller. So a scope
lies only in as many others as its function does in the source text. Main statement: no chain of
scopes gets longer than functions are nested in the source texts that were run, however deep calls
are nested.
-/

namespace Guion

open Evaluation

-----------------------------------------------------------------------------------------
-- Nested functions
-----------------------------------------------------------------------------------------

/-- How deep functions are nested in a tree. -/
def Nesting : Gathering Nat where
  nothing := 0
  join := max
  ofFunction _ body := body + 1

theorem Nesting.grows : Nesting.Grows (· ≤ ·) where
  refl := Nat.le_refl
  trans := Nat.le_trans
  left := Nat.le_max_left
  right := Nat.le_max_right
  statement _ := Nat.le_refl

-----------------------------------------------------------------------------------------
-- Chains
-----------------------------------------------------------------------------------------

/-- The scopes from one of them outward, up to one with none around it. -/
inductive Heap.Chain (heap : Heap) : Scope → List Scope → Prop where
  | ends {scope : Scope} {frame : Frame} (found : heap.frames[scope]? = some frame)
      (outermost : frame.outer = none)
      : Chain heap scope [scope]
  | outward {scope outer : Scope} {frame : Frame} {further : List Scope}
      (found : heap.frames[scope]? = some frame) (inside : frame.outer = some outer)
      (chain : Chain heap outer further)
      : Chain heap scope (scope :: further)

namespace Heap.Chain

variable {heap : Heap} {store later : Store} {scope outer : Scope} {scopes others : List Scope}

theorem unique (chain : heap.Chain scope scopes) (other : heap.Chain scope others)
    : others = scopes := by
  induction chain generalizing others with
  | ends found outermost =>
      cases other with
      | ends => rfl
      | outward found' inside =>
          cases found.symm.trans found'
          cases outermost.symm.trans inside
  | outward found inside _ ih =>
      cases other with
      | ends found' outermost =>
          cases found.symm.trans found'
          cases outermost.symm.trans inside
      | outward found' inside' further =>
          cases found.symm.trans found'
          cases inside.symm.trans inside'
          rw [ih further]

/-- Chains stay as they are while frames stay where they are. -/
theorem grows (chain : store.heap.Chain scope scopes) (grows : store.Grows later)
    : later.heap.Chain scope scopes := by
  induction chain with
  | ends found outermost =>
      obtain ⟨frame, found, outer⟩ := grows.frames _ _ found
      exact .ends found (outer.trans outermost)
  | outward found inside _ ih =>
      obtain ⟨frame, found, outer⟩ := grows.frames _ _ found
      exact .outward found (outer.trans inside) ih

/-- A new scope has its own place in front of the chain of the one around it. -/
theorem push (chain : store.heap.Chain outer scopes)
    : (store.heap.push ⟨{}, some outer⟩).Chain store.heap.size (store.heap.size :: scopes) := by
  have found : (store.heap.push ⟨{}, some outer⟩).frames[store.heap.size]?
      = some ⟨{}, some outer⟩ := by
    rw [Heap.frames_push, if_pos rfl]
  exact .outward found rfl (chain.grows (grows_push store _))

end Heap.Chain

/-- The chain of a scope leaves room for functions that are nested `deep` there. -/
def Heap.HasRoom (bound : Nat) (heap : Heap) (scope : Scope) (deep : Nat) : Prop :=
  ∃ scopes, heap.Chain scope scopes ∧ scopes.length + deep ≤ 1 + bound

namespace Heap.HasRoom

variable {bound deep less : Nat} {store later : Store} {scope outer : Scope}

theorem grows (room : store.heap.HasRoom bound scope deep) (grows : store.Grows later)
    : later.heap.HasRoom bound scope deep := by
  obtain ⟨scopes, chain, short⟩ := room
  exact ⟨scopes, chain.grows grows, short⟩

theorem mono {heap : Heap} (room : heap.HasRoom bound scope deep) (le : less ≤ deep)
    : heap.HasRoom bound scope less := by
  obtain ⟨scopes, chain, short⟩ := room
  exact ⟨scopes, chain, by omega⟩

theorem push (room : store.heap.HasRoom bound outer (deep + 1))
    : (store.heap.push ⟨{}, some outer⟩).HasRoom bound store.heap.size deep := by
  obtain ⟨scopes, chain, short⟩ := room
  exact ⟨_, chain.push, by rw [List.length_cons]; omega⟩

/-- Between scopes with room there is room for a new one inside one of them. -/
theorem push_all (all : ∀ scope < store.heap.size, store.heap.HasRoom bound scope 0)
    (room : store.heap.HasRoom bound outer 1)
    : ∀ scope < (store.heap.push ⟨{}, some outer⟩).size,
        (store.heap.push ⟨{}, some outer⟩).HasRoom bound scope 0 := by
  intro scope inside
  by_cases new : scope = store.heap.size
  · subst new
    exact room.push
  · have old : scope < store.heap.size := by
      rw [Heap.size_push] at inside
      omega
    exact (all scope old).grows (grows_push store _)

theorem bind {heap : Heap} (room : heap.HasRoom bound scope deep) (inside : Scope) (name : String)
    (value : Value)
    : (heap.bind inside name value).HasRoom bound scope deep := by
  let store : Store := ⟨heap, 0, []⟩
  have before : store.heap.HasRoom bound scope deep := room
  exact before.grows (grows_bind store inside name value)

/-- A call takes up the room of one function. -/
theorem enter {closure : Closure} (room : store.heap.HasRoom bound closure.scope (deep + 1))
    (values : List Value) (depth : Nat)
    : (Evaluation.enter closure values depth store).2.heap.HasRoom bound
        (Evaluation.enter closure values depth store).1 deep := by
  let opened := store.onHeap (·.push ⟨{}, some closure.scope⟩)
  have inside : opened.heap.HasRoom bound store.heap.size deep := room.push
  have grows : opened.Grows (Evaluation.enter closure values depth store).2 :=
    .of_keeps (Nat.le_refl _) (Heap.keeps_bindAll opened.heap store.heap.size _ values)
  exact inside.grows grows

end Heap.HasRoom

/-- Every scope is found, and functions can be called everywhere: the chain of the scope leaves room
for what is nested in the code.
-/
def Evaluation.Invariant.nested (bound : Nat) : Invariant where
  value store value :=
    ∀ closure, value = .function closure
      → store.heap.HasRoom bound closure.scope (Nesting.statements closure.body + 1)
  code store scope code := store.heap.HasRoom bound scope (code.gathered Nesting)
  heap heap := ∀ scope < heap.size, heap.HasRoom bound scope 0
  value_grows grows room closure same := (room closure same).grows grows
  code_grows grows room := room.grows grows
  code_part isPart room := room.mono (isPart.gathered Nesting.grows)
  plain isPlain _ same := absurd (List.mem_cons.mpr (.inl (congrArg Value.kind same))) isPlain
  heap_bind inside name value all scope less :=
    (all scope (Nat.lt_of_lt_of_eq less (Heap.size_bind ..))).bind inside name value
  heap_enclose room all :=
    .push_all all ((room _ rfl).mono (Nat.le_add_left ..))
  closes room _ same := (Value.function.inj same) ▸ room
  enters values depth room := (room _ rfl).enter values depth

namespace Session

-----------------------------------------------------------------------------------------
-- Sessions
-----------------------------------------------------------------------------------------

/-- How deep functions are nested in the source texts of a session. Those with errors are never run.
-/
def nesting : List String → Nat
  | [] => 0
  | source :: sources =>
      max (if (parse source).errors = [] then Nesting.statements (parse source).program else 0)
        (nesting sources)

/-- The stores that there are at some moment of a new session in which source texts are run, one
after the other: between two of them, and while the last one is run.
-/
inductive Passes (limit : Nat) : List String → Store → Prop where
  | between (sources : List String) : Passes limit sources ((new limit).evalAll sources).store
  | starts {sources : List String} {source : String} {task : Task}
    (silent : (parse source).errors = [])
    (within
      : Within limit
          (.statements (parse source).program .null ((new limit).evalAll sources).scope 0
            ((new limit).evalAll sources).store)
          task)
    : Passes limit (sources ++ [source]) task.store
  | ends {sources : List String} {source : String} {task : Task}
    (silent : (parse source).errors = [])
    (within
      : Within limit
          (.statements (parse source).program .null ((new limit).evalAll sources).scope 0
            ((new limit).evalAll sources).store)
          task)
    : Passes limit (sources ++ [source]) (task.outcome limit).store

/-- There is room in a session, and there is nothing around its scope. -/
structure HasRoom (bound : Nat) (session : Session) : Prop where
  fits : (Invariant.nested bound).Fits session.store
  outermost : session.store.heap.Chain session.scope [session.scope]

variable {bound limit : Nat} {session : Session} {source : String} {sources : List String}

theorem hasRoom_new (bound limit : Nat) : (new limit).HasRoom bound := by
  have chain : (new limit).store.heap.Chain 0 [0] := .ends rfl rfl
  refine ⟨⟨?_, ?_⟩, chain⟩
  · intro scope inside
    obtain rfl : scope = 0 := Nat.lt_one_iff.mp inside
    exact ⟨[0], chain, Nat.le_add_right ..⟩
  · intro value held
    exact absurd held.of_push (Heap.not_holds_empty value)

/-- A program is run in the outermost scope. -/
theorem HasRoom.ready {program : Program} (room : session.HasRoom bound)
    (le : Nesting.statements program ≤ bound)
    : (Invariant.nested bound).Ready (.statements program .null session.scope 0 session.store) :=
  ⟨room.fits, ⟨_, room.outermost, Nat.add_le_add_left le 1⟩, (Invariant.nested bound).null⟩

theorem nesting_le_of_silent (silent : (parse source).errors = [])
    (le : nesting (source :: sources) ≤ bound)
    : Nesting.statements (parse source).program ≤ bound := by
  rw [nesting, if_pos silent] at le
  exact Nat.le_trans (Nat.le_max_left ..) le

theorem HasRoom.eval (room : session.HasRoom bound) (le : nesting [source] ≤ bound)
    : (session.eval source).2.HasRoom bound := by
  unfold Session.eval
  by_cases silent : (parse source).errors = []
  · rw [interpret_of_silent silent]
    have ready := room.ready (nesting_le_of_silent silent le)
    have kept := (Invariant.nested bound).keeps session.limit _ ready
    exact ⟨kept.fits, room.outermost.grows kept.grows⟩
  · rw [interpret_of_errors silent]
    exact room

theorem nesting_append (first second : List String)
    : nesting (first ++ second) = max (nesting first) (nesting second) := by
  induction first with
  | nil => simp [nesting]
  | cons source first ih => simp [nesting, ih, Nat.max_assoc]

/-- Source texts leave room if it is left for what is nested in them, one after the other. -/
theorem hasRoom_evalAll (limit : Nat) (le : nesting sources ≤ bound)
    : ((new limit).evalAll sources).HasRoom bound := by
  have start := hasRoom_new bound limit
  unfold evalAll
  generalize new limit = session at start ⊢
  induction sources generalizing session with
  | nil => exact start
  | cons source sources ih =>
      rw [← List.singleton_append, nesting_append] at le
      exact ih (Nat.le_trans (Nat.le_max_right ..) le) _
        (start.eval (Nat.le_trans (Nat.le_max_left ..) le))

/-- At every moment there is room for what is nested in the source texts so far. -/
theorem Passes.fits {store : Store} (passes : Passes limit sources store)
    : (Invariant.nested (nesting sources)).Fits store := by
  have earlier (sources : List String) (source : String)
      : ((new limit).evalAll sources).HasRoom (nesting (sources ++ [source])) :=
    hasRoom_evalAll limit (by rw [nesting_append]; exact Nat.le_max_left ..)
  have last (sources : List String) (source : String)
      : nesting [source] ≤ nesting (sources ++ [source]) := by
    rw [nesting_append]
    exact Nat.le_max_right ..
  cases passes with
  | between => exact (hasRoom_evalAll limit (Nat.le_refl _)).fits
  | @starts sources source task silent within =>
      have start := (earlier sources source).ready (nesting_le_of_silent silent (last ..))
      obtain ⟨ready, -⟩ := start.within within
      cases task with
      | expression | statements | arguments => exact ready.1
  | @ends sources source task silent within =>
      have start := (earlier sources source).ready (nesting_le_of_silent silent (last ..))
      exact (start.within within).2.fits

/-- At every moment of a session the scopes around each scope form a chain that ends, and with this
scope itself these are at most one more than functions are nested in the source texts that were run.
-/
theorem length_chain_le {store : Store} {scope : Scope} (passes : Passes limit sources store)
    (inside : scope < store.heap.size)
    : ∃ scopes,
        store.heap.Chain scope scopes
        ∧ (∀ others, store.heap.Chain scope others → others = scopes)
        ∧ scopes.length ≤ 1 + nesting sources := by
  obtain ⟨scopes, chain, short⟩ := passes.fits.heap scope inside
  exact ⟨scopes, chain, fun others other => chain.unique other, short⟩

/-- A function that calls itself, and two calls of it within each other. -/
private def recursive : List String :=
  ["variable f = procedimiento(n) \x7b si (n) \x7b f(!n) \x7d \x7d;", "f(verdadero)"]

/-- The scopes of both calls lie directly in that of the session. -/
theorem length_chain_le_recursive
    : 2 < ((new 5).evalAll recursive).store.heap.size
      ∧ nesting recursive = 1
      ∧ ∃ scopes,
          ((new 5).evalAll recursive).store.heap.Chain 2 scopes ∧ scopes.length ≤ 2 := by
  have declared := parse_of_readsAs 20
    "variable f = procedimiento(n) \x7b si (n) \x7b f(!n) \x7d \x7d;"
    [.declare "f" (.function ["n"]
      [.expression (.conditional (.identifier "n")
        [.expression (.call (.identifier "f") [.unary .not (.identifier "n")])] none)])]
    [] (by decide +kernel)
  have called := parse_of_readsAs 9 "f(verdadero)"
    [.expression (.call (.identifier "f") [.boolean true])] [] (by decide +kernel)
  have inside : 2 < ((new 5).evalAll recursive).store.heap.size := by
    rw [recursive, evalAll, List.foldl_cons, List.foldl_cons, eval_declaration declared, eval,
      interpret_of_silent called.2, called.1]
    refine Nat.lt_of_lt_of_eq (Nat.lt_succ_self 2) (Eq.symm ?_)
    exact apply_evaluate_of_answer? 14 (.statements _ .null 0 0 _) (·.store.heap.size)
      (by decide +kernel)
  have once : nesting recursive = 1 := by
    rw [recursive, nesting, nesting, nesting, if_pos declared.2, if_pos called.2, declared.1,
      called.1]
    rfl
  obtain ⟨scopes, chain, -, short⟩ := length_chain_le (.between recursive) inside
  rw [once] at short
  exact ⟨inside, once, scopes, chain, short⟩

end Session

end Guion
