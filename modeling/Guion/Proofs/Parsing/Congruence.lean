import Guion.Proofs.Parsing.Acceptance
import Guion.Proofs.Parsing.Likeness
import Guion.Proofs.Token.Shape

/-! Reading does not depend on where tokens stand: from tokens of the same kinds and literals the
same program is read, and the same errors are reported.
-/

namespace Guion

namespace Diagnostic

/-- What is wrong, without the places where it was found. -/
def errors (diagnostics : List Diagnostic) : List ParseError :=
  diagnostics.map Diagnostic.error

@[simp]
theorem errors_nil : errors [] = [] :=
  rfl

@[simp]
theorem errors_cons (diagnostic : Diagnostic) (rest : List Diagnostic)
    : errors (diagnostic :: rest) = diagnostic.error :: errors rest :=
  rfl

@[simp]
theorem errors_append (front behind : List Diagnostic)
    : errors (front ++ behind) = errors front ++ errors behind :=
  List.map_append

end Diagnostic

namespace Parsing

variable {α β : Type} {start start' : Position}

/-- Positions look the same if the tokens behind them differ in nothing but their places. -/
def sameShapes : Likeness where
  same a b := a.map Token.shape = b.map Token.shape
  passes _ := True
  agree ds es := Diagnostic.errors ds = Diagnostic.errors es
  kind {a b} same := by
    cases a with
    | nil =>
        obtain rfl := List.map_eq_nil_iff.mp same.symm
        rfl
    | cons token rest =>
        obtain ⟨token', rest', rfl, shape, -⟩ := List.map_eq_cons_iff.mp same.symm
        exact (congrArg Prod.fst shape).symm
  literal {a b} same := by
    cases a with
    | nil =>
        obtain rfl := List.map_eq_nil_iff.mp same.symm
        rfl
    | cons token rest =>
        obtain ⟨token', rest', rfl, shape, -⟩ := List.map_eq_cons_iff.mp same.symm
        exact (congrArg Prod.snd shape).symm
  tail same _ := by rw [List.map_tail, List.map_tail, same]
  unbroken _ _ := trivial
  silent := rfl
  append first second := by
    rw [Diagnostic.errors_append, Diagnostic.errors_append, first, second]

/-- What is read of the statements of a place is the same. -/
structure SameStatements (reading : Reading (List Statement) start)
    (other : Reading (List Statement) start') : Prop where
  value : reading.value = other.value
  position : reading.position.map Token.shape = other.position.map Token.shape
  errors
    : Diagnostic.errors reading.diagnostics.toList = Diagnostic.errors other.diagnostics.toList

/-- A broken statement is given up at the same token. -/
theorem map_shape_skip {a b : Position} (same : a.map Token.shape = b.map Token.shape)
    : (skip a).map Token.shape = (skip b).map Token.shape := by
  induction a generalizing b with
  | nil =>
      obtain rfl := List.map_eq_nil_iff.mp same.symm
      rfl
  | cons token rest ih =>
      obtain ⟨token', rest', rfl, shape, behind⟩ := List.map_eq_cons_iff.mp same.symm
      have kind : token'.kind = token.kind := congrArg Prod.fst shape
      have next : Position.kind rest' = Position.kind rest := sameShapes.kind behind
      unfold skip
      rw [kind, next]
      split
      · exact same
      · exact ih behind.symm

/-- The statements of a place are read alike if each of them is. -/
private theorem sameStatements_of_keeps (place : Place) {n : Nat}
    (keeps : ∀ position : Position, position.length ≤ n → sameShapes.Keeps (.statement position))
    {a b : Position} (short : a.length ≤ n) (same : a.map Token.shape = b.map Token.shape)
    : SameStatements (readStatements place a) (readStatements place b) := by
  induction a using readStatements_induction place generalizing b with
  | closed a closed =>
      obtain ⟨value, position, diagnostics⟩ := readStatements_of_closed closed
      obtain ⟨value', position', diagnostics'⟩ :=
        readStatements_of_closed (sameShapes.kind same ▸ closed)
      refine ⟨value.trans value'.symm, ?_, ?_⟩
      · rw [position, position', same]
      · rw [diagnostics, diagnostics']
  | read a s opened found ih =>
      have alike := keeps a short b same
      obtain ⟨value, position, diagnostics⟩ := readStatements_of_ok opened found
      obtain ⟨value', position', diagnostics'⟩ :=
        readStatements_of_ok (sameShapes.kind same ▸ opened) (alike.value.symm.trans found)
      have rest := ih (length_tail_le (readStatement a).suffix short)
        (sameShapes.tail alike.position trivial)
      have errors : Diagnostic.errors _ = Diagnostic.errors _ := alike.agree
      refine ⟨?_, ?_, ?_⟩
      · rw [value, value', rest.value]
      · rw [position, position', rest.position]
      · rw [diagnostics, diagnostics', Diagnostic.errors_append, Diagnostic.errors_append, errors,
          rest.errors]
  | closing a error opened broken closing =>
      have alike := keeps a short b same
      have skipped := map_shape_skip alike.position
      obtain ⟨value, position, diagnostics⟩ := readStatements_of_closing opened broken closing
      obtain ⟨value', position', diagnostics'⟩ :=
        readStatements_of_closing (sameShapes.kind same ▸ opened) (alike.value.symm.trans broken)
          (sameShapes.kind skipped ▸ closing)
      have errors : Diagnostic.errors _ = Diagnostic.errors _ := alike.agree
      refine ⟨value.trans value'.symm, ?_, ?_⟩
      · rw [position, position', skipped]
      · rw [diagnostics, diagnostics', Diagnostic.errors_append, Diagnostic.errors_append, errors]
        rfl
  | skipped a error opened broken goes_on ih =>
      have alike := keeps a short b same
      have skipped := map_shape_skip alike.position
      obtain ⟨value, position, diagnostics⟩ := readStatements_of_skipped opened broken goes_on
      obtain ⟨value', position', diagnostics'⟩ :=
        readStatements_of_skipped (sameShapes.kind same ▸ opened) (alike.value.symm.trans broken)
          (sameShapes.kind skipped ▸ goes_on)
      have rest := ih (length_tail_le ((skip_suffix _).trans (readStatement a).suffix) short)
        (sameShapes.tail skipped trivial)
      have errors : Diagnostic.errors _ = Diagnostic.errors _ := alike.agree
      refine ⟨?_, ?_, ?_⟩
      · rw [value, value', rest.value]
      · rw [position, position', rest.position]
      · rw [diagnostics, diagnostics', Diagnostic.errors_append, Diagnostic.errors_append,
          Diagnostic.errors_cons, Diagnostic.errors_cons, errors, rest.errors]

/-- Blocks are read alike if the statements in them are. -/
private theorem keeps_block (ih : ∀ task, lower task (.block start) → sameShapes.Keeps task)
    : sameShapes.Keeps (.block start) := by
  intro start' same opens
  have further : start.tail.map Token.shape = start'.tail.map Token.shape := by
    rw [List.map_tail, List.map_tail, same]
  have statements : SameStatements (readStatements .block start.tail)
      (readStatements .block start'.tail) := by
    refine sameStatements_of_keeps .block (fun position short => ih (.statement position) ?_)
      (Nat.le_refl _) further
    have shorter : start.tail.length ≤ start.length := (List.tail_sublist start).length_le
    simp only [lower, Task.start, Task.rank]
    omega
  have kinds := sameShapes.kind statements.position
  rw [readBlock_eq, readBlock_eq]
  refine ⟨?_, statements.position, statements.errors, fun _ _ => trivial⟩
  dsimp only
  rw [kinds, statements.value]

theorem keeps_sameShapes (task : Task) : sameShapes.Keeps task :=
  sameShapes.keeps (fun _ ih => keeps_block ih) task

/-- The statements that are read do not depend on where the tokens stand. -/
theorem readStatements_congr (place : Place) {a b : Position}
    (same : a.map Token.shape = b.map Token.shape)
    : SameStatements (readStatements place a) (readStatements place b) :=
  sameStatements_of_keeps place (fun _ _ => keeps_sameShapes _) (Nat.le_refl _) same

end Parsing

open Parsing

/-- A source text is read as tokens of the shapes are that are found in it. -/
theorem parse_of_shapes {source : String} {ts : List Token}
    (same : ts.map Token.shape = Lexer.shapes source.toList)
    : (parse source).program = (readStatements .program ts).value
      ∧ (parse source).errors
        = Diagnostic.errors (readStatements .program ts).diagnostics.toList := by
  have alike := readStatements_congr .program ((Lexer.map_shape_words source).trans same.symm)
  exact ⟨alike.value, alike.errors⟩

end Guion
