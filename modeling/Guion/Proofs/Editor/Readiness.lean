import Guion.Proofs.Grammar.Nesting
import Guion.Proofs.Parsing.Acceptance
import Guion.Proofs.Program.Computation

/-! The editor holds back no program: what is read without a report leaves nothing open.

The grammar pairs all delimiters, and it has no place for an illegal token, as which a string
literal that is not closed would stand.
-/

namespace Guion

namespace Delimiter

theorem track_opening {token : Token} {pair : Delimiter} (opens : token.kind = pair.openingKind)
    (opened : List Delimiter)
    : track opened token = some (pair :: opened) := by
  cases pair <;> simp only [track, opens, openingKind]

theorem track_closing {token : Token} {pair : Delimiter} (closes : token.kind = pair.closingKind)
    (opened : List Delimiter)
    : track (pair :: opened) token = some opened := by
  cases pair <;> simp only [track, closes, closingKind, close, if_true]

end Delimiter

namespace Grammar

/-- Behind tokens whose delimiters come in pairs there is open what is open in front of them. -/
theorem Nested.foldlM_track {ts : List Token} (nested : Nested ts) (opened : List Delimiter)
    : ts.foldlM Delimiter.track opened = some opened := by
  induction nested generalizing opened with
  | nil => rfl
  | token other _ _ ih =>
      rw [List.foldlM_cons, Delimiter.track_of_not_mem other]
      exact ih opened
  | pair _ opens _ closes _ inner rest =>
      rw [List.foldlM_cons, Delimiter.track_opening opens, Option.bind_eq_bind, Option.bind_some,
        List.foldlM_append, inner, Option.bind_eq_bind, Option.bind_some, List.foldlM_cons,
        Delimiter.track_closing closes]
      exact rest opened

/-- What is derived leaves nothing open at the end of a text. -/
theorem Derives.leavesOpen {form : Form} {ts : List Token} (derived : Derives form ts)
    (size : Nat)
    : Guion.leavesOpen [] (ts ++ [.ending size]) = false := by
  have closed : (ts ++ [Token.ending size]).foldlM Delimiter.track [] = some [] := by
    rw [List.foldlM_append, derived.nested.foldlM_track]
    rfl
  have terminated : ts.getLast?.any Token.isUnterminated = false := by
    cases last : ts.getLast? with
    | none => rfl
    | some token =>
        have legal := derived.kind_ne_illegal token (List.mem_of_getLast? last)
        simp [Token.isUnterminated, legal]
  rw [Guion.leavesOpen, closed, List.dropLast_concat, terminated]
  rfl

end Grammar

open Grammar

/-- An input on which there is nothing to report is complete. So there is something to report on
every input for which the editor waits to be continued.
-/
theorem isComplete_of_parse_silent (source : String)
    : ((parse source).errors = [] → Editor.isComplete source = true)
      ∧ (Editor.isComplete source = false → (parse source).errors ≠ []) := by
  have complete (silent : (parse source).errors = []) : Editor.isComplete source = true := by
    have derived := derives_of_silent (List.map_eq_nil_iff.mp silent)
    have closed : Editor.isOpen [] .code source.toList = false :=
      (isOpen_drain [] (.ofString source) source.utf8ByteSize).trans
        (derived.leavesOpen source.utf8ByteSize)
    rw [Editor.isComplete, closed]
    rfl
  refine ⟨complete, fun waits silent => ?_⟩
  rw [complete silent] at waits
  cases waits

/-- A parenthesis in a string opens nothing, and a brace outside of strings does. -/
theorem isComplete_of_parse_silent_quoted
    : Editor.isComplete "si (x) \x7b \"(\"; \x7d" = true
      ∧ (parse "si (x) \x7b").errors ≠ [] := by
  have silent : (parse "si (x) \x7b \"(\"; \x7d").errors = [] :=
    (parse_of_readsAs 12 _
      [.expression (.conditional (.identifier "x") [.expression (.string "(")] none)] []
      (by decide +kernel)).2
  have waits : Editor.isComplete "si (x) \x7b" = false := by decide
  exact ⟨(isComplete_of_parse_silent _).1 silent, (isComplete_of_parse_silent _).2 waits⟩

end Guion
