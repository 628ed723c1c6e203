import Guion.Text.Blank

/-! Whether an input is complete, or further lines have to be read.

An input is incomplete while a parenthesis, a brace or a string literal is open.
-/

namespace Guion.Editor

open Text

/-- Where in an input a character stands. -/
inductive Context where
  | code
  /-- In a string literal, behind a backslash if `escaped`. -/
  | literal (escaped : Bool)
deriving DecidableEq, Repr

/-- Whether something is open at the end of an input. The delimiters in `opened`, the last one
first, are open from the start. A closing delimiter without its opening one is a mistake that more
lines cannot mend, so behind it nothing is open.
-/
def isOpen (opened : List Char) (context : Context) : List Char → Bool
  | [] => !opened.isEmpty || context != .code
  | c :: cs =>
    match context with
    | .literal escaped =>
      if c == '"' && !escaped then
        isOpen opened .code cs
      else
        isOpen opened (.literal (c == '\\' && !escaped)) cs
    | .code =>
      if c == '"' then
        isOpen opened (.literal false) cs
      else if c == '(' || c == '{' then
        isOpen (c :: opened) .code cs
      else if c == ')' then
        opened.head? == some '(' && isOpen opened.tail .code cs
      else if c == '}' then
        opened.head? == some '{' && isOpen opened.tail .code cs
      else
        isOpen opened .code cs

/-- Whether an input can be run as it stands. A blank one needs no test of its own, see
`isComplete_of_blank`.
-/
def isComplete (input : String) : Bool :=
  !isOpen [] .code input.toList

/-- Blanks open nothing, by induction along the input. -/
theorem isOpen_of_blank {cs : List Char} (blank : ∀ c ∈ cs, isBlank c = true)
    : isOpen [] .code cs = false := by
  induction cs with
  | nil => rfl
  | cons c cs ih =>
      obtain ⟨first, blank⟩ := List.forall_mem_cons.mp blank
      have plain : c ≠ '"' ∧ c ≠ '(' ∧ c ≠ '{' ∧ c ≠ ')' ∧ c ≠ '}' := by
        refine ⟨?_, ?_, ?_, ?_, ?_⟩ <;>
        · rintro rfl
          exact absurd first (by decide)
      simp [isOpen, plain, ih blank]

theorem isComplete_of_blank {input : String} (blank : ∀ c ∈ input.toList, isBlank c = true)
    : isComplete input = true := by
  rw [isComplete, isOpen_of_blank blank]
  rfl

end Guion.Editor
