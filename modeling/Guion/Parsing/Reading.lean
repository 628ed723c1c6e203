import Guion.Rope
import Guion.Program.Basic
import Guion.Program.Diagnostic

/-! Readings: what is read from a position on.

What is read starts at the token on which the reader stands, and leaves it on the last token read.
So a reading ends at a position behind its start or at the start itself.
-/

namespace Guion.Parsing

/-- A value, the position of the last token read for it, and the errors reported on the way. -/
structure Reading (α : Type) (start : Position) where
  value : α
  position : Position
  diagnostics : Rope Diagnostic
  suffix : position <:+ start

/-- What is read if it is not broken. In a broken phrase the position is that of the token on which
reading stopped.
-/
abbrev Phrase (α : Type) := Reading (Except ParseError α)

variable {α β : Type} {start part : Position}

/-- A phrase that ends at a position. -/
def accept (value : α) (position : Position) (inside : position <:+ start) : Phrase α start :=
  ⟨.ok value, position, .empty, inside⟩

/-- A phrase that is broken at a position. -/
def reject (error : ParseError) (position : Position) (inside : position <:+ start)
    : Phrase α start :=
  ⟨.error error, position, .empty, inside⟩

namespace Phrase

/-- A phrase in a part ends at a position from the start of the whole. -/
theorem position_suffix (phrase : Phrase β part) (inside : part <:+ start)
    : phrase.position <:+ start :=
  phrase.suffix.trans inside

/-- A phrase ends at its start or behind it. -/
theorem length_le (phrase : Phrase β part) : phrase.position.length ≤ part.length :=
  phrase.suffix.length_le

end Phrase

namespace Reading

/-- A reading from a later position, as one from here. -/
def within (reading : Reading α part) (inside : part <:+ start) : Reading α start :=
  { reading with suffix := reading.suffix.trans inside }

/-- What is read behind another reading, with the errors of that in front. -/
def before (reading : Reading β part) (rest : Reading α start) : Reading α start :=
  { rest with diagnostics := .append reading.diagnostics rest.diagnostics }

@[simp]
theorem value_within (reading : Reading α part) (inside : part <:+ start)
    : (reading.within inside).value = reading.value :=
  rfl

@[simp]
theorem position_within (reading : Reading α part) (inside : part <:+ start)
    : (reading.within inside).position = reading.position :=
  rfl

@[simp]
theorem diagnostics_within (reading : Reading α part) (inside : part <:+ start)
    : (reading.within inside).diagnostics = reading.diagnostics :=
  rfl

@[simp]
theorem value_before (reading : Reading β part) (rest : Reading α start)
    : (reading.before rest).value = rest.value :=
  rfl

@[simp]
theorem position_before (reading : Reading β part) (rest : Reading α start)
    : (reading.before rest).position = rest.position :=
  rfl

@[simp]
theorem toList_diagnostics_before (reading : Reading β part) (rest : Reading α start)
    : (reading.before rest).diagnostics.toList
      = reading.diagnostics.toList ++ rest.diagnostics.toList :=
  Rope.toList_append ..

/-- Goes on behind a part of a phrase, unless the part is broken. -/
def andThen (phrase : Phrase β part) (inside : part <:+ start)
    (next : β → (last : Position) → last.length ≤ part.length → last <:+ start
      → Phrase α start)
    : Phrase α start :=
  match phrase.value with
  | .error error =>
    ⟨.error error, phrase.position, phrase.diagnostics, phrase.position_suffix inside⟩
  | .ok value =>
    phrase.before (next value phrase.position phrase.length_le (phrase.position_suffix inside))

/-- Behind a part that is read in full the rest is read. -/
theorem andThen_of_ok {phrase : Phrase β part} {inside : part <:+ start}
    {next : β → (last : Position) → last.length ≤ part.length → last <:+ start
      → Phrase α start}
    {b : β} (found : phrase.value = .ok b)
    : phrase.andThen inside next
      = phrase.before
          (next b phrase.position phrase.length_le (phrase.position_suffix inside)) := by
  unfold andThen
  split
  · rename_i broken
    cases found.symm.trans broken
  · rename_i found'
    cases found.symm.trans found'
    rfl

/-- A phrase is broken where a part of it is. -/
theorem andThen_of_error {phrase : Phrase β part} {inside : part <:+ start}
    {next : β → (last : Position) → last.length ≤ part.length → last <:+ start
      → Phrase α start}
    {error : ParseError} (broken : phrase.value = .error error)
    : phrase.andThen inside next
      = ⟨.error error, phrase.position, phrase.diagnostics, phrase.position_suffix inside⟩ := by
  unfold andThen
  split
  · rename_i broken'
    cases broken.symm.trans broken'
    rfl
  · rename_i found
    cases broken.symm.trans found

/-- A phrase is read in full if its part is and the rest behind it. -/
theorem andThen_eq_ok {phrase : Phrase β part} {inside : part <:+ start}
    {next : β → (last : Position) → last.length ≤ part.length → last <:+ start
      → Phrase α start} {a : α}
    : (phrase.andThen inside next).value = .ok a
      ↔ ∃ b, phrase.value = .ok b
        ∧ (next b phrase.position phrase.length_le
            (phrase.position_suffix inside)).value = .ok a := by
  unfold andThen
  split <;> simp_all

end Reading

theorem tail_suffix {position : Position} (inside : position <:+ start)
    : position.tail <:+ start :=
  (List.tail_suffix position).trans inside

theorem length_tail_lt {position : Position} {n : Nat} (shorter : position.length < n)
    : position.tail.length < n :=
  Nat.lt_of_le_of_lt (List.tail_sublist position).length_le shorter

/-- What is left behind a position inside of another is no longer than that. -/
theorem length_tail_le {position : Position} {n : Nat} (inside : position <:+ start)
    (short : start.length ≤ n)
    : position.tail.length ≤ n :=
  Nat.le_trans (tail_suffix inside).length_le short

theorem length_tail_lt_cons {position rest : Position} {token : Token}
    (shorter : position.length ≤ (token :: rest).length)
    : position.tail.length < (token :: rest).length := by
  rw [List.length_tail]
  rw [List.length_cons] at *
  omega

theorem length_tail_tail_lt {position : Position} (long : 2 ≤ position.length)
    : position.tail.tail.length < position.length := by
  rw [List.length_tail, List.length_tail]
  omega

/-- There are tokens at a position and behind it if the next kind is that of a token. -/
theorem two_le_length {position : Position} {kind : Token.Kind}
    (next : Position.nextKind position = kind) (not_ending : kind ≠ .endOfInput)
    : 2 ≤ position.length := by
  match position with
  | [] => exact absurd next.symm not_ending
  | [_] => exact absurd next.symm not_ending
  | _ :: _ :: _ => simp

/-- Goes on with the next token, if it has the expected kind. -/
def expectNext (kind : Token.Kind) (position : Position) (inside : position <:+ start)
    (next : position.tail <:+ start → Phrase α start)
    : Phrase α start :=
  if Position.nextKind position = kind then
    next (tail_suffix inside)
  else
    reject (.unexpected kind (Position.nextKind position)) position inside

/-- The names of parameters up to the closing parenthesis. The last one so far stands at `position`,
and the names are `seen` in reverse order.
-/
def names (seen : List String) (position : Position) (inside : position <:+ start)
    : Phrase (List String) start :=
  if _comma : Position.nextKind position = .comma then
    expectNext .identifier position.tail (tail_suffix inside) fun inside =>
      names (Position.literal position.tail.tail :: seen) position.tail.tail inside
  else
    expectNext .rightParen position inside fun inside =>
      accept seen.reverse position.tail inside
termination_by position.length
decreasing_by
  have := two_le_length _comma (by decide)
  simp only [List.length_tail]
  omega

/-- The parameters of a function, from the opening parenthesis up to the closing one. -/
def parameters (start : Position) : Phrase (List String) start :=
  if Position.nextKind start = .rightParen then
    accept [] start.tail (List.tail_suffix _)
  else
    expectNext .identifier start (List.suffix_refl _) fun inside =>
      names [Position.literal start.tail] start.tail inside

/-- The position where a broken statement is given up: its semicolon, the end of the block around it
or the end of the source, or the last token before these two ends.
-/
def skip : Position → Position
  | [] => []
  | token :: rest =>
    if token.kind ∈ [.semicolon, .rightBrace, .endOfInput]
        ∨ Position.kind rest ∈ [.rightBrace, .endOfInput] then
      token :: rest
    else
      skip rest

theorem skip_suffix (position : Position) : skip position <:+ position := by
  induction position with
  | nil => exact List.suffix_refl _
  | cons token rest ih =>
    unfold skip
    split
    · exact List.suffix_refl _
    · exact ih.trans (List.suffix_cons _ _)

/-- The position of the semicolon behind a statement, or of its last token if there is none. -/
def optionalSemicolon (position : Position) : Position :=
  if Position.nextKind position = .semicolon then position.tail else position

theorem optionalSemicolon_suffix {position : Position} (inside : position <:+ start)
    : optionalSemicolon position <:+ start := by
  unfold optionalSemicolon
  split
  · exact tail_suffix inside
  · exact inside

end Guion.Parsing
