import Guion.Parsing.Equations

/-! Clean readings: phrases that are read in full and without any report.

The equations of the reader are restated for them, so that what a clean reading went through can be
taken apart, and put together again, one part at a time.
-/

namespace Guion.Parsing

variable {α β : Type} {start part : Position}

/-- A phrase that is read in full up to the token at `last`, with nothing reported in it. -/
structure Clean (phrase : Phrase α start) (value : α) (last : Position) : Prop where
  value_eq : phrase.value = .ok value
  position_eq : phrase.position = last
  silent : phrase.diagnostics.toList = []

/-- A clean reading is in no doubt about its value or its end. -/
theorem Clean.unique {phrase : Phrase α start} {a b : α} {last other : Position}
    (first : Clean phrase a last) (second : Clean phrase b other)
    : a = b ∧ last = other := by
  have values := first.value_eq.symm.trans second.value_eq
  exact ⟨Except.ok.inj values, first.position_eq.symm.trans second.position_eq⟩

@[simp]
theorem clean_accept {value expected : α} {position last : Position}
    {inside : position <:+ start}
    : Clean (accept value position inside) expected last ↔ value = expected ∧ position = last := by
  constructor
  · intro h
    exact ⟨Except.ok.inj h.value_eq, h.position_eq⟩
  · rintro ⟨rfl, rfl⟩
    exact ⟨rfl, rfl, Rope.toList_empty⟩

@[simp]
theorem not_clean_reject {error : ParseError} {value : α} {position last : Position}
    {inside : position <:+ start}
    : ¬ Clean (reject error position inside) value last := by
  intro h
  cases h.value_eq

@[simp]
theorem clean_within {phrase : Phrase α part} {inside : part <:+ start} {value : α}
    {last : Position}
    : Clean (phrase.within inside) value last ↔ Clean phrase value last :=
  ⟨fun ⟨v, p, s⟩ => ⟨v, p, s⟩, fun ⟨v, p, s⟩ => ⟨v, p, s⟩⟩

/-- A phrase is read cleanly if its part is and what stands behind the part. -/
theorem clean_andThen {phrase : Phrase β part} {inside : part <:+ start}
    {next : β → (last : Position) → last.length ≤ part.length → last <:+ start
      → Phrase α start}
    {value : α} {last : Position}
    : Clean (phrase.andThen inside next) value last
      ↔ ∃ b middle, ∃ (shorter : middle.length ≤ part.length) (within : middle <:+ start),
          Clean phrase b middle ∧ Clean (next b middle shorter within) value last := by
  constructor
  · intro h
    obtain ⟨b, found, rest⟩ := Reading.andThen_eq_ok.mp h.value_eq
    rw [Reading.andThen_of_ok found] at h
    have silent := h.silent
    rw [Reading.toList_diagnostics_before, List.append_eq_nil_iff] at silent
    exact ⟨b, phrase.position, phrase.length_le, phrase.position_suffix inside,
      ⟨found, rfl, silent.1⟩, ⟨h.value_eq, h.position_eq, silent.2⟩⟩
  · rintro ⟨b, middle, shorter, within, ⟨found, rfl, silent⟩, rest⟩
    rw [Reading.andThen_of_ok found]
    refine ⟨rest.value_eq, rest.position_eq, ?_⟩
    rw [Reading.toList_diagnostics_before, silent, rest.silent, List.append_nil]

@[simp]
theorem clean_expectNext {kind : Token.Kind} {position last : Position}
    {inside : position <:+ start} {next : position.tail <:+ start → Phrase α start} {value : α}
    : Clean (expectNext kind position inside next) value last
      ↔ Position.nextKind position = kind ∧ Clean (next (tail_suffix inside)) value last := by
  unfold expectNext
  split <;> simp_all

/-- Behind a statement that is read cleanly nothing is lost and nothing is added. -/
theorem readFurther_of_clean (place : Place) {phrase : Phrase Statement start} {s : Statement}
    {last : Position} (clean : Clean phrase s last)
    : (readFurther place phrase).value = s :: (readStatements place last.tail).value
      ∧ (readFurther place phrase).position = (readStatements place last.tail).position
      ∧ (readFurther place phrase).diagnostics.toList
        = (readStatements place last.tail).diagnostics.toList := by
  obtain ⟨found, rfl, silent⟩ := clean
  refine ⟨(readFurther_of_ok found).1, (readFurther_of_ok found).2.1, ?_⟩
  rw [(readFurther_of_ok found).2.2, silent, List.nil_append]

/-- Nothing is reported only if the statement is read cleanly, as every broken one is reported. -/
theorem exists_clean_of_readFurther {place : Place} {phrase : Phrase Statement start}
    (silent : (readFurther place phrase).diagnostics.toList = [])
    : ∃ s last, Clean phrase s last := by
  cases found : phrase.value with
  | ok first =>
      rw [(readFurther_of_ok found).2.2, List.append_eq_nil_iff] at silent
      exact ⟨first, phrase.position, found, rfl, silent.1⟩
  | error error =>
      by_cases closing : place = .block ∧ Position.kind (skip phrase.position) = .rightBrace
      · rw [(readFurther_of_error_closed found closing).2.2] at silent
        simp at silent
      · rw [(readFurther_of_error_open found closing).2.2] at silent
        simp at silent

/-- A block is read cleanly if its statements are and the source goes on behind them. -/
theorem clean_readBlock {ss : List Statement} {last : Position}
    : Clean (readBlock start) ss last
      ↔ (readStatements .block start.tail).value = ss
        ∧ (readStatements .block start.tail).position = last
        ∧ (readStatements .block start.tail).diagnostics.toList = []
        ∧ Position.kind last ≠ .endOfInput := by
  rw [readBlock_eq]
  constructor
  · rintro ⟨value, rfl, silent⟩
    simp only at value
    split at value
    · cases value
    · exact ⟨Except.ok.inj value, rfl, silent, by assumption⟩
  · rintro ⟨rfl, rfl, silent, further⟩
    exact ⟨if_neg further, rfl, silent⟩

/-- A kind of token other than the end is that of a token which stands there. -/
theorem exists_of_kind {position : Position} {kind : Token.Kind}
    (found : Position.kind position = kind) (not_ending : kind ≠ .endOfInput)
    : ∃ token rest, position = token :: rest ∧ token.kind = kind := by
  cases position with
  | nil => exact absurd found.symm not_ending
  | cons token rest => exact ⟨token, rest, rfl, found⟩

end Guion.Parsing
