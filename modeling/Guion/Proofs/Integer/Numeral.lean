import Guion.Integer

/-! Decimal numerals and the integers that they denote. -/

namespace Guion.Integer

/-- A literal is a numeral of a value if it has digits only, and these make up the value. -/
structure IsNumeral (literal : String) (value : Integer) : Prop where
  digits : ∀ c ∈ literal.toList, c.isDigit = true
  denotes : value.toInt = Nat.ofDigitChars 10 literal.toList 0

/-- Digits behind others only add to the value. -/
theorem le_ofDigitChars (value : Nat) (cs : List Char)
    : value ≤ Nat.ofDigitChars 10 cs value := by
  induction cs generalizing value with
  | nil => simp
  | cons c cs ih =>
      rw [Nat.ofDigitChars_cons]
      have := ih (10 * value + (c.toNat - '0'.toNat))
      omega

/-- The bound is checked at every digit, which comes to the same as a check at the end. -/
theorem readDigits_eq_some {value n : Nat} {cs : List Char} (small : value ≤ 0x7fffffffffffffff)
    : readDigits value cs = some n
      ↔ (∀ c ∈ cs, c.isDigit = true)
        ∧ n = Nat.ofDigitChars 10 cs value
        ∧ n ≤ 0x7fffffffffffffff := by
  induction cs generalizing value with
  | nil =>
      simp only [readDigits, Option.some.injEq, Nat.ofDigitChars_nil]
      constructor
      · rintro rfl
        exact ⟨by simp, rfl, small⟩
      · rintro ⟨-, rfl, -⟩
        rfl
  | cons c cs ih =>
      rw [readDigits, Nat.ofDigitChars_cons]
      by_cases digit : c.isDigit = true
      · by_cases fits : 10 * value + (c.toNat - '0'.toNat) ≤ 0x7fffffffffffffff
        · simp only [digit, fits, if_true, ih fits, List.forall_mem_cons, true_and]
        · simp only [digit, fits, if_true, if_false, List.forall_mem_cons, true_and]
          constructor
          · intro h
            cases h
          · rintro ⟨-, rfl, bounded⟩
            exact absurd (Nat.le_trans (le_ofDigitChars _ cs) bounded) fits
      · simp [digit]

/-- A literal is read as the value that it denotes, if the value is an integer of the language. -/
theorem ofLiteral?_eq_some {literal : String} {value : Integer}
    : ofLiteral? literal = some value ↔ IsNumeral literal value := by
  simp only [ofLiteral?, Option.bind_eq_some_iff, readDigits_eq_some (Nat.zero_le _),
    ofInt?_eq_some]
  constructor
  · rintro ⟨n, ⟨digits, rfl, -⟩, denotes⟩
    exact ⟨digits, denotes.symm⟩
  · rintro ⟨digits, denotes⟩
    refine ⟨_, ⟨digits, rfl, ?_⟩, denotes.symm⟩
    have := value.upper
    omega

/-- A literal of digits denotes an integer of the language if its value is not too large. -/
theorem exists_isNumeral {literal : String} (digits : ∀ c ∈ literal.toList, c.isDigit = true)
    : (∃ value, IsNumeral literal value)
      ↔ Nat.ofDigitChars 10 literal.toList 0 ≤ 0x7fffffffffffffff := by
  constructor
  · rintro ⟨value, numeral⟩
    have := value.upper
    have := numeral.denotes
    omega
  · intro fits
    exact ⟨⟨Nat.ofDigitChars 10 literal.toList 0, by omega, by omega⟩, digits, rfl⟩

/-- The text of an integer that is not negative has digits only. -/
theorem toList_text {value : Integer} (nonnegative : 0 ≤ value.toInt)
    : value.text.toList = Nat.toDigits 10 value.toInt.toNat := by
  obtain ⟨n, same⟩ := Int.eq_ofNat_of_zero_le nonnegative
  unfold text
  rw [same]
  exact Nat.toList_repr

/-- Such an integer is denoted by its text. -/
theorem isNumeral_text {value : Integer} (nonnegative : 0 ≤ value.toInt)
    : IsNumeral value.text value := by
  have whole := toList_text nonnegative
  refine ⟨fun c found => ?_, ?_⟩
  · rw [whole] at found
    exact Nat.isDigit_of_mem_toDigits (by decide) (by decide) found
  · rw [whole, Nat.ofDigitChars_ten_toDigits]
    exact (Int.toNat_of_nonneg nonnegative).symm

end Guion.Integer
