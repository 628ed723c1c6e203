import Mathlib.Data.Nat.Digits.Defs
import Guion.Text.Escape

/-! Hexadecimal numerals and the numbers that they denote. -/

namespace Guion.Text.Escape

/-- A numeral of a number that has at most 32 bits: the digits of the number, of which there is at
least one, behind a plus sign or none.
-/
def IsHexNumeral (numeral : List Char) (n : Nat) : Prop :=
  ∃ digits,
    (numeral = digits ∨ numeral = '+' :: digits)
    ∧ digits ≠ []
    ∧ (∀ c ∈ digits, (hexDigit? c).isSome)
    ∧ n = Nat.ofDigits 16 (digits.filterMap hexDigit?).reverse
    ∧ n ≤ 0xffffffff

/-- A digit in front only adds to the value. -/
theorem le_ofDigits_append (values : List Nat) (value : Nat)
    : value ≤ Nat.ofDigits 16 (values ++ [value]) := by
  have shift : 0 < 16 ^ values.length := Nat.pow_pos (by decide)
  rw [Nat.ofDigits_append, Nat.ofDigits_singleton]
  exact Nat.le_trans (Nat.le_mul_of_pos_left value shift) (Nat.le_add_left ..)

/-- Two digits in front are worth one that is sixteen times as large. -/
theorem ofDigits_append_pair (values : List Nat) (digit value : Nat)
    : Nat.ofDigits 16 (values ++ [digit, value])
      = Nat.ofDigits 16 (values ++ [16 * value + digit]) := by
  rw [Nat.ofDigits_append, Nat.ofDigits_append, Nat.ofDigits_cons, Nat.ofDigits_singleton,
    Nat.ofDigits_singleton]
  simp [Nat.add_comm]

/-- The bound is checked at every digit, which comes to the same as a check at the end. -/
theorem readHex_eq_ok {value n : Nat} {cs : List Char} (small : value ≤ 0xffffffff)
    : readHex value cs = .ok n
      ↔ (∀ c ∈ cs, (hexDigit? c).isSome)
        ∧ n = Nat.ofDigits 16 ((cs.filterMap hexDigit?).reverse ++ [value])
        ∧ n ≤ 0xffffffff := by
  induction cs generalizing value with
  | nil =>
      simp only [readHex, Except.ok.injEq, List.filterMap_nil, List.reverse_nil, List.nil_append,
        Nat.ofDigits_singleton]
      constructor
      · rintro rfl
        exact ⟨by simp, rfl, small⟩
      · rintro ⟨-, rfl, -⟩
        rfl
  | cons c cs ih =>
      rw [readHex]
      cases known : hexDigit? c with
      | none => simp [known]
      | some digit =>
          simp only [known, List.forall_mem_cons, List.filterMap_cons, List.reverse_cons,
            List.append_assoc, List.singleton_append, ofDigits_append_pair, Option.isSome_some,
            true_and]
          by_cases fits : 16 * value + digit ≤ 0xffffffff
          · rw [if_pos fits, ih fits]
          · rw [if_neg fits]
            constructor
            · intro h
              cases h
            · rintro ⟨-, rfl, bounded⟩
              exact absurd (Nat.le_trans (le_ofDigits_append ..) bounded) fits

/-- Digits without a sign are read as the number that they make up. -/
theorem readHex_zero_eq_ok {n : Nat} {digits : List Char}
    : readHex 0 digits = .ok n
      ↔ (∀ c ∈ digits, (hexDigit? c).isSome)
        ∧ n = Nat.ofDigits 16 (digits.filterMap hexDigit?).reverse
        ∧ n ≤ 0xffffffff := by
  rw [readHex_eq_ok (Nat.zero_le _), Nat.ofDigits_append, Nat.ofDigits_singleton]
  simp

/-- A text is read as the number of which it is a numeral. -/
theorem hexNumber_eq_ok {numeral : List Char} {n : Nat}
    : hexNumber numeral = .ok n ↔ IsHexNumeral numeral n := by
  have signed (cs : List Char) (m : Nat) : readHex 0 ('+' :: cs) ≠ .ok m := by
    intro read
    exact absurd ((readHex_zero_eq_ok.mp read).1 '+' List.mem_cons_self) (by decide)
  simp only [IsHexNumeral, ← readHex_zero_eq_ok]
  unfold hexNumber
  split
  · simp
  · simp [signed]
  · rename_i digits some
    constructor
    · exact fun read => ⟨digits, .inr rfl, fun none => some (by rw [none]), read⟩
    · rintro ⟨_, rfl | spelled, -, read⟩
      · exact absurd read (signed _ _)
      · rwa [(List.cons.inj spelled).2]
  · rename_i some _ unsigned
    constructor
    · exact fun read => ⟨numeral, .inl rfl, some, read⟩
    · rintro ⟨_, rfl | spelled, -, read⟩
      · exact read
      · exact absurd spelled (unsigned _)

/-- No character of a numeral has a meaning of its own in a literal. -/
theorem IsHexNumeral.plain {numeral : List Char} {n : Nat} (names : IsHexNumeral numeral n)
    : ∀ c ∈ numeral, c ≠ '}' ∧ c ≠ '"' ∧ c ≠ '\\' := by
  obtain ⟨digits, spelled, -, valued, -, -⟩ := names
  have plain : ∀ c ∈ digits, c ≠ '}' ∧ c ≠ '"' ∧ c ≠ '\\' := by
    intro c found
    refine ⟨?_, ?_, ?_⟩ <;>
    · rintro rfl
      exact absurd (valued _ found) (by decide)
  rcases spelled with rfl | rfl
  · exact plain
  · exact List.forall_mem_cons.mpr ⟨by decide, plain⟩

theorem hexDigit?_digitChar : ∀ d, d < 16 → hexDigit? (Nat.digitChar d) = some d := by
  decide

/-- The digits of a number make it up, by induction on its leading digits. -/
theorem ofDigits_toDigits (n : Nat)
    : (∀ c ∈ Nat.toDigits 16 n, (hexDigit? c).isSome)
      ∧ Nat.ofDigits 16 ((Nat.toDigits 16 n).filterMap hexDigit?).reverse = n := by
  induction n using Nat.strongRecOn with
  | _ n ih =>
      by_cases single : n < 16
      · rw [Nat.toDigits_of_lt_base single]
        simp [hexDigit?_digitChar n single]
      · obtain ⟨valued, front⟩ := ih (n / 16) (by omega)
        have last : hexDigit? (Nat.digitChar (n % 16)) = some (n % 16) :=
          hexDigit?_digitChar _ (Nat.mod_lt _ (by decide))
        rw [Nat.toDigits_of_base_le (by decide) (by omega)]
        constructor
        · rw [List.forall_mem_append, List.forall_mem_singleton, last]
          exact ⟨valued, rfl⟩
        · simp only [List.filterMap_append, List.filterMap_cons, List.filterMap_nil, last,
            List.reverse_append, List.reverse_singleton, List.singleton_append, Nat.ofDigits_cons,
            front]
          exact Nat.mod_add_div n 16

/-- The digits of a number are a numeral of it. -/
theorem isHexNumeral_toDigits {n : Nat} (small : n ≤ 0xffffffff)
    : IsHexNumeral (Nat.toDigits 16 n) n :=
  ⟨_, .inl rfl, Nat.toDigits_ne_nil, (ofDigits_toDigits n).1, (ofDigits_toDigits n).2.symm, small⟩

end Guion.Text.Escape
