import Guion.Integer

/-! Division rounds toward negative infinity, and goes through none but integers that fit.

Of its steps only the first can fail: once the quotient rounded toward zero is known to fit, so do
the remainder and the next lower quotient.
-/

namespace Guion.Integer

variable {a b quotient remainder : Integer}

theorem ofInt?_of_bounds {n : Int} (lower : -0x8000000000000000 ≤ n)
    (upper : n ≤ 0x7fffffffffffffff)
    : ofInt? n = some ⟨n, lower, upper⟩ :=
  dif_pos ⟨lower, upper⟩

theorem quotient?_of_ne (nonzero : b.toInt ≠ 0)
    : a.quotient? b = ofInt? (a.toInt.tdiv b.toInt) :=
  if_neg nonzero

/-- The quotient rounded toward zero is found if it fits. -/
theorem quotient?_eq_some
    : a.quotient? b = some quotient ↔ b.toInt ≠ 0 ∧ a.toInt.tdiv b.toInt = quotient.toInt := by
  unfold quotient?
  split
  · rename_i zero
    simp [zero]
  · rename_i nonzero
    simp [ofInt?_eq_some, nonzero]

/-- The remainder is smaller than the divisor, so it fits. -/
theorem exists_tmod (nonzero : b.toInt ≠ 0)
    : ∃ remainder : Integer, remainder.toInt = a.toInt.tmod b.toInt := by
  have size := Int.natAbs_tmod a.toInt b.toInt
  have small : a.toInt.natAbs % b.toInt.natAbs < b.toInt.natAbs := Nat.mod_lt _ (by omega)
  have lower := b.lower
  have upper := b.upper
  exact ⟨⟨a.toInt.tmod b.toInt, by omega, by omega⟩, rfl⟩

/-- Only one and minus one, which leave no remainder, take the quotient near the bounds. -/
theorem natAbs_tdiv_le (leaves : remainder.toInt = a.toInt.tmod b.toInt) (nonzero : b.toInt ≠ 0)
    (some : remainder.toInt ≠ 0)
    : (a.toInt.tdiv b.toInt).natAbs ≤ 0x4000000000000000 := by
  have rest := Int.natAbs_tmod a.toInt b.toInt
  have divisor : 2 ≤ b.toInt.natAbs := by
    have units : b.toInt.natAbs ≠ 1 := by
      intro unit
      rw [unit, Nat.mod_one] at rest
      omega
    omega
  have lower := a.lower
  have upper := a.upper
  calc
    (a.toInt.tdiv b.toInt).natAbs = a.toInt.natAbs / b.toInt.natAbs := Int.natAbs_tdiv ..
    _ ≤ a.toInt.natAbs / 2 := Nat.div_le_div_left divisor (by decide)
    _ ≤ 0x4000000000000000 := by omega

/-- The quotient rounded toward zero is the one rounded toward negative infinity, or the next higher
one where it has been rounded up.
-/
theorem tdiv_eq (leaves : remainder.toInt = a.toInt.tmod b.toInt) (nonzero : b.toInt ≠ 0)
    : a.toInt.tdiv b.toInt
      = a.toInt.fdiv b.toInt + if isRoundedUp a b remainder then 1 else 0 := by
  have divided : b.toInt ∣ a.toInt ↔ remainder.toInt = 0 := by
    rw [leaves, Int.dvd_iff_tmod_eq_zero]
  rw [Int.fdiv_eq_tdiv, isRoundedUp]
  by_cases none : remainder.toInt = 0
  · simp [divided, none]
  · rcases Int.lt_or_gt_of_ne nonzero with negative | positive
    · by_cases sign : a.toInt < 0
      · simp [divided, none, sign, negative, Int.not_le_of_gt sign, Int.not_le_of_gt negative,
          Int.sign_eq_neg_one_of_neg negative]
      · simp [divided, none, sign, negative, Int.not_lt.mp sign, Int.not_le_of_gt negative]
    · have nonnegative := Int.le_of_lt positive
      by_cases sign : a.toInt < 0
      · simp [divided, none, sign, Int.not_le_of_gt sign, nonnegative,
          Int.not_lt.mpr nonnegative, Int.sign_eq_one_of_pos positive]
      · simp [divided, none, sign, Int.not_lt.mp sign, nonnegative, Int.not_lt.mpr nonnegative]

-----------------------------------------------------------------------------------------
-- The steps of division
-----------------------------------------------------------------------------------------

/-- Once there is a quotient, there is a remainder. -/
theorem exists_remainder (divided : a.quotient? b = some quotient)
    : ∃ remainder,
        a.remainder? b = some remainder ∧ remainder.toInt = a.toInt.tmod b.toInt := by
  obtain ⟨remainder, leaves⟩ := exists_tmod (a := a) (quotient?_eq_some.mp divided).1
  refine ⟨remainder, ?_, leaves⟩
  rw [remainder?, divided, Option.bind_some, ofInt?_eq_some, leaves]

theorem remainder_ne_zero_of_isRoundedUp (up : isRoundedUp a b remainder = true)
    : remainder.toInt ≠ 0 := by
  simp only [isRoundedUp, Bool.and_eq_true, decide_eq_true_eq] at up
  exact up.1

/-- Below a quotient that has been rounded up, there is a next lower one. -/
theorem exists_lower (divided : a.quotient? b = some quotient)
    (left : a.remainder? b = some remainder) (up : isRoundedUp a b remainder = true)
    : ∃ lower,
        quotient.sub? ⟨1, by decide, by decide⟩ = some lower
        ∧ lower.toInt = quotient.toInt - 1 := by
  obtain ⟨nonzero, same⟩ := quotient?_eq_some.mp divided
  obtain ⟨_, found, leaves⟩ := exists_remainder divided
  obtain rfl := Option.some.inj (found.symm.trans left)
  have small := natAbs_tdiv_le leaves nonzero (remainder_ne_zero_of_isRoundedUp up)
  refine ⟨⟨quotient.toInt - 1, by omega, by omega⟩, ?_, rfl⟩
  exact ofInt?_of_bounds ..

/-- The quotient rounded toward negative infinity is found if it fits. -/
theorem div?_eq (nonzero : b.toInt ≠ 0) : a.div? b = ofInt? (a.toInt.fdiv b.toInt) := by
  cases divided : a.quotient? b with
  | none =>
      obtain ⟨remainder, leaves⟩ := exists_tmod (a := a) nonzero
      have same := tdiv_eq leaves nonzero
      rw [quotient?_of_ne nonzero] at divided
      have exact : ¬ isRoundedUp a b remainder = true := by
        intro up
        have small := natAbs_tdiv_le leaves nonzero (remainder_ne_zero_of_isRoundedUp up)
        rw [ofInt?_of_bounds (by omega) (by omega)] at divided
        cases divided
      rw [if_neg exact, Int.add_zero] at same
      rw [div?, quotient?_of_ne nonzero, divided, ← same, divided]
      rfl
  | some quotient =>
      obtain ⟨remainder, left, leaves⟩ := exists_remainder divided
      have same := (quotient?_eq_some.mp divided).2.symm.trans (tdiv_eq leaves nonzero)
      rw [div?, divided, Option.bind_some, left, Option.bind_some]
      split
      · rename_i up
        obtain ⟨lower, found, below⟩ := exists_lower divided left up
        rw [if_pos up] at same
        rw [found, eq_comm, ofInt?_eq_some]
        omega
      · rename_i exact
        rw [if_neg exact] at same
        rw [eq_comm, ofInt?_eq_some]
        omega

end Guion.Integer
