/-! The integers of the language: those that fit into 64 bits with a sign.

Each operation is exact: it yields the mathematical result, or nothing if that does not fit.
-/

namespace Guion

/-- An integer from -2^63 to 2^63 - 1. -/
structure Integer where
  toInt : Int
  lower : -0x8000000000000000 ≤ toInt
  upper : toInt ≤ 0x7fffffffffffffff
deriving DecidableEq, Repr

namespace Integer

/-- The integer of a value, if it fits. -/
def ofInt? (n : Int) : Option Integer :=
  if h : -0x8000000000000000 ≤ n ∧ n ≤ 0x7fffffffffffffff then some ⟨n, h.1, h.2⟩ else none

@[ext]
theorem ext {a b : Integer} (h : a.toInt = b.toInt) : a = b := by
  cases a
  cases b
  cases h
  rfl

theorem ofInt?_toInt (a : Integer) : ofInt? a.toInt = some a :=
  dif_pos ⟨a.lower, a.upper⟩

theorem ofInt?_eq_some {n : Int} {a : Integer} : ofInt? n = some a ↔ n = a.toInt := by
  constructor
  · intro h
    unfold ofInt? at h
    split at h <;> cases h
    rfl
  · rintro rfl
    exact ofInt?_toInt a

/-- The length of a text, which is never near the bound. -/
def ofNat (n : Nat) : Integer :=
  (ofInt? n).getD ⟨0, by decide, by decide⟩

def neg? (a : Integer) : Option Integer := ofInt? (-a.toInt)

def add? (a b : Integer) : Option Integer := ofInt? (a.toInt + b.toInt)

def sub? (a b : Integer) : Option Integer := ofInt? (a.toInt - b.toInt)

def mul? (a b : Integer) : Option Integer := ofInt? (a.toInt * b.toInt)

/-- The quotient rounded toward zero. -/
def quotient? (a b : Integer) : Option Integer :=
  if b.toInt = 0 then none else ofInt? (a.toInt.tdiv b.toInt)

/-- What the quotient rounded toward zero leaves. There is nothing to leave where that does not
fit.
-/
def remainder? (a b : Integer) : Option Integer :=
  (a.quotient? b).bind fun _ => ofInt? (a.toInt.tmod b.toInt)

/-- Whether the quotient has been rounded up by the rounding toward zero. -/
def isRoundedUp (a b remainder : Integer) : Bool :=
  remainder.toInt ≠ 0 && decide (a.toInt < 0) != decide (b.toInt < 0)

/-- The quotient rounded toward negative infinity: the one rounded toward zero, or the next lower
one.
-/
def div? (a b : Integer) : Option Integer :=
  (a.quotient? b).bind fun quotient =>
  (a.remainder? b).bind fun remainder =>
  if isRoundedUp a b remainder then quotient.sub? ⟨1, by decide, by decide⟩ else some quotient

/-- Reads decimal digits behind those that make up `value`, up to the first that is too many. -/
def readDigits (value : Nat) : List Char → Option Nat
  | [] => some value
  | c :: cs =>
    if c.isDigit then
      let next := 10 * value + (c.toNat - '0'.toNat)
      if next ≤ 0x7fffffffffffffff then readDigits next cs else none
    else
      none

/-- The integer that a decimal literal denotes, if it fits. -/
def ofLiteral? (literal : String) : Option Integer :=
  (readDigits 0 literal.toList).bind fun n => ofInt? n

/-- The decimal digits of an integer, behind a minus sign if it is negative. -/
def text (a : Integer) : String :=
  toString a.toInt

end Integer

end Guion
