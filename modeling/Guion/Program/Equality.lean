import Guion.Recursion
import Guion.Program.Size

/-! Equality of programs is decided, however deep the trees are.

Main statement: `same_iff`.
-/

namespace Guion

namespace Comparison

open Size

/-- Two parts of a program that are to be compared. -/
inductive Pair where
  | expressions (a b : Expression)
  | statements (a b : Statement)
  | blocks (as bs : List Statement)
  | arguments (as bs : List Expression)

namespace Pair

/-- The size of the first part. -/
@[simp]
noncomputable def size : Pair → Nat
  | expressions a _ => sizeOf a
  | statements a _ => sizeOf a
  | blocks as _ => sizeOf as
  | arguments as _ => sizeOf as

/-- Both parts are the same tree. -/
def Same : Pair → Prop
  | expressions a b => a = b
  | statements a b => a = b
  | blocks as bs => as = bs
  | arguments as bs => as = bs

end Pair

/-- Parts are compared by the smaller parts in them. -/
abbrev lower (a b : Pair) : Prop :=
  a.size < b.size

theorem lower_wellFounded : WellFounded lower :=
  InvImage.wf Pair.size Nat.lt_wfRel.wf

theorem lower_of_size {a b : Pair} (smaller : a.size < b.size) : lower a b :=
  smaller

/-- A comparison of which some questions are open. -/
abbrev Test (allowed : Pair → Prop) := Plan (fun _ : Pair => Bool) allowed Bool

/-- Holds if the pair is the same and the rest of the test holds. -/
def also {allowed : Pair → Prop} (pair : Pair) (smaller : allowed pair)
    (rest : Test allowed)
    : Test allowed :=
  .ask pair smaller fun same => if same then rest else .done false

/-- The comparison of two parts, from the comparisons of smaller parts. -/
def body (pair : Pair) : Test (lower · pair) :=
  match pair with
  | .expressions (.identifier a) (.identifier b) => .done (a == b)
  | .expressions (.integer a) (.integer b) => .done (a == b)
  | .expressions (.boolean a) (.boolean b) => .done (a == b)
  | .expressions (.string a) (.string b) => .done (a == b)
  | .expressions (.unary f a) (.unary g b) =>
    also (.expressions a b) (lower_of_size (operand_lt_unary ..)) (.done (f == g))
  | .expressions (.binary a f b) (.binary c g d) =>
    also (.expressions a c) (lower_of_size (left_lt_binary ..))
    <| also (.expressions b d) (lower_of_size (right_lt_binary ..)) (.done (f == g))
  | .expressions (.conditional c t none) (.conditional d u none) =>
    also (.expressions c d) (lower_of_size (condition_lt_conditional ..))
    <| .ask (.blocks t u) (lower_of_size (consequence_lt_conditional ..)) .done
  | .expressions (.conditional c t (some e)) (.conditional d u (some f)) =>
    also (.expressions c d) (lower_of_size (condition_lt_conditional ..))
    <| also (.blocks t u) (lower_of_size (consequence_lt_conditional ..))
    <| .ask (.blocks e f) (lower_of_size (alternative_lt_conditional ..)) .done
  | .expressions (.function ps as) (.function qs bs) =>
    also (.blocks as bs) (lower_of_size (body_lt_function ..)) (.done (ps == qs))
  | .expressions (.call f as) (.call g bs) =>
    also (.expressions f g) (lower_of_size (callee_lt_call ..))
    <| .ask (.arguments as bs) (lower_of_size (arguments_lt_call ..)) .done
  | .statements (.declare m a) (.declare n b) =>
    also (.expressions a b) (lower_of_size (value_lt_declare ..)) (.done (m == n))
  | .statements (.returning a) (.returning b) =>
    .ask (.expressions a b) (lower_of_size (value_lt_returning ..)) .done
  | .statements (.expression a) (.expression b) =>
    .ask (.expressions a b) (lower_of_size (value_lt_expression ..)) .done
  | .blocks [] [] => .done true
  | .blocks (a :: as) (b :: bs) =>
    also (.statements a b) (lower_of_size (first_lt_cons ..))
    <| .ask (.blocks as bs) (lower_of_size (rest_lt_cons ..)) .done
  | .arguments [] [] => .done true
  | .arguments (a :: as) (b :: bs) =>
    also (.expressions a b) (lower_of_size (first_lt_cons ..))
    <| .ask (.arguments as bs) (lower_of_size (rest_lt_cons ..)) .done
  | _ => .done false

/-- Whether both parts are the same tree. -/
def same (pair : Pair) : Bool :=
  Plan.run lower_wellFounded body pair

theorem same_eq (pair : Pair) : same pair = (body pair).result same :=
  Plan.run_eq lower_wellFounded body pair

@[simp]
theorem result_also {allowed : Pair → Prop} (pair : Pair) (smaller : allowed pair)
    (rest : Test allowed)
    : ((also pair smaller rest).result same = true)
      ↔ (same pair = true ∧ rest.result same = true) := by
  unfold also
  cases h : same pair <;> simp [h]

/-- A tree always goes with itself: two parts of different make are not the same. -/
private theorem body_same {pair : Pair} (same : pair.Same)
    : body pair ≠ .done false := by
  cases pair with
  | expressions a b =>
    cases same
    cases a with
    | conditional c t e => cases e <;> simp [body, also]
    | _ => simp [body, also]
  | statements a b =>
    cases same
    cases a <;> simp [body, also]
  | blocks as bs =>
    cases same
    cases as <;> simp [body, also]
  | arguments as bs =>
    cases same
    cases as <;> simp [body, also]

theorem same_iff (pair : Pair) : same pair = true ↔ pair.Same := by
  induction pair using lower_wellFounded.induction with
  | _ pair ih =>
    have he := fun a b h => ih (.expressions a b) h
    have hs := fun a b h => ih (.statements a b) h
    have hb := fun a b h => ih (.blocks a b) h
    have ha := fun a b h => ih (.arguments a b) h
    simp only [Pair.Same] at he hs hb ha
    have different := @body_same pair
    rw [same_eq]
    unfold body at *
    split <;> simp +arith [Pair.Same, he, hs, hb, ha, and_comm]
    simp_all [Pair.Same]

end Comparison

open Comparison

/-- Equal programs are those with the same tree. -/
instance Program.decidableEq : DecidableEq Program := fun a b =>
  decidable_of_iff (same (.blocks a b) = true) (same_iff _)

end Guion
