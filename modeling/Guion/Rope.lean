/-! Ropes: lists that are appended to one another in constant time. -/

namespace Guion

/-- A list as the tree of the appends that made it. -/
inductive Rope (α : Type) where
  | empty
  | one (a : α)
  | append (front back : Rope α)

namespace Rope

variable {α : Type}

/-- The elements of several ropes in reverse order, in front of those `seen` before them. -/
def collect (seen : List α) : List (Rope α) → List α
  | [] => seen
  | .empty :: rest => collect seen rest
  | .one a :: rest => collect (a :: seen) rest
  | .append front back :: rest => collect seen (front :: back :: rest)
termination_by ropes => ropes.foldr (fun rope size => sizeOf rope + size) 0
decreasing_by
  all_goals
    simp only [List.foldr_cons, empty.sizeOf_spec, one.sizeOf_spec, append.sizeOf_spec]
    omega

/-- The elements in order. -/
def toList (rope : Rope α) : List α :=
  (collect [] [rope]).reverse

/-- The elements in order, by recursion on the tree. -/
def elements : Rope α → List α
  | .empty => []
  | .one a => [a]
  | .append front back => front.elements ++ back.elements

private theorem collect_eq (seen : List α) (ropes : List (Rope α))
    : collect seen ropes = (ropes.flatMap elements).reverse ++ seen := by
  fun_induction collect seen ropes with
  | case1 => rfl
  | case2 _ _ ih => simp [ih, elements]
  | case3 _ _ _ ih => simp [ih, elements]
  | case4 _ _ _ _ ih => simp [ih, elements]

private theorem toList_eq_elements (rope : Rope α) : rope.toList = rope.elements := by
  simp [toList, collect_eq]

@[simp]
theorem toList_empty : (empty : Rope α).toList = [] :=
  toList_eq_elements _

@[simp]
theorem toList_one (a : α) : (one a).toList = [a] :=
  toList_eq_elements _

@[simp]
theorem toList_append (front back : Rope α)
    : (front.append back).toList = front.toList ++ back.toList := by
  simp [toList_eq_elements, elements]

end Rope

end Guion
