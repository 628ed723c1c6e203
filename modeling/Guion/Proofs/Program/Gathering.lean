import Guion.Program.Basic

/-! What is gathered from a tree.

The names that a program reads, its strings, or how deep its functions are nested: each of these is
gathered on the same way through the tree, from the leaves up, and what the parts of a node have to
give is joined from left to right. So it is enough to say what names and literals, functions and
statements add to it.
-/

namespace Guion

/-- What there is to gather: from names and literals, from functions, with what was gathered from
the body, and from statements, with what was gathered from the expression.
-/
structure Gathering (α : Type) where
  nothing : α
  join : α → α → α
  ofName : String → α := fun _ => nothing
  ofInteger : Integer → α := fun _ => nothing
  ofString : String → α := fun _ => nothing
  ofFunction : List String → α → α := fun _ body => body
  ofStatement : Statement → α → α := fun _ inside => inside

namespace Gathering

variable {α : Type}

mutual

/-- What is gathered from an expression. -/
def expression (g : Gathering α) : Expression → α
  | .identifier name => g.ofName name
  | .integer value => g.ofInteger value
  | .boolean _ => g.nothing
  | .string value => g.ofString value
  | .unary _ operand => expression g operand
  | .binary left _ right => g.join (expression g left) (expression g right)
  | .conditional condition consequence none =>
      g.join (expression g condition) (statements g consequence)
  | .conditional condition consequence (some alternative) =>
      g.join (expression g condition) (g.join (statements g consequence) (statements g alternative))
  | .function parameters body => g.ofFunction parameters (statements g body)
  | .call callee es => g.join (expression g callee) (arguments g es)

/-- What is gathered inside of a statement, from its expression. -/
def inside (g : Gathering α) : Statement → α
  | .declare _ value | .returning value | .expression value => expression g value

/-- What is gathered from statements. -/
def statements (g : Gathering α) : List Statement → α
  | [] => g.nothing
  | s :: ss => g.join (g.ofStatement s (inside g s)) (statements g ss)

/-- What is gathered from argument expressions. -/
def arguments (g : Gathering α) : List Expression → α
  | [] => g.nothing
  | e :: es => g.join (expression g e) (arguments g es)

end

/-- What is gathered from a statement. -/
def statement (g : Gathering α) (s : Statement) : α :=
  g.ofStatement s (g.inside s)

/-- What was gathered from a part is kept up to the whole, in the sense of a relation. Functions are
left out, as they may let nothing through.
-/
structure Grows (g : Gathering α) (le : α → α → Prop) : Prop where
  refl : ∀ a, le a a
  trans : ∀ {a b c}, le a b → le b c → le a c
  left : ∀ a b, le a (g.join a b)
  right : ∀ a b, le b (g.join a b)
  statement : ∀ s a, le a (g.ofStatement s a)

end Gathering

end Guion
