import Guion.Proofs.Editor.Delimiters
import Guion.Proofs.Grammar.Stratified

/-! Delimiters in programs.

What is derived closes every parenthesis and every brace that it opens, and it closes first what it
opened last.
-/

namespace Guion

namespace Delimiter

/-- The kind of the tokens that open a pair. -/
def openingKind : Delimiter → Token.Kind
  | .paren => .leftParen
  | .brace => .leftBrace

/-- The kind of the tokens that close a pair. -/
def closingKind : Delimiter → Token.Kind
  | .paren => .rightParen
  | .brace => .rightBrace

end Delimiter

namespace Grammar

/-- Tokens in which all delimiters come in pairs, one beside or inside another, and of which none
stands for the end of a text.
-/
inductive Nested : List Token → Prop where
  | nil : Nested []
  | token {token : Token} {ts : List Token} (other : token.kind ∉ Delimiter.kinds)
      (inside : token.kind ≠ .endOfInput) (rest : Nested ts)
      : Nested (token :: ts)
  | pair {opening closing : Token} {ts us : List Token} (pair : Delimiter)
      (opens : opening.kind = pair.openingKind) (inner : Nested ts)
      (closes : closing.kind = pair.closingKind) (rest : Nested us)
      : Nested (opening :: (ts ++ closing :: us))

namespace Nested

variable {token opening closing : Token} {ts us : List Token}

theorem append (first : Nested ts) (second : Nested us) : Nested (ts ++ us) := by
  induction first with
  | nil => exact second
  | token other inside _ ih => exact .token other inside ih
  | pair kind opens inner closes _ _ ih =>
      rw [List.cons_append, List.append_assoc]
      exact .pair kind opens inner closes ih

/-- A token of a kind that is no delimiter. -/
theorem of_kind {kind : Token.Kind} (found : token.kind = kind) (rest : Nested ts)
    (other : kind ∉ Delimiter.kinds := by decide) (inside : kind ≠ .endOfInput := by decide)
    : Nested (token :: ts) :=
  .token (found ▸ other) (found ▸ inside) rest

theorem parens (opens : opening.kind = .leftParen) (inner : Nested ts)
    (closes : closing.kind = .rightParen) (rest : Nested us)
    : Nested (opening :: (ts ++ closing :: us)) :=
  .pair .paren opens inner closes rest

theorem braces (opens : opening.kind = .leftBrace) (inner : Nested ts)
    (closes : closing.kind = .rightBrace) (rest : Nested us)
    : Nested (opening :: (ts ++ closing :: us)) :=
  .pair .brace opens inner closes rest

theorem of_unary {operator : UnaryOperator}
    (signed : UnaryOperator.ofKind? token.kind = some operator) (rest : Nested ts)
    : Nested (token :: ts) := by
  cases kind : token.kind <;> rw [kind] at signed <;>
    first | exact .of_kind kind rest | cases signed

theorem of_binary {operator : BinaryOperator}
    (signed : BinaryOperator.ofKind? token.kind = some operator) (rest : Nested ts)
    : Nested (token :: ts) := by
  cases kind : token.kind <;> rw [kind] at signed <;>
    first | exact .of_kind kind rest | cases signed

end Nested

/-- What is derived leaves no delimiter open and closes none that it has not opened. -/
theorem Derives.nested {form : Form} {ts : List Token} (derived : Derives form ts)
    : Nested ts := by
  induction derived with
  | identifier kind | integer kind | string kind | truth kind | falsehood kind | parameter kind =>
      exact .of_kind kind .nil
  | group opens _ closes inner => exact .parens opens inner closes .nil
  | block opens _ closes inner => exact .braces opens inner closes .nil
  | conditional kind opens _ closes _ tested taken =>
      exact .of_kind kind (.parens opens tested closes taken)
  | alternative kind opens _ closes _ otherwise _ tested taken refused =>
      exact .of_kind kind (.parens opens tested closes (taken.append (.of_kind otherwise refused)))
  | functionOfNone kind opens closes _ body =>
      exact .of_kind kind (.parens opens .nil closes body)
  | function kind opens _ closes _ named body =>
      exact .of_kind kind (.parens opens named closes body)
  | callOfNone _ opens closes called => exact called.append (.parens opens .nil closes .nil)
  | call _ opens _ closes called given => exact called.append (.parens opens given closes .nil)
  | unary signed _ inner => exact .of_unary signed inner
  | binary _ signed _ before behind => exact before.append (.of_binary signed behind)
  | looser _ _ ih | argument _ ih | expression _ ih => exact ih
  | moreArguments _ separates _ first rest | closedStatement _ separates _ first rest =>
      exact first.append (.of_kind separates rest)
  | moreParameters kind separates _ rest => exact .of_kind kind (.of_kind separates rest)
  | declare kind named equal _ given =>
      exact .of_kind kind (.of_kind named (.of_kind equal given))
  | returning kind _ given => exact .of_kind kind given
  | noStatements => exact .nil
  | openStatement _ _ _ first rest => exact first.append rest

end Grammar

end Guion
