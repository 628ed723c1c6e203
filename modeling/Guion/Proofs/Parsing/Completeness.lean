import Guion.Proofs.Grammar.Stratified
import Guion.Proofs.Parsing.Clean

/-! Completeness of reading: tokens that derive a tree are read as this tree.

What stands behind the tokens must not belong to them. The rule for an expression goes on with the
operators behind it, so that a chain of operators is read along its derivation, from left to right.
-/

namespace Guion.Parsing

open Grammar

variable {α β : Type} {start part : Position}

/-- A phrase is read cleanly, and `rest` is left behind it. -/
def Reads (phrase : Phrase α start) (value : α) (rest : List Token) : Prop :=
  ∃ last, Clean phrase value last ∧ last.tail = rest

theorem Reads.within {phrase : Phrase α part} {inside : part <:+ start} {value : α}
    {rest : List Token} (reads : Reads phrase value rest)
    : Reads (phrase.within inside) value rest := by
  obtain ⟨last, clean, behind⟩ := reads
  exact ⟨last, clean_within.mpr clean, behind⟩

/-- Two phrases in a row are read if the second is read from every position in front of what the
first leaves behind it.
-/
theorem Reads.andThen {phrase : Phrase β part} {inside : part <:+ start}
    {next : β → (last : Position) → last.length ≤ part.length → last <:+ start
      → Phrase α start}
    {b : β} {value : α} {middle rest : List Token} (first : Reads phrase b middle)
    (second
      : ∀ last shorter within, last.tail = middle → Reads (next b last shorter within) value rest)
    : Reads (phrase.andThen inside next) value rest := by
  obtain ⟨last, clean, behind⟩ := first
  have shorter : last.length ≤ part.length := clean.position_eq ▸ phrase.length_le
  have within : last <:+ start := clean.position_eq ▸ phrase.position_suffix inside
  obtain ⟨final, clean', behind'⟩ := second last shorter within behind
  exact ⟨final, clean_andThen.mpr ⟨b, last, shorter, within, clean, clean'⟩, behind'⟩

/-- A token stands in front of what is left, unless nothing is. -/
theorem exists_of_tail {last rest : Position} {token : Token} (behind : last.tail = token :: rest)
    : ∃ front, last = front :: token :: rest := by
  cases last with
  | nil => cases behind
  | cons front => exact ⟨front, congrArg _ behind⟩

theorem reads_expectNext {kind : Token.Kind} {position : Position} {inside : position <:+ start}
    {next : position.tail <:+ start → Phrase α start} {value : α} {rest : List Token}
    (found : Position.kind position.tail = kind)
    (further : Reads (next (tail_suffix inside)) value rest)
    : Reads (expectNext kind position inside next) value rest := by
  obtain ⟨last, clean, behind⟩ := further
  exact ⟨last, clean_expectNext.mpr ⟨found, clean⟩, behind⟩

theorem reads_accept {value : α} {position : Position} {inside : position <:+ start}
    {rest : List Token} (behind : position.tail = rest)
    : Reads (accept value position inside) value rest :=
  ⟨position, clean_accept.mpr ⟨rfl, rfl⟩, behind⟩

-----------------------------------------------------------------------------------------
-- What has to be shown of each form
-----------------------------------------------------------------------------------------

/-- What is left once the semicolon at the start is taken, if there is one. -/
def behindSemicolon (tokens : List Token) : List Token :=
  if Position.kind tokens = .semicolon then tokens.tail else tokens

/-- Tokens of a form are read as its tree. An expression is read on from its end, by the rule for
the operators behind it.
-/
def Complete : Form → List Token → Prop
  | .expression stratum e, ts =>
      ∀ level rest value behind,
        (Stratum.within level).rank ≤ stratum.rank
        → Ends stratum rest
        → Position.kind rest ≠ .elseWord
        → (∀ last : Position,
            last.tail = rest → Reads (readOperators level e last) value behind)
        → Reads (readExpression level (ts ++ rest)) value behind
  | .arguments es, ts =>
      ∀ closing rest,
        closing.kind = .rightParen → Reads (readArguments (ts ++ closing :: rest)) es rest
  | .parameters named, ts =>
      ∀ seen closing rest start (inside : ts ++ closing :: rest <:+ start),
        closing.kind = .rightParen
        → Reads (names (Position.literal ts :: seen) (ts ++ closing :: rest) inside)
            (seen.reverse ++ named) rest
  | .statement s, ts =>
      ∀ rest,
        ¬ Continues rest
        → Position.kind rest ≠ .elseWord
        → Reads (readStatement (ts ++ rest)) s (behindSemicolon rest)
  | .statements ss, ts =>
      ∀ place rest,
        closes place (Position.kind rest) = true
        → (readStatements place (ts ++ rest)).value = ss
          ∧ (readStatements place (ts ++ rest)).position = rest
          ∧ (readStatements place (ts ++ rest)).diagnostics.toList = []
  | .block ss, ts => ∀ rest, Reads (readBlock (ts ++ rest)) ss rest

/-- An expression is read at the level of its stratum if nothing behind it binds tighter. -/
theorem Complete.reads {level : Precedence} {e : Expression} {ts rest : List Token}
    (complete : Complete (.expression (.within level) e) ts) (stops : Stops level rest)
    (no_else : Position.kind rest ≠ .elseWord)
    : Reads (readExpression level (ts ++ rest)) e rest := by
  refine complete level rest e rest (Nat.le_refl _) stops.ends_within no_else
    fun last behind => ?_
  subst behind
  exact ⟨last, by rw [readOperators_end stops.call stops.operator]; simp, rfl⟩

/-- The same in front of a token with which every expression ends. -/
theorem Complete.reads_before {e : Expression} {ts : List Token} {token : Token}
    (complete : Complete (.expression .equality e) ts) (rest : List Token)
    (kind : token.kind = .rightParen ∨ token.kind = .comma)
    : Reads (readExpression .lowest (ts ++ token :: rest)) e (token :: rest) := by
  have ends : ¬ Continues (token :: rest) := by
    rintro (opens | ⟨operator, signed⟩)
    · have opens : token.kind = .leftParen := opens
      simp [opens] at kind
    · have signed : BinaryOperator.ofKind? token.kind = some operator := signed
      rcases kind with kind | kind <;> rw [kind] at signed <;> cases signed
  have no_else : token.kind ≠ .elseWord := by
    intro no_else
    simp [no_else] at kind
  have complete : Complete (.expression (.within .lowest) e) ts := complete
  exact complete.reads (stops_of_not_continues ends) no_else

/-- An expression of the innermost stratum is read if it is an operand. -/
theorem complete_of_operand {e : Expression} {ts : List Token} {stratum : Stratum}
    (operand
      : ∀ rest,
          Ends stratum rest
          → Position.kind rest ≠ .elseWord
          → Reads (readOperand (ts ++ rest)) e rest)
    : Complete (.expression stratum e) ts := by
  intro level rest value behind _ ends no_else further
  rw [readExpression_eq]
  exact (operand rest ends no_else).andThen fun last _ _ there => (further last there).within

-----------------------------------------------------------------------------------------
-- Operands
-----------------------------------------------------------------------------------------

/-- A function needs no parameters. -/
theorem reads_noParameters {opening closing : Token} {rest : List Token}
    (closes : closing.kind = .rightParen)
    : Reads (parameters (opening :: closing :: rest)) [] rest := by
  rw [parameters, if_pos (show Position.nextKind (opening :: closing :: rest) = _ from closes)]
  exact reads_accept rfl

/-- Parameters are read between parentheses. -/
theorem reads_parameters {opening closing : Token} {named : List String}
    {ts rest : List Token} (derived : Derives (.parameters named) ts)
    (complete : Complete (.parameters named) ts) (closes : closing.kind = .rightParen)
    : Reads (parameters (opening :: (ts ++ closing :: rest))) named rest := by
  have head := derived.heads
  cases ts with
  | nil => cases head
  | cons name ts =>
      have named : name.kind = .identifier := head
      rw [parameters, if_neg (by simp [Position.nextKind, Position.kind, named])]
      exact reads_expectNext named (complete [] closing rest _ _ closes)

private theorem kind_block_append {ss : List Statement} {us : List Token}
    (derived : Derives (.block ss) us) (rest : List Token)
    : Position.kind (us ++ rest) = .leftBrace := by
  have head := derived.heads
  cases us with
  | nil => cases head
  | cons => exact head

private theorem reads_conditional {word opening closing : Token} {condition : Expression}
    {consequence : List Statement} {ts us rest tokens : List Token} (kind : word.kind = .ifWord)
    (opens : opening.kind = .leftParen)
    (tested : Complete (.expression .equality condition) ts) (closes : closing.kind = .rightParen)
    (braces : Derives (.block consequence) us) (taken : Complete (.block consequence) us)
    (no_else : Position.kind rest ≠ .elseWord)
    (here : tokens = word :: opening :: (ts ++ closing :: (us ++ rest)))
    : Reads (readOperand tokens) (.conditional condition consequence none) rest := by
  subst here
  rw [readOperand_ifWord kind]
  refine reads_expectNext opens ?_
  have first := tested.reads_before (us ++ rest) (.inl closes)
  refine first.andThen fun last _ _ there => ?_
  obtain ⟨front, rfl⟩ := exists_of_tail there
  refine reads_expectNext closes (reads_expectNext (kind_block_append braces rest) ?_)
  refine (taken rest).andThen fun last _ _ there => ?_
  subst there
  have no_else : Position.nextKind last ≠ .elseWord := no_else
  rw [if_neg no_else]
  exact reads_accept rfl

private theorem reads_alternative {word opening closing other : Token} {condition : Expression}
    {consequence alternative : List Statement} {ts us vs : List Token}
    (kind : word.kind = .ifWord) (opens : opening.kind = .leftParen)
    (tested : Complete (.expression .equality condition) ts) (closes : closing.kind = .rightParen)
    (braces : Derives (.block consequence) us) (taken : Complete (.block consequence) us)
    (otherwise : other.kind = .elseWord)
    (braces' : Derives (.block alternative) vs) (refused : Complete (.block alternative) vs)
    {rest tokens : List Token}
    (here : tokens = word :: opening :: (ts ++ closing :: (us ++ other :: (vs ++ rest))))
    : Reads (readOperand tokens) (.conditional condition consequence (some alternative)) rest := by
  subst here
  rw [readOperand_ifWord kind]
  refine reads_expectNext opens ?_
  have first := tested.reads_before (us ++ other :: (vs ++ rest)) (.inl closes)
  refine first.andThen fun last _ _ there => ?_
  obtain ⟨front, rfl⟩ := exists_of_tail there
  refine reads_expectNext closes (reads_expectNext (kind_block_append braces _) ?_)
  refine (taken _).andThen fun last _ _ there => ?_
  obtain ⟨front, rfl⟩ := exists_of_tail there
  have otherwise : Position.nextKind (front :: other :: (vs ++ rest)) = .elseWord := otherwise
  rw [if_pos otherwise]
  refine reads_expectNext (kind_block_append braces' rest) ?_
  refine (refused rest).andThen fun last _ _ there => ?_
  exact reads_accept there

private theorem reads_function {word opening : Token} {named : List String}
    {code : List Statement} {between us rest tokens : List Token}
    (kind : word.kind = .functionWord) (opens : opening.kind = .leftParen)
    (given : Reads (parameters (opening :: between)) named (us ++ rest))
    (braces : Derives (.block code) us) (body : Complete (.block code) us)
    (here : tokens = word :: opening :: between)
    : Reads (readOperand tokens) (.function named code) rest := by
  subst here
  rw [readOperand_functionWord kind]
  refine reads_expectNext opens ?_
  refine given.andThen fun last _ _ there => ?_
  have brace := kind_block_append braces rest
  obtain ⟨token, tokens, block_here, _⟩ := exists_of_kind brace (by decide)
  rw [block_here] at there
  obtain ⟨front, rfl⟩ := exists_of_tail there
  refine reads_expectNext (block_here ▸ brace) ?_
  have block := body rest
  rw [block_here] at block
  exact block.andThen fun last _ _ there => reads_accept there

private theorem reads_group {opening closing : Token} {e : Expression} {ts : List Token}
    (opens : opening.kind = .leftParen) (inner : Complete (.expression .equality e) ts)
    (closes : closing.kind = .rightParen) {rest tokens : List Token}
    (here : tokens = opening :: (ts ++ closing :: rest))
    : Reads (readOperand tokens) e rest := by
  subst here
  rw [readOperand_leftParen opens]
  have first := inner.reads_before rest (.inl closes)
  refine first.andThen fun last _ _ there => ?_
  obtain ⟨front, rfl⟩ := exists_of_tail there
  exact reads_expectNext closes (reads_accept rfl)

private theorem reads_unary {sign : Token} {operator : UnaryOperator} {operand : Expression}
    {ts rest : List Token} (signed : UnaryOperator.ofKind? sign.kind = some operator)
    (inner : Complete (.expression .unary operand) ts) (ends : Ends .unary rest)
    (no_else : Position.kind rest ≠ .elseWord)
    : Reads (readOperand (sign :: (ts ++ rest))) (.unary operator operand) rest := by
  have first : Reads (readExpression .unary (ts ++ rest)) operand rest :=
    Complete.reads inner (stops_unary.mpr ends) no_else
  rw [readOperand_unary signed]
  exact first.andThen fun last _ _ there => reads_accept there

-----------------------------------------------------------------------------------------
-- Calls and operators
-----------------------------------------------------------------------------------------

private theorem complete_callOfNone {opening closing : Token} {callee : Expression}
    {ts : List Token} (called : Complete (.expression .call callee) ts)
    (opens : opening.kind = .leftParen) (closes : closing.kind = .rightParen)
    : Complete (.expression .call (.call callee [])) (ts ++ [opening, closing]) := by
  intro level rest value behind inside _ no_else further
  rw [List.append_assoc]
  refine called level _ value behind inside (ends_call _) (by simp [Position.kind, opens])
    fun last there => ?_
  have opens : Position.nextKind last = .leftParen := by
    rw [Position.nextKind, there]
    exact opens
  have closes : Position.nextKind last.tail = .rightParen := by
    rw [Position.nextKind, there]
    exact closes
  rw [readOperators_call_nil opens closes]
  refine (further _ ?_).within
  rw [there]
  rfl

private theorem complete_call {opening closing : Token} {callee : Expression}
    {es : List Expression} {ts us : List Token} (called : Complete (.expression .call callee) ts)
    (opens : opening.kind = .leftParen) (derived : Derives (.arguments es) us)
    (given : Complete (.arguments es) us) (closes : closing.kind = .rightParen)
    : Complete (.expression .call (.call callee es)) (ts ++ opening :: (us ++ [closing])) := by
  intro level rest value behind inside _ no_else further
  have shape : ts ++ opening :: (us ++ [closing]) ++ rest
      = ts ++ opening :: (us ++ closing :: rest) := by
    simp
  rw [shape]
  refine called level _ value behind inside (ends_call _) (by simp [Position.kind, opens])
    fun last there => ?_
  obtain ⟨front, rfl⟩ := exists_of_tail there
  have more : Position.kind (us ++ closing :: rest) ≠ .rightParen := by
    have head : Position.kind us ∈ starters := derived.heads
    rw [kind_append (ne_nil_of_kind head (by decide))]
    intro closes
    rw [closes] at head
    exact absurd head (by decide)
  have opens : Position.nextKind (front :: opening :: (us ++ closing :: rest)) = .leftParen := opens
  rw [readOperators_call opens more]
  refine (given closing rest closes).andThen fun last _ _ there => ?_
  exact (further last there).within

/-- The left operand is read up to the operator, and the right one at the level of the operator. -/
private theorem complete_binary {sign : Token} {operator : BinaryOperator}
    {left right : Expression} {ts us : List Token}
    (before : Complete (.expression (.ofOperator operator) left) ts)
    (signed : BinaryOperator.ofKind? sign.kind = some operator)
    (behind : Complete (.expression (Stratum.ofOperator operator).next right) us)
    : Complete (.expression (.ofOperator operator) (.binary left operator right))
        (ts ++ sign :: us) := by
  intro level rest value final inside ends no_else further
  have shape : ts ++ sign :: us ++ rest = ts ++ sign :: (us ++ rest) := by simp
  rw [shape]
  have sign_ends : Ends (.ofOperator operator) (sign :: (us ++ rest)) := by
    constructor
    · intro opens
      have opens : sign.kind = .leftParen := opens
      rw [opens] at signed
      cases signed
    · intro other found
      obtain rfl := Option.some.inj (signed.symm.trans found)
      exact Nat.le_refl _
  have sign_no_else : Position.kind (sign :: (us ++ rest)) ≠ .elseWord := by
    intro no_else
    have no_else : sign.kind = .elseWord := no_else
    rw [no_else] at signed
    cases signed
  refine before level _ value final inside sign_ends sign_no_else fun last there => ?_
  obtain ⟨front, rfl⟩ := exists_of_tail there
  have signed : BinaryOperator.ofKind? (Position.nextKind (front :: sign :: (us ++ rest)))
      = some operator :=
    signed
  rw [readOperators_binary signed ((Stratum.lt_precedence_iff level operator).mpr inside)]
  rw [← Stratum.within_precedence] at behind
  refine (behind.reads (stops_precedence.mpr ends) no_else).andThen fun last _ _ there => ?_
  exact (further last there).within

-----------------------------------------------------------------------------------------
-- Arguments, parameters and statements
-----------------------------------------------------------------------------------------

private theorem complete_argument {e : Expression} {ts : List Token}
    (last : Complete (.expression .equality e) ts)
    : Complete (.arguments [e]) ts := by
  intro closing rest closes
  rw [readArguments_eq]
  have first := last.reads_before rest (.inl closes)
  refine first.andThen fun last _ _ there => ?_
  obtain ⟨front, rfl⟩ := exists_of_tail there
  have ends : Position.nextKind (front :: closing :: rest) ≠ .comma := by
    simp [Position.nextKind, Position.kind, closes]
  rw [if_neg ends]
  exact reads_expectNext closes (reads_accept rfl)

private theorem complete_moreArguments {comma : Token} {e : Expression} {es : List Expression}
    {ts us : List Token} (first : Complete (.expression .equality e) ts)
    (separates : comma.kind = .comma) (others : Complete (.arguments es) us)
    : Complete (.arguments (e :: es)) (ts ++ comma :: us) := by
  intro closing rest closes
  have shape : ts ++ comma :: us ++ closing :: rest = ts ++ comma :: (us ++ closing :: rest) := by
    simp
  rw [shape, readArguments_eq]
  have first := first.reads_before (us ++ closing :: rest) (.inr separates)
  refine first.andThen fun last _ _ there => ?_
  obtain ⟨front, rfl⟩ := exists_of_tail there
  have further : Position.nextKind (front :: comma :: (us ++ closing :: rest)) = .comma :=
    separates
  rw [if_pos further]
  exact (others closing rest closes).andThen fun last _ _ there => reads_accept there

private theorem complete_parameter {name : Token}
    : Complete (.parameters [name.literal]) [name] := by
  intro seen closing rest start inside closes
  have ends : Position.nextKind ([name] ++ closing :: rest) ≠ .comma := by
    simp [Position.nextKind, Position.kind, closes]
  rw [names, dif_neg ends]
  refine reads_expectNext closes ?_
  simp only [Position.literal, List.reverse_cons]
  exact reads_accept rfl

private theorem complete_moreParameters {name comma : Token} {named : List String}
    {ts : List Token} (separates : comma.kind = .comma) (derived : Derives (.parameters named) ts)
    (others : Complete (.parameters named) ts)
    : Complete (.parameters (name.literal :: named)) (name :: comma :: ts) := by
  intro seen closing rest start inside closes
  have further : Position.nextKind (name :: comma :: ts ++ closing :: rest) = .comma := separates
  have head := derived.heads
  cases ts with
  | nil => cases head
  | cons next ts =>
      rw [names, dif_pos further]
      refine reads_expectNext head ?_
      have inside : next :: ts ++ closing :: rest <:+ start :=
        tail_suffix (tail_suffix inside)
      simpa [Position.literal] using others (name.literal :: seen) closing rest start inside closes

private theorem reads_closing {make : Expression → Statement} {value : Expression}
    {ts rest : List Token} {inside : ts ++ rest <:+ start}
    (complete : Complete (.expression .equality value) ts) (ends : ¬ Continues rest)
    (no_else : Position.kind rest ≠ .elseWord)
    : Reads (readClosing make (ts ++ rest) inside) (make value) (behindSemicolon rest) := by
  have complete : Complete (.expression (.within .lowest) value) ts := complete
  refine (complete.reads (stops_of_not_continues ends) no_else).andThen fun last _ _ there => ?_
  refine reads_accept ?_
  unfold optionalSemicolon behindSemicolon Position.nextKind
  rw [there]
  split
  · rfl
  · exact there

private theorem complete_declare {word name sign : Token} {value : Expression} {ts : List Token}
    (kind : word.kind = .letWord) (named : name.kind = .identifier) (equal : sign.kind = .equal)
    (given : Complete (.expression .equality value) ts)
    : Complete (.statement (.declare name.literal value)) (word :: name :: sign :: ts) := by
  intro rest ends no_else
  have kind : Position.kind (word :: name :: sign :: ts ++ rest) = .letWord := kind
  rw [readStatement_letWord kind]
  exact reads_expectNext named (reads_expectNext equal (reads_closing given ends no_else))

private theorem complete_returning {word : Token} {value : Expression} {ts : List Token}
    (kind : word.kind = .returnWord) (given : Complete (.expression .equality value) ts)
    : Complete (.statement (.returning value)) (word :: ts) := by
  intro rest ends no_else
  have kind : Position.kind (word :: ts ++ rest) = .returnWord := kind
  rw [readStatement_returnWord kind]
  exact reads_closing given ends no_else

private theorem complete_expression {value : Expression} {ts : List Token}
    (derived : Derives (.expression .equality value) ts)
    (given : Complete (.expression .equality value) ts)
    : Complete (.statement (.expression value)) ts := by
  intro rest ends no_else
  have head : Position.kind (ts ++ rest) ∈ starters := by
    rw [kind_append derived.expression_ne_nil]
    exact derived.heads
  have no_let : Position.kind (ts ++ rest) ≠ .letWord := by
    intro kind
    rw [kind] at head
    exact absurd head (by decide)
  have no_return : Position.kind (ts ++ rest) ≠ .returnWord := by
    intro kind
    rw [kind] at head
    exact absurd head (by decide)
  rw [readStatement_expression no_let no_return]
  exact reads_closing given ends no_else

/-- A statement does not start with a token that ends the statements of a place. -/
theorem closes_eq_false (place : Place) {s : Statement} {ts : List Token}
    (derived : Derives (.statement s) ts) (rest : List Token)
    : closes place (Position.kind (ts ++ rest)) = false := by
  have head : Position.kind ts ∈ .letWord :: .returnWord :: starters := derived.heads
  rw [kind_append derived.statement_ne_nil]
  cases kind : Position.kind ts <;> rw [kind] at head <;>
    first | exact absurd head (by decide) | cases place <;> rfl

/-- What ends the statements of a place cannot be read as more of a statement. -/
theorem not_continues_of_closes {place : Place} {rest : List Token}
    (closed : closes place (Position.kind rest) = true)
    : ¬ Continues rest := by
  rintro (opens | ⟨operator, signed⟩)
  · rw [opens] at closed
    cases place <;> cases closed
  · have both : Position.kind rest = .endOfInput ∨ Position.kind rest = .rightBrace := by
      simp only [closes, decide_eq_true_eq] at closed
      exact closed.imp_right And.right
    rcases both with kind | kind <;> rw [kind] at signed <;> cases signed

/-- A statement is read in front of others if these are read from where it ends. -/
private theorem reads_further {place : Place} {s : Statement} {ss : List Statement}
    {tokens behind rest : List Token} (opened : closes place (Position.kind tokens) = false)
    (first : Reads (readStatement tokens) s behind)
    (others
      : (readStatements place behind).value = ss
        ∧ (readStatements place behind).position = rest
        ∧ (readStatements place behind).diagnostics.toList = [])
    : (readStatements place tokens).value = s :: ss
      ∧ (readStatements place tokens).position = rest
      ∧ (readStatements place tokens).diagnostics.toList = [] := by
  cases tokens with
  | nil => cases place <;> cases opened
  | cons token tokens =>
      obtain ⟨last, clean, rfl⟩ := first
      obtain ⟨values, positions, diagnostics⟩ := readFurther_of_clean place clean
      obtain ⟨rfl, rfl, silent⟩ := others
      rw [readStatements_open opened]
      exact ⟨values, positions, diagnostics.trans silent⟩

private theorem complete_noStatements : Complete (.statements []) [] := by
  intro place rest closed
  cases rest with
  | nil => simp
  | cons token rest =>
      rw [List.nil_append, readStatements_closed closed]
      exact ⟨rfl, rfl, Rope.toList_empty⟩

/-- A statement is read up to the semicolon behind it. -/
theorem Complete.reads_closed {s : Statement} {ts : List Token} {semicolon : Token}
    (complete : Complete (.statement s) ts) (ends : semicolon.kind = .semicolon)
    (rest : List Token)
    : Reads (readStatement (ts ++ semicolon :: rest)) s rest := by
  have ends : Position.kind (semicolon :: rest) = .semicolon := ends
  have stops : ¬ Continues (semicolon :: rest) := by
    simp [Continues, ends, BinaryOperator.ofKind?]
  have reads := complete (semicolon :: rest) stops (by simp [ends])
  rwa [behindSemicolon, if_pos ends, List.tail_cons] at reads

/-- Without a semicolon it is read in front of what cannot be read as more of it. -/
theorem Complete.reads_open {s : Statement} {ts rest : List Token}
    (complete : Complete (.statement s) ts) (ends : ¬ Continues rest)
    (no_else : Position.kind rest ≠ .elseWord) (no_semicolon : Position.kind rest ≠ .semicolon)
    : Reads (readStatement (ts ++ rest)) s rest := by
  have reads := complete rest ends no_else
  rwa [behindSemicolon, if_neg no_semicolon] at reads

/-- What separates a statement from the one behind it does so whatever stands behind both. -/
theorem separate_append {ss : List Statement} {us : List Token}
    (derived : Derives (.statements ss) us) (nonempty : us ≠ []) (ends : ¬ Continues us)
    (rest : List Token)
    : ¬ Continues (us ++ rest)
      ∧ Position.kind (us ++ rest) ≠ .elseWord
      ∧ Position.kind (us ++ rest) ≠ .semicolon := by
  have head : Position.kind us ∈ .letWord :: .returnWord :: starters :=
    derived.heads.resolve_left nonempty
  unfold Continues at ends ⊢
  rw [kind_append nonempty]
  refine ⟨ends, ?_, ?_⟩ <;>
  · intro kind
    rw [kind] at head
    exact absurd head (by decide)

private theorem complete_closedStatement {s : Statement} {ss : List Statement}
    {semicolon : Token} {ts us : List Token} (derived : Derives (.statement s) ts)
    (first : Complete (.statement s) ts) (ends : semicolon.kind = .semicolon)
    (others : Complete (.statements ss) us)
    : Complete (.statements (s :: ss)) (ts ++ semicolon :: us) := by
  intro place rest closed
  have shape : ts ++ semicolon :: us ++ rest = ts ++ semicolon :: (us ++ rest) := by simp
  rw [shape]
  exact reads_further (closes_eq_false place derived _) (first.reads_closed ends _)
    (others place rest closed)

private theorem complete_openStatement {s : Statement} {ss : List Statement}
    {ts us : List Token} (derived : Derives (.statement s) ts) (first : Complete (.statement s) ts)
    (ends : ¬ Continues us) (others_derived : Derives (.statements ss) us)
    (others : Complete (.statements ss) us)
    : Complete (.statements (s :: ss)) (ts ++ us) := by
  intro place rest closed
  -- What follows is another statement, or else the end of the place.
  have next : ¬ Continues (us ++ rest)
      ∧ Position.kind (us ++ rest) ≠ .elseWord
      ∧ Position.kind (us ++ rest) ≠ .semicolon := by
    by_cases nonempty : us = []
    · subst nonempty
      refine ⟨not_continues_of_closes closed, ?_, ?_⟩ <;>
      · intro kind
        rw [List.nil_append] at kind
        rw [kind] at closed
        cases place <;> cases closed
    · exact separate_append others_derived nonempty ends rest
  rw [List.append_assoc]
  exact reads_further (closes_eq_false place derived _)
    (first.reads_open next.1 next.2.1 next.2.2) (others place rest closed)

private theorem complete_block {opening closing : Token} {ss : List Statement} {ts : List Token}
    (inner : Complete (.statements ss) ts) (ends : closing.kind = .rightBrace)
    : Complete (.block ss) (opening :: (ts ++ [closing])) := by
  intro rest
  have shape : opening :: (ts ++ [closing]) ++ rest = opening :: (ts ++ closing :: rest) := by simp
  obtain ⟨values, positions, silent⟩ :=
    inner .block (closing :: rest) (by simp [closes, Position.kind, ends])
  rw [shape]
  refine ⟨closing :: rest, clean_readBlock.mpr ⟨values, positions, silent, ?_⟩, rfl⟩
  simp [Position.kind, ends]

/-- What is derived for a form is read as its tree, by induction on the derivation. -/
theorem complete {form : Form} {ts : List Token} (derived : Derives form ts)
    : Complete form ts := by
  induction derived with
  | identifier kind =>
      refine complete_of_operand fun rest _ _ => ?_
      rw [List.singleton_append, readOperand_identifier kind]
      exact reads_accept rfl
  | integer kind numeral =>
      refine complete_of_operand fun rest _ _ => ?_
      rw [List.singleton_append, readOperand_integer kind,
        Integer.ofLiteral?_eq_some.mpr numeral]
      exact reads_accept rfl
  | string kind =>
      refine complete_of_operand fun rest _ _ => ?_
      rw [List.singleton_append, readOperand_string kind]
      exact reads_accept rfl
  | truth kind =>
      refine complete_of_operand fun rest _ _ => ?_
      rw [List.singleton_append, readOperand_trueWord kind]
      exact reads_accept rfl
  | falsehood kind =>
      refine complete_of_operand fun rest _ _ => ?_
      rw [List.singleton_append, readOperand_falseWord kind]
      exact reads_accept rfl
  | group opens _ closes inner =>
      exact complete_of_operand fun rest _ _ => reads_group opens inner closes (by simp)
  | conditional kind opens _ closes braces tested taken =>
      refine complete_of_operand fun rest _ no_else => ?_
      exact reads_conditional kind opens tested closes braces taken no_else (by simp)
  | alternative kind opens _ closes braces otherwise braces' tested taken refused =>
      refine complete_of_operand fun rest _ _ => ?_
      exact reads_alternative kind opens tested closes braces taken otherwise braces' refused
        (by simp)
  | functionOfNone kind opens closes braces body =>
      refine complete_of_operand fun rest _ _ => ?_
      exact reads_function kind opens (reads_noParameters closes) braces body rfl
  | function kind opens named closes braces given body =>
      refine complete_of_operand fun rest _ _ => ?_
      exact reads_function kind opens (reads_parameters named given closes) braces body (by simp)
  | callOfNone _ opens closes called => exact complete_callOfNone called opens closes
  | call _ opens given closes called arguments =>
      exact complete_call called opens given arguments closes
  | unary signed _ inner =>
      exact complete_of_operand fun rest ends no_else => reads_unary signed inner ends no_else
  | binary _ signed _ before behind => exact complete_binary before signed behind
  | looser inner _ tighter =>
      intro level rest value behind inside ends no_else further
      have step := Stratum.rank_next inner
      exact tighter level rest value behind (by omega) (ends.mono (by omega)) no_else further
  | argument _ last => exact complete_argument last
  | moreArguments _ separates _ first others =>
      exact complete_moreArguments first separates others
  | parameter => exact complete_parameter
  | moreParameters _ separates rest others =>
      exact complete_moreParameters separates rest others
  | declare kind named equal _ given => exact complete_declare kind named equal given
  | returning kind _ given => exact complete_returning kind given
  | expression derived given => exact complete_expression derived given
  | noStatements => exact complete_noStatements
  | closedStatement first ends _ complete others =>
      exact complete_closedStatement first complete ends others
  | openStatement first ends rest complete others =>
      exact complete_openStatement first complete ends rest others
  | block _ _ ends inner => exact complete_block inner ends

end Guion.Parsing
