import Guion.Proofs.Grammar.Stratified

/-! The grammar of programs without strata.

Here an expression is a list of operands with operators between them, and a semicolon may be left
out anywhere. So there is often more than one way to split a text into statements, and more than
one tree. What is generated at all is the same as in the stratified grammar: where a text can be
split in two, the second half can also be read as more of the first.
-/

namespace Guion.Grammar

/-- The kinds of token that stand between two operands. -/
def binarySigns : List Token.Kind :=
  [.plus, .minus, .star, .slash, .equalEqual, .bangEqual, .less, .greater]

theorem mem_binarySigns {kind : Token.Kind}
    : kind ∈ binarySigns ↔ ∃ operator, BinaryOperator.ofKind? kind = some operator := by
  cases kind <;> simp [binarySigns, BinaryOperator.ofKind?]

/-- Two kinds of token stand in front of an operand. -/
theorem exists_unaryOperator {kind : Token.Kind}
    : (∃ operator, UnaryOperator.ofKind? kind = some operator)
      ↔ kind = .bang ∨ kind = .minus := by
  cases kind <;> simp [UnaryOperator.ofKind?]

/-- The symbols of the grammar. -/
inductive Symbol where
  | program
  | statement
  /-- A statement without a semicolon. -/
  | clause
  | expression
  /-- An operand with the operators in front of it. -/
  | operand
  /-- An operand with the arguments of calls behind it. -/
  | applied
  | primary
  /-- The arguments of a call, one at least. -/
  | arguments
  /-- The parameters of a function, one at least. -/
  | parameters
  | block

/-- What a symbol generates:

    program    = statement*
    statement  = clause [Semicolon]
    clause     = Let Identifier Equal expression | Return expression | expression
    expression = operand (binary sign operand)*
    operand    = (Bang | Minus)* applied
    applied    = primary (LeftParen [arguments] RightParen)*
    primary    = Identifier | Integer up to 2^63 - 1 | String | True | False
               | LeftParen expression RightParen
               | If LeftParen expression RightParen block [Else block]
               | Function LeftParen [parameters] RightParen block
    arguments  = expression (Comma expression)*
    parameters = Identifier (Comma Identifier)*
    block      = LeftBrace statement* RightBrace
-/
inductive Generates : Symbol → List Token → Prop where
  | nothing : Generates .program []
  | further {ts us : List Token} (first : Generates .statement ts) (rest : Generates .program us)
      : Generates .program (ts ++ us)
  | closed {semicolon : Token} {ts : List Token} (clause : Generates .clause ts)
      (closes : semicolon.kind = .semicolon)
      : Generates .statement (ts ++ [semicolon])
  | unclosed {ts : List Token} (clause : Generates .clause ts) : Generates .statement ts
  | declare {word name sign : Token} {ts : List Token} (kind : word.kind = .letWord)
      (named : name.kind = .identifier) (equal : sign.kind = .equal)
      (given : Generates .expression ts)
      : Generates .clause (word :: name :: sign :: ts)
  | returning {word : Token} {ts : List Token} (kind : word.kind = .returnWord)
      (given : Generates .expression ts)
      : Generates .clause (word :: ts)
  | bare {ts : List Token} (given : Generates .expression ts) : Generates .clause ts
  | single {ts : List Token} (only : Generates .operand ts) : Generates .expression ts
  | binary {sign : Token} {ts us : List Token} (before : Generates .expression ts)
      (signed : sign.kind ∈ binarySigns) (behind : Generates .operand us)
      : Generates .expression (ts ++ sign :: us)
  | unary {sign : Token} {ts : List Token} (signed : sign.kind = .bang ∨ sign.kind = .minus)
      (inner : Generates .operand ts)
      : Generates .operand (sign :: ts)
  | unsigned {ts : List Token} (inner : Generates .applied ts) : Generates .operand ts
  | callOfNone {opening closing : Token} {ts : List Token} (called : Generates .applied ts)
      (opens : opening.kind = .leftParen) (closes : closing.kind = .rightParen)
      : Generates .applied (ts ++ [opening, closing])
  | call {opening closing : Token} {ts us : List Token} (called : Generates .applied ts)
      (opens : opening.kind = .leftParen) (given : Generates .arguments us)
      (closes : closing.kind = .rightParen)
      : Generates .applied (ts ++ opening :: (us ++ [closing]))
  | uncalled {ts : List Token} (inner : Generates .primary ts) : Generates .applied ts
  | identifier {token : Token} (kind : token.kind = .identifier) : Generates .primary [token]
  /-- The value of a literal is at most 2 ^ 63 - 1. -/
  | integer {token : Token} (kind : token.kind = .integer)
      (bounded : Nat.ofDigitChars 10 token.literal.toList 0 ≤ 0x7fffffffffffffff)
      : Generates .primary [token]
  | string {token : Token} (kind : token.kind = .string) : Generates .primary [token]
  | truth {token : Token} (kind : token.kind = .trueWord) : Generates .primary [token]
  | falsehood {token : Token} (kind : token.kind = .falseWord) : Generates .primary [token]
  | group {opening closing : Token} {ts : List Token} (opens : opening.kind = .leftParen)
      (inner : Generates .expression ts) (closes : closing.kind = .rightParen)
      : Generates .primary (opening :: (ts ++ [closing]))
  | conditional {word opening closing : Token} {ts us : List Token} (kind : word.kind = .ifWord)
      (opens : opening.kind = .leftParen) (tested : Generates .expression ts)
      (closes : closing.kind = .rightParen) (taken : Generates .block us)
      : Generates .primary (word :: opening :: (ts ++ closing :: us))
  | alternative {word opening closing other : Token} {ts us vs : List Token}
      (kind : word.kind = .ifWord) (opens : opening.kind = .leftParen)
      (tested : Generates .expression ts) (closes : closing.kind = .rightParen)
      (taken : Generates .block us) (otherwise : other.kind = .elseWord)
      (refused : Generates .block vs)
      : Generates .primary (word :: opening :: (ts ++ closing :: (us ++ other :: vs)))
  | functionOfNone {word opening closing : Token} {us : List Token}
      (kind : word.kind = .functionWord) (opens : opening.kind = .leftParen)
      (closes : closing.kind = .rightParen) (body : Generates .block us)
      : Generates .primary (word :: opening :: closing :: us)
  | function {word opening closing : Token} {ts us : List Token}
      (kind : word.kind = .functionWord) (opens : opening.kind = .leftParen)
      (named : Generates .parameters ts) (closes : closing.kind = .rightParen)
      (body : Generates .block us)
      : Generates .primary (word :: opening :: (ts ++ closing :: us))
  | argument {ts : List Token} (last : Generates .expression ts) : Generates .arguments ts
  | moreArguments {comma : Token} {ts us : List Token} (first : Generates .expression ts)
      (separates : comma.kind = .comma) (rest : Generates .arguments us)
      : Generates .arguments (ts ++ comma :: us)
  | parameter {name : Token} (kind : name.kind = .identifier) : Generates .parameters [name]
  | moreParameters {name comma : Token} {ts : List Token} (kind : name.kind = .identifier)
      (separates : comma.kind = .comma) (rest : Generates .parameters ts)
      : Generates .parameters (name :: comma :: ts)
  | block {opening closing : Token} {ts : List Token} (opens : opening.kind = .leftBrace)
      (inner : Generates .program ts) (closes : closing.kind = .rightBrace)
      : Generates .block (opening :: (ts ++ [closing]))

-----------------------------------------------------------------------------------------
-- What has a tree is generated
-----------------------------------------------------------------------------------------

/-- The symbol for the expressions of a stratum. -/
def Stratum.symbol : Stratum → Symbol
  | .call => .applied
  | .unary => .operand
  | _ => .expression

/-- The symbol for a form. -/
def Form.symbol : Form → Symbol
  | .expression stratum _ => stratum.symbol
  | .arguments _ => .arguments
  | .parameters _ => .parameters
  | .statement _ => .clause
  | .statements _ => .program
  | .block _ => .block

theorem Generates.of_symbol {stratum : Stratum} {ts : List Token}
    (generated : Generates stratum.symbol ts)
    : Generates .expression ts := by
  cases stratum with
  | call => exact .single (.unsigned generated)
  | unary => exact .single generated
  | equality | comparison | sum | product => exact generated

/-- An operator may stand between any two expressions, as the operands of the second one go on
with those of the first.
-/
theorem Generates.between {sign : Token} {ts us : List Token} (before : Generates .expression ts)
    (signed : sign.kind ∈ binarySigns) (behind : Generates .expression us)
    : Generates .expression (ts ++ sign :: us) := by
  generalize symbol : Symbol.expression = whole at behind
  induction behind with
  | single only => exact .binary before signed only
  | binary _ signed' behind ih =>
      have front := ih symbol
      simpa using front.binary signed' behind
  | _ => cases symbol

/-- The expressions of a tighter stratum are expressions of the looser one. -/
theorem Generates.loosen {stratum : Stratum} {ts : List Token} (inner : stratum ≠ .call)
    (generated : Generates stratum.next.symbol ts)
    : Generates stratum.symbol ts := by
  cases stratum with
  | call => contradiction
  | unary => exact .unsigned generated
  | product => exact .single generated
  | equality | comparison | sum => exact generated

private theorem symbol_ofOperator (operator : BinaryOperator)
    : (Stratum.ofOperator operator).symbol = .expression := by
  cases operator <;> rfl

/-- Whatever has a tree is generated, by the same rules without their strata. -/
theorem Derives.generates {form : Form} {ts : List Token} (derived : Derives form ts)
    : Generates form.symbol ts := by
  induction derived with
  | identifier kind => exact .uncalled (.identifier kind)
  | integer kind numeral =>
      exact .uncalled (.integer kind (Integer.exists_isNumeral numeral.digits |>.mp ⟨_, numeral⟩))
  | string kind => exact .uncalled (.string kind)
  | truth kind => exact .uncalled (.truth kind)
  | falsehood kind => exact .uncalled (.falsehood kind)
  | group opens _ closes inner => exact .uncalled (.group opens inner closes)
  | conditional kind opens _ closes _ tested taken =>
      exact .uncalled (.conditional kind opens tested closes taken)
  | alternative kind opens _ closes _ otherwise _ tested taken refused =>
      exact .uncalled (.alternative kind opens tested closes taken otherwise refused)
  | functionOfNone kind opens closes _ body =>
      exact .uncalled (.functionOfNone kind opens closes body)
  | function kind opens _ closes _ named body =>
      exact .uncalled (.function kind opens named closes body)
  | callOfNone _ opens closes called => exact .callOfNone called opens closes
  | call _ opens _ closes called given => exact .call called opens given closes
  | unary signed _ inner => exact .unary (exists_unaryOperator.mp ⟨_, signed⟩) inner
  | binary _ signed _ before behind =>
      rw [Form.symbol, symbol_ofOperator] at before ⊢
      exact before.between (mem_binarySigns.mpr ⟨_, signed⟩) behind.of_symbol
  | looser inner _ tighter => exact tighter.loosen inner
  | argument _ last => exact .argument last
  | moreArguments _ separates _ first rest => exact .moreArguments first separates rest
  | parameter kind => exact .parameter kind
  | moreParameters kind separates _ rest => exact .moreParameters kind separates rest
  | declare kind named equal _ given => exact .declare kind named equal given
  | returning kind _ given => exact .returning kind given
  | expression _ given => exact .bare given
  | noStatements => exact .nothing
  | closedStatement _ closes _ first rest =>
      have closed := Generates.further (.closed first closes) rest
      simpa [Form.symbol] using closed
  | openStatement _ _ _ first rest => exact .further (.unclosed first) rest
  | block opens _ closes inner => exact .block opens inner closes

-----------------------------------------------------------------------------------------
-- What is generated has a tree
-----------------------------------------------------------------------------------------

/-- An operator and its right operand can be put behind an expression of a looser stratum. They go
to the last part of it that binds no tighter than the operator.
-/
theorem Derives.append_operator {stratum : Stratum} {e right : Expression} {sign : Token}
    {operator : BinaryOperator} {ts us : List Token} (derived : Derives (.expression stratum e) ts)
    (signed : BinaryOperator.ofKind? sign.kind = some operator)
    (inside : stratum.rank ≤ (Stratum.ofOperator operator).rank)
    (behind : Derives (.expression (Stratum.ofOperator operator).next right) us)
    : ∃ e, Derives (.expression stratum e) (ts ++ sign :: us) := by
  have inner := Stratum.rank_ofOperator_lt_unary operator
  have tight := Stratum.unary.rank_le_call
  -- The induction is on the number of strata between the expression and the operator.
  induction between : (Stratum.ofOperator operator).rank - stratum.rank
      generalizing stratum e ts with
  | zero =>
      have same : stratum = .ofOperator operator := Stratum.rank_injective (by omega)
      subst same
      exact ⟨_, .binary derived signed behind⟩
  | succ n ih =>
      cases derived with
      | @binary _ other _ _ _ _ before signed' behind' =>
          have step := Stratum.rank_next (Stratum.ofOperator_ne_call other)
          obtain ⟨_, longer⟩ := ih behind' (by omega) (by omega)
          exact ⟨_, by simpa using before.binary signed' longer⟩
      | looser not_call tighter =>
          have step := Stratum.rank_next not_call
          obtain ⟨e, longer⟩ := ih tighter (by omega) (by omega)
          exact ⟨e, .looser not_call longer⟩
      | _ => omega

/-- What can be put behind the callee of a call can be put behind any expression. It goes to the
last part of it that has no operator outside parentheses.
-/
theorem Derives.append_call {stratum : Stratum} {e : Expression} {ts us : List Token}
    (derived : Derives (.expression stratum e) ts)
    (applies
      : ∀ {callee ts},
          Derives (.expression .call callee) ts → ∃ e, Derives (.expression .call e) (ts ++ us))
    : ∃ e, Derives (.expression stratum e) (ts ++ us) := by
  have whole := derived
  generalize shape : Form.expression stratum e = form at derived whole
  induction derived generalizing stratum e with
  | unary signed inner ih =>
      cases shape
      obtain ⟨_, longer⟩ := ih rfl inner
      exact ⟨_, .unary signed longer⟩
  | binary before signed behind _ ih =>
      cases shape
      obtain ⟨_, longer⟩ := ih rfl behind
      exact ⟨_, by simpa using before.binary signed longer⟩
  | looser inner tighter ih =>
      cases shape
      obtain ⟨_, longer⟩ := ih rfl tighter
      exact ⟨_, .looser inner longer⟩
  | _ =>
      cases shape <;> exact applies whole

theorem continues_append {ts us : List Token} (nonempty : ts ≠ [])
    : Continues (ts ++ us) ↔ Continues ts := by
  unfold Continues
  rw [kind_append nonempty]

/-- Two expressions in a row are one, if the second one starts with a parenthesis or with an
operator that may stand between operands as well. The parenthesis becomes that of a call.
-/
theorem Derives.append_expression {stratum : Stratum} {e other : Expression} {ts us : List Token}
    (derived : Derives (.expression .equality e) ts)
    (behind : Derives (.expression stratum other) us) (continues : Continues us)
    : ∃ e, Derives (.expression .equality e) (ts ++ us) := by
  generalize shape : Form.expression stratum other = form at behind
  induction behind generalizing stratum other with
  | group opens inner closes =>
      exact derived.append_call fun called => ⟨_, .call called opens (.argument inner) closes⟩
  | callOfNone called opens closes ih =>
      rw [continues_append called.expression_ne_nil] at continues
      obtain ⟨_, front⟩ := ih continues rfl
      rw [← List.append_assoc]
      exact front.append_call fun called => ⟨_, .callOfNone called opens closes⟩
  | call called opens given closes ih =>
      rw [continues_append called.expression_ne_nil] at continues
      obtain ⟨_, front⟩ := ih continues rfl
      rw [← List.append_assoc]
      exact front.append_call fun called => ⟨_, .call called opens given closes⟩
  | @unary sign _ _ _ signed inner =>
      -- A sign that goes on with an expression is a minus.
      rcases exists_unaryOperator.mp ⟨_, signed⟩ with bang | minus
      · simp [Continues, Position.kind, bang, BinaryOperator.ofKind?] at continues
      · have signed : BinaryOperator.ofKind? sign.kind = some .subtract := by rw [minus]; rfl
        exact derived.append_operator signed (by decide) (inner.widen (by decide))
  | @binary sign operator _ _ _ _ before signed behind ih =>
      rw [continues_append before.expression_ne_nil] at continues
      obtain ⟨_, front⟩ := ih continues rfl
      rw [← List.append_assoc]
      exact front.append_operator signed (Nat.zero_le _) behind
  | looser inner tighter ih => exact ih continues rfl
  | identifier kind | integer kind | string kind | truth kind | falsehood kind
  | conditional kind | alternative kind | functionOfNone kind | function kind =>
      simp [Continues, Position.kind, kind, BinaryOperator.ofKind?] at continues
  | _ => cases shape

/-- The same for two statements. -/
theorem Derives.append_statement {s other : Statement} {ts us : List Token}
    (derived : Derives (.statement s) ts) (behind : Derives (.statement other) us)
    (continues : Continues us)
    : ∃ s, Derives (.statement s) (ts ++ us) := by
  cases behind with
  | declare kind | returning kind =>
      simp [Continues, Position.kind, kind, BinaryOperator.ofKind?] at continues
  | expression behind =>
      cases derived with
      | declare kind named equal given =>
          obtain ⟨_, longer⟩ := given.append_expression behind continues
          exact ⟨_, .declare kind named equal longer⟩
      | returning kind given =>
          obtain ⟨_, longer⟩ := given.append_expression behind continues
          exact ⟨_, .returning kind longer⟩
      | expression given =>
          obtain ⟨_, longer⟩ := given.append_expression behind continues
          exact ⟨_, .expression longer⟩

/-- A statement may be put in front of others without a semicolon. It may take in the first one. -/
theorem Derives.append_statements {s : Statement} {ss : List Statement} {ts us : List Token}
    (derived : Derives (.statement s) ts) (behind : Derives (.statements ss) us)
    : ∃ ss, Derives (.statements ss) (ts ++ us) := by
  by_cases continues : Continues us
  · cases behind with
    | noStatements => simp [Continues, Position.kind, BinaryOperator.ofKind?] at continues
    | closedStatement first closes rest =>
        rw [continues_append first.statement_ne_nil] at continues
        obtain ⟨_, longer⟩ := derived.append_statement first continues
        rw [← List.append_assoc]
        exact ⟨_, .closedStatement longer closes rest⟩
    | openStatement first ends rest =>
        rw [continues_append first.statement_ne_nil] at continues
        obtain ⟨_, longer⟩ := derived.append_statement first continues
        rw [← List.append_assoc]
        exact ⟨_, .openStatement longer ends rest⟩
  · exact ⟨_, .openStatement derived continues behind⟩

/-- What a symbol generates has a tree, with the semicolon of a statement left aside. -/
def HasTree : Symbol → List Token → Prop
  | .program, ts => ∃ ss, Derives (.statements ss) ts
  | .statement, ts =>
      ∃ s us,
        Derives (.statement s) us
        ∧ (ts = us ∨ ∃ semicolon, semicolon.kind = .semicolon ∧ ts = us ++ [semicolon])
  | .clause, ts => ∃ s, Derives (.statement s) ts
  | .expression, ts => ∃ e, Derives (.expression .equality e) ts
  | .operand, ts => ∃ e, Derives (.expression .unary e) ts
  | .applied, ts | .primary, ts => ∃ e, Derives (.expression .call e) ts
  | .arguments, ts => ∃ es, Derives (.arguments es) ts
  | .parameters, ts => ∃ names, Derives (.parameters names) ts
  | .block, ts => ∃ ss, Derives (.block ss) ts

/-- Whatever is generated has a tree, if the literals of its integers have digits only. -/
theorem Generates.hasTree {symbol : Symbol} {ts : List Token} (generated : Generates symbol ts)
    (numerals
      : ∀ token ∈ ts, token.kind = .integer → ∀ c ∈ token.literal.toList, c.isDigit = true)
    : HasTree symbol ts := by
  induction generated with
  | nothing => exact ⟨[], .noStatements⟩
  | further first rest first_tree rest_tree =>
      rw [List.forall_mem_append] at numerals
      obtain ⟨s, ts, derived, ends⟩ := first_tree numerals.1
      obtain ⟨ss, others⟩ := rest_tree numerals.2
      rcases ends with rfl | ⟨semicolon, closes, rfl⟩
      · exact derived.append_statements others
      · exact ⟨s :: ss, by simpa using derived.closedStatement closes others⟩
  | closed _ closes tree =>
      rw [List.forall_mem_append] at numerals
      obtain ⟨s, derived⟩ := tree numerals.1
      exact ⟨s, _, derived, .inr ⟨_, closes, rfl⟩⟩
  | unclosed _ tree =>
      obtain ⟨s, derived⟩ := tree numerals
      exact ⟨s, _, derived, .inl rfl⟩
  | declare kind named equal _ tree =>
      simp only [List.forall_mem_cons] at numerals
      obtain ⟨value, given⟩ := tree numerals.2.2.2
      exact ⟨_, .declare kind named equal given⟩
  | returning kind _ tree =>
      rw [List.forall_mem_cons] at numerals
      obtain ⟨value, given⟩ := tree numerals.2
      exact ⟨_, .returning kind given⟩
  | bare _ tree =>
      obtain ⟨value, given⟩ := tree numerals
      exact ⟨_, .expression given⟩
  | single _ tree =>
      obtain ⟨e, derived⟩ := tree numerals
      exact ⟨e, derived.widen (by decide)⟩
  | binary _ signed _ before_tree behind_tree =>
      simp only [List.forall_mem_append, List.forall_mem_cons] at numerals
      obtain ⟨left, before⟩ := before_tree numerals.1
      obtain ⟨right, behind⟩ := behind_tree numerals.2.2
      obtain ⟨operator, signed⟩ := mem_binarySigns.mp signed
      have inner := Stratum.rank_ofOperator_lt_unary operator
      have step := Stratum.rank_next (Stratum.ofOperator_ne_call operator)
      exact before.append_operator signed (Nat.zero_le _) (behind.widen (by omega))
  | unary signed _ tree =>
      rw [List.forall_mem_cons] at numerals
      obtain ⟨operand, inner⟩ := tree numerals.2
      obtain ⟨operator, signed⟩ := exists_unaryOperator.mpr signed
      exact ⟨_, .unary signed inner⟩
  | unsigned _ tree =>
      obtain ⟨e, derived⟩ := tree numerals
      exact ⟨e, .looser (by decide) derived⟩
  | callOfNone _ opens closes tree =>
      rw [List.forall_mem_append] at numerals
      obtain ⟨callee, called⟩ := tree numerals.1
      exact ⟨_, .callOfNone called opens closes⟩
  | call _ opens _ closes called_tree given_tree =>
      simp only [List.forall_mem_append, List.forall_mem_cons] at numerals
      obtain ⟨callee, called⟩ := called_tree numerals.1
      obtain ⟨es, given⟩ := given_tree numerals.2.2.1
      exact ⟨_, .call called opens given closes⟩
  | uncalled _ tree => exact tree numerals
  | identifier kind => exact ⟨_, .identifier kind⟩
  | integer kind bounded =>
      have digits := numerals _ (List.mem_singleton_self _) kind
      obtain ⟨value, numeral⟩ := (Integer.exists_isNumeral digits).mpr bounded
      exact ⟨_, .integer kind numeral⟩
  | string kind => exact ⟨_, .string kind⟩
  | truth kind => exact ⟨_, .truth kind⟩
  | falsehood kind => exact ⟨_, .falsehood kind⟩
  | group opens _ closes tree =>
      simp only [List.forall_mem_append, List.forall_mem_cons] at numerals
      obtain ⟨e, inner⟩ := tree numerals.2.1
      exact ⟨_, .group opens inner closes⟩
  | conditional kind opens _ closes _ tested_tree taken_tree =>
      simp only [List.forall_mem_append, List.forall_mem_cons] at numerals
      obtain ⟨condition, tested⟩ := tested_tree numerals.2.2.1
      obtain ⟨consequence, taken⟩ := taken_tree numerals.2.2.2.2
      exact ⟨_, .conditional kind opens tested closes taken⟩
  | alternative kind opens _ closes _ otherwise _ tested_tree taken_tree refused_tree =>
      simp only [List.forall_mem_append, List.forall_mem_cons] at numerals
      obtain ⟨condition, tested⟩ := tested_tree numerals.2.2.1
      obtain ⟨consequence, taken⟩ := taken_tree numerals.2.2.2.2.1
      obtain ⟨alternative, refused⟩ := refused_tree numerals.2.2.2.2.2.2
      exact ⟨_, .alternative kind opens tested closes taken otherwise refused⟩
  | functionOfNone kind opens closes _ tree =>
      simp only [List.forall_mem_cons] at numerals
      obtain ⟨code, body⟩ := tree numerals.2.2.2
      exact ⟨_, .functionOfNone kind opens closes body⟩
  | function kind opens _ closes _ named_tree body_tree =>
      simp only [List.forall_mem_append, List.forall_mem_cons] at numerals
      obtain ⟨names, named⟩ := named_tree numerals.2.2.1
      obtain ⟨code, body⟩ := body_tree numerals.2.2.2.2
      exact ⟨_, .function kind opens named closes body⟩
  | argument _ tree =>
      obtain ⟨e, last⟩ := tree numerals
      exact ⟨_, .argument last⟩
  | moreArguments _ separates _ first_tree rest_tree =>
      simp only [List.forall_mem_append, List.forall_mem_cons] at numerals
      obtain ⟨e, first⟩ := first_tree numerals.1
      obtain ⟨es, rest⟩ := rest_tree numerals.2.2
      exact ⟨_, .moreArguments first separates rest⟩
  | parameter kind => exact ⟨_, .parameter kind⟩
  | moreParameters kind separates _ tree =>
      simp only [List.forall_mem_cons] at numerals
      obtain ⟨names, rest⟩ := tree numerals.2.2
      exact ⟨_, .moreParameters kind separates rest⟩
  | block opens _ closes tree =>
      simp only [List.forall_mem_append, List.forall_mem_cons] at numerals
      obtain ⟨ss, inner⟩ := tree numerals.2.1
      exact ⟨_, .block opens inner closes⟩

end Guion.Grammar
