import Guion.Program.Precedence
import Guion.Program.Diagnostic
import Guion.Proofs.Integer.Numeral

/-! The grammar of programs, with the tree of each derivation.

Expressions come in strata, one for each level of binary operators and one each for the operators
in front of an operand and for calls. An expression of a stratum has its loosest operator on the
left, so operators of one level group to the left. Statements need no semicolon, unless what
follows could be read as more of their expression.
-/

namespace Guion.Grammar

/-- The strata of expressions, from the loosest operators to calls. -/
inductive Stratum where
  | equality
  | comparison
  | sum
  | product
  | unary
  | call
deriving DecidableEq

namespace Stratum

/-- The next tighter stratum. There is none inside calls but their own. -/
def next : Stratum → Stratum
  | .equality => .comparison
  | .comparison => .sum
  | .sum => .product
  | .product => .unary
  | .unary => .call
  | .call => .call

/-- The stratum in which an operator stands. -/
def ofOperator : BinaryOperator → Stratum
  | .equal | .notEqual => .equality
  | .less | .greater => .comparison
  | .add | .subtract => .sum
  | .multiply | .divide => .product

/-- The number of looser strata. -/
def rank : Stratum → Nat
  | .equality => 0
  | .comparison => 1
  | .sum => 2
  | .product => 3
  | .unary => 4
  | .call => 5

/-- The stratum of the expressions whose operators bind tighter than a level. -/
def within : Precedence → Stratum
  | .lowest => .equality
  | .equality => .comparison
  | .comparison => .sum
  | .sum => .product
  | .product => .unary
  | .unary => .unary

end Stratum

/-- Whether the tokens from here on could be read as more of an expression that ends in front of
them: they start with a binary operator or with the parenthesis of a call.
-/
def Continues (tokens : List Token) : Prop :=
  Position.kind tokens = .leftParen
  ∨ ∃ operator, BinaryOperator.ofKind? (Position.kind tokens) = some operator

/-- What a list of tokens may be derived as, with its tree. -/
inductive Form where
  | expression (stratum : Stratum) (e : Expression)
  /-- The arguments of a call, one at least. -/
  | arguments (es : List Expression)
  /-- The parameters of a function, one at least. -/
  | parameters (names : List String)
  /-- A statement without the semicolon behind it. -/
  | statement (s : Statement)
  | statements (ss : List Statement)
  | block (ss : List Statement)

/-- The rules of the grammar. -/
inductive Derives : Form → List Token → Prop where
  | identifier {token : Token} (kind : token.kind = .identifier)
      : Derives (.expression .call (.identifier token.literal)) [token]
  | integer {token : Token} {value : Integer} (kind : token.kind = .integer)
      (numeral : Integer.IsNumeral token.literal value)
      : Derives (.expression .call (.integer value)) [token]
  | string {token : Token} (kind : token.kind = .string)
      : Derives (.expression .call (.string token.literal)) [token]
  | truth {token : Token} (kind : token.kind = .trueWord)
      : Derives (.expression .call (.boolean true)) [token]
  | falsehood {token : Token} (kind : token.kind = .falseWord)
      : Derives (.expression .call (.boolean false)) [token]
  /-- Parentheses leave no trace in the tree. -/
  | group {opening closing : Token} {e : Expression} {ts : List Token}
      (opens : opening.kind = .leftParen) (inner : Derives (.expression .equality e) ts)
      (closes : closing.kind = .rightParen)
      : Derives (.expression .call e) (opening :: (ts ++ [closing]))
  | conditional {word opening closing : Token} {condition : Expression}
      {consequence : List Statement} {ts us : List Token}
      (kind : word.kind = .ifWord) (opens : opening.kind = .leftParen)
      (tested : Derives (.expression .equality condition) ts)
      (closes : closing.kind = .rightParen) (taken : Derives (.block consequence) us)
      : Derives (.expression .call (.conditional condition consequence none))
          (word :: opening :: (ts ++ closing :: us))
  | alternative {word opening closing other : Token} {condition : Expression}
      {consequence alternative : List Statement} {ts us vs : List Token}
      (kind : word.kind = .ifWord) (opens : opening.kind = .leftParen)
      (tested : Derives (.expression .equality condition) ts)
      (closes : closing.kind = .rightParen) (taken : Derives (.block consequence) us)
      (otherwise : other.kind = .elseWord) (refused : Derives (.block alternative) vs)
      : Derives (.expression .call (.conditional condition consequence (some alternative)))
          (word :: opening :: (ts ++ closing :: (us ++ other :: vs)))
  | functionOfNone {word opening closing : Token} {code : List Statement} {us : List Token}
      (kind : word.kind = .functionWord) (opens : opening.kind = .leftParen)
      (closes : closing.kind = .rightParen) (body : Derives (.block code) us)
      : Derives (.expression .call (.function [] code)) (word :: opening :: closing :: us)
  | function {word opening closing : Token} {names : List String} {code : List Statement}
      {ts us : List Token}
      (kind : word.kind = .functionWord) (opens : opening.kind = .leftParen)
      (named : Derives (.parameters names) ts) (closes : closing.kind = .rightParen)
      (body : Derives (.block code) us)
      : Derives (.expression .call (.function names code))
          (word :: opening :: (ts ++ closing :: us))
  | callOfNone {opening closing : Token} {callee : Expression} {ts : List Token}
      (called : Derives (.expression .call callee) ts) (opens : opening.kind = .leftParen)
      (closes : closing.kind = .rightParen)
      : Derives (.expression .call (.call callee [])) (ts ++ [opening, closing])
  | call {opening closing : Token} {callee : Expression} {es : List Expression}
      {ts us : List Token}
      (called : Derives (.expression .call callee) ts) (opens : opening.kind = .leftParen)
      (given : Derives (.arguments es) us) (closes : closing.kind = .rightParen)
      : Derives (.expression .call (.call callee es)) (ts ++ opening :: (us ++ [closing]))
  | unary {sign : Token} {operator : UnaryOperator} {operand : Expression} {ts : List Token}
      (signed : UnaryOperator.ofKind? sign.kind = some operator)
      (inner : Derives (.expression .unary operand) ts)
      : Derives (.expression .unary (.unary operator operand)) (sign :: ts)
  | binary {sign : Token} {operator : BinaryOperator} {left right : Expression}
      {ts us : List Token}
      (before : Derives (.expression (.ofOperator operator) left) ts)
      (signed : BinaryOperator.ofKind? sign.kind = some operator)
      (behind : Derives (.expression (Stratum.ofOperator operator).next right) us)
      : Derives (.expression (.ofOperator operator) (.binary left operator right))
          (ts ++ sign :: us)
  /-- An expression of a tighter stratum is one of the looser stratum as well. -/
  | looser {stratum : Stratum} {e : Expression} {ts : List Token} (inner : stratum ≠ .call)
      (tighter : Derives (.expression stratum.next e) ts)
      : Derives (.expression stratum e) ts
  | argument {e : Expression} {ts : List Token} (last : Derives (.expression .equality e) ts)
      : Derives (.arguments [e]) ts
  | moreArguments {comma : Token} {e : Expression} {es : List Expression} {ts us : List Token}
      (first : Derives (.expression .equality e) ts) (separates : comma.kind = .comma)
      (rest : Derives (.arguments es) us)
      : Derives (.arguments (e :: es)) (ts ++ comma :: us)
  | parameter {name : Token} (kind : name.kind = .identifier)
      : Derives (.parameters [name.literal]) [name]
  | moreParameters {name comma : Token} {names : List String} {ts : List Token}
      (kind : name.kind = .identifier) (separates : comma.kind = .comma)
      (rest : Derives (.parameters names) ts)
      : Derives (.parameters (name.literal :: names)) (name :: comma :: ts)
  | declare {word name sign : Token} {value : Expression} {ts : List Token}
      (kind : word.kind = .letWord) (named : name.kind = .identifier) (equal : sign.kind = .equal)
      (given : Derives (.expression .equality value) ts)
      : Derives (.statement (.declare name.literal value)) (word :: name :: sign :: ts)
  | returning {word : Token} {value : Expression} {ts : List Token}
      (kind : word.kind = .returnWord) (given : Derives (.expression .equality value) ts)
      : Derives (.statement (.returning value)) (word :: ts)
  | expression {value : Expression} {ts : List Token}
      (given : Derives (.expression .equality value) ts)
      : Derives (.statement (.expression value)) ts
  | noStatements : Derives (.statements []) []
  | closedStatement {s : Statement} {ss : List Statement} {semicolon : Token}
      {ts us : List Token}
      (first : Derives (.statement s) ts) (closes : semicolon.kind = .semicolon)
      (rest : Derives (.statements ss) us)
      : Derives (.statements (s :: ss)) (ts ++ semicolon :: us)
  | openStatement {s : Statement} {ss : List Statement} {ts us : List Token}
      (first : Derives (.statement s) ts) (ends : ¬ Continues us)
      (rest : Derives (.statements ss) us)
      : Derives (.statements (s :: ss)) (ts ++ us)
  | block {opening closing : Token} {ss : List Statement} {ts : List Token}
      (opens : opening.kind = .leftBrace) (inner : Derives (.statements ss) ts)
      (closes : closing.kind = .rightBrace)
      : Derives (.block ss) (opening :: (ts ++ [closing]))

-----------------------------------------------------------------------------------------
-- Where an expression ends
-----------------------------------------------------------------------------------------

/-- What stands behind an expression of a stratum does not belong to a part of it: the parenthesis
of a call would, and so would a tighter operator.
-/
structure Ends (stratum : Stratum) (tokens : List Token) : Prop where
  call : Position.kind tokens = .leftParen → stratum = .call
  operator
    : ∀ operator,
        BinaryOperator.ofKind? (Position.kind tokens) = some operator
        → (Stratum.ofOperator operator).rank ≤ stratum.rank

/-- The next token is not one that binds tighter than a level. -/
structure Stops (level : Precedence) (tokens : List Token) : Prop where
  call : Position.kind tokens ≠ .leftParen
  operator
    : ∀ operator,
        BinaryOperator.ofKind? (Position.kind tokens) = some operator
        → ¬ level < operator.precedence

namespace Stratum

theorem rank_next {stratum : Stratum} (inner : stratum ≠ .call)
    : stratum.next.rank = stratum.rank + 1 := by
  cases stratum <;> first | rfl | contradiction

theorem rank_injective {a b : Stratum} (same : a.rank = b.rank) : a = b := by
  cases a <;> cases b <;> first | rfl | cases same

theorem rank_le_call (stratum : Stratum) : stratum.rank ≤ Stratum.call.rank := by
  cases stratum <;> decide

theorem rank_ofOperator_lt_unary (operator : BinaryOperator)
    : (ofOperator operator).rank < Stratum.unary.rank := by
  cases operator <;> decide

theorem ofOperator_ne_call (operator : BinaryOperator) : ofOperator operator ≠ .call := by
  cases operator <;> decide

theorem eq_call_of_rank {stratum : Stratum} (high : Stratum.call.rank ≤ stratum.rank)
    : stratum = .call := by
  cases stratum <;> first | rfl | exact absurd high (by decide)

/-- The right operand of an operator is read at the level of the operator. -/
@[simp]
theorem within_precedence (operator : BinaryOperator)
    : within operator.precedence = (ofOperator operator).next := by
  cases operator <;> rfl

/-- An operator binds tighter than a level if it stands inside the stratum of the level. -/
theorem lt_precedence_iff (level : Precedence) (operator : BinaryOperator)
    : level < operator.precedence ↔ (within level).rank ≤ (ofOperator operator).rank := by
  cases level <;> cases operator <;> decide

theorem rank_within_le_unary (level : Precedence)
    : (within level).rank ≤ Stratum.unary.rank := by
  cases level <;> decide

end Stratum

theorem ends_call (tokens : List Token) : Ends .call tokens :=
  ⟨fun _ => rfl, fun _ _ => Stratum.rank_le_call _⟩

/-- An operator stands behind what is read at a level if it is outside of the stratum. -/
theorem stops_iff {level : Precedence} {tokens : List Token}
    : Stops level tokens
      ↔ Position.kind tokens ≠ .leftParen
        ∧ ∀ operator,
            BinaryOperator.ofKind? (Position.kind tokens) = some operator
            → (Stratum.ofOperator operator).rank < (Stratum.within level).rank := by
  constructor
  · rintro ⟨call, operator⟩
    refine ⟨call, fun other found => ?_⟩
    have looser := operator other found
    rw [Stratum.lt_precedence_iff] at looser
    exact Nat.lt_of_not_le looser
  · rintro ⟨call, operator⟩
    refine ⟨call, fun other found => ?_⟩
    rw [Stratum.lt_precedence_iff]
    exact Nat.not_le_of_lt (operator other found)

/-- What stands behind an expression of a level does not belong to its parts. -/
theorem Stops.ends_within {level : Precedence} {tokens : List Token} (stops : Stops level tokens)
    : Ends (.within level) tokens :=
  ⟨fun opens => absurd opens stops.call, fun operator found =>
    Nat.le_of_lt ((stops_iff.mp stops).2 operator found)⟩

/-- The right operand of an operator stops where the whole expression ends. -/
theorem stops_precedence {operator : BinaryOperator} {tokens : List Token}
    : Stops operator.precedence tokens ↔ Ends (.ofOperator operator) tokens := by
  have step := Stratum.rank_next (Stratum.ofOperator_ne_call operator)
  rw [stops_iff, Stratum.within_precedence, step]
  constructor
  · rintro ⟨call, looser⟩
    exact ⟨fun opens => absurd opens call, fun other found =>
      Nat.le_of_lt_succ (looser other found)⟩
  · rintro ⟨call, looser⟩
    exact ⟨fun opens => Stratum.ofOperator_ne_call _ (call opens), fun other found =>
      Nat.lt_succ_of_le (looser other found)⟩

/-- So does the operand of an operator in front. Calls belong to it, and all else stands behind. -/
theorem stops_unary {tokens : List Token} : Stops .unary tokens ↔ Ends .unary tokens := by
  constructor
  · intro stops
    exact stops.ends_within
  · rintro ⟨call, -⟩
    refine stops_iff.mpr ⟨fun opens => absurd (call opens) (by decide), fun operator _ => ?_⟩
    exact Stratum.rank_ofOperator_lt_unary operator

/-- What ends an expression ends its parts as well. -/
theorem Ends.mono {stratum tighter : Stratum} {tokens : List Token} (ends : Ends stratum tokens)
    (inside : stratum.rank ≤ tighter.rank)
    : Ends tighter tokens := by
  refine ⟨fun opens => ?_, fun operator found =>
    Nat.le_trans (ends.operator operator found) inside⟩
  rw [ends.call opens] at inside
  exact Stratum.eq_call_of_rank inside

/-- A token that cannot continue an expression is one that binds no tighter than any level. -/
theorem stops_lowest {tokens : List Token} : Stops .lowest tokens ↔ ¬ Continues tokens := by
  constructor
  · rintro ⟨call, operator⟩ (opens | ⟨found, sign⟩)
    · exact call opens
    · exact operator found sign (by cases found <;> decide)
  · intro ends
    exact ⟨fun opens => ends (.inl opens), fun operator found =>
      absurd (.inr ⟨operator, found⟩) ends⟩

theorem stops_of_not_continues {level : Precedence} {tokens : List Token}
    (ends : ¬ Continues tokens)
    : Stops level tokens :=
  ⟨fun opens => ends (.inl opens), fun operator found => absurd (.inr ⟨operator, found⟩) ends⟩

/-- An expression of a stratum is one of every looser stratum. -/
theorem Derives.widen {stratum tighter : Stratum} {e : Expression} {ts : List Token}
    (derived : Derives (.expression tighter e) ts) (inside : stratum.rank ≤ tighter.rank)
    : Derives (.expression stratum e) ts := by
  -- The induction is on the number of strata in between.
  induction between : tighter.rank - stratum.rank generalizing stratum with
  | zero =>
      have same : tighter = stratum := Stratum.rank_injective (by omega)
      exact same ▸ derived
  | succ n ih =>
      have inner : stratum ≠ .call := by
        rintro rfl
        have := tighter.rank_le_call
        omega
      have step := Stratum.rank_next inner
      exact .looser inner (ih (by omega) (by omega))

-----------------------------------------------------------------------------------------
-- Where a phrase starts
-----------------------------------------------------------------------------------------

/-- The kinds of token with which an expression starts. -/
def starters : List Token.Kind :=
  [.identifier, .integer, .string, .trueWord, .falseWord, .leftParen, .ifWord, .functionWord,
    .bang, .minus]

theorem mem_starters_of_unary {kind : Token.Kind} {operator : UnaryOperator}
    (signed : UnaryOperator.ofKind? kind = some operator)
    : kind ∈ starters := by
  cases kind <;> first | decide | cases signed

/-- The first token of what is derived for a form. -/
def Heads : Form → List Token → Prop
  | .expression _ _, ts | .arguments _, ts => Position.kind ts ∈ starters
  | .parameters _, ts => Position.kind ts = .identifier
  | .statement _, ts => Position.kind ts ∈ .letWord :: .returnWord :: starters
  | .statements _, ts => ts = [] ∨ Position.kind ts ∈ .letWord :: .returnWord :: starters
  | .block _, ts => Position.kind ts = .leftBrace

theorem kind_append {ts us : List Token} (nonempty : ts ≠ [])
    : Position.kind (ts ++ us) = Position.kind ts := by
  cases ts with
  | nil => contradiction
  | cons => rfl

theorem ne_nil_of_kind {ts : List Token} {kinds : List Token.Kind}
    (found : Position.kind ts ∈ kinds) (no_ending : .endOfInput ∉ kinds)
    : ts ≠ [] := by
  rintro rfl
  exact no_ending found

/-- What is derived starts with a token that its form allows there. -/
theorem Derives.heads {form : Form} {ts : List Token} (derived : Derives form ts)
    : Heads form ts := by
  induction derived with
  | identifier kind | integer kind | string kind | truth kind | falsehood kind =>
      simp [Heads, Position.kind, kind, starters]
  | group kind | conditional kind | alternative kind | functionOfNone kind | function kind =>
      simp [Heads, Position.kind, kind, starters]
  | callOfNone _ _ _ ih | call _ _ _ _ ih | binary _ _ _ ih | moreArguments _ _ _ ih =>
      have nonempty := ne_nil_of_kind ih (by decide)
      simpa [Heads, kind_append nonempty] using ih
  | unary signed => exact mem_starters_of_unary signed
  | looser _ _ ih | argument _ ih => exact ih
  | parameter kind | moreParameters kind => exact kind
  | declare kind | returning kind => simp [Heads, Position.kind, kind]
  | expression _ ih => exact .tail _ (.tail _ ih)
  | noStatements => exact .inl rfl
  | closedStatement _ _ _ ih | openStatement _ _ _ ih =>
      have nonempty := ne_nil_of_kind ih (by decide)
      exact .inr (by rwa [kind_append nonempty])
  | block opens => exact opens

theorem Derives.expression_ne_nil {stratum : Stratum} {e : Expression} {ts : List Token}
    (derived : Derives (.expression stratum e) ts)
    : ts ≠ [] := by
  have head : Position.kind ts ∈ starters := derived.heads
  exact ne_nil_of_kind head (by decide)

theorem Derives.statement_ne_nil {s : Statement} {ts : List Token}
    (derived : Derives (.statement s) ts)
    : ts ≠ [] := by
  have head : Position.kind ts ∈ .letWord :: .returnWord :: starters := derived.heads
  exact ne_nil_of_kind head (by decide)

-----------------------------------------------------------------------------------------
-- Where a phrase ends
-----------------------------------------------------------------------------------------

/-- Tokens of which a semicolon is not the last. -/
def Unclosed (ts : List Token) : Prop :=
  ∀ token, ts.getLast? = some token → token.kind ≠ .semicolon

namespace Unclosed

variable {token : Token} {ts us : List Token}

theorem nil : Unclosed [] := by
  intro token found
  cases found

theorem append (first : Unclosed ts) (second : Unclosed us) : Unclosed (ts ++ us) := by
  intro token found
  rw [List.getLast?_append] at found
  cases last : us.getLast? with
  | none => exact first token (by simpa [last] using found)
  | some other => exact second token (by simpa [last] using found)

theorem singleton (other : token.kind ≠ .semicolon) : Unclosed [token] := by
  intro last found
  cases found
  exact other

/-- A token of a kind other than the semicolon. -/
theorem of_kind {kind : Token.Kind} (found : token.kind = kind) (rest : Unclosed ts)
    (other : kind ≠ .semicolon := by decide)
    : Unclosed (token :: ts) :=
  (singleton (found ▸ other)).append rest

theorem concat {kind : Token.Kind} (found : token.kind = kind)
    (other : kind ≠ .semicolon := by decide)
    : Unclosed (ts ++ [token]) := by
  intro last here
  rw [List.getLast?_concat] at here
  cases here
  exact found ▸ other

end Unclosed

/-- A semicolon stands behind a statement, and never at its end. -/
theorem Derives.unclosed {form : Form} {ts : List Token} (derived : Derives form ts)
    (single : ∀ ss, form ≠ .statements ss)
    : Unclosed ts := by
  induction derived with
  | identifier kind | integer kind | string kind | truth kind | falsehood kind | parameter kind =>
      exact .of_kind kind .nil
  | group opens _ closes | block opens _ closes => exact .of_kind opens (.concat closes)
  | conditional kind opens _ closes _ tested taken =>
      exact .of_kind kind (.of_kind opens ((tested nofun).append (.of_kind closes (taken nofun))))
  | alternative kind opens _ closes _ otherwise _ tested taken refused =>
      have further := (taken nofun).append (.of_kind otherwise (refused nofun))
      exact .of_kind kind (.of_kind opens ((tested nofun).append (.of_kind closes further)))
  | functionOfNone kind opens closes _ body =>
      exact .of_kind kind (.of_kind opens (.of_kind closes (body nofun)))
  | function kind opens _ closes _ named body =>
      exact .of_kind kind (.of_kind opens ((named nofun).append (.of_kind closes (body nofun))))
  | callOfNone _ opens closes called =>
      exact (called nofun).append (.of_kind opens (.of_kind closes .nil))
  | call _ opens _ closes called given =>
      exact (called nofun).append (.of_kind opens ((given nofun).append (.of_kind closes .nil)))
  | unary signed _ inner =>
      refine (Unclosed.singleton fun semicolon => ?_).append (inner nofun)
      rw [semicolon] at signed
      cases signed
  | binary _ signed _ before behind =>
      refine (before nofun).append ((Unclosed.singleton fun semicolon => ?_).append (behind nofun))
      rw [semicolon] at signed
      cases signed
  | looser _ _ ih | argument _ ih | expression _ ih => exact ih nofun
  | moreArguments _ separates _ first rest =>
      exact (first nofun).append (.of_kind separates (rest nofun))
  | moreParameters kind separates _ rest =>
      exact .of_kind kind (.of_kind separates (rest nofun))
  | declare kind named equal _ given =>
      exact .of_kind kind (.of_kind named (.of_kind equal (given nofun)))
  | returning kind _ given => exact .of_kind kind (given nofun)
  | noStatements | closedStatement | openStatement => exact absurd rfl (single _)

-----------------------------------------------------------------------------------------
-- What kinds of token there are
-----------------------------------------------------------------------------------------

theorem ne_illegal_of_unary {kind : Token.Kind} {operator : UnaryOperator}
    (signed : UnaryOperator.ofKind? kind = some operator)
    : kind ≠ .illegal := by
  rintro rfl
  cases signed

theorem ne_illegal_of_binary {kind : Token.Kind} {operator : BinaryOperator}
    (signed : BinaryOperator.ofKind? kind = some operator)
    : kind ≠ .illegal := by
  rintro rfl
  cases signed

/-- No illegal token is derived from any form. -/
theorem Derives.kind_ne_illegal {form : Form} {ts : List Token} (derived : Derives form ts)
    : ∀ token ∈ ts, token.kind ≠ .illegal := by
  induction derived with
  | identifier kind | integer kind | string kind | truth kind | falsehood kind | parameter kind =>
      simp [kind]
  | group opens _ closes ih | block opens _ closes ih =>
      simpa [opens, closes, or_imp, forall_and] using ih
  | conditional kind opens _ closes _ tested taken =>
      simpa [kind, opens, closes, or_imp, forall_and] using ⟨tested, taken⟩
  | alternative kind opens _ closes _ otherwise _ tested taken refused =>
      simpa [kind, opens, closes, otherwise, or_imp, forall_and] using ⟨tested, taken, refused⟩
  | functionOfNone kind opens closes _ body =>
      simpa [kind, opens, closes, or_imp, forall_and] using body
  | function kind opens _ closes _ named body =>
      simpa [kind, opens, closes, or_imp, forall_and] using ⟨named, body⟩
  | callOfNone _ opens closes called =>
      simpa [opens, closes, or_imp, forall_and] using called
  | call _ opens _ closes called given =>
      simpa [opens, closes, or_imp, forall_and] using ⟨called, given⟩
  | unary signed _ ih => exact List.forall_mem_cons.mpr ⟨ne_illegal_of_unary signed, ih⟩
  | binary _ signed _ before behind =>
      have operator := ne_illegal_of_binary signed
      exact List.forall_mem_append.mpr ⟨before, List.forall_mem_cons.mpr ⟨operator, behind⟩⟩
  | looser _ _ ih | argument _ ih | expression _ ih => exact ih
  | moreArguments _ separates _ first rest | closedStatement _ separates _ first rest =>
      simpa [separates, or_imp, forall_and] using ⟨first, rest⟩
  | moreParameters kind separates _ rest =>
      simpa [kind, separates, or_imp, forall_and] using rest
  | declare kind named equal _ given =>
      simpa [kind, named, equal, or_imp, forall_and] using given
  | returning kind _ given => simpa [kind, or_imp, forall_and] using given
  | noStatements => simp
  | openStatement _ _ _ first rest => exact List.forall_mem_append.mpr ⟨first, rest⟩

end Guion.Grammar
