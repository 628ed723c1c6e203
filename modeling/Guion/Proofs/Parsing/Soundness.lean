import Guion.Proofs.Grammar.Stratified
import Guion.Proofs.Parsing.Clean

/-! Soundness of reading: the tokens of a clean reading derive its tree.

What is read for a task is derived from the tokens between its start and its end. Each rule is
sound if the tasks are that it asks for, so all are, by induction along the order of the tasks.
-/

namespace Guion.Parsing

open Grammar

/-- What a clean reading for a task has shown. An expression `left` in front of operators brings
along its own tokens, and nothing behind it may belong to a part of it.
-/
def Sound : Task → Prop
  | .operand start =>
      ∀ e last,
        Clean (readOperand start) e last
        → ∃ ts stratum,
            start = ts ++ last.tail
            ∧ Derives (.expression stratum e) ts
            ∧ Stratum.unary.rank ≤ stratum.rank
            ∧ Ends stratum last.tail
  | .operators level left start =>
      ∀ e last stratum us,
        Clean (readOperators level left start) e last
        → Derives (.expression stratum left) us
        → (Stratum.within level).rank ≤ stratum.rank
        → Ends stratum start.tail
        → ∃ ts,
            start.tail = ts ++ last.tail
            ∧ Derives (.expression (.within level) e) (us ++ ts)
            ∧ Stops level last.tail
  | .expression level start =>
      ∀ e last,
        Clean (readExpression level start) e last
        → ∃ ts,
            start = ts ++ last.tail
            ∧ Derives (.expression (.within level) e) ts
            ∧ Stops level last.tail
  | .arguments start =>
      ∀ es last,
        Clean (readArguments start) es last
        → ∃ ts closing,
            start = ts ++ closing :: last.tail
            ∧ closing.kind = .rightParen
            ∧ Derives (.arguments es) ts
  | .statement start =>
      ∀ s last,
        Clean (readStatement start) s last
        → ∃ ts,
            Derives (.statement s) ts
            ∧ ((∃ semicolon, semicolon.kind = .semicolon ∧ start = ts ++ semicolon :: last.tail)
              ∨ (start = ts ++ last.tail ∧ ¬ Continues last.tail))
  | .statements place start =>
      (readStatements place start).diagnostics.toList = []
      → ∃ ts,
          start = ts ++ (readStatements place start).position
          ∧ Derives (.statements (readStatements place start).value) ts
          ∧ closes place (Position.kind (readStatements place start).position) = true
  | .block start =>
      ∀ ss last,
        Clean (readBlock start) ss last
        → ∃ ts closing,
            start.tail = ts ++ closing :: last.tail
            ∧ closing.kind = .rightBrace
            ∧ Derives (.statements ss) ts

variable {start : Position}

-----------------------------------------------------------------------------------------
-- Operands
-----------------------------------------------------------------------------------------

/-- A token that is an operand by itself. -/
private theorem sound_leaf {token : Token} {rest : Position} {expected e : Expression}
    {last : Position}
    (clean : Clean (accept expected (token :: rest) (List.suffix_refl _)) e last)
    (derived : Derives (.expression .call expected) [token])
    : ∃ ts stratum,
        token :: rest = ts ++ last.tail
        ∧ Derives (.expression stratum e) ts
        ∧ Stratum.unary.rank ≤ stratum.rank
        ∧ Ends stratum last.tail := by
  obtain ⟨rfl, rfl⟩ := clean_accept.mp clean
  exact ⟨[token], .call, rfl, derived, by decide, ends_call _⟩

/-- The names from the one on which the reader stands are the literals of identifiers with commas
between them, by induction on what is left to read.
-/
private theorem derives_names (seen : List String) {name : Token} {rest : Position}
    (inside : name :: rest <:+ start) {named : List String} {last : Position}
    (kind : name.kind = .identifier)
    (clean : Clean (names (name.literal :: seen) (name :: rest) inside) named last)
    : ∃ more ts closing,
        name :: rest = ts ++ closing :: last.tail
        ∧ closing.kind = .rightParen
        ∧ named = seen.reverse ++ more
        ∧ Derives (.parameters more) ts := by
  induction length : rest.length using Nat.strongRecOn generalizing seen name rest with
  | _ n ih =>
      rw [names] at clean
      split at clean
      · rename_i separates
        obtain ⟨comma, rest, rfl, comma_kind⟩ := exists_of_kind separates (by decide)
        obtain ⟨further, clean⟩ := clean_expectNext.mp clean
        obtain ⟨next, rest, rfl, next_kind⟩ := exists_of_kind further (by decide)
        have shorter : rest.length < n := by
          simp only [List.length_cons] at length
          omega
        obtain ⟨more, ts, closing, here, closes, rfl, derived⟩ :=
          ih _ shorter (name.literal :: seen) _ next_kind clean rfl
        refine ⟨name.literal :: more, name :: comma :: ts, closing, ?_, closes, ?_, ?_⟩
        · simp [here]
        · simp
        · exact .moreParameters kind comma_kind derived
      · obtain ⟨closes, clean⟩ := clean_expectNext.mp clean
        obtain ⟨closing, rest, rfl, closing_kind⟩ := exists_of_kind closes (by decide)
        obtain ⟨rfl, rfl⟩ := clean_accept.mp clean
        exact ⟨[name.literal], [name], closing, rfl, closing_kind, by simp, .parameter kind⟩

/-- Parameters stand between parentheses, and there may be none. -/
private theorem derives_parameters {opening : Token} {rest : Position} {named : List String}
    {last : Position} (clean : Clean (parameters (opening :: rest)) named last)
    : ∃ ts closing,
        rest = ts ++ closing :: last.tail
        ∧ closing.kind = .rightParen
        ∧ ((named = [] ∧ ts = []) ∨ Derives (.parameters named) ts) := by
  rw [parameters] at clean
  split at clean
  · rename_i closes
    obtain ⟨closing, rest, rfl, kind⟩ := exists_of_kind closes (by decide)
    obtain ⟨rfl, rfl⟩ := clean_accept.mp clean
    exact ⟨[], closing, rfl, kind, .inl ⟨rfl, rfl⟩⟩
  · obtain ⟨first, clean⟩ := clean_expectNext.mp clean
    obtain ⟨name, rest, rfl, kind⟩ := exists_of_kind first (by decide)
    obtain ⟨more, ts, closing, here, closes, rfl, derived⟩ := derives_names [] _ kind clean
    exact ⟨ts, closing, here, closes, .inr derived⟩

/-- A block that is read cleanly is derived together with its braces. -/
private theorem derives_block {position : Position} {ss : List Statement} {last : Position}
    (sound : Sound (.block position)) (opens : Position.kind position = .leftBrace)
    (clean : Clean (readBlock position) ss last)
    : ∃ us, position = us ++ last.tail ∧ Derives (.block ss) us := by
  obtain ⟨opening, rest, rfl, kind⟩ := exists_of_kind opens (by decide)
  obtain ⟨ts, closing, here, closes, derived⟩ := sound ss last clean
  rw [List.tail_cons] at here
  exact ⟨opening :: (ts ++ [closing]), by simp [here], .block kind derived closes⟩

/-- An operator in front takes the operand behind it with its calls. -/
private theorem sound_unary {token : Token} {rest : Position} {operator : UnaryOperator}
    (ih : ∀ task, lower task (.operand (token :: rest)) → Sound task)
    (signed : UnaryOperator.ofKind? token.kind = some operator)
    : Sound (.operand (token :: rest)) := by
  intro e last clean
  rw [readOperand_unary signed] at clean
  obtain ⟨operand, middle, _, _, inner, clean⟩ := clean_andThen.mp clean
  obtain ⟨rfl, rfl⟩ := clean_accept.mp clean
  obtain ⟨ts, here, derived, stops⟩ :=
    ih (.expression .unary rest) (lower_of_length (Nat.lt_succ_self _)) _ _ inner
  exact ⟨token :: ts, .unary, by simp [← here], .unary signed derived, by decide,
    stops_unary.mp stops⟩

/-- A conditional has a condition in parentheses and a block, and perhaps one block more. -/
private theorem sound_conditional {token : Token} {rest : Position}
    (ih : ∀ task, lower task (.operand (token :: rest)) → Sound task)
    (kind : token.kind = .ifWord)
    : Sound (.operand (token :: rest)) := by
  intro e last clean
  rw [readOperand_ifWord kind] at clean
  obtain ⟨opens, clean⟩ := clean_expectNext.mp clean
  obtain ⟨opening, rest, rfl, opening_kind⟩ := exists_of_kind opens (by decide)
  obtain ⟨condition, middle, within, _, tested, clean⟩ := clean_andThen.mp clean
  obtain ⟨closes, clean⟩ := clean_expectNext.mp clean
  obtain ⟨braces, clean⟩ := clean_expectNext.mp clean
  obtain ⟨closing, behind, there, closing_kind⟩ := exists_of_kind closes (by decide)
  obtain ⟨consequence, final, within', _, taken, clean⟩ := clean_andThen.mp clean
  have sizes : middle.tail.tail.length < rest.length + 2 := by
    have := (List.tail_sublist middle).length_le
    have := (List.tail_sublist middle.tail).length_le
    simp only [List.tail_cons] at within
    omega
  have shorter : rest.length < rest.length + 2 := by omega
  obtain ⟨ts, here, condition_derived, _⟩ :=
    ih (.expression .lowest rest) (lower_of_length shorter) _ _ tested
  obtain ⟨us, block_here, block_derived⟩ :=
    derives_block (ih (.block middle.tail.tail) (lower_of_length sizes)) braces taken
  rw [there, List.tail_cons] at block_here
  rw [there, block_here] at here
  split at clean
  · rename_i otherwise
    obtain ⟨other, last', other_here, other_kind⟩ := exists_of_kind otherwise (by decide)
    obtain ⟨braces', clean⟩ := clean_expectNext.mp clean
    obtain ⟨alternative, final', _, _, refused, clean⟩ := clean_andThen.mp clean
    obtain ⟨rfl, rfl⟩ := clean_accept.mp clean
    have sizes' : final.tail.tail.length < rest.length + 2 := by
      have := (List.tail_sublist final).length_le
      have := (List.tail_sublist final.tail).length_le
      omega
    obtain ⟨vs, other_block_here, other_block_derived⟩ :=
      derives_block (ih (.block final.tail.tail) (lower_of_length sizes')) braces' refused
    rw [other_here, List.tail_cons] at other_block_here
    refine ⟨_, .call, ?_, .alternative kind opening_kind condition_derived closing_kind
      block_derived other_kind other_block_derived, by decide, ends_call _⟩
    rw [here, other_here, other_block_here]
    simp
  · obtain ⟨rfl, rfl⟩ := clean_accept.mp clean
    refine ⟨_, .call, ?_, .conditional kind opening_kind condition_derived closing_kind
      block_derived, by decide, ends_call _⟩
    rw [here]
    simp

/-- A function has parameters in parentheses and a block. -/
private theorem sound_function {token : Token} {rest : Position}
    (ih : ∀ task, lower task (.operand (token :: rest)) → Sound task)
    (kind : token.kind = .functionWord)
    : Sound (.operand (token :: rest)) := by
  intro e last clean
  rw [readOperand_functionWord kind] at clean
  obtain ⟨opens, clean⟩ := clean_expectNext.mp clean
  obtain ⟨opening, rest, rfl, opening_kind⟩ := exists_of_kind opens (by decide)
  obtain ⟨named, middle, within, _, given, clean⟩ := clean_andThen.mp clean
  obtain ⟨braces, clean⟩ := clean_expectNext.mp clean
  obtain ⟨code, final, _, _, body, clean⟩ := clean_andThen.mp clean
  obtain ⟨rfl, rfl⟩ := clean_accept.mp clean
  have sizes : middle.tail.length < rest.length + 2 := by
    have := (List.tail_sublist middle).length_le
    simp only [List.length_cons] at within
    omega
  obtain ⟨us, block_here, block_derived⟩ :=
    derives_block (ih (.block middle.tail) (lower_of_length sizes)) braces body
  obtain ⟨ts, closing, here, closes, ⟨rfl, rfl⟩ | derived⟩ := derives_parameters given
  · refine ⟨_, .call, ?_, .functionOfNone kind opening_kind closes block_derived,
      by decide, ends_call _⟩
    rw [here, block_here]
    simp
  · refine ⟨_, .call, ?_, .function kind opening_kind derived closes block_derived,
      by decide, ends_call _⟩
    rw [here, block_here]
    simp

/-- An operand is a name, a literal, a group, a conditional, a function, or a smaller operand with
an operator in front.
-/
private theorem sound_operand (ih : ∀ task, lower task (.operand start) → Sound task)
    : Sound (.operand start) := by
  intro e last clean
  match start with
  | [] =>
      rw [readOperand_nil] at clean
      exact absurd clean not_clean_reject
  | token :: rest =>
      have shorter : rest.length < (token :: rest).length := Nat.lt_succ_self _
      cases kind : token.kind
      case identifier =>
        rw [readOperand_identifier kind] at clean
        exact sound_leaf clean (.identifier kind)
      case integer =>
        rw [readOperand_integer kind] at clean
        split at clean
        · rename_i found
          exact sound_leaf clean (.integer kind (Integer.ofLiteral?_eq_some.mp found))
        · exact absurd clean not_clean_reject
      case string =>
        rw [readOperand_string kind] at clean
        exact sound_leaf clean (.string kind)
      case trueWord =>
        rw [readOperand_trueWord kind] at clean
        exact sound_leaf clean (.truth kind)
      case falseWord =>
        rw [readOperand_falseWord kind] at clean
        exact sound_leaf clean (.falsehood kind)
      case leftParen =>
        rw [readOperand_leftParen kind] at clean
        obtain ⟨inner, middle, _, _, first, clean⟩ := clean_andThen.mp clean
        obtain ⟨closes, clean⟩ := clean_expectNext.mp clean
        obtain ⟨rfl, rfl⟩ := clean_accept.mp clean
        obtain ⟨closing, behind, there, closing_kind⟩ := exists_of_kind closes (by decide)
        obtain ⟨ts, rfl, derived, _⟩ :=
          ih (.expression .lowest rest) (lower_of_length shorter) _ _ first
        refine ⟨token :: (ts ++ [closing]), .call, ?_, .group kind derived closing_kind,
          by decide, ends_call _⟩
        simp [there]
      case ifWord => exact sound_conditional ih kind e last clean
      case functionWord => exact sound_function ih kind e last clean
      all_goals first
      | exact sound_unary ih (by rw [kind]; rfl) _ _ clean
      | rw [readOperand_none (by simp [kind, UnaryOperator.ofKind?]) (by simp [kind])] at clean
        exact absurd clean not_clean_reject

-----------------------------------------------------------------------------------------
-- Expressions
-----------------------------------------------------------------------------------------

/-- A call belongs to the expression in front of it, which has no operator outside parentheses. -/
private theorem sound_call {level : Precedence} {left : Expression}
    (ih : ∀ task, lower task (.operators level left start) → Sound task)
    (opens : Position.nextKind start = .leftParen)
    : Sound (.operators level left start) := by
  intro e last stratum us clean derived inside ends
  obtain rfl := ends.call opens
  have shorter := length_tail_tail_lt (two_le_length opens (by decide))
  obtain ⟨opening, rest, here, opening_kind⟩ := exists_of_kind opens (by decide)
  by_cases closes : Position.nextKind start.tail = .rightParen
  · rw [readOperators_call_nil opens closes, clean_within] at clean
    obtain ⟨closing, behind, there, closing_kind⟩ := exists_of_kind closes (by decide)
    obtain ⟨ts, behind_here, whole, stops⟩ :=
      ih (.operators level _ _) (lower_of_length shorter) _ _ _ _ clean
        (.callOfNone derived opening_kind closing_kind) inside (ends_call _)
    refine ⟨opening :: closing :: ts, ?_, by simpa using whole, stops⟩
    simp only [here, List.tail_cons] at there behind_here
    rw [there, List.tail_cons] at behind_here
    rw [here, there, behind_here]
    rfl
  · rw [readOperators_call opens closes] at clean
    obtain ⟨es, middle, within, _, given, clean⟩ := clean_andThen.mp clean
    rw [clean_within] at clean
    obtain ⟨vs, closing, there, closing_kind, arguments⟩ :=
      ih (.arguments _) (lower_of_length shorter) _ _ given
    obtain ⟨ts, behind_here, whole, stops⟩ :=
      ih (.operators level _ middle) (lower_of_length (Nat.lt_of_le_of_lt within shorter)) _ _ _ _
        clean (.call derived opening_kind arguments closing_kind) inside (ends_call _)
    refine ⟨opening :: (vs ++ closing :: ts), ?_, by simpa using whole, stops⟩
    simp only [here] at there
    rw [here, there, behind_here]
    simp

/-- The expression in front of an operator is its left operand, and what binds tighter than the
operator behind it makes up the right one.
-/
private theorem sound_binary {level : Precedence} {left : Expression} {operator : BinaryOperator}
    (ih : ∀ task, lower task (.operators level left start) → Sound task)
    (signed : BinaryOperator.ofKind? (Position.nextKind start) = some operator)
    (tighter : level < operator.precedence)
    : Sound (.operators level left start) := by
  intro e last stratum us clean derived inside ends
  have shorter := length_tail_tail_lt (two_le_length_of_operator signed)
  have not_ending : Position.nextKind start ≠ .endOfInput := fun ending => by
    simp [ending, BinaryOperator.ofKind?] at signed
  have same : Position.kind start.tail = Position.nextKind start := rfl
  obtain ⟨sign, rest, here, sign_kind⟩ := exists_of_kind same not_ending
  rw [readOperators_binary signed tighter] at clean
  obtain ⟨right, middle, within, _, behind, clean⟩ := clean_andThen.mp clean
  rw [clean_within] at clean
  obtain ⟨vs, there, right_derived, right_stops⟩ :=
    ih (.expression operator.precedence _) (lower_of_length shorter) _ _ behind
  rw [Stratum.within_precedence] at right_derived
  have left_derived := derived.widen (ends.operator operator signed)
  obtain ⟨ts, behind_here, whole, stops⟩ :=
    ih (.operators level _ middle) (lower_of_length (Nat.lt_of_le_of_lt within shorter)) _ _ _ _
      clean (.binary left_derived (by rw [sign_kind, signed]) right_derived)
      ((Stratum.lt_precedence_iff level operator).mp tighter) (stops_precedence.mp right_stops)
  refine ⟨sign :: (vs ++ ts), ?_, by simpa using whole, stops⟩
  simp only [here] at there
  rw [here, there, behind_here]
  simp

/-- Operators are taken up to the first token that binds no tighter than the level. -/
private theorem sound_operators {level : Precedence} {left : Expression}
    (ih : ∀ task, lower task (.operators level left start) → Sound task)
    : Sound (.operators level left start) := by
  by_cases opens : Position.nextKind start = .leftParen
  · exact sound_call ih opens
  by_cases tight : ∃ operator,
      BinaryOperator.ofKind? (Position.nextKind start) = some operator
      ∧ level < operator.precedence
  · obtain ⟨operator, signed, tighter⟩ := tight
    exact sound_binary ih signed tighter
  · intro e last stratum us clean derived inside ends
    have looser : ∀ operator,
        BinaryOperator.ofKind? (Position.nextKind start) = some operator
        → ¬ level < operator.precedence :=
      fun operator signed tighter => tight ⟨operator, signed, tighter⟩
    rw [readOperators_end opens looser] at clean
    obtain ⟨rfl, rfl⟩ := clean_accept.mp clean
    exact ⟨[], rfl, by simpa using derived.widen inside, opens, looser⟩

/-- An expression is an operand and what its operators add to it. -/
private theorem sound_expression {level : Precedence}
    (ih : ∀ task, lower task (.expression level start) → Sound task)
    : Sound (.expression level start) := by
  intro e last clean
  rw [readExpression_eq] at clean
  obtain ⟨left, middle, _, inside, first, clean⟩ := clean_andThen.mp clean
  rw [clean_within] at clean
  obtain ⟨us, stratum, here, derived, tight, ends⟩ :=
    ih (.operand start) (lower_of_rank (List.suffix_refl _) (by simp)) _ _ first
  obtain ⟨ts, there, whole, stops⟩ :=
    ih (.operators level left middle) (lower_of_rank inside (by simp)) _ _ _ _ clean derived
      (Nat.le_trans (Stratum.rank_within_le_unary level) tight) ends
  exact ⟨us ++ ts, by rw [here, there, List.append_assoc], whole, stops⟩

/-- Arguments are expressions with commas between them, up to a closing parenthesis. -/
private theorem sound_arguments (ih : ∀ task, lower task (.arguments start) → Sound task)
    : Sound (.arguments start) := by
  intro es last clean
  rw [readArguments_eq] at clean
  obtain ⟨e, middle, within, inside, first, clean⟩ := clean_andThen.mp clean
  obtain ⟨ts, here, derived, _⟩ :=
    ih (.expression .lowest start) (lower_of_rank (List.suffix_refl _) (by simp)) _ _ first
  split at clean
  · rename_i separates
    have shorter := length_tail_tail_lt (two_le_length separates (by decide))
    obtain ⟨comma, rest, there, comma_kind⟩ := exists_of_kind separates (by decide)
    obtain ⟨more, final, _, _, others, clean⟩ := clean_andThen.mp clean
    obtain ⟨rfl, rfl⟩ := clean_accept.mp clean
    obtain ⟨us, closing, behind, closing_kind, rest_derived⟩ :=
      ih (.arguments _) (lower_of_length (Nat.lt_of_lt_of_le shorter within)) _ _ others
    refine ⟨ts ++ comma :: us, closing, ?_, closing_kind,
      .moreArguments derived comma_kind rest_derived⟩
    simp only [there] at behind
    rw [here, there, behind]
    simp
  · obtain ⟨closes, clean⟩ := clean_expectNext.mp clean
    obtain ⟨rfl, rfl⟩ := clean_accept.mp clean
    obtain ⟨closing, rest, there, closing_kind⟩ := exists_of_kind closes (by decide)
    refine ⟨ts, closing, ?_, closing_kind, .argument derived⟩
    rw [here, there, List.tail_cons]

-----------------------------------------------------------------------------------------
-- Statements
-----------------------------------------------------------------------------------------

/-- A statement ends with an expression and perhaps a semicolon. -/
private theorem sound_closing {make : Expression → Statement} {position : Position}
    {inside : position <:+ start} (ts : List Token) (here : start = ts ++ position)
    (sound : Sound (.expression .lowest position))
    (make_derived
      : ∀ {value us},
          Derives (.expression .equality value) us → Derives (.statement (make value)) (ts ++ us))
    {s : Statement} {last : Position} (clean : Clean (readClosing make position inside) s last)
    : ∃ ts,
        Derives (.statement s) ts
        ∧ ((∃ semicolon, semicolon.kind = .semicolon ∧ start = ts ++ semicolon :: last.tail)
          ∨ (start = ts ++ last.tail ∧ ¬ Continues last.tail)) := by
  obtain ⟨value, middle, _, _, first, clean⟩ := clean_andThen.mp clean
  obtain ⟨rfl, rfl⟩ := clean_accept.mp clean
  obtain ⟨us, there, derived, stops⟩ := sound _ _ first
  refine ⟨ts ++ us, make_derived derived, ?_⟩
  unfold optionalSemicolon
  split
  · rename_i closes
    obtain ⟨semicolon, rest, behind, kind⟩ := exists_of_kind closes (by decide)
    refine .inl ⟨semicolon, kind, ?_⟩
    rw [here, there, behind, List.tail_cons, List.append_assoc]
  · refine .inr ⟨?_, stops_lowest.mp stops⟩
    rw [here, there, List.append_assoc]

/-- A statement is a declaration, the end of a function, or an expression. -/
private theorem sound_statement (ih : ∀ task, lower task (.statement start) → Sound task)
    : Sound (.statement start) := by
  intro s last clean
  by_cases declares : Position.kind start = .letWord
  · rw [readStatement_letWord declares] at clean
    obtain ⟨word, rest, rfl, word_kind⟩ := exists_of_kind declares (by decide)
    obtain ⟨named, clean⟩ := clean_expectNext.mp clean
    obtain ⟨name, rest, rfl, name_kind⟩ := exists_of_kind named (by decide)
    obtain ⟨equals, clean⟩ := clean_expectNext.mp clean
    obtain ⟨sign, rest, rfl, sign_kind⟩ := exists_of_kind equals (by decide)
    have shorter : rest.length < rest.length + 3 := by omega
    exact sound_closing [word, name, sign] rfl
      (ih (.expression .lowest rest) (lower_of_length shorter))
      (.declare word_kind name_kind sign_kind) clean
  by_cases returns : Position.kind start = .returnWord
  · rw [readStatement_returnWord returns] at clean
    obtain ⟨word, rest, rfl, word_kind⟩ := exists_of_kind returns (by decide)
    exact sound_closing [word] rfl
      (ih (.expression .lowest rest) (lower_of_length (Nat.lt_succ_self _)))
      (.returning word_kind) clean
  · rw [readStatement_expression declares returns] at clean
    exact sound_closing [] rfl
      (ih (.expression .lowest start) (lower_of_rank (List.suffix_refl _) (by simp)))
      .expression clean

/-- A statement in front of others, with what the reader found behind it. -/
private theorem derives_further {s : Statement} {ss : List Statement} {ts us rest : List Token}
    (first : Derives (.statement s) ts) (others : Derives (.statements ss) us)
    (behind
      : (∃ semicolon, semicolon.kind = .semicolon ∧ start = ts ++ semicolon :: (us ++ rest))
        ∨ (start = ts ++ (us ++ rest) ∧ ¬ Continues (us ++ rest)))
    : ∃ vs, start = vs ++ rest ∧ Derives (.statements (s :: ss)) vs := by
  rcases behind with ⟨semicolon, kind, here⟩ | ⟨here, stops⟩
  · exact ⟨ts ++ semicolon :: us, by simp [here], .closedStatement first kind others⟩
  · refine ⟨ts ++ us, by simp [here], .openStatement first ?_ others⟩
    cases us with
    | nil => simp [Continues, Position.kind, BinaryOperator.ofKind?]
    | cons => exact stops

/-- Statements are read up to the end of their place, and none of them may be broken. -/
private theorem sound_statements {place : Place}
    (ih : ∀ task, lower task (.statements place start) → Sound task)
    : Sound (.statements place start) := by
  intro silent
  match start with
  | [] =>
      rw [readStatements_nil]
      exact ⟨[], rfl, .noStatements, by cases place <;> decide⟩
  | token :: rest =>
      cases closed : closes place token.kind with
      | true =>
          rw [readStatements_closed closed]
          exact ⟨[], rfl, .noStatements, closed⟩
      | false =>
          rw [readStatements_open closed] at silent ⊢
          obtain ⟨s, last, clean⟩ := exists_clean_of_readFurther silent
          obtain ⟨values, positions, diagnostics⟩ := readFurther_of_clean place clean
          have shorter : last.tail.length < (token :: rest).length :=
            length_tail_lt_cons (clean.position_eq ▸ Phrase.length_le _)
          obtain ⟨us, here, others, closing⟩ :=
            ih (.statements place last.tail) (lower_of_length shorter)
              (diagnostics.symm.trans silent)
          obtain ⟨ts, first, behind⟩ :=
            ih (.statement (token :: rest)) (lower_of_rank (List.suffix_refl _) (by simp)) s last
              clean
          rw [here] at behind
          obtain ⟨vs, there, derived⟩ := derives_further first others behind
          rw [values, positions]
          exact ⟨vs, there, derived, closing⟩

/-- A block ends with a closing brace. -/
private theorem sound_block (ih : ∀ task, lower task (.block start) → Sound task)
    : Sound (.block start) := by
  intro ss last clean
  obtain ⟨rfl, ends, silent, further⟩ := clean_readBlock.mp clean
  obtain ⟨ts, here, derived, closing⟩ :=
    ih (.statements .block start.tail) (lower_of_rank (List.tail_suffix _) (by simp)) silent
  rw [ends] at here closing
  have closes : Position.kind last = .rightBrace := by simpa [closes, further] using closing
  obtain ⟨brace, rest, rfl, kind⟩ := exists_of_kind closes (by decide)
  exact ⟨ts, brace, here, kind, derived⟩

/-- Every clean reading is derived from the tokens that it took. -/
theorem sound (task : Task) : Sound task := by
  induction task using lower_wellFounded.induction with
  | _ task ih =>
      cases task with
      | operand start => exact sound_operand ih
      | operators level left start => exact sound_operators ih
      | expression level start => exact sound_expression ih
      | arguments start => exact sound_arguments ih
      | statement start => exact sound_statement ih
      | statements place start => exact sound_statements ih
      | block start => exact sound_block ih

end Guion.Parsing
