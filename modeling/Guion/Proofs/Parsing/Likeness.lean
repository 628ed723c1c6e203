import Guion.Proofs.Parsing.Clean

/-! What a reading depends on.

A reader sees the token on which it stands and the one behind it. So positions that show it the same
tokens are read alike: with the same value, with the same reports, and up to positions that look
the same again. What looks the same is left open. So this covers positions that differ in the places
of their tokens, or in what stands behind a semicolon, and also what holds of one position and of
all that are reached from it.
-/

namespace Guion.Parsing

variable {α β : Type} {start start' part part' : Position}

-----------------------------------------------------------------------------------------
-- Likeness
-----------------------------------------------------------------------------------------

/-- The kinds of token that end a statement, or that stand around others. -/
def breaks : List Token.Kind :=
  [.semicolon, .leftBrace, .rightBrace, .endOfInput]

theorem unary_not_mem_breaks {kind : Token.Kind} {operator : UnaryOperator}
    (signed : UnaryOperator.ofKind? kind = some operator)
    : kind ∉ breaks := by
  cases kind <;> first | decide | cases signed

theorem binary_not_mem_breaks {kind : Token.Kind} {operator : BinaryOperator}
    (signed : BinaryOperator.ofKind? kind = some operator)
    : kind ∉ breaks := by
  cases kind <;> first | decide | cases signed

/-- Which positions look the same to a reader, which of them it may pass, and which lists of reports
count as the same. A reader may pass all tokens that are no breaks.
-/
structure Likeness where
  same : Position → Position → Prop
  passes : Position → Prop
  agree : List Diagnostic → List Diagnostic → Prop
  kind : ∀ {a b : Position}, same a b → Position.kind a = Position.kind b
  literal : ∀ {a b : Position}, same a b → Position.literal a = Position.literal b
  tail : ∀ {a b : Position}, same a b → passes a → same a.tail b.tail
  unbroken : ∀ {a b : Position}, same a b → Position.kind a ∉ breaks → passes a
  silent : agree [] []
  append
    : ∀ {ds es ds' es' : List Diagnostic},
        agree ds es → agree ds' es' → agree (ds ++ ds') (es ++ es')

namespace Likeness

theorem nextKind (like : Likeness) {a b : Position} (same : like.same a b)
    (goes_on : like.passes a)
    : Position.nextKind a = Position.nextKind b :=
  like.kind (like.tail same goes_on)

/-- A token of a kind that is no break is passed. -/
theorem passes_of_kind (like : Likeness) {a b : Position} {kind : Token.Kind}
    (same : like.same a b) (found : Position.kind a = kind)
    (other : kind ∉ breaks := by decide)
    : like.passes a :=
  like.unbroken same (found ▸ other)

/-- Where a statement may end: where it can be passed, or with its semicolon. -/
def Closes (like : Likeness) (position : Position) : Prop :=
  like.passes position ∨ Position.kind position = .semicolon

end Likeness

/-- Two phrases are read alike, and those that are read in full end as demanded. -/
structure Alike (like : Likeness) (ends : Position → Prop) (phrase : Phrase α start)
    (other : Phrase α start') : Prop where
  value : phrase.value = other.value
  position : like.same phrase.position other.position
  agree : like.agree phrase.diagnostics.toList other.diagnostics.toList
  ended : ∀ a, phrase.value = .ok a → ends phrase.position

variable {like : Likeness} {ends : Position → Prop}

theorem Alike.within {phrase : Phrase α part} {other : Phrase α part'}
    {inside : part <:+ start} {inside' : part' <:+ start'} (alike : Alike like ends phrase other)
    : Alike like ends (phrase.within inside) (other.within inside') :=
  ⟨alike.value, alike.position, alike.agree, alike.ended⟩

theorem alike_accept {value : α} {position position' : Position} {inside : position <:+ start}
    {inside' : position' <:+ start'} (same : like.same position position')
    (ended : ends position)
    : Alike like ends (accept value position inside) (accept value position' inside') :=
  ⟨rfl, same, by simpa [accept] using like.silent, fun _ _ => ended⟩

theorem alike_reject {error : ParseError} {position position' : Position}
    {inside : position <:+ start} {inside' : position' <:+ start'}
    (same : like.same position position')
    : Alike like ends (reject error position inside : Phrase α start)
        (reject error position' inside' : Phrase α start') :=
  ⟨rfl, same, by simpa [reject] using like.silent, fun _ found => nomatch found⟩

/-- Behind phrases that are read alike, phrases are read alike if they are behind all positions
that look the same.
-/
theorem Alike.andThen {phrase : Phrase β part} {other : Phrase β part'}
    {inside : part <:+ start} {inside' : part' <:+ start'}
    {next : β → (last : Position) → last.length ≤ part.length → last <:+ start
      → Phrase α start}
    {next' : β → (last : Position) → last.length ≤ part'.length → last <:+ start'
      → Phrase α start'}
    (first : Alike like like.passes phrase other)
    (second
      : ∀ b last last' shorter within shorter' within',
          like.same last last'
          → like.passes last
          → Alike like ends (next b last shorter within) (next' b last' shorter' within'))
    : Alike like ends (phrase.andThen inside next) (other.andThen inside' next') := by
  cases found : phrase.value with
  | error error =>
      rw [Reading.andThen_of_error found, Reading.andThen_of_error (first.value.symm.trans found)]
      exact ⟨rfl, first.position, first.agree, fun _ impossible => nomatch impossible⟩
  | ok b =>
      rw [Reading.andThen_of_ok found, Reading.andThen_of_ok (first.value.symm.trans found)]
      have rest := second b _ _ phrase.length_le (phrase.position_suffix inside) other.length_le
        (other.position_suffix inside') first.position (first.ended b found)
      refine ⟨rest.value, rest.position, ?_, rest.ended⟩
      rw [Reading.toList_diagnostics_before, Reading.toList_diagnostics_before]
      exact like.append first.agree rest.agree

/-- The same token is expected at positions that look the same. -/
theorem alike_expectNext {kind : Token.Kind} {position position' : Position}
    {inside : position <:+ start} {inside' : position' <:+ start'}
    {next : position.tail <:+ start → Phrase α start}
    {next' : position'.tail <:+ start' → Phrase α start'}
    (same : like.same position position') (goes_on : like.passes position)
    (further
      : like.same position.tail position'.tail
        → Position.kind position.tail = kind
        → Alike like ends (next (tail_suffix inside)) (next' (tail_suffix inside')))
    : Alike like ends (expectNext kind position inside next)
        (expectNext kind position' inside' next') := by
  unfold expectNext
  rw [← like.nextKind same goes_on]
  split
  · exact further (like.tail same goes_on) (by assumption)
  · exact alike_reject same

-----------------------------------------------------------------------------------------
-- Operands
-----------------------------------------------------------------------------------------

/-- What it means for a task that it is read alike from positions that look the same. The
statements of a place are left out, as a reader looks behind their semicolons.
-/
def Likeness.Keeps (like : Likeness) : Task → Prop
  | .operand start =>
      ∀ start',
        like.same start start'
        → Alike like like.passes (readOperand start) (readOperand start')
  | .operators level left start =>
      ∀ start',
        like.same start start'
        → like.passes start
        → Alike like like.passes (readOperators level left start) (readOperators level left start')
  | .expression level start =>
      ∀ start',
        like.same start start'
        → Alike like like.passes (readExpression level start) (readExpression level start')
  | .arguments start =>
      ∀ start',
        like.same start start' → Alike like like.passes (readArguments start) (readArguments start')
  | .statement start =>
      ∀ start',
        like.same start start' → Alike like like.Closes (readStatement start) (readStatement start')
  | .statements _ _ => True
  | .block start =>
      ∀ start',
        like.same start start'
        → Position.kind start = .leftBrace
        → Alike like like.passes (readBlock start) (readBlock start')

/-- The names of parameters are read alike, by induction on what is left to read. -/
private theorem alike_names {position position' : Position} (seen : List String)
    {inside : position <:+ start} {inside' : position' <:+ start'}
    (same : like.same position position') (goes_on : like.passes position)
    : Alike like like.passes (names seen position inside) (names seen position' inside') := by
  induction length : position.length using Nat.strongRecOn generalizing seen position position' with
  | _ n ih =>
      have next := like.nextKind same goes_on
      rw [names, names]
      by_cases separates : Position.nextKind position = .comma
      · have shorter := length_tail_tail_lt (two_le_length separates (by decide))
        have comma : Position.kind position.tail = .comma := separates
        rw [dif_pos separates, dif_pos (next.symm.trans separates)]
        have tail := like.tail same goes_on
        refine alike_expectNext tail (like.passes_of_kind tail comma) fun further named => ?_
        rw [← like.literal further]
        exact ih _ (length ▸ shorter) _ further (like.passes_of_kind further named) rfl
      · rw [dif_neg separates, dif_neg (fun found => separates (next.trans found))]
        refine alike_expectNext same goes_on fun further closes => ?_
        exact alike_accept further (like.passes_of_kind further closes)

private theorem alike_parameters {position position' : Position}
    (same : like.same position position') (goes_on : like.passes position)
    : Alike like like.passes (parameters position) (parameters position') := by
  have next := like.nextKind same goes_on
  have further := like.tail same goes_on
  rw [parameters, parameters, ← next]
  split
  · rename_i closes
    have closes : Position.kind position.tail = .rightParen := closes
    exact alike_accept further (like.passes_of_kind further closes)
  · refine alike_expectNext same goes_on fun further named => ?_
    rw [← like.literal further]
    exact alike_names _ further (like.passes_of_kind further named)

/-- A token with which no expression starts is reported where it stands. -/
private theorem readOperand_reject (sign : UnaryOperator.ofKind? (Position.kind start) = none)
    (other : Position.kind start ∉ [.identifier, .integer, .string, .trueWord, .falseWord,
      .leftParen, .ifWord, .functionWord])
    : readOperand start
      = reject (.noOperand (Position.literal start)) start (List.suffix_refl _) := by
  cases start with
  | nil => exact readOperand_nil
  | cons token rest => exact readOperand_none sign other

/-- Where both positions show the same token they are that token and what is behind it. -/
private theorem exists_cons_of_same {kind : Token.Kind} (same : like.same start start')
    (found : Position.kind start = kind) (other : kind ∉ breaks := by decide)
    : ∃ token rest token' rest',
        start = token :: rest
        ∧ start' = token' :: rest'
        ∧ token.kind = kind
        ∧ token'.kind = kind
        ∧ token.literal = token'.literal
        ∧ like.same rest rest' := by
  have not_ending : kind ≠ .endOfInput := by
    rintro rfl
    exact other (by decide)
  obtain ⟨token, rest, rfl, here⟩ := exists_of_kind found not_ending
  obtain ⟨token', rest', rfl, there⟩ :=
    exists_of_kind ((like.kind same).symm.trans found) not_ending
  have behind := like.tail same (like.passes_of_kind same found other)
  exact ⟨token, rest, token', rest', rfl, rfl, here, there, like.literal same, behind⟩

private theorem keeps_group (ih : ∀ task, lower task (.operand start) → like.Keeps task)
    (kind : Position.kind start = .leftParen) (same : like.same start start')
    : Alike like like.passes (readOperand start) (readOperand start') := by
  obtain ⟨token, rest, token', rest', rfl, rfl, here, there, -, behind⟩ :=
    exists_cons_of_same same kind
  rw [readOperand_leftParen here, readOperand_leftParen there]
  have first := ih (.expression .lowest rest) (lower_of_length (Nat.lt_succ_self _)) rest'
    behind
  refine first.andThen fun _ last last' _ _ _ _ same goes_on => ?_
  refine alike_expectNext same goes_on fun further closes => ?_
  exact alike_accept further (like.passes_of_kind further closes)

private theorem keeps_unary {operator : UnaryOperator}
    (ih : ∀ task, lower task (.operand start) → like.Keeps task)
    (signed : UnaryOperator.ofKind? (Position.kind start) = some operator)
    (same : like.same start start')
    : Alike like like.passes (readOperand start) (readOperand start') := by
  obtain ⟨token, rest, token', rest', rfl, rfl, here, there, -, behind⟩ :=
    exists_cons_of_same same rfl (unary_not_mem_breaks signed)
  rw [readOperand_unary (here ▸ signed), readOperand_unary (there ▸ signed)]
  have first := ih (.expression .unary rest) (lower_of_length (Nat.lt_succ_self _)) rest'
    behind
  refine first.andThen fun _ last last' _ _ _ _ same goes_on => ?_
  exact alike_accept same goes_on

private theorem keeps_conditional (ih : ∀ task, lower task (.operand start) → like.Keeps task)
    (kind : Position.kind start = .ifWord) (same : like.same start start')
    : Alike like like.passes (readOperand start) (readOperand start') := by
  obtain ⟨token, rest, token', rest', rfl, rfl, here, there, -, -⟩ :=
    exists_cons_of_same same kind
  rw [readOperand_ifWord here, readOperand_ifWord there]
  refine alike_expectNext same (like.passes_of_kind same kind) fun same opens => ?_
  have opens : Position.kind rest = .leftParen := opens
  have within_rest : rest.tail.length ≤ rest.length := (List.tail_sublist rest).length_le
  have condition := ih (.expression .lowest rest.tail)
    (lower_of_length (Nat.lt_succ_of_le within_rest)) _
    (like.tail same (like.passes_of_kind same opens))
  refine condition.andThen fun _ last last' shorter _ _ _ same goes_on => ?_
  refine alike_expectNext same goes_on fun same closes => ?_
  refine alike_expectNext same (like.passes_of_kind same closes) fun same braces => ?_
  have within_last : last.tail.tail.length ≤ last.length :=
    ((List.tail_sublist last.tail).trans (List.tail_sublist last)).length_le
  have consequence := ih (.block last.tail.tail)
    (lower_of_length (by simp only [Task.start, List.length_cons]; omega)) _ same braces
  refine consequence.andThen fun _ last last' shorter' _ _ _ same goes_on => ?_
  have next := like.nextKind same goes_on
  by_cases otherwise : Position.nextKind last = .elseWord
  · have other : Position.kind last.tail = .elseWord := otherwise
    rw [if_pos otherwise, if_pos (next.symm.trans otherwise)]
    have tail := like.tail same goes_on
    refine alike_expectNext tail (like.passes_of_kind tail other) fun same braces => ?_
    have within_last' : last.tail.tail.length ≤ last.length :=
      ((List.tail_sublist last.tail).trans (List.tail_sublist last)).length_le
    have alternative := ih (.block last.tail.tail)
      (lower_of_length (by simp only [Task.start, List.length_cons]; omega)) _ same braces
    refine alternative.andThen fun _ _ _ _ _ _ _ same goes_on => ?_
    exact alike_accept same goes_on
  · rw [if_neg otherwise, if_neg (fun found => otherwise (next.trans found))]
    exact alike_accept same goes_on

private theorem keeps_function (ih : ∀ task, lower task (.operand start) → like.Keeps task)
    (kind : Position.kind start = .functionWord) (same : like.same start start')
    : Alike like like.passes (readOperand start) (readOperand start') := by
  obtain ⟨token, rest, token', rest', rfl, rfl, here, there, -, -⟩ :=
    exists_cons_of_same same kind
  rw [readOperand_functionWord here, readOperand_functionWord there]
  refine alike_expectNext same (like.passes_of_kind same kind) fun same opens => ?_
  have opens : Position.kind rest = .leftParen := opens
  refine (alike_parameters same (like.passes_of_kind same opens)).andThen
    fun _ last last' shorter _ _ _ same goes_on => ?_
  refine alike_expectNext same goes_on fun same braces => ?_
  have shorter : last.length ≤ rest.length := shorter
  have within_last : last.tail.length ≤ last.length := (List.tail_sublist last).length_le
  have body := ih (.block last.tail)
    (lower_of_length (by simp only [Task.start, List.length_cons]; omega)) _ same braces
  refine body.andThen fun _ _ _ _ _ _ _ same goes_on => ?_
  exact alike_accept same goes_on

/-- An operand of one token. -/
private theorem alike_leaf {e : Expression} (same : like.same start start')
    (goes_on : like.passes start)
    (here : readOperand start = accept e start (List.suffix_refl _))
    (there : readOperand start' = accept e start' (List.suffix_refl _))
    : Alike like like.passes (readOperand start) (readOperand start') := by
  rw [here, there]
  exact alike_accept same goes_on

private theorem keeps_operand (ih : ∀ task, lower task (.operand start) → like.Keeps task)
    : like.Keeps (.operand start) := by
  intro start' same
  cases kind : Position.kind start
  case leftParen => exact keeps_group ih kind same
  case ifWord => exact keeps_conditional ih kind same
  case functionWord => exact keeps_function ih kind same
  case identifier =>
    obtain ⟨token, rest, token', rest', rfl, rfl, here, there, literal, -⟩ :=
      exists_cons_of_same same kind
    refine alike_leaf same (like.passes_of_kind same kind) (readOperand_identifier here) ?_
    rw [literal]
    exact readOperand_identifier there
  case string =>
    obtain ⟨token, rest, token', rest', rfl, rfl, here, there, literal, -⟩ :=
      exists_cons_of_same same kind
    refine alike_leaf same (like.passes_of_kind same kind) (readOperand_string here) ?_
    rw [literal]
    exact readOperand_string there
  case integer =>
    obtain ⟨token, rest, token', rest', rfl, rfl, here, there, literal, -⟩ :=
      exists_cons_of_same same kind
    rw [readOperand_integer here, readOperand_integer there, ← literal]
    split
    · exact alike_accept same (like.passes_of_kind same kind)
    · exact alike_reject same
  case trueWord =>
    obtain ⟨token, rest, token', rest', rfl, rfl, here, there, -, -⟩ :=
      exists_cons_of_same same kind
    exact alike_leaf same (like.passes_of_kind same kind) (readOperand_trueWord here)
      (readOperand_trueWord there)
  case falseWord =>
    obtain ⟨token, rest, token', rest', rfl, rfl, here, there, -, -⟩ :=
      exists_cons_of_same same kind
    exact alike_leaf same (like.passes_of_kind same kind) (readOperand_falseWord here)
      (readOperand_falseWord there)
  case bang => exact keeps_unary ih (by rw [kind]; rfl) same
  case minus => exact keeps_unary ih (by rw [kind]; rfl) same
  all_goals
    have kind' := (like.kind same).symm.trans kind
    rw [readOperand_reject (by simp [kind, UnaryOperator.ofKind?]) (by simp [kind]),
      readOperand_reject (by simp [kind', UnaryOperator.ofKind?]) (by simp [kind']),
      ← like.literal same]
    exact alike_reject same

-----------------------------------------------------------------------------------------
-- Expressions and statements
-----------------------------------------------------------------------------------------

private theorem keeps_operators {level : Precedence} {left : Expression}
    (ih : ∀ task, lower task (.operators level left start) → like.Keeps task)
    : like.Keeps (.operators level left start) := by
  intro start' same goes_on
  have next := like.nextKind same goes_on
  have further := like.tail same goes_on
  by_cases opens : Position.nextKind start = .leftParen
  · have opening : Position.kind start.tail = .leftParen := opens
    have shorter := length_tail_tail_lt (two_le_length opens (by decide))
    have passed := like.passes_of_kind further opening
    have inner := like.tail further passed
    have next_inner := like.nextKind further passed
    by_cases closes : Position.nextKind start.tail = .rightParen
    · rw [readOperators_call_nil opens closes,
        readOperators_call_nil (next.symm.trans opens) (next_inner.symm.trans closes)]
      have closing : Position.kind start.tail.tail = .rightParen := closes
      have goes_on := like.passes_of_kind inner closing
      exact (ih (.operators level _ _) (lower_of_length shorter) _ inner goes_on).within
    · rw [readOperators_call opens closes,
        readOperators_call (next.symm.trans opens) (fun found => closes (next_inner.trans found))]
      refine (ih (.arguments _) (lower_of_length shorter) _ inner).andThen
        fun _ last last' within _ _ _ same goes_on => ?_
      have smaller : last.length < start.length := Nat.lt_of_le_of_lt within shorter
      exact (ih (.operators level _ last) (lower_of_length smaller) _ same goes_on).within
  by_cases tight : ∃ operator,
      BinaryOperator.ofKind? (Position.nextKind start) = some operator
      ∧ level < operator.precedence
  · obtain ⟨operator, signed, tighter⟩ := tight
    have shorter := length_tail_tail_lt (two_le_length_of_operator signed)
    have passed := like.unbroken further (binary_not_mem_breaks signed)
    rw [readOperators_binary signed tighter, readOperators_binary (next ▸ signed) tighter]
    refine (ih (.expression operator.precedence _) (lower_of_length shorter) _
      (like.tail further passed)).andThen fun _ last last' within _ _ _ same goes_on => ?_
    have smaller : last.length < start.length := Nat.lt_of_le_of_lt within shorter
    exact (ih (.operators level _ last) (lower_of_length smaller) _ same goes_on).within
  · have looser : ∀ operator,
        BinaryOperator.ofKind? (Position.nextKind start) = some operator
        → ¬ level < operator.precedence :=
      fun operator signed tighter => tight ⟨operator, signed, tighter⟩
    rw [readOperators_end opens looser, readOperators_end (next ▸ opens) (next ▸ looser)]
    exact alike_accept same goes_on

private theorem keeps_expression {level : Precedence}
    (ih : ∀ task, lower task (.expression level start) → like.Keeps task)
    : like.Keeps (.expression level start) := by
  intro start' same
  rw [readExpression_eq, readExpression_eq]
  refine (ih (.operand start) (lower_of_rank (List.suffix_refl _) (by simp)) _ same).andThen
    fun _ last last' _ inside _ _ same goes_on => ?_
  exact (ih (.operators level _ last) (lower_of_rank inside (by simp)) _ same goes_on).within

private theorem keeps_arguments (ih : ∀ task, lower task (.arguments start) → like.Keeps task)
    : like.Keeps (.arguments start) := by
  intro start' same
  rw [readArguments_eq, readArguments_eq]
  refine (ih (.expression .lowest start) (lower_of_rank (List.suffix_refl _) (by simp)) _
    same).andThen fun _ last last' within inside _ _ same goes_on => ?_
  have next := like.nextKind same goes_on
  by_cases separates : Position.nextKind last = .comma
  · have comma : Position.kind last.tail = .comma := separates
    have shorter := length_tail_tail_lt (two_le_length separates (by decide))
    rw [if_pos separates, if_pos (next.symm.trans separates)]
    have tail := like.tail same goes_on
    have further := like.tail tail (like.passes_of_kind tail comma)
    refine (ih (.arguments _) (lower_of_length (Nat.lt_of_lt_of_le shorter within)) _
      further).andThen fun _ _ _ _ _ _ _ same goes_on => ?_
    exact alike_accept same goes_on
  · rw [if_neg separates, if_neg (fun found => separates (next.trans found))]
    refine alike_expectNext same goes_on fun further closes => ?_
    exact alike_accept further (like.passes_of_kind further closes)

private theorem alike_closing {make : Expression → Statement} {position position' : Position}
    {inside : position <:+ start} {inside' : position' <:+ start'}
    (keeps : like.Keeps (.expression .lowest position)) (same : like.same position position')
    : Alike like like.Closes (readClosing make position inside)
        (readClosing make position' inside') := by
  refine (keeps _ same).andThen fun _ last last' _ _ _ _ same goes_on => ?_
  have next := like.nextKind same goes_on
  have both : like.same (optionalSemicolon last) (optionalSemicolon last')
      ∧ like.Closes (optionalSemicolon last) := by
    unfold optionalSemicolon
    rw [← next]
    split
    · rename_i closes
      exact ⟨like.tail same goes_on, .inr closes⟩
    · exact ⟨same, .inl goes_on⟩
  exact alike_accept both.1 both.2

private theorem keeps_statement (ih : ∀ task, lower task (.statement start) → like.Keeps task)
    : like.Keeps (.statement start) := by
  intro start' same
  have kinds := like.kind same
  by_cases declares : Position.kind start = .letWord
  · rw [readStatement_letWord declares, readStatement_letWord (kinds.symm.trans declares)]
    refine alike_expectNext same (like.passes_of_kind same declares) fun same named => ?_
    refine alike_expectNext same (like.passes_of_kind same named) fun further equals => ?_
    rw [← like.literal same]
    have inside : start.tail.tail.tail <:+ start :=
      tail_suffix (tail_suffix (List.tail_suffix start))
    exact alike_closing (ih (.expression .lowest _) (lower_of_rank inside (by simp)))
      (like.tail further (like.passes_of_kind further equals))
  by_cases returns : Position.kind start = .returnWord
  · rw [readStatement_returnWord returns, readStatement_returnWord (kinds.symm.trans returns)]
    exact alike_closing (ih (.expression .lowest _) (lower_of_rank (List.tail_suffix _) (by simp)))
      (like.tail same (like.passes_of_kind same returns))
  · rw [readStatement_expression declares returns,
      readStatement_expression (kinds ▸ declares) (kinds ▸ returns)]
    exact alike_closing (ih (.expression .lowest _) (lower_of_rank (List.suffix_refl _) (by simp)))
      same

/-- From positions that look the same all but the statements of a place are read alike, if blocks
are.
-/
theorem Likeness.keeps (like : Likeness)
    (blocks
      : ∀ start,
          (∀ task, lower task (.block start) → like.Keeps task) → like.Keeps (.block start))
    (task : Task)
    : like.Keeps task := by
  induction task using lower_wellFounded.induction with
  | _ task ih =>
      cases task with
      | operand start => exact keeps_operand ih
      | operators level left start => exact keeps_operators ih
      | expression level start => exact keeps_expression ih
      | arguments start => exact keeps_arguments ih
      | statement start => exact keeps_statement ih
      | statements place start => trivial
      | block start => exact blocks start ih

end Guion.Parsing
