import Guion.Proofs.Parsing.Completeness
import Guion.Proofs.Parsing.Congruence

/-! Recovery from errors is local.

Tokens are read on their own if reading goes on behind them as it would start there, whatever was
reported before. So is a line, as a broken statement in it is skipped up to the semicolon and no
further: no brace stands in the way. So is what is derived up to a semicolon, and a function is if
what stands between its braces is.
-/

namespace Guion.Parsing

open Grammar

variable {α β : Type} {start part : Position}

-----------------------------------------------------------------------------------------
-- Tokens that are read on their own
-----------------------------------------------------------------------------------------

/-- At every place and in front of all other tokens, these tokens yield the statements `ss` and the
errors `es`, and then reading goes on as it would start behind them.
-/
def Recovers (ts : List Token) (ss : List Statement) (es : List ParseError) : Prop :=
  ∀ place rest,
    (readStatements place (ts ++ rest)).value = ss ++ (readStatements place rest).value
    ∧ (readStatements place (ts ++ rest)).position = (readStatements place rest).position
    ∧ Diagnostic.errors (readStatements place (ts ++ rest)).diagnostics.toList
      = es ++ Diagnostic.errors (readStatements place rest).diagnostics.toList

namespace Recovers

variable {ts us : List Token} {ss ss' : List Statement} {es es' : List ParseError}

theorem nil : Recovers [] [] [] :=
  fun _ _ => ⟨rfl, rfl, rfl⟩

theorem append (first : Recovers ts ss es) (second : Recovers us ss' es')
    : Recovers (ts ++ us) (ss ++ ss') (es ++ es') := by
  intro place rest
  obtain ⟨values, positions, errors⟩ := first place (us ++ rest)
  obtain ⟨values', positions', errors'⟩ := second place rest
  rw [List.append_assoc, values, positions, errors, values', positions', errors',
    List.append_assoc, List.append_assoc]
  exact ⟨rfl, rfl, rfl⟩

/-- What stands alone yields the same statements and the same errors. -/
theorem alone (recovers : Recovers ts ss es)
    : (readStatements .program ts).value = ss
      ∧ Diagnostic.errors (readStatements .program ts).diagnostics.toList = es := by
  obtain ⟨values, -, errors⟩ := recovers .program []
  rw [List.append_nil, readStatements_nil] at values errors
  rw [values, errors, Rope.toList_empty]
  exact ⟨List.append_nil ss, List.append_nil es⟩

end Recovers

-----------------------------------------------------------------------------------------
-- One statement in front of others
-----------------------------------------------------------------------------------------

/-- A phrase is read in full, with the errors `es` in it, and `rest` is left behind it. -/
structure Yields (phrase : Phrase α start) (value : α) (es : List ParseError)
    (rest : List Token) : Prop where
  value_eq : phrase.value = .ok value
  errors_eq : Diagnostic.errors phrase.diagnostics.toList = es
  behind : phrase.position.tail = rest

theorem Reads.yields {phrase : Phrase α start} {value : α} {rest : List Token}
    (reads : Reads phrase value rest)
    : Yields phrase value [] rest := by
  obtain ⟨last, clean, behind⟩ := reads
  exact ⟨clean.value_eq, by rw [clean.silent, Diagnostic.errors_nil], clean.position_eq ▸ behind⟩

/-- Two phrases in a row are read with the errors of both. -/
theorem Yields.andThen {phrase : Phrase β part} {inside : part <:+ start}
    {next : β → (last : Position) → last.length ≤ part.length → last <:+ start
      → Phrase α start}
    {b : β} {value : α} {es es' : List ParseError} {middle rest : List Token}
    (first : Yields phrase b es middle)
    (second
      : ∀ last shorter within,
          last.tail = middle → Yields (next b last shorter within) value es' rest)
    : Yields (phrase.andThen inside next) value (es ++ es') rest := by
  rw [Reading.andThen_of_ok first.value_eq]
  obtain ⟨value_eq, errors_eq, behind⟩ :=
    second phrase.position phrase.length_le (phrase.position_suffix inside) first.behind
  refine ⟨value_eq, ?_, behind⟩
  rw [Reading.toList_diagnostics_before, Diagnostic.errors_append, first.errors_eq, errors_eq]

theorem yields_expectNext {kind : Token.Kind} {position : Position} {inside : position <:+ start}
    {next : position.tail <:+ start → Phrase α start} {value : α} {es : List ParseError}
    {rest : List Token} (found : Position.kind position.tail = kind)
    (further : Yields (next (tail_suffix inside)) value es rest)
    : Yields (expectNext kind position inside next) value es rest := by
  have found : Position.nextKind position = kind := found
  rwa [expectNext, if_pos found]

/-- A statement that is read in front of all other tokens may stand in front of tokens that are read
on their own.
-/
theorem Recovers.cons {ts us : List Token} {s : Statement} {ss : List Statement}
    {es es' : List ParseError}
    (opened : ∀ place rest, closes place (Position.kind (ts ++ rest)) = false)
    (first : ∀ rest, Yields (readStatement (ts ++ rest)) s es (us ++ rest))
    (others : Recovers us ss es')
    : Recovers ts (s :: ss) (es ++ es') := by
  intro place rest
  obtain ⟨found, errors, behind⟩ := first rest
  obtain ⟨values, positions, diagnostics⟩ := readStatements_of_ok (opened place rest) found
  obtain ⟨more, position, more_errors⟩ := others place rest
  rw [behind] at values positions diagnostics
  refine ⟨?_, ?_, ?_⟩
  · rw [values, more, List.cons_append]
  · rw [positions, position]
  · rw [diagnostics, Diagnostic.errors_append, errors, more_errors, List.append_assoc]

-----------------------------------------------------------------------------------------
-- Lines
-----------------------------------------------------------------------------------------

/-- Tokens up to the first semicolon, without a brace. -/
inductive Line : List Token → Prop where
  | last {token : Token} (closes : token.kind = .semicolon) : Line [token]
  | further {token : Token} {ts : List Token} (inside : token.kind ∉ breaks) (rest : Line ts)
      : Line (token :: ts)

namespace Line

variable {ts : List Token}

theorem ne_nil (line : Line ts) : ts ≠ [] := by
  cases line <;> exact List.cons_ne_nil _ _

/-- A line starts with a semicolon or with a token that stands inside of it. -/
theorem kind_eq_or (line : Line ts)
    : Position.kind ts = .semicolon ∨ Position.kind ts ∉ breaks := by
  cases line with
  | last closes => exact .inl closes
  | further inside => exact .inr inside

theorem kind_not_mem (line : Line ts)
    : Position.kind ts ∉ [.leftBrace, .rightBrace, .endOfInput] := by
  rcases line.kind_eq_or with closes | inside
  · simp [closes]
  · exact fun found => inside (.tail _ found)

/-- No place ends in front of a line. -/
theorem opened (line : Line ts) (place : Place) (rest : List Token)
    : closes place (Position.kind (ts ++ rest)) = false := by
  rw [kind_append line.ne_nil]
  have other := line.kind_not_mem
  simp only [List.mem_cons, not_or] at other
  simp [closes, other]

/-- A broken statement is skipped up to the semicolon of its line. -/
theorem skip_append (line : Line ts) (rest : List Token)
    : Position.kind (skip (ts ++ rest)) = .semicolon ∧ (skip (ts ++ rest)).tail = rest := by
  induction line with
  | last closes =>
      rw [List.singleton_append, skip, if_pos (.inl (by simp [closes]))]
      exact ⟨closes, rfl⟩
  | @further token ts inside line ih =>
      have breaks : [.semicolon, .rightBrace, .endOfInput] ⊆ breaks := by decide
      have here : token.kind ∉ [.semicolon, .rightBrace, .endOfInput] :=
        fun found => inside (breaks found)
      have next : Position.kind (ts ++ rest) ∉ [.rightBrace, .endOfInput] := by
        rw [kind_append line.ne_nil]
        exact fun found => line.kind_not_mem (.tail _ found)
      rw [List.cons_append, skip, if_neg (not_or.mpr ⟨here, next⟩)]
      exact ih

end Line

/-- Two positions show the same line, and then something else. -/
def sameLine (rest rest' : List Token) : Likeness where
  same a b := ∃ ts, Line ts ∧ a = ts ++ rest ∧ b = ts ++ rest'
  passes a := Position.kind a ≠ .semicolon
  agree ds es := ds = [] ∧ es = []
  kind := by
    rintro a b ⟨ts, line, rfl, rfl⟩
    rw [kind_append line.ne_nil, kind_append line.ne_nil]
  literal := by
    rintro a b ⟨ts, line, rfl, rfl⟩
    cases line <;> rfl
  tail := by
    rintro a b ⟨ts, line, rfl, rfl⟩ goes_on
    cases line with
    | last closes => exact absurd closes goes_on
    | further inside line => exact ⟨_, line, rfl, rfl⟩
  unbroken := by
    intro a b _ other semicolon
    rw [semicolon] at other
    exact other (by decide)
  silent := ⟨rfl, rfl⟩
  append := by
    rintro _ _ _ _ ⟨rfl, rfl⟩ ⟨rfl, rfl⟩
    exact ⟨rfl, rfl⟩

/-- No block is read in a line. -/
theorem keeps_sameLine (rest rest' : List Token) (task : Task)
    : (sameLine rest rest').Keeps task := by
  refine (sameLine rest rest').keeps (fun start _ => ?_) task
  rintro start' ⟨ts, line, rfl, -⟩ opens
  rw [kind_append line.ne_nil] at opens
  exact absurd (opens ▸ line.kind_not_mem) (by decide)

/-- A statement that starts with a line is read as if nothing stood behind the line, and reading
stops in the line.
-/
theorem Line.readStatement_append {ts : List Token} (line : Line ts) (rest : List Token)
    : (readStatement (ts ++ rest)).value = (readStatement ts).value
      ∧ Line (readStatement ts).position
      ∧ (readStatement (ts ++ rest)).position = (readStatement ts).position ++ rest
      ∧ (readStatement (ts ++ rest)).diagnostics.toList = [] := by
  have alike : Alike (sameLine rest []) (sameLine rest []).Closes (readStatement (ts ++ rest))
      (readStatement ts) :=
    keeps_sameLine rest [] (.statement _) _ ⟨ts, line, rfl, (List.append_nil ts).symm⟩
  obtain ⟨us, line', here, there⟩ := alike.position
  rw [List.append_nil] at there
  exact ⟨alike.value, there ▸ line', there ▸ here, alike.agree.1⟩

/-- A line in which the first statement is broken is read as nothing but its error. -/
private theorem Line.recovers_of_error {ts : List Token} (line : Line ts) {error : ParseError}
    (broken : (readStatement ts).value = .error error)
    : Recovers ts [] [error] := by
  intro place rest
  obtain ⟨value, stopped, position, silent⟩ := line.readStatement_append rest
  obtain ⟨semicolon, behind⟩ := stopped.skip_append rest
  rw [← position] at semicolon behind
  have goes_on : ¬ (place = .block
      ∧ Position.kind (skip (readStatement (ts ++ rest)).position) = .rightBrace) := by
    simp [semicolon]
  obtain ⟨values, positions, diagnostics⟩ :=
    readStatements_of_skipped (line.opened place rest) (value.trans broken) goes_on
  rw [behind] at values positions diagnostics
  refine ⟨values, positions, ?_⟩
  rw [diagnostics, silent]
  rfl

/-- A line is read on its own, and one error at most is reported in it. The induction is on what is
left of the line behind a statement that is read in full.
-/
theorem Line.exists_recovers {ts : List Token} (line : Line ts)
    : ∃ ss es, es.length ≤ 1 ∧ Recovers ts ss es := by
  induction length : ts.length using Nat.strongRecOn generalizing ts with
  | _ n ih =>
      cases found : (readStatement ts).value with
      | error error => exact ⟨[], [error], Nat.le_refl 1, line.recovers_of_error found⟩
      | ok s =>
          have stopped : Line (readStatement ts).position := (line.readStatement_append []).2.1
          have first (rest : List Token)
              : Yields (readStatement (ts ++ rest)) s []
                  ((readStatement ts).position.tail ++ rest) := by
            obtain ⟨value, -, position, silent⟩ := line.readStatement_append rest
            refine ⟨value.trans found, by rw [silent, Diagnostic.errors_nil], ?_⟩
            rw [position, List.tail_append_of_ne_nil stopped.ne_nil]
          have shorter : (readStatement ts).position.tail.length < n := by
            have inside := (readStatement ts).length_le
            have nonempty := List.length_pos_iff.mpr stopped.ne_nil
            rw [List.length_tail]
            omega
          have further : ∃ ss es, es.length ≤ 1
              ∧ Recovers (readStatement ts).position.tail ss es := by
            cases stopped_here : (readStatement ts).position with
            | nil => exact absurd stopped_here stopped.ne_nil
            | cons token rest =>
                rw [stopped_here] at stopped shorter
                cases stopped with
                | last => exact ⟨[], [], Nat.zero_le 1, .nil⟩
                | further _ line' => exact ih _ shorter line' rfl
          obtain ⟨ss, es, single, others⟩ := further
          exact ⟨s :: ss, es, single, .cons line.opened first others⟩

-----------------------------------------------------------------------------------------
-- What is derived
-----------------------------------------------------------------------------------------

/-- What is derived up to a semicolon is read on its own. -/
theorem recovers_of_derives {ss : List Statement} {ts : List Token}
    (derived : Derives (.statements ss) ts)
    (closed : ∀ token, ts.getLast? = some token → token.kind = .semicolon)
    : Recovers ts ss [] := by
  generalize shape : Form.statements ss = form at derived
  induction derived generalizing ss with
  | noStatements =>
      cases shape
      exact .nil
  | @closedStatement s _ semicolon ts us first closes rest _ ih =>
      cases shape
      have yields (rest : List Token)
          : Yields (readStatement (ts ++ semicolon :: us ++ rest)) s [] (us ++ rest) := by
        rw [List.append_assoc]
        exact ((complete first).reads_closed closes _).yields
      refine .cons (fun place rest => ?_) yields (ih (fun token found => ?_) rfl)
      · rw [List.append_assoc]
        exact closes_eq_false place first _
      · refine closed token ?_
        rw [List.getLast?_append, List.getLast?_cons, found]
        rfl
  | @openStatement s _ ts us first ends rest _ ih =>
      cases shape
      have nonempty : us ≠ [] := by
        -- Without others the statement itself would end with the semicolon.
        rintro rfl
        rw [List.append_nil] at closed
        have last := List.getLast?_eq_some_getLast first.statement_ne_nil
        exact first.unclosed nofun _ last (closed _ last)
      have yields (behind : List Token)
          : Yields (readStatement (ts ++ us ++ behind)) s [] (us ++ behind) := by
        obtain ⟨ends, no_else, no_semicolon⟩ := separate_append rest nonempty ends behind
        rw [List.append_assoc]
        exact ((complete first).reads_open ends no_else no_semicolon).yields
      refine .cons (fun place rest => ?_) yields (ih (fun token found => ?_) rfl)
      · rw [List.append_assoc]
        exact closes_eq_false place first _
      · refine closed token ?_
        rw [List.getLast?_append, found]
        rfl
  | _ => cases shape

-----------------------------------------------------------------------------------------
-- Functions
-----------------------------------------------------------------------------------------

/-- The tokens of a function in front of its code, up to the opening brace. -/
inductive Heading : List String → List Token → Prop where
  | ofNone {word opening closing brace : Token} (kind : word.kind = .functionWord)
      (opens : opening.kind = .leftParen) (closes : closing.kind = .rightParen)
      (braces : brace.kind = .leftBrace)
      : Heading [] [word, opening, closing, brace]
  | ofNames {word opening closing brace : Token} {names : List String} {ts : List Token}
      (kind : word.kind = .functionWord) (opens : opening.kind = .leftParen)
      (named : Derives (.parameters names) ts) (closes : closing.kind = .rightParen)
      (braces : brace.kind = .leftBrace)
      : Heading names (word :: opening :: (ts ++ [closing, brace]))

/-- Behind the heading of a function its code is read as a block. -/
theorem Heading.exists_parts {names : List String} {head : List Token}
    (heading : Heading names head) (rest : List Token)
    : ∃ word opening between brace,
        head ++ rest = word :: opening :: between
        ∧ word.kind = .functionWord
        ∧ opening.kind = .leftParen
        ∧ brace.kind = .leftBrace
        ∧ Reads (parameters (opening :: between)) names (brace :: rest) := by
  cases heading with
  | @ofNone word opening closing brace kind opens closes braces =>
      exact ⟨word, opening, closing :: brace :: rest, brace, rfl, kind, opens, braces,
        reads_noParameters closes⟩
  | @ofNames word opening closing brace _ ts kind opens named closes braces =>
      refine ⟨word, opening, ts ++ closing :: brace :: rest, brace, ?_, kind, opens, braces, ?_⟩
      · simp
      · exact reads_parameters named (complete named) closes

/-- A block is read with the errors in it if what stands in it is read on its own. -/
theorem Recovers.yields_block {ts rest : List Token} {ss : List Statement} {es : List ParseError}
    {opening closing : Token} (recovers : Recovers ts ss es) (closes : closing.kind = .rightBrace)
    : Yields (readBlock (opening :: (ts ++ closing :: rest))) ss es rest := by
  obtain ⟨values, positions, errors⟩ := recovers .block (closing :: rest)
  have closed : Parsing.closes .block closing.kind = true := by simp [Parsing.closes, closes]
  rw [readStatements_closed closed] at values positions errors
  rw [Rope.toList_empty] at errors
  have goes_on : Position.kind (readStatements .block (ts ++ closing :: rest)).position
      ≠ .endOfInput := by
    simp [positions, Position.kind, closes]
  rw [readBlock_eq]
  refine ⟨(if_neg goes_on).trans ?_, ?_, ?_⟩
  · exact congrArg Except.ok (values.trans (List.append_nil ss))
  · exact errors.trans (List.append_nil es)
  · exact congrArg List.tail positions

/-- An operand in front of a semicolon is a statement together with it. -/
private theorem Yields.statement {tokens : Position} {e : Expression} {es : List ParseError}
    {semicolon : Token} {rest : List Token}
    (operand : Yields (readOperand tokens) e es (semicolon :: rest))
    (ends : semicolon.kind = .semicolon) (no_let : Position.kind tokens ≠ .letWord)
    (no_return : Position.kind tokens ≠ .returnWord)
    : Yields (readStatement tokens) (.expression e) es rest := by
  have next {last : Position} (there : last.tail = semicolon :: rest)
      : Position.nextKind last = .semicolon := by
    rw [Position.nextKind, there]
    exact ends
  have expression : Yields (readExpression .lowest tokens) e es (semicolon :: rest) := by
    rw [readExpression_eq, ← List.append_nil es]
    refine operand.andThen fun last _ _ there => ?_
    rw [readOperators_end (by simp [next there]) (by simp [next there, BinaryOperator.ofKind?])]
    exact (reads_accept there).within.yields
  rw [readStatement_expression no_let no_return, readClosing, ← List.append_nil es]
  refine expression.andThen fun last _ _ there => (reads_accept ?_).yields
  rw [optionalSemicolon, if_pos (next there), there, List.tail_cons]

/-- The statement that is a function is read with the errors in its code. -/
private theorem Recovers.yields_function {names : List String} {head inner : List Token}
    {ss : List Statement} {es : List ParseError} {closing semicolon : Token}
    (recovers : Recovers inner ss es) (heading : Heading names head)
    (closes : closing.kind = .rightBrace) (ends : semicolon.kind = .semicolon)
    (rest : List Token)
    : Yields (readStatement (head ++ (inner ++ closing :: semicolon :: rest)))
        (.expression (.function names ss)) es rest := by
  obtain ⟨word, opening, between, brace, here, kind, opens, braces, given⟩ :=
    heading.exists_parts (inner ++ closing :: semicolon :: rest)
  have block : Yields (readBlock (brace :: (inner ++ closing :: semicolon :: rest))) ss es
      (semicolon :: rest) :=
    recovers.yields_block closes
  have operand : Yields (readOperand (word :: opening :: between)) (.function names ss) es
      (semicolon :: rest) := by
    rw [readOperand_functionWord kind, ← List.nil_append es]
    refine yields_expectNext opens (given.yields.andThen fun last _ _ there => ?_)
    obtain ⟨front, rfl⟩ := exists_of_tail there
    refine yields_expectNext braces ?_
    rw [← List.append_nil es]
    exact block.andThen fun last _ _ there => (reads_accept there).yields
  rw [here]
  exact operand.statement ends (by simp [Position.kind, kind]) (by simp [Position.kind, kind])

/-- A function is read on its own if its code is, and its errors are those of the code. -/
theorem Recovers.function {names : List String} {head inner : List Token} {ss : List Statement}
    {es : List ParseError} {closing semicolon : Token} (recovers : Recovers inner ss es)
    (heading : Heading names head) (closes : closing.kind = .rightBrace)
    (ends : semicolon.kind = .semicolon)
    : Recovers (head ++ inner ++ [closing, semicolon]) [.expression (.function names ss)] es := by
  have first (rest : List Token)
      : Yields (readStatement (head ++ inner ++ [closing, semicolon] ++ rest))
          (.expression (.function names ss)) es ([] ++ rest) := by
    rw [List.append_assoc, List.append_assoc]
    exact recovers.yields_function heading closes ends rest
  rw [← List.append_nil es]
  refine .cons (fun place rest => ?_) first .nil
  obtain ⟨word, opening, between, brace, here, kind, -⟩ :=
    heading.exists_parts (inner ++ ([closing, semicolon] ++ rest))
  rw [List.append_assoc, List.append_assoc, here]
  simp [Parsing.closes, Position.kind, kind]

end Guion.Parsing
