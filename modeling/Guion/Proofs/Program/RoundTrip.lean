import Guion.Proofs.Parsing.Acceptance
import Guion.Proofs.Program.Computation
import Guion.Proofs.Program.Printed
import Guion.Value.Basic

/-! Printed programs are read back.

The tokens of a printed program derive the program, so it is read as the same tree and nothing is
reported. The exception are string literals with the character of number zero: these are printed
with an escape that cannot be read, and the text is reported.
-/

namespace Guion

open Grammar Lexer

/-- The string literals in a tree. -/
def Strings : Gathering (List String) where
  nothing := []
  join := (· ++ ·)
  ofString value := [value]

/-- Whether none of some strings has the character of number zero. -/
def Visible (strings : List String) : Prop :=
  ∀ s ∈ strings, '\x00' ∉ s.toList

theorem visible_join {first second : List String}
    : Visible (Strings.join first second) ↔ Visible first ∧ Visible second :=
  List.forall_mem_append

namespace Printed

-----------------------------------------------------------------------------------------
-- The trees of printed tokens
-----------------------------------------------------------------------------------------

variable {ts : List Token}

/-- The first of some shapes is that of a token. -/
theorem exists_of_map_cons {kind : Token.Kind} {literal : String} {shapes : List Shape}
    (same : ts.map Token.shape = (kind, literal) :: shapes)
    : ∃ token us,
        ts = token :: us
        ∧ token.kind = kind
        ∧ token.literal = literal
        ∧ us.map Token.shape = shapes := by
  obtain ⟨token, us, rfl, shape, behind⟩ := List.map_eq_cons_iff.mp same
  exact ⟨token, us, rfl, congrArg Prod.fst shape, congrArg Prod.snd shape, behind⟩

/-- Some shapes in front of another one are those of the tokens in front of a token. -/
theorem exists_of_map_append_cons {shapes behind : List Shape} {kind : Token.Kind}
    {literal : String} (same : ts.map Token.shape = shapes ++ (kind, literal) :: behind)
    : ∃ us token vs,
        ts = us ++ token :: vs
        ∧ us.map Token.shape = shapes
        ∧ token.kind = kind
        ∧ vs.map Token.shape = behind := by
  obtain ⟨us, vs, rfl, front, same⟩ := List.map_eq_append_iff.mp same
  obtain ⟨token, vs, rfl, kind, -, behind⟩ := exists_of_map_cons same
  exact ⟨us, token, vs, rfl, front, kind, behind⟩

/-- Names with commas between them are parameters. -/
theorem derives_parameters {name : String} {names : List String} {ts : List Token}
    (same : ts.map Token.shape = parameters (name :: names))
    : Derives (.parameters (name :: names)) ts := by
  induction names generalizing name ts with
  | nil =>
      obtain ⟨token, us, rfl, kind, rfl, behind⟩ := exists_of_map_cons same
      obtain rfl := List.map_eq_nil_iff.mp behind
      exact .parameter kind
  | cons next names ih =>
      obtain ⟨token, us, rfl, kind, rfl, behind⟩ := exists_of_map_cons same
      obtain ⟨comma, us, rfl, separates, -, behind⟩ := exists_of_map_cons behind
      exact .moreParameters kind separates (ih behind)

/-- A block stands in front, if its statements have trees. -/
theorem exists_block {ss : List Statement} {shapes : List Shape}
    (inner : ∀ ts : List Token, ts.map Token.shape = statements ss → Derives (.statements ss) ts)
    (same : ts.map Token.shape = sign .leftBrace :: (statements ss ++ sign .rightBrace :: shapes))
    : ∃ us vs, ts = us ++ vs ∧ Derives (.block ss) us ∧ vs.map Token.shape = shapes := by
  obtain ⟨opening, us, rfl, opens, -, behind⟩ := exists_of_map_cons same
  obtain ⟨us, closing, vs, rfl, within, closes, behind⟩ := exists_of_map_append_cons behind
  exact ⟨opening :: (us ++ [closing]), vs, by simp, .block opens (inner us within) closes, behind⟩

mutual

/-- Printed expressions are calls, or operands in parentheses. -/
theorem derives_expression (e : Expression) (valid : Valid.expression e)
    (visible : Visible (Strings.expression e)) (ts : List Token)
    (same : ts.map Token.shape = expression e)
    : Derives (.expression .call e) ts := by
  match e, valid with
  | .identifier name, _ =>
      obtain ⟨token, us, rfl, kind, rfl, behind⟩ := exists_of_map_cons same
      obtain rfl := List.map_eq_nil_iff.mp behind
      exact .identifier kind
  | .integer value, valid =>
      obtain ⟨token, us, rfl, kind, literal, behind⟩ := exists_of_map_cons same
      obtain rfl := List.map_eq_nil_iff.mp behind
      exact .integer kind (literal ▸ Integer.isNumeral_text valid)
  | .boolean true, _ =>
      obtain ⟨token, us, rfl, kind, -, behind⟩ := exists_of_map_cons same
      obtain rfl := List.map_eq_nil_iff.mp behind
      exact .truth kind
  | .boolean false, _ =>
      obtain ⟨token, us, rfl, kind, -, behind⟩ := exists_of_map_cons same
      obtain rfl := List.map_eq_nil_iff.mp behind
      exact .falsehood kind
  | .string value, _ =>
      have shown : quoted value = (.string, value) :=
        if_neg (visible value (List.mem_singleton_self _))
      rw [expression, shown] at same
      obtain ⟨token, us, rfl, kind, rfl, behind⟩ := exists_of_map_cons same
      obtain rfl := List.map_eq_nil_iff.mp behind
      exact .string kind
  | .unary operator operand, valid =>
      obtain ⟨opening, us, rfl, opens, -, behind⟩ := exists_of_map_cons same
      obtain ⟨sign, us, rfl, signed, -, behind⟩ := exists_of_map_cons behind
      obtain ⟨us, closing, vs, rfl, within, closes, behind⟩ := exists_of_map_append_cons behind
      obtain rfl := List.map_eq_nil_iff.mp behind
      have inner := derives_expression operand valid visible us within
      have signed : UnaryOperator.ofKind? sign.kind = some operator :=
        signed ▸ operator.ofKind?_kind
      have whole := Derives.unary signed (inner.widen (by decide))
      exact .group opens (whole.widen (Nat.zero_le _)) closes
  | .binary left operator right, valid =>
      rw [Gathering.expression, visible_join] at visible
      obtain ⟨opening, us, rfl, opens, -, behind⟩ := exists_of_map_cons same
      obtain ⟨us, sign, vs, rfl, front, signed, behind⟩ := exists_of_map_append_cons behind
      obtain ⟨vs, closing, ws, rfl, within, closes, behind⟩ := exists_of_map_append_cons behind
      obtain rfl := List.map_eq_nil_iff.mp behind
      have before := derives_expression left valid.1 visible.1 us front
      have after := derives_expression right valid.2 visible.2 vs within
      have signed : BinaryOperator.ofKind? sign.kind = some operator :=
        signed ▸ operator.ofKind?_kind
      have whole := Derives.binary (before.widen (Stratum.rank_le_call _)) signed
        (after.widen (Stratum.rank_le_call _))
      have grouped := Derives.group opens (whole.widen (Nat.zero_le _)) closes
      simpa using grouped
  | .conditional condition consequence none, valid =>
      rw [Gathering.expression, visible_join] at visible
      obtain ⟨word, us, rfl, kind, -, behind⟩ := exists_of_map_cons same
      obtain ⟨opening, us, rfl, opens, -, behind⟩ := exists_of_map_cons behind
      obtain ⟨us, closing, vs, rfl, front, closes, behind⟩ := exists_of_map_append_cons behind
      obtain ⟨vs, ws, rfl, taken, behind⟩ :=
        exists_block (derives_statements consequence valid.2 visible.2) behind
      obtain rfl := List.map_eq_nil_iff.mp behind
      have tested := derives_expression condition valid.1 visible.1 us front
      rw [List.append_nil]
      exact .conditional kind opens (tested.widen (Nat.zero_le _)) closes taken
  | .conditional condition consequence (some alternative), valid =>
      rw [Gathering.expression, visible_join, visible_join] at visible
      obtain ⟨word, us, rfl, kind, -, behind⟩ := exists_of_map_cons same
      obtain ⟨opening, us, rfl, opens, -, behind⟩ := exists_of_map_cons behind
      obtain ⟨us, closing, vs, rfl, front, closes, behind⟩ := exists_of_map_append_cons behind
      obtain ⟨vs, ws, rfl, taken, behind⟩ :=
        exists_block (derives_statements consequence valid.2.1 visible.2.1) behind
      obtain ⟨other, ws, rfl, otherwise, -, behind⟩ := exists_of_map_cons behind
      obtain ⟨ws, xs, rfl, refused, behind⟩ :=
        exists_block (derives_statements alternative valid.2.2 visible.2.2) behind
      obtain rfl := List.map_eq_nil_iff.mp behind
      have tested := derives_expression condition valid.1 visible.1 us front
      rw [List.append_nil]
      exact .alternative kind opens (tested.widen (Nat.zero_le _)) closes taken otherwise refused
  | .function names code, valid =>
      obtain ⟨word, us, rfl, kind, -, behind⟩ := exists_of_map_cons same
      obtain ⟨opening, us, rfl, opens, -, behind⟩ := exists_of_map_cons behind
      obtain ⟨us, closing, vs, rfl, front, closes, behind⟩ := exists_of_map_append_cons behind
      obtain ⟨vs, ws, rfl, body, behind⟩ :=
        exists_block (derives_statements code valid.2 visible) behind
      obtain rfl := List.map_eq_nil_iff.mp behind
      rw [List.append_nil]
      cases names with
      | nil =>
          obtain rfl := List.map_eq_nil_iff.mp front
          exact .functionOfNone kind opens closes body
      | cons name names => exact .function kind opens (derives_parameters front) closes body
  | .call callee es, valid =>
      rw [Gathering.expression, visible_join] at visible
      obtain ⟨us, opening, vs, rfl, front, opens, behind⟩ := exists_of_map_append_cons same
      obtain ⟨vs, closing, ws, rfl, within, closes, behind⟩ := exists_of_map_append_cons behind
      obtain rfl := List.map_eq_nil_iff.mp behind
      have called := derives_expression callee valid.1 visible.1 us front
      by_cases none : es = []
      · subst none
        obtain rfl := List.map_eq_nil_iff.mp within
        exact .callOfNone called opens closes
      · have given := derives_arguments es none valid.2 visible.2 vs within
        exact .call called opens given closes

theorem derives_statement (s : Statement) (valid : Valid.statement s)
    (visible : Visible (Strings.statement s)) (ts : List Token)
    (same : ts.map Token.shape = statement s)
    : Derives (.statement s) ts := by
  match s, valid with
  | .declare name value, valid =>
      obtain ⟨word, us, rfl, kind, -, behind⟩ := exists_of_map_cons same
      obtain ⟨token, us, rfl, named, literal, behind⟩ := exists_of_map_cons behind
      obtain ⟨sign, us, rfl, equal, -, behind⟩ := exists_of_map_cons behind
      have given := derives_expression value valid.2 visible us behind
      subst literal
      exact .declare kind named equal (given.widen (Nat.zero_le _))
  | .returning value, valid =>
      obtain ⟨word, us, rfl, kind, -, behind⟩ := exists_of_map_cons same
      have given := derives_expression value valid visible us behind
      exact .returning kind (given.widen (Nat.zero_le _))
  | .expression value, valid =>
      have given := derives_expression value valid visible ts same
      exact .expression (given.widen (Nat.zero_le _))

/-- Printed statements all have their semicolons. -/
theorem derives_statements (ss : List Statement) (valid : Valid.statements ss)
    (visible : Visible (Strings.statements ss)) (ts : List Token)
    (same : ts.map Token.shape = statements ss)
    : Derives (.statements ss) ts := by
  match ss, valid with
  | [], _ =>
      obtain rfl := List.map_eq_nil_iff.mp same
      exact .noStatements
  | s :: ss, valid =>
      rw [Gathering.statements, visible_join] at visible
      obtain ⟨us, semicolon, vs, rfl, front, closes, behind⟩ := exists_of_map_append_cons same
      have first := derives_statement s valid.1 visible.1 us front
      exact .closedStatement first closes (derives_statements ss valid.2 visible.2 vs behind)

theorem derives_arguments (es : List Expression) (some : es ≠ []) (valid : Valid.arguments es)
    (visible : Visible (Strings.arguments es)) (ts : List Token)
    (same : ts.map Token.shape = arguments es)
    : Derives (.arguments es) ts := by
  match es, valid with
  | [], _ => contradiction
  | [e], valid =>
      rw [Gathering.arguments, visible_join] at visible
      have last := derives_expression e valid.1 visible.1 ts same
      exact .argument (last.widen (Nat.zero_le _))
  | e :: next :: es, valid =>
      rw [Gathering.arguments, visible_join] at visible
      obtain ⟨us, comma, vs, rfl, front, separates, behind⟩ := exists_of_map_append_cons same
      have first := derives_expression e valid.1 visible.1 us front
      have others := derives_arguments (next :: es) (by simp) valid.2 visible.2 vs behind
      exact .moreArguments (first.widen (Nat.zero_le _)) separates others

end

-----------------------------------------------------------------------------------------
-- Strings that cannot be read
-----------------------------------------------------------------------------------------

mutual

/-- Each string literal of an expression is among its printed tokens. -/
theorem quoted_mem_expression (e : Expression) {s : String} (found : s ∈ Strings.expression e)
    : quoted s ∈ expression e := by
  match e, found with
  | .string value, found =>
      obtain rfl := List.mem_singleton.mp found
      exact List.mem_singleton_self _
  | .identifier _, found | .integer _, found | .boolean _, found =>
      exact absurd found List.not_mem_nil
  | .unary operator operand, found =>
      have inner := quoted_mem_expression operand found
      simp [expression, inner]
  | .binary left operator right, found =>
      rcases List.mem_append.mp found with found | found
      · have inner := quoted_mem_expression left found
        simp [expression, inner]
      · have inner := quoted_mem_expression right found
        simp [expression, inner]
  | .conditional condition consequence none, found =>
      rcases List.mem_append.mp found with found | found
      · have inner := quoted_mem_expression condition found
        simp [expression, inner]
      · have inner := quoted_mem_statements consequence found
        simp [expression, inner]
  | .conditional condition consequence (some alternative), found =>
      rcases List.mem_append.mp found with found | found
      · have inner := quoted_mem_expression condition found
        simp [expression, inner]
      rcases List.mem_append.mp found with found | found
      · have inner := quoted_mem_statements consequence found
        simp [expression, inner]
      · have inner := quoted_mem_statements alternative found
        simp [expression, inner]
  | .function names code, found =>
      have inner := quoted_mem_statements code found
      simp [expression, inner]
  | .call callee es, found =>
      rcases List.mem_append.mp found with found | found
      · have inner := quoted_mem_expression callee found
        simp [expression, inner]
      · have inner := quoted_mem_arguments es found
        simp [expression, inner]

theorem quoted_mem_statement (statement : Statement) {s : String}
    (found : s ∈ Strings.statement statement)
    : quoted s ∈ Printed.statement statement := by
  match statement, found with
  | .declare name value, found =>
      have inner := quoted_mem_expression value found
      simp [Printed.statement, inner]
  | .returning value, found =>
      have inner := quoted_mem_expression value found
      simp [Printed.statement, inner]
  | .expression value, found => exact quoted_mem_expression value found

theorem quoted_mem_statements (ss : List Statement) {s : String}
    (found : s ∈ Strings.statements ss)
    : quoted s ∈ statements ss := by
  match ss, found with
  | [], found => exact absurd found List.not_mem_nil
  | statement :: ss, found =>
      rcases List.mem_append.mp found with found | found
      · have inner := quoted_mem_statement statement found
        simp [statements, inner]
      · have inner := quoted_mem_statements ss found
        simp [statements, inner]

theorem quoted_mem_arguments (es : List Expression) {s : String}
    (found : s ∈ Strings.arguments es)
    : quoted s ∈ arguments es := by
  match es, found with
  | [], found => exact absurd found List.not_mem_nil
  | [e], found =>
      rcases List.mem_append.mp found with found | found
      · exact quoted_mem_expression e found
      · exact absurd found List.not_mem_nil
  | e :: next :: es, found =>
      rcases List.mem_append.mp found with found | found
      · have inner := quoted_mem_expression e found
        simp [arguments, inner]
      · have inner := quoted_mem_arguments (next :: es) found
        simp [arguments, inner]

end

end Printed

/-- The text of a valid expression is read as the expression, unless there is the character of
number zero in one of its strings.
-/
theorem parse_text_expression {e : Expression} (valid : Valid.expression e)
    (visible : Visible (Strings.expression e))
    : parse e.text = ⟨[.expression e], []⟩ := by
  have printed : (words e.text).map Token.shape = Printed.expression e := by
    have whole := Printed.shapes_expression e valid [] (by simp [Apart])
    rwa [List.append_nil, shapes_nil, List.append_nil, ← map_shape_words] at whole
  have derived := Printed.derives_expression e valid visible _ printed
  have statement : Derives (.statement (.expression e)) (words e.text) :=
    .expression (derived.widen (Nat.zero_le _))
  have closed : ¬ Continues [] := by simp [Continues, Position.kind, BinaryOperator.ofKind?]
  have alone := Derives.openStatement statement closed .noStatements
  rw [List.append_nil] at alone
  exact parse_of_derives alone

/-- What is printed for a program that has been read is read as the same program, and nothing is
reported, unless there is the character of number zero in one of its strings. Then there is a
report.
-/
theorem parse_text_parse (source : String)
    : ((∀ s ∈ Strings.statements (parse source).program, '\x00' ∉ s.toList)
        → parse (parse source).program.text = ⟨(parse source).program, []⟩
          ∧ (parse (parse source).program.text).program.text = (parse source).program.text)
      ∧ ((∃ s ∈ Strings.statements (parse source).program, '\x00' ∈ s.toList)
        → (parse (parse source).program.text).errors ≠ []) := by
  have valid := valid_program_parse source
  have printed := Printed.map_shape_words_text valid
  constructor
  · intro visible
    have derived := Printed.derives_statements _ valid visible _ printed
    have whole := parse_of_derives derived
    exact ⟨whole, by rw [whole]⟩
  · rintro ⟨s, found, hidden⟩ silent
    have broken := Printed.quoted_mem_statements _ found
    rw [← printed, quoted, if_pos hidden] at broken
    obtain ⟨token, inside, shape⟩ := List.mem_map.mp broken
    have silent : (parse (parse source).program.text).diagnostics = [] := by
      simpa [Parsed.errors] using silent
    have illegal : token.kind = .illegal := congrArg Prod.fst shape
    exact (derives_of_silent silent).kind_ne_illegal token inside illegal

/-- What is in front of an error is read back without the error, and a string with the character of
number zero is not read back.
-/
theorem parse_text_parse_strings
    : parse (parse "-\"a\"; )").program.text = ⟨(parse "-\"a\"; )").program, []⟩
      ∧ (parse (parse "\"a\x00\"").program.text).errors ≠ [] := by
  have visible : ∀ s ∈ Strings.statements (parse "-\"a\"; )").program, '\x00' ∉ s.toList := by
    obtain ⟨program, -⟩ :=
      parse_of_readsAs 9 "-\"a\"; )" [.expression (.unary .negate (.string "a"))]
        [.noOperand ")"] (by decide +kernel)
    rw [program]
    decide
  have hidden : ∃ s ∈ Strings.statements (parse "\"a\x00\"").program, '\x00' ∈ s.toList := by
    obtain ⟨program, -⟩ :=
      parse_of_readsAs 6 "\"a\x00\"" [.expression (.string "a\x00")] [] (by decide +kernel)
    rw [program]
    decide
  exact ⟨((parse_text_parse _).1 visible).1, (parse_text_parse _).2 hidden⟩

-----------------------------------------------------------------------------------------
-- String literals
-----------------------------------------------------------------------------------------

/-- The tokens of a text are its words and the one that stands for the end. -/
private theorem map_shape_tokenize (source : String)
    : (tokenize source).map Token.shape = shapes source.toList ++ [(.endOfInput, "")] := by
  rw [tokenize, List.map_append, map_shape_words]
  rfl

/-- A printed string, be it a literal or a value, is one token. This is the literal of the string,
unless there is the character of number zero in it: then it is illegal.
-/
theorem tokenize_string (s : String)
    : (Value.string s).quotedText = (Expression.string s).text
      ∧ ((tokenize (Expression.string s).text).map Token.shape
          = [(.string, s), (.endOfInput, "")]
        ↔ '\x00' ∉ s.toList)
      ∧ ('\x00' ∈ s.toList
        → (tokenize (Expression.string s).text).map Token.shape
          = [(.illegal, (Expression.string s).text), (.endOfInput, "")]) := by
  have printed : (Expression.string s).text = Text.Quoted.quote Text.Quoted.literal s :=
    Expression.text_string s
  have tokens : (tokenize (Expression.string s).text).map Token.shape
      = [quoted s, (.endOfInput, "")] := by
    have alone := shapes_quote s []
    rw [List.append_nil, shapes_nil] at alone
    rw [map_shape_tokenize, printed, alone]
    rfl
  refine ⟨printed.symm, ?_, fun hidden => ?_⟩
  · rw [tokens, quoted]
    split
    · rename_i hidden
      constructor
      · intro same
        cases same
      · intro visible
        exact absurd hidden visible
    · rename_i visible
      exact iff_of_true rfl visible
  · rw [tokens, quoted, if_pos hidden, printed]

/-- The character of number zero is printed with an escape that cannot be read. -/
theorem tokenize_string_zero
    : (tokenize (Expression.string "\x00").text).map Token.shape
      = [(.illegal, "\"\\0\""), (.endOfInput, "")] := by
  rw [Expression.text_string]
  decide +kernel

end Guion
