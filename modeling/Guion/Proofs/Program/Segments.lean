import Guion.Proofs.Parsing.Recovery
import Guion.Proofs.Program.Computation
import Guion.Proofs.Token.Concatenation

/-! Source texts in segments.

A text is parsed segment by segment: what is wrong with one of them neither hides nor changes what
stands in the others or behind them, at the top of a program and in the code of functions.
-/

namespace Guion

open Grammar Parsing

-----------------------------------------------------------------------------------------
-- Texts that are read on their own
-----------------------------------------------------------------------------------------

/-- A text yields the statements `ss` and the errors `es` wherever it stands, and does so whatever
text stands behind it.
-/
structure StandsAlone (source : String) (ss : List Statement) (es : List ParseError) : Prop where
  recovers : ∃ ts, ts.map Token.shape = Lexer.shapes source.toList ∧ Recovers ts ss es
  ended
    : ∀ shape,
        (Lexer.shapes source.toList).getLast? = some shape → shape.1 ∈ Lexeme.sealedKinds

namespace StandsAlone

variable {source further : String} {ss ss' : List Statement} {es es' : List ParseError}

/-- What such a text yields is what it is parsed as. -/
theorem parse_eq (alone : StandsAlone source ss es)
    : (parse source).program = ss ∧ (parse source).errors = es := by
  obtain ⟨ts, same, recovers⟩ := alone.recovers
  obtain ⟨program, errors⟩ := parse_of_shapes same
  obtain ⟨statements, reports⟩ := recovers.alone
  exact ⟨program.trans statements, errors.trans reports⟩

/-- Behind such a text any other is parsed as by itself. -/
theorem parse_append (alone : StandsAlone source ss es) (further : String)
    : (parse (source ++ further)).program = ss ++ (parse further).program
      ∧ (parse (source ++ further)).errors = es ++ (parse further).errors := by
  obtain ⟨ts, same, recovers⟩ := alone.recovers
  have both : (ts ++ words further).map Token.shape
      = Lexer.shapes (source ++ further).toList := by
    rw [String.toList_append, Lexer.shapes_append alone.ended, List.map_append, same,
      Lexer.map_shape_words]
  obtain ⟨program, errors⟩ := parse_of_shapes both
  obtain ⟨statements, -, reports⟩ := recovers .program (words further)
  exact ⟨program.trans statements, errors.trans reports⟩

theorem empty : StandsAlone "" [] [] := by
  have none : Lexer.shapes "".toList = [] := Lexer.shapes_nil
  refine ⟨⟨[], none.symm, .nil⟩, fun shape found => ?_⟩
  rw [none] at found
  cases found

theorem append (first : StandsAlone source ss es) (second : StandsAlone further ss' es')
    : StandsAlone (source ++ further) (ss ++ ss') (es ++ es') := by
  obtain ⟨ts, same, recovers⟩ := first.recovers
  obtain ⟨us, same', recovers'⟩ := second.recovers
  have both : Lexer.shapes (source ++ further).toList
      = Lexer.shapes source.toList ++ Lexer.shapes further.toList := by
    rw [String.toList_append, Lexer.shapes_append first.ended]
  refine ⟨⟨ts ++ us, ?_, recovers.append recovers'⟩, fun shape found => ?_⟩
  · rw [both, List.map_append, same, same']
  · rw [both, List.getLast?_append] at found
    cases last : (Lexer.shapes further.toList).getLast? with
    | none => exact first.ended shape (by simpa [last] using found)
    | some other => exact second.ended shape (by simpa [last] using found)

/-- Texts in a row yield what each of them is parsed as. -/
theorem join {sources : List String}
    (each
      : ∀ source ∈ sources, StandsAlone source (parse source).program (parse source).errors)
    : StandsAlone (String.join sources)
        (sources.flatMap fun source => (parse source).program)
        (sources.flatMap fun source => (parse source).errors) := by
  induction sources with
  | nil => exact empty
  | cons source sources ih =>
      obtain ⟨first, others⟩ := List.forall_mem_cons.mp each
      rw [String.join_cons, List.flatMap_cons, List.flatMap_cons]
      exact first.append (ih others)

end StandsAlone

-----------------------------------------------------------------------------------------
-- Segments
-----------------------------------------------------------------------------------------

/-- The kinds of the tokens of a text in front of its end. -/
def tokenKinds (source : String) : List Token.Kind :=
  (words source).map Token.kind

theorem tokenKinds_eq (source : String)
    : tokenKinds source = (Lexer.shapes source.toList).map Prod.fst := by
  rw [← Lexer.map_shape_words, List.map_map]
  rfl

/-- A text on which there is nothing to report, and which ends with a semicolon. -/
structure IsClean (source : String) : Prop where
  silent : (parse source).errors = []
  ends : (tokenKinds source).getLast? = some .semicolon

/-- A text without braces in which a semicolon is the last token and stands nowhere else. Whatever
else may be wrong in it.
-/
structure IsLine (source : String) : Prop where
  no_brace : .leftBrace ∉ tokenKinds source ∧ .rightBrace ∉ tokenKinds source
  once : (tokenKinds source).count .semicolon = 1
  ends : (tokenKinds source).getLast? = some .semicolon

/-- What stands in front of the code of a function, up to the opening brace. -/
def heading (names : List String) : List Shape :=
  [(.functionWord, "procedimiento"), (.leftParen, "(")]
    ++ (names.map fun name => (.identifier, name)).intersperse (.comma, ",")
    ++ [(.rightParen, ")"), (.leftBrace, "\x7b")]

def IsHeading (names : List String) (source : String) : Prop :=
  (words source).map Token.shape = heading names

/-- What stands behind the code of a function. -/
def IsEnding (source : String) : Prop :=
  tokenKinds source = [.rightBrace, .semicolon]

/-- The texts from which errors do not spread: clean ones, lines, and functions whose code is made
of such texts.
-/
inductive Segment : String → Prop where
  | clean {source : String} (clean : IsClean source) : Segment source
  | line {source : String} (line : IsLine source) : Segment source
  | function {head foot : String} {names : List String} {inner : List String}
      (opens : IsHeading names head) (segments : ∀ source ∈ inner, Segment source)
      (closes : IsEnding foot)
      : Segment (head ++ String.join inner ++ foot)

/-- The last token of a text that ends with a semicolon. -/
private theorem ended_of_ends {source : String}
    (ends : (tokenKinds source).getLast? = some .semicolon) (shape : Shape)
    (found : (Lexer.shapes source.toList).getLast? = some shape)
    : shape.1 ∈ Lexeme.sealedKinds := by
  rw [tokenKinds_eq, List.getLast?_map, found] at ends
  have kind : shape.1 = .semicolon := Option.some.inj ends
  simp [kind, Lexeme.sealedKinds]

theorem IsClean.standsAlone {source : String} (clean : IsClean source)
    : StandsAlone source (parse source).program [] := by
  have derived := derives_of_silent (List.map_eq_nil_iff.mp clean.silent)
  refine ⟨⟨words source, Lexer.map_shape_words source, recovers_of_derives derived ?_⟩,
    ended_of_ends clean.ends⟩
  intro token found
  have ends := clean.ends
  rw [tokenKinds, List.getLast?_map, found] at ends
  exact Option.some.inj ends

/-- The tokens of a line, one by one. -/
private theorem line_of_kinds {ts : List Token} {semicolon : Token}
    (inside : ∀ token ∈ ts, token.kind ∉ breaks) (ends : semicolon.kind = .semicolon)
    : Line (ts ++ [semicolon]) := by
  induction ts with
  | nil => exact .last ends
  | cons token ts ih =>
      obtain ⟨here, further⟩ := List.forall_mem_cons.mp inside
      exact .further here (ih further)

theorem IsLine.exists_standsAlone {source : String} (line : IsLine source)
    : ∃ ss es, es.length ≤ 1 ∧ StandsAlone source ss es := by
  have ends := line.ends
  rw [tokenKinds, List.getLast?_map, Option.map_eq_some_iff] at ends
  obtain ⟨semicolon, last, ends⟩ := ends
  obtain ⟨ts, here⟩ := List.getLast?_eq_some_iff.mp last
  have once := line.once
  rw [tokenKinds, here, List.map_append, List.count_append, List.map_singleton, ends,
    List.count_singleton_self] at once
  have no_semicolon : .semicolon ∉ ts.map Token.kind := List.count_eq_zero.mp (by omega)
  have inside : ∀ token ∈ ts, token.kind ∉ breaks := by
    intro token found
    have among : token ∈ words source := here ▸ List.mem_append_left _ found
    have kind : token.kind ∈ tokenKinds source := List.mem_map_of_mem among
    simp only [breaks, List.mem_cons, List.not_mem_nil, or_false, not_or]
    refine ⟨fun same => ?_, fun same => ?_, fun same => ?_, ?_⟩
    · exact no_semicolon (same ▸ List.mem_map_of_mem found)
    · exact line.no_brace.1 (same ▸ kind)
    · exact line.no_brace.2 (same ▸ kind)
    · exact (spells_of_mem_words among).inside
  obtain ⟨ss, es, single, recovers⟩ := (line_of_kinds inside ends).exists_recovers
  rw [← here] at recovers
  exact ⟨ss, es, single, ⟨words source, Lexer.map_shape_words source, recovers⟩,
    ended_of_ends line.ends⟩

-----------------------------------------------------------------------------------------
-- Functions
-----------------------------------------------------------------------------------------

/-- Identifiers with commas between them are parameters. -/
private theorem derives_parameters_of_shapes (name : String) (names : List String)
    {ts : List Token}
    (same : ts.map Token.shape
      = ((name :: names).map fun name => (.identifier, name)).intersperse (.comma, ","))
    : Derives (.parameters (name :: names)) ts := by
  induction names generalizing name ts with
  | nil =>
      obtain ⟨token, rest, rfl, shape, nothing⟩ := List.map_eq_cons_iff.mp same
      obtain rfl := List.map_eq_nil_iff.mp nothing
      obtain ⟨kind, rfl⟩ := Prod.mk.inj shape
      exact .parameter kind
  | cons next names ih =>
      rw [List.map_cons, List.map_cons, List.intersperse_cons_cons] at same
      obtain ⟨token, _, rfl, shape, behind⟩ := List.map_eq_cons_iff.mp same
      obtain ⟨comma, ts, rfl, separates, others⟩ := List.map_eq_cons_iff.mp behind
      obtain ⟨kind, rfl⟩ := Prod.mk.inj shape
      exact .moreParameters kind (congrArg Prod.fst separates) (ih next others)

theorem IsHeading.heading_words {names : List String} {head : String}
    (found : IsHeading names head)
    : Heading names (words head) := by
  unfold IsHeading heading at found
  rw [List.append_assoc, List.cons_append, List.singleton_append] at found
  obtain ⟨word, _, here, word_shape, rest⟩ := List.map_eq_cons_iff.mp found
  obtain ⟨opening, _, rfl, opening_shape, rest⟩ := List.map_eq_cons_iff.mp rest
  obtain ⟨ts, _, rfl, named, rest⟩ := List.map_eq_append_iff.mp rest
  obtain ⟨closing, _, rfl, closing_shape, rest⟩ := List.map_eq_cons_iff.mp rest
  obtain ⟨brace, _, rfl, brace_shape, rest⟩ := List.map_eq_cons_iff.mp rest
  obtain rfl := List.map_eq_nil_iff.mp rest
  have kind : word.kind = .functionWord := congrArg Prod.fst word_shape
  have opens : opening.kind = .leftParen := congrArg Prod.fst opening_shape
  have closes : closing.kind = .rightParen := congrArg Prod.fst closing_shape
  have braces : brace.kind = .leftBrace := congrArg Prod.fst brace_shape
  rw [here]
  cases names with
  | nil =>
      obtain rfl := List.map_eq_nil_iff.mp named
      exact .ofNone kind opens closes braces
  | cons name names =>
      exact .ofNames kind opens (derives_parameters_of_shapes name names named) closes braces

/-- A function stands alone if its code does. -/
theorem StandsAlone.function {head code foot : String} {names : List String}
    {ss : List Statement} {es : List ParseError} (alone : StandsAlone code ss es)
    (opens : IsHeading names head) (closes : IsEnding foot)
    : StandsAlone (head ++ code ++ foot) [.expression (.function names ss)] es := by
  obtain ⟨ts, same, recovers⟩ := alone.recovers
  obtain ⟨closing, _, here, closing_kind, rest⟩ := List.map_eq_cons_iff.mp closes
  obtain ⟨semicolon, _, rfl, semicolon_kind, rest⟩ := List.map_eq_cons_iff.mp rest
  obtain rfl := List.map_eq_nil_iff.mp rest
  have front : Lexer.shapes head.toList = heading names := by
    rw [← Lexer.map_shape_words]
    exact opens
  have ended : ∀ shape,
      (Lexer.shapes head.toList).getLast? = some shape → shape.1 ∈ Lexeme.sealedKinds := by
    intro shape found
    rw [front, heading, List.getLast?_append] at found
    cases found
    decide
  have whole : Lexer.shapes (head ++ code ++ foot).toList
      = Lexer.shapes head.toList ++ Lexer.shapes code.toList ++ Lexer.shapes foot.toList := by
    rw [String.toList_append, String.toList_append, List.append_assoc, Lexer.shapes_append ended,
      Lexer.shapes_append alone.ended, List.append_assoc]
  refine ⟨⟨words head ++ ts ++ words foot, ?_, ?_⟩, fun shape found => ?_⟩
  · rw [whole, List.map_append, List.map_append, same, Lexer.map_shape_words,
      Lexer.map_shape_words]
  · rw [here]
    exact recovers.function opens.heading_words closing_kind semicolon_kind
  · have ends : (tokenKinds foot).getLast? = some .semicolon := by
      rw [closes]
      rfl
    rw [whole, List.getLast?_append] at found
    cases last : (Lexer.shapes foot.toList).getLast? with
    | none =>
        rw [tokenKinds_eq, List.getLast?_map, last] at ends
        cases ends
    | some other => exact ended_of_ends ends shape (by simpa [last] using found)

/-- A segment yields what it is parsed as, wherever it stands. -/
theorem Segment.standsAlone {source : String} (segment : Segment source)
    : StandsAlone source (parse source).program (parse source).errors := by
  induction segment with
  | clean clean =>
      rw [clean.silent]
      exact clean.standsAlone
  | line line =>
      obtain ⟨ss, es, -, alone⟩ := line.exists_standsAlone
      obtain ⟨program, errors⟩ := alone.parse_eq
      rwa [program, errors]
  | function opens _ closes ih =>
      have alone := (StandsAlone.join ih).function opens closes
      obtain ⟨program, errors⟩ := alone.parse_eq
      rwa [program, errors]

/-- Recovery from errors is local. Segments in a row, with any text behind them, are parsed as each
of them is and as that text is. A line has one error at most. A function whose code is made of
segments has their statements, and their errors are those of the function.
-/
theorem parse_segments (segments : List String)
    (each : ∀ source ∈ segments, Segment source) (further : String)
    : (parse (String.join segments ++ further)).program
        = (segments.flatMap fun source => (parse source).program) ++ (parse further).program
      ∧ (parse (String.join segments ++ further)).errors
        = (segments.flatMap fun source => (parse source).errors) ++ (parse further).errors
      ∧ (∀ source, IsLine source → (parse source).errors.length ≤ 1)
      ∧ ∀ head names inner foot,
          IsHeading names head
          → (∀ source ∈ inner, Segment source)
          → IsEnding foot
          → (parse (head ++ String.join inner ++ foot)).program
              = [.expression (.function names (inner.flatMap fun source => (parse source).program))]
            ∧ (parse (head ++ String.join inner ++ foot)).errors
              = inner.flatMap fun source => (parse source).errors := by
  have alone := StandsAlone.join fun source found => (each source found).standsAlone
  obtain ⟨program, errors⟩ := alone.parse_append further
  refine ⟨program, errors, fun source line => ?_, fun _ _ inner _ opens inside closes => ?_⟩
  · obtain ⟨ss, es, single, alone⟩ := line.exists_standsAlone
    rwa [alone.parse_eq.2]
  · have code := StandsAlone.join fun source found => (inside source found).standsAlone
    exact (code.function opens closes).parse_eq

/-- A clean text, a broken line and a function with a broken line in it, all in front of a text
that is broken itself.
-/
theorem parse_segments_broken
    : (parse (String.join ["x;", ") 2;",
          "procedimiento(a, b) \x7b" ++ String.join ["a;", "(b;"] ++ "\x7d;"] ++ "y )")).program
        = [.expression (.identifier "x"),
          .expression (.function ["a", "b"] [.expression (.identifier "a")]),
          .expression (.identifier "y")]
      ∧ (parse (String.join ["x;", ") 2;",
          "procedimiento(a, b) \x7b" ++ String.join ["a;", "(b;"] ++ "\x7d;"] ++ "y )")).errors
        = [.noOperand ")", .unexpected .rightParen .semicolon, .noOperand ")"] := by
  obtain ⟨x, silent⟩ :=
    parse_of_readsAs 6 "x;" [.expression (.identifier "x")] [] (by decide +kernel)
  obtain ⟨nothing, report⟩ := parse_of_readsAs 5 ") 2;" [] [.noOperand ")"] (by decide +kernel)
  obtain ⟨a, silent'⟩ :=
    parse_of_readsAs 6 "a;" [.expression (.identifier "a")] [] (by decide +kernel)
  obtain ⟨nothing', report'⟩ :=
    parse_of_readsAs 6 "(b;" [] [.unexpected .rightParen .semicolon] (by decide +kernel)
  obtain ⟨y, last⟩ :=
    parse_of_readsAs 6 "y )" [.expression (.identifier "y")] [.noOperand ")"] (by decide +kernel)
  have clean : IsClean "x;" := ⟨silent, by decide +kernel⟩
  have broken : IsLine ") 2;" := ⟨by decide +kernel, by decide +kernel, by decide +kernel⟩
  have clean' : IsClean "a;" := ⟨silent', by decide +kernel⟩
  have broken' : IsLine "(b;" := ⟨by decide +kernel, by decide +kernel, by decide +kernel⟩
  have inner : ∀ source ∈ ["a;", "(b;"], Segment source := by
    simp only [List.forall_mem_cons, List.not_mem_nil, false_implies, implies_true, and_true]
    exact ⟨.clean clean', .line broken'⟩
  have opens : IsHeading ["a", "b"] "procedimiento(a, b) \x7b" := by
    unfold IsHeading
    decide +kernel
  have closes : IsEnding "\x7d;" := by
    unfold IsEnding
    decide +kernel
  have each : ∀ source ∈ ["x;", ") 2;",
      "procedimiento(a, b) \x7b" ++ String.join ["a;", "(b;"] ++ "\x7d;"], Segment source := by
    simp only [List.forall_mem_cons, List.not_mem_nil, false_implies, implies_true, and_true]
    exact ⟨.clean clean, .line broken, .function opens inner closes⟩
  obtain ⟨program, errors, -, functions⟩ := parse_segments _ each "y )"
  obtain ⟨code, reports⟩ := functions _ _ _ _ opens inner closes
  refine ⟨program.trans ?_, errors.trans ?_⟩
  · simp only [List.flatMap_cons, List.flatMap_nil, code, x, nothing, a, nothing', y]
    rfl
  · simp only [List.flatMap_cons, List.flatMap_nil, reports, silent, report, silent', report', last]
    rfl

end Guion
