import Guion.Interpreter
import Guion.Proofs.Parsing.Congruence
import Guion.Proofs.Token.Lexical

/-! Layout: the blanks around the lexemes of a source text.

There may be any blanks, and as many as one likes, as long as some are left between two lexemes that
had some in between. None can be put behind a literal that is open, since they would belong to it.

Main statement: blanks have no meaning. The tokens stay what they are up to their places, and so do
the program, what is reported on it, and how it runs.
-/

namespace Guion

open Text

-----------------------------------------------------------------------------------------
-- Layouts
-----------------------------------------------------------------------------------------

/-- The pieces of a text are laid out anew: each gap becomes another one, and the lexemes stay.
`before` is the token in front of the first gap, if there is one. A gap between two tokens does not
vanish, and behind an open literal there is none.
-/
inductive Relaid : Option Token → List Token → List String → List String → Prop where
  | ending {before : Option Token} {last : Token} {gap gap' : String}
      (blank : IsGap gap')
      (opened : ∀ token ∈ before, token.isUnterminated = true → gap' = "")
      : Relaid before [last] [gap, ""] [gap', ""]
  | token {before : Option Token} {token : Token} {tokens : List Token}
      {gap gap' lexeme : String} {pieces pieces' : List String}
      (blank : IsGap gap')
      (apart : before ≠ none → gap ≠ "" → gap' ≠ "")
      (later : Relaid (some token) tokens pieces pieces')
      : Relaid before (token :: tokens) (gap :: lexeme :: pieces) (gap' :: lexeme :: pieces')

-----------------------------------------------------------------------------------------
-- What may stand behind a lexeme
-----------------------------------------------------------------------------------------

/-- Blanks belong to no word. -/
theorem not_isWordChar_of_isBlank {c : Char} (blank : isBlank c = true) : ¬ IsWordChar c := by
  rintro (letter | digit)
  · have dark := Lexer.not_blank_of_isLetter (isLetter_iff.mpr letter)
    exact absurd blank (by simp [dark])
  · have dark := Lexer.not_blank_of_isDigit (isDigit_iff.mpr digit)
    exact absurd blank (by simp [dark])

/-- A blank may stand behind each lexeme, and so may the end of the text, unless the lexeme is an
open literal.
-/
theorem Lexical.behind {lexeme literal : String} {next : Option Char} {kind : Token.Kind}
    (lexical : Lexical lexeme next kind literal)
    : (kind = .illegal ∧ literal = lexeme ∧ IsOpenLiteral lexeme ∧ next = none)
      ∨ ∀ next', (∀ c ∈ next', isBlank c = true) → Lexical lexeme next' kind literal := by
  cases lexical with
  | identifier word free _ =>
      refine .inr fun next blank => .identifier word free ?_
      exact fun c found => not_isWordChar_of_isBlank (blank c found)
  | reserved word reserved spelled _ =>
      refine .inr fun next blank => .reserved word reserved spelled ?_
      exact fun c found => not_isWordChar_of_isBlank (blank c found)
  | integer nonempty digits _ =>
      refine .inr fun next blank => .integer nonempty digits fun c found digit => ?_
      exact not_isWordChar_of_isBlank (blank c found) (.inr digit)
  | sign sign spelled _ =>
      refine .inr fun next blank => .sign sign spelled fun _ equal => ?_
      exact absurd (blank '=' equal) (by decide)
  | string closed decoded => exact .inr fun _ _ => .string closed decoded
  | malformed closed broken => exact .inr fun _ _ => .malformed closed broken
  | unterminated opened last => exact .inl ⟨rfl, rfl, opened, last⟩
  | stray alone dark no_letter no_digit no_quote no_sign =>
      exact .inr fun _ _ => .stray alone dark no_letter no_digit no_quote no_sign

/-- An illegal token that is spelled as an open literal is one. -/
theorem isUnterminated_of_isOpenLiteral {token : Token} (illegal : token.kind = .illegal)
    (opened : IsOpenLiteral token.literal)
    : token.isUnterminated = true := by
  obtain ⟨body, spelled, never⟩ := opened
  simp [Token.isUnterminated, illegal, spelled, never]

namespace Relaid

variable {source source' passed passed' : String} {before : Option Token} {token : Token}
  {tokens : List Token} {pieces pieces' : List String}

/-- A text that starts with a gap starts with a blank, unless the gap is empty. -/
private theorem head?_of_gap {gap : String} (blank : IsGap gap) (some : gap ≠ "") (rest : String)
    : ∀ c ∈ (gap ++ rest).toList.head?, isBlank c = true := by
  intro c found
  cases spelled : gap.toList with
  | nil => exact absurd (String.toList_eq_nil_iff.mp spelled) some
  | cons d ds =>
      rw [String.toList_append, spelled, List.cons_append, List.head?_cons,
        Option.mem_some] at found
      exact found ▸ blank d (spelled ▸ List.mem_cons_self ..)

/-- Behind a token there is the same character as before, or now a blank, or nothing. -/
theorem head?_join (relaid : Relaid (some token) tokens pieces pieces')
    (tiles : Tiles source passed tokens pieces)
    : (String.join pieces').toList.head? = (String.join pieces).toList.head?
      ∨ ∀ c ∈ (String.join pieces').toList.head?, isBlank c = true := by
  cases relaid with
  | @ending _ _ gap gap' blank _ =>
      refine .inr ?_
      rw [String.join_cons]
      by_cases none : gap' = ""
      · simp [none]
      · exact head?_of_gap blank none _
  | @token _ _ _ gap gap' lexeme pieces pieces' blank apart later =>
      rw [String.join_cons]
      by_cases none : gap' = ""
      · have closed : gap = "" := Classical.byContradiction fun some => apart (by simp) some none
        cases tiles with
        | ending => cases later
        | token _ reads =>
            obtain ⟨c, cs, spelled, -⟩ := reads.dark
            refine .inl ?_
            simp [none, closed, spelled]
      · exact .inr (head?_of_gap blank none _)

/-- Behind an open literal there is still nothing. -/
theorem head?_join_of_isUnterminated (relaid : Relaid (some token) tokens pieces pieces')
    (tiles : Tiles source passed tokens pieces) (opened : token.isUnterminated = true)
    (last : (String.join pieces).toList.head? = none)
    : (String.join pieces').toList.head? = none := by
  cases relaid with
  | ending _ closed => simp [closed token rfl opened]
  | token _ _ later =>
      cases tiles with
      | ending => cases later
      | token _ reads =>
          obtain ⟨c, cs, spelled, -⟩ := reads.dark
          simp [spelled] at last

/-- A token that follows the grammar still does so in the new layout. -/
theorem lexical {lexeme : String} (relaid : Relaid (some token) tokens pieces pieces')
    (tiles : Tiles source passed tokens pieces)
    (lexical : Lexical lexeme (String.join pieces).toList.head? token.kind token.literal)
    : Lexical lexeme (String.join pieces').toList.head? token.kind token.literal := by
  rcases relaid.head?_join tiles with same | blank
  · exact same ▸ lexical
  · rcases lexical.behind with ⟨illegal, raw, opened, last⟩ | anywhere
    · have unterminated := isUnterminated_of_isOpenLiteral illegal (raw ▸ opened)
      rw [relaid.head?_join_of_isUnterminated tiles unterminated last, ← last]
      exact lexical
    · exact anywhere _ blank

/-- The new text has the same tokens at other places, by induction on the tiling. -/
theorem exists_tokens (relaid : Relaid before tokens pieces pieces')
    (tiles : Tiles source passed tokens pieces) (follow : FollowGrammar tokens pieces)
    (whole : passed' ++ String.join pieces' = source')
    : ∃ tokens',
        tokens'.map Token.shape = tokens.map Token.shape
        ∧ Tiles source' passed' tokens' pieces'
        ∧ FollowGrammar tokens' pieces' := by
  induction tiles generalizing before passed' pieces' with
  | ending =>
      cases relaid with
      | ending blank =>
          refine ⟨[.ending source'.utf8ByteSize], rfl, .ending blank ?_, .ending⟩
          simpa using whole
      | token _ _ later => cases later
  | @token passed gap lexeme token tokens pieces _ reads _ _ tiles ih =>
      cases relaid with
      | ending => cases tiles
      | @token _ _ _ _ gap' _ _ pieces' blank _ relaid =>
          cases follow with
          | ending => cases tiles
          | token lexical follow =>
              have rest : passed' ++ gap' ++ lexeme ++ String.join pieces' = source' := by
                rw [String.join_cons, String.join_cons, ← String.append_assoc,
                  ← String.append_assoc] at whole
                exact whole
              obtain ⟨later, shapes, tiled, following⟩ := ih relaid follow rest
              let moved : Token :=
                ⟨token.kind, token.literal, (passed' ++ gap').utf8ByteSize,
                  (passed' ++ gap' ++ lexeme).utf8ByteSize⟩
              refine ⟨moved :: later, congrArg (token.shape :: ·) shapes, ?_, ?_⟩
              · exact .token blank ⟨reads.inside, reads.dark, reads.raw⟩ rfl rfl tiled
              · exact .token (relaid.lexical tiles lexical) following

end Relaid

-----------------------------------------------------------------------------------------
-- Programs in another layout
-----------------------------------------------------------------------------------------

/-- Source texts whose tokens differ in nothing but their places are read as the same program, with
the same reports.
-/
theorem parse_congr {source source' : String}
    (same : (tokenize source').map Token.shape = (tokenize source).map Token.shape)
    : (parse source').program = (parse source).program
      ∧ (parse source').errors = (parse source).errors := by
  rw [tokenize, tokenize, List.map_append, List.map_append] at same
  have words : (words source').map Token.shape = Lexer.shapes source.toList :=
    (List.append_inj_left' same rfl).trans (Lexer.map_shape_words source)
  obtain ⟨program, errors⟩ := parse_of_shapes words
  exact ⟨program.symm, errors.symm⟩

/-- Source texts that are read as the same program run alike. -/
theorem interpret_congr {source source' : String}
    (program : (parse source').program = (parse source).program)
    (errors : (parse source').errors = (parse source).errors)
    (limit : Nat) (scope : Scope) (store : Store)
    : interpret limit source' scope store = interpret limit source scope store := by
  by_cases silent : (parse source).errors = []
  · rw [interpret_of_silent silent, interpret_of_silent (errors.trans silent), program]
  · rw [interpret_of_errors silent, interpret_of_errors (errors ▸ silent), errors]

/-- Every source text has a gap in front of each token and behind the last one. Whichever gaps take
their places, the tokens stay what they are up to their places, the program and the reports on it
stay the same, and it has the same result and leaves the same variables.
-/
theorem layout_irrelevant (source : String)
    : (∃ pieces, Tiles source "" (tokenize source) pieces)
      ∧ ∀ pieces pieces',
        Tiles source "" (tokenize source) pieces
        → Relaid none (tokenize source) pieces pieces'
        → (tokenize (String.join pieces')).map Token.shape = (tokenize source).map Token.shape
          ∧ (parse (String.join pieces')).program = (parse source).program
          ∧ (parse (String.join pieces')).errors = (parse source).errors
          ∧ ∀ limit scope store,
              interpret limit (String.join pieces') scope store
                = interpret limit source scope store := by
  have start := Lexer.behind_ofString source
  refine ⟨Lexer.tiles_drain start, fun pieces pieces' tiles relaid => ?_⟩
  have follow : FollowGrammar (tokenize source) pieces := Lexer.followGrammar_drain start tiles
  obtain ⟨tokens, shapes, tiled, following⟩ :=
    relaid.exists_tokens tiles follow (String.empty_append (s := String.join pieces'))
  have found : tokenize (String.join pieces') = tokens :=
    Lexer.drain_of_followGrammar (Lexer.behind_ofString _) tiled following
  have same : (tokenize (String.join pieces')).map Token.shape
      = (tokenize source).map Token.shape := by
    rw [found, shapes]
  obtain ⟨program, errors⟩ := parse_congr same
  exact ⟨same, program, errors, interpret_congr program errors⟩

/-- Blanks of several kinds are put in front of a comparison and into it, and others take the place
of the one in front of a literal that is open.
-/
theorem layout_irrelevant_comparison
    : Tiles "x==1 \"a" "" (tokenize "x==1 \"a") ["", "x", "", "==", "", "1", " ", "\"a", "", ""]
      ∧ Relaid none (tokenize "x==1 \"a") ["", "x", "", "==", "", "1", " ", "\"a", "", ""]
          ["\t", "x", "\u2003\n", "==", "", "1", "\u3000", "\"a", "", ""]
      ∧ (tokenize "\tx\u2003\n==1\u3000\"a").map Token.shape
        = [(.identifier, "x"), (.equalEqual, "=="), (.integer, "1"), (.illegal, "\"a"),
            (.endOfInput, "")]
      ∧ (parse "\tx\u2003\n==1\u3000\"a").errors = (parse "x==1 \"a").errors := by
  have tokens : tokenize "x==1 \"a"
      = [⟨.identifier, "x", 0, 1⟩, ⟨.equalEqual, "==", 1, 3⟩, ⟨.integer, "1", 3, 4⟩,
          ⟨.illegal, "\"a", 5, 7⟩, .ending 7] := by
    decide +kernel
  have tiles : Tiles "x==1 \"a" "" (tokenize "x==1 \"a")
      ["", "x", "", "==", "", "1", " ", "\"a", "", ""] := by
    rw [tokens]
    refine .token (by decide) ⟨by decide, ⟨_, _, rfl, by decide⟩, fun _ => rfl⟩ rfl rfl ?_
    refine .token (by decide) ⟨by decide, ⟨_, _, rfl, by decide⟩, fun _ => rfl⟩ rfl rfl ?_
    refine .token (by decide) ⟨by decide, ⟨_, _, rfl, by decide⟩, fun _ => rfl⟩ rfl rfl ?_
    refine .token (by decide) ⟨by decide, ⟨_, _, rfl, by decide⟩, fun _ => rfl⟩ rfl rfl ?_
    exact .ending (by decide) rfl
  have relaid : Relaid none (tokenize "x==1 \"a")
      ["", "x", "", "==", "", "1", " ", "\"a", "", ""]
      ["\t", "x", "\u2003\n", "==", "", "1", "\u3000", "\"a", "", ""] := by
    rw [tokens]
    refine .token (by decide) (by decide) (.token (by decide) (by decide) ?_)
    refine .token (by decide) (by decide) (.token (by decide) (by decide) ?_)
    exact .ending (by decide) fun _ _ _ => rfl
  obtain ⟨same, -, errors, -⟩ := (layout_irrelevant "x==1 \"a").2 _ _ tiles relaid
  refine ⟨tiles, relaid, ?_, errors⟩
  rw [tokens] at same
  exact same

end Guion
