import Guion.Program.Parser
import Guion.Proofs.Grammar.Flat
import Guion.Proofs.Parsing.Soundness
import Guion.Proofs.Parsing.Completeness
import Guion.Proofs.Token.Lexed

/-! Which source texts are accepted: those that the grammar generates.

The reader is greedy, so of all ways to split a text into statements it only tries the one in which
each statement is as long as it can be. That one exists whenever another does.
-/

namespace Guion

open Grammar Parsing

theorem diagnostics_parse (source : String)
    : (parse source).diagnostics = (readStatements .program (words source)).diagnostics.toList :=
  rfl

theorem program_parse (source : String)
    : (parse source).program = (readStatements .program (words source)).value :=
  rfl

/-- There is nothing to report on a source text whose words are derived, and its program is the
tree.
-/
theorem parse_of_derives {source : String} {ss : List Statement}
    (derived : Derives (.statements ss) (words source))
    : parse source = ⟨ss, []⟩ := by
  obtain ⟨values, -, silent⟩ := complete derived .program [] rfl
  rw [List.append_nil] at values silent
  have same : parse source = ⟨(parse source).program, (parse source).diagnostics⟩ := rfl
  rw [same, program_parse, diagnostics_parse, values, silent]

/-- A source text is always read up to its end, whatever is reported. -/
theorem position_readStatements_words (source : String)
    : (readStatements .program (words source)).position = [] := by
  have inside := (readStatements .program (words source)).suffix.subset
  have closed := closes_readStatements .program (words source)
  cases position : (readStatements .program (words source)).position with
  | nil => rfl
  | cons token rest =>
      rw [position] at closed inside
      have last : token.kind = .endOfInput := by simpa [closes, Position.kind] using closed
      have spelled := spells_of_mem_words (inside (List.mem_cons_self ..))
      exact absurd last spelled.inside

/-- A source text is only passed over in silence if its words are derived. -/
theorem derives_of_silent {source : String} (silent : (parse source).diagnostics = [])
    : Derives (.statements (parse source).program) (words source) := by
  obtain ⟨ts, here, derived, -⟩ := sound (.statements .program (words source)) silent
  have ending : (readStatements .program (words source)).position = [] :=
    position_readStatements_words source
  rw [ending, List.append_nil] at here
  rwa [here, program_parse]

/-- Nothing is reported on a source text if and only if the grammar generates its tokens in front of
the end.
-/
theorem parse_silent_iff_generates (source : String)
    : (parse source).errors = [] ↔ Generates .program (tokenize source).dropLast := by
  have words_here : (tokenize source).dropLast = words source := List.dropLast_concat
  have silent_iff : (parse source).errors = [] ↔ (parse source).diagnostics = [] := by
    simp [Parsed.errors]
  rw [words_here, silent_iff]
  constructor
  · intro silent
    exact (derives_of_silent silent).generates
  · intro generated
    obtain ⟨ss, derived⟩ := generated.hasTree fun token found => (spells_of_mem_words found).digits
    rw [parse_of_derives derived]

end Guion
