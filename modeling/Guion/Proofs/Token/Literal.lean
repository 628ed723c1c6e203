import Guion.Proofs.Text.Units
import Guion.Proofs.Token.Lexical

/-! String literals as tokens.

Main statement: a literal that the lexer finds closed is a string token if and only if what is
between its quotes splits into units, and then the token stands for the characters of the units.
For such a literal the lexer and the decoder agree on the quote at which it ends.
-/

namespace Guion

open Text Escape

namespace Lexeme

/-- The lexeme of a closed literal has no quote that closes it in front of its last one. -/
theorem exists_body_of_scanString {cs text rest : List Char}
    (scanned : scanString cs = ⟨.string, text, rest⟩)
    : ∃ body,
        text = '"' :: (body ++ ['"'])
        ∧ splitQuote false ['"'] (body ++ ['"']) = some (text, []) := by
  unfold scanString at scanned
  split at scanned
  · rename_i closed
    cases scanned
    obtain ⟨body, rfl, never, plain⟩ := exists_of_splitQuote ['"'] closed
    exact ⟨body, rfl, splitQuote_of_closed ['"'] body [] never plain⟩
  · cases scanned

end Lexeme

namespace Lexer

/-- The token of a closed literal is a string if the literal can be decoded, and else it is illegal.
-/
theorem token_of_closed (start : Nat) (text rest : List Char)
    : let token := token start ⟨.string, text, rest⟩
      (token.kind = .string ↔ ∃ contents, unescape text = .ok contents)
      ∧ (∀ contents, unescape text = .ok contents → token.literal = String.ofList contents)
      ∧ (token.kind ≠ .string → token.kind = .illegal ∧ token.literal = String.ofList text) := by
  by_cases decodable : ∃ contents, unescape text = .ok contents
  · obtain ⟨contents, decoded⟩ := decodable
    rw [token_of_unescape start decoded]
    simp [decoded]
  · rw [token_of_not_unescape start (not_exists.mp decodable)]
    refine ⟨iff_of_false (by simp) decodable, ?_, fun _ => ⟨rfl, rfl⟩⟩
    exact fun contents decoded => absurd ⟨contents, decoded⟩ decodable

/-- Each token at a cursor is that of the lexeme that is scanned where it starts, by induction along
the text.
-/
theorem exists_scan_of_mem_drain {lexer : Lexer} {source passed : String} {token : Token}
    (here : lexer.Behind source passed) (found : token ∈ lexer.drain [])
    : ∃ before behind : String,
        before ++ behind = source
        ∧ token = Lexer.token before.utf8ByteSize (Lexeme.scan behind.toList) := by
  induction lexer using step_induction generalizing passed with
  | ends lexer step =>
      rw [drain_nil step] at found
      cases found
  | goes_on lexer later first step ih =>
      rw [drain_step step] at found
      rcases List.mem_cons.mp found with rfl | behind
      · have next := (step?_eq_some step).2
        refine ⟨passed ++ .ofList (lexer.rest.takeWhile isBlank),
          .ofList (lexer.rest.dropWhile isBlank), ?_, ?_⟩
        · rw [String.append_assoc, ← String.ofList_append, List.takeWhile_append_dropWhile]
          exact here.whole
        · rw [String.toList_ofList, String.utf8ByteSize_append, ← here.offset, ← byteLength_eq]
          exact (congrArg Prod.fst next).symm
      · obtain ⟨_, _, _, _, _, _, further⟩ := here.step step
        exact ih further behind

end Lexer

theorem exists_scan_of_mem_tokenize {source : String} {token : Token}
    (found : token ∈ tokenize source)
    : ∃ before behind : String,
        before ++ behind = source
        ∧ token = Lexer.token before.utf8ByteSize (Lexeme.scan behind.toList) := by
  rcases List.mem_append.mp found with word | last
  · exact Lexer.exists_scan_of_mem_drain (Lexer.behind_ofString source) word
  · rw [List.mem_singleton.mp last]
    exact ⟨source, "", String.append_empty, rfl⟩

/-- A token that starts at a quote is that of the literal that is scanned there. -/
theorem eq_token_of_mem_tokenize {source before behind : String} {token : Token}
    (split : before ++ "\"" ++ behind = source) (found : token ∈ tokenize source)
    (start : token.start = before.utf8ByteSize)
    : token = Lexer.token before.utf8ByteSize (Lexeme.scanString behind.toList) := by
  obtain ⟨front, rear, whole, rfl⟩ := exists_scan_of_mem_tokenize found
  rw [Lexer.start_token] at start
  rw [← whole, String.append_assoc] at split
  obtain ⟨rfl, rfl⟩ := Lexer.append_inj_of_size split start.symm
  rw [String.toList_append]
  exact congrArg _ (Lexer.scan_quote behind.toList)

/-- A token stands for a literal that the lexer has found closed. It is a string if and only if what
is between the quotes splits into units, and then its literal is the text that they stand for, or
else it is illegal, and its literal is the lexeme. The decoder succeeds if and only if it comes to
the closing quote. It does not come to any other quote, nor past the closing one to the end.
-/
theorem tokenize_reads_units {source before behind : String} {token : Token}
    {text rest : List Char}
    (split : before ++ "\"" ++ behind = source)
    (found : token ∈ tokenize source)
    (start : token.start = before.utf8ByteSize)
    (scanned : Lexeme.scanString behind.toList = ⟨.string, text, rest⟩)
    : token.stop = (before ++ String.ofList text).utf8ByteSize
      ∧ ∃ body,
        text = '"' :: (body ++ ['"'])
        ∧ (token.kind = .string ↔ ∃ contents, Denotes body contents)
        ∧ (∀ contents, Denotes body contents → token.literal = String.ofList contents)
        ∧ (token.kind ≠ .string → token.kind = .illegal ∧ token.literal = String.ofList text)
        ∧ (∀ contents, unescape text = .ok contents ↔ Reaches (body ++ ['"']) contents ['"'])
        ∧ ∀ read left,
          Reaches (body ++ ['"']) read left → (∀ c ∈ left.head?, c = '"') → left = ['"'] := by
  obtain ⟨body, rfl, closed⟩ := Lexeme.exists_body_of_scanString scanned
  have same := eq_token_of_mem_tokenize split found start
  rw [scanned] at same
  have ends : token.stop = (before ++ .ofList ('"' :: (body ++ ['"']))).utf8ByteSize := by
    rw [same, Lexer.stop_token, Lexer.byteLength_eq, String.utf8ByteSize_append]
  have denoted (contents : List Char)
      : unescape ('"' :: (body ++ ['"'])) = .ok contents ↔ Denotes body contents :=
    (unescape_eq_ok closed).trans (reaches_quote_iff closed)
  obtain ⟨string, literal, illegal⟩ :=
    Lexer.token_of_closed before.utf8ByteSize ('"' :: (body ++ ['"'])) rest
  rw [← same] at string literal illegal
  simp only [denoted] at string literal
  exact ⟨ends, body, rfl, string, literal, illegal, fun _ => unescape_eq_ok closed,
    fun _ _ reaches stops => reaches.left_eq closed stops⟩

/-- In the first literal a number and a quote are escaped. In the second one the number lacks its
brace, so that the decoder looks for digits up to the end, and finds the closing quote.
-/
theorem tokenize_reads_units_numbers
    : tokenize "\"\\u\x7b+41\x7d\\\"\" \"\\u\x7b41\""
        = [⟨.string, "A\"", 0, 11⟩, ⟨.illegal, "\"\\u\x7b41\"", 12, 19⟩, .ending 19]
      ∧ Lexeme.scanString "\\u\x7b+41\x7d\\\"\" \"\\u\x7b41\"".toList
        = ⟨.string, "\"\\u\x7b+41\x7d\\\"\"".toList, " \"\\u\x7b41\"".toList⟩
      ∧ Lexeme.scanString "\\u\x7b41\"".toList = ⟨.string, "\"\\u\x7b41\"".toList, []⟩
      ∧ (∃ body,
        "\"\\u\x7b+41\x7d\\\"\"".toList = '"' :: (body ++ ['"'])
        ∧ ∃ contents, Denotes body contents)
      ∧ ∃ body,
        "\"\\u\x7b41\"".toList = '"' :: (body ++ ['"'])
        ∧ ¬∃ contents, Denotes body contents := by
  have tokens : tokenize "\"\\u\x7b+41\x7d\\\"\" \"\\u\x7b41\""
      = [⟨.string, "A\"", 0, 11⟩, ⟨.illegal, "\"\\u\x7b41\"", 12, 19⟩, .ending 19] := by
    decide +kernel
  have first : Lexeme.scanString "\\u\x7b+41\x7d\\\"\" \"\\u\x7b41\"".toList
      = ⟨.string, "\"\\u\x7b+41\x7d\\\"\"".toList, " \"\\u\x7b41\"".toList⟩ := by
    rfl
  have second : Lexeme.scanString "\\u\x7b41\"".toList
      = ⟨.string, "\"\\u\x7b41\"".toList, []⟩ := by
    rfl
  have front : "" ++ "\"" ++ "\\u\x7b+41\x7d\\\"\" \"\\u\x7b41\""
      = "\"\\u\x7b+41\x7d\\\"\" \"\\u\x7b41\"" := by
    decide
  have rear : "\"\\u\x7b+41\x7d\\\"\" " ++ "\"" ++ "\\u\x7b41\""
      = "\"\\u\x7b+41\x7d\\\"\" \"\\u\x7b41\"" := by
    decide
  obtain ⟨-, body, text, string, -⟩ := tokenize_reads_units front
    (tokens ▸ List.mem_cons_self) rfl first
  obtain ⟨-, body', text', string', -⟩ := tokenize_reads_units rear
    (tokens ▸ List.mem_cons_of_mem _ List.mem_cons_self) rfl second
  refine ⟨tokens, first, second, ⟨body, text, string.mp rfl⟩, body', text', ?_⟩
  exact fun splitting => absurd (string'.mpr splitting) (by decide)

end Guion
