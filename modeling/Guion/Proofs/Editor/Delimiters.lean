import Guion.Editor.Completeness
import Guion.Proofs.Token.Tiling

/-! What an input leaves open, read from its characters and read from its tokens.

The editor follows parentheses, braces and string literals on its own, character by character. The
lexer has them as tokens. The two agree: a delimiter counts unless it stands within a string
literal, and a string literal is open if it is the last lexeme and no quote closes it.
-/

namespace Guion

open Text

-----------------------------------------------------------------------------------------
-- Open delimiters among tokens
-----------------------------------------------------------------------------------------

/-- The pairs of delimiters that may stay open from line to line. -/
inductive Delimiter where
  | paren
  | brace
deriving DecidableEq, Repr

namespace Delimiter

/-- The character that opens a pair. -/
def opening : Delimiter → Char
  | .paren => '('
  | .brace => '{'

/-- The pairs that are open behind the closing delimiter of `pair`, unless the pair opened last is
another one, or there is none. The pair opened last stands first.
-/
def close (pair : Delimiter) : List Delimiter → Option (List Delimiter)
  | [] => none
  | last :: opened => if last = pair then some opened else none

/-- The pairs that are open behind a token, unless it closes a pair that is not the last one. -/
def track (opened : List Delimiter) (token : Token) : Option (List Delimiter) :=
  match token.kind with
  | .leftParen => some (.paren :: opened)
  | .leftBrace => some (.brace :: opened)
  | .rightParen => close .paren opened
  | .rightBrace => close .brace opened
  | _ => some opened

/-- The kinds of the tokens that open and close pairs. -/
def kinds : List Token.Kind :=
  [.leftParen, .leftBrace, .rightParen, .rightBrace]

/-- All other tokens leave open what is open. -/
theorem track_of_not_mem {token : Token} (other : token.kind ∉ kinds) (opened : List Delimiter)
    : track opened token = some opened := by
  simp only [kinds, List.mem_cons, List.not_mem_nil, or_false, not_or] at other
  unfold track
  split <;> simp_all

end Delimiter

/-- Whether a character is escaped that stands behind these, the last one first: an odd number of
backslashes stands right in front of it.
-/
def isEscaped (seen : List Char) : Bool :=
  (seen.takeWhile (· == '\\')).length % 2 == 1

/-- Whether a quote that is not escaped stands among the characters behind those that are `seen`,
the last one first.
-/
def hasClosingQuote (seen : List Char) : List Char → Bool
  | [] => false
  | c :: cs => (c == '"' && !isEscaped seen) || hasClosingQuote (c :: seen) cs

/-- Whether a token stands for a string literal that is not closed. -/
def Token.isUnterminated (token : Token) : Bool :=
  token.kind == .illegal
    && match token.literal.toList with
      | '"' :: cs => !hasClosingQuote ['"'] cs
      | _ => false

/-- Whether the tokens of a text leave something open, if these pairs are open in front of them: a
pair of delimiters, or the literal in front of the end. A delimiter that closes a pair which is not
the last one is a mistake that cannot be mended, and so behind it nothing is open.
-/
def leavesOpen (opened : List Delimiter) (tokens : List Token) : Bool :=
  match tokens.foldlM Delimiter.track opened with
  | none => false
  | some opened => !opened.isEmpty || tokens.dropLast.getLast?.any Token.isUnterminated

-----------------------------------------------------------------------------------------
-- String literals
-----------------------------------------------------------------------------------------

theorem isEscaped_cons (c : Char) (seen : List Char)
    : isEscaped (c :: seen) = (c == '\\' && !isEscaped seen) := by
  unfold isEscaped
  rw [List.takeWhile_cons]
  split
  · rename_i backslash
    rw [List.length_cons, backslash, Bool.true_and, Bool.eq_iff_iff]
    simp only [beq_iff_eq, Bool.not_eq_true', beq_eq_false_iff_ne]
    omega
  · rename_i other
    simp [other]

namespace Lexeme

/-- The lexer's flag tells whether a backslash stands in front that is not escaped itself. -/
theorem splitQuote_cons (c : Char) (seen cs : List Char)
    : splitQuote (isEscaped seen) seen (c :: cs)
      = if c == '"' && !isEscaped seen then
          some ((c :: seen).reverse, cs)
        else
          splitQuote (isEscaped (c :: seen)) (c :: seen) cs := by
  rw [splitQuote, isEscaped_cons]
  cases isEscaped seen <;> simp

/-- A literal is closed by the first quote that is not escaped. -/
theorem isSome_splitQuote (seen cs : List Char)
    : (splitQuote (isEscaped seen) seen cs).isSome = hasClosingQuote seen cs := by
  induction cs generalizing seen with
  | nil => rfl
  | cons c cs ih =>
      rw [splitQuote_cons, hasClosingQuote, ← ih]
      split
      · rename_i closes
        rw [closes, Option.isSome_some, Bool.true_or]
      · rename_i goes_on
        rw [Bool.not_eq_true] at goes_on
        rw [goes_on, Bool.false_or]

/-- The quote that closes a literal belongs to it. -/
theorem hasClosingQuote_of_splitQuote (seen : List Char) {cs text rest : List Char}
    (closed : splitQuote (isEscaped seen) seen cs = some (text, rest))
    : ∃ body, text = seen.reverse ++ body ∧ hasClosingQuote seen body = true := by
  induction cs generalizing seen with
  | nil => cases closed
  | cons c cs ih =>
      rw [splitQuote_cons] at closed
      split at closed
      · rename_i closes
        cases closed
        exact ⟨[c], by simp, by simp [hasClosingQuote, closes]⟩
      · obtain ⟨body, rfl, further⟩ := ih _ closed
        exact ⟨c :: body, by simp, by simp [hasClosingQuote, further]⟩

end Lexeme

-----------------------------------------------------------------------------------------
-- Characters
-----------------------------------------------------------------------------------------

namespace Editor

/-- The editor passes over a literal up to its closing quote, as the lexer does. -/
theorem isOpen_literal (opened : List Char) (escaped : Bool) (seen cs : List Char)
    : isOpen opened (.literal escaped) cs
      = match Lexeme.splitQuote escaped seen cs with
        | none => true
        | some (_, rest) => isOpen opened .code rest := by
  fun_induction Lexeme.splitQuote escaped seen cs with
  | case1 => simp [isOpen]
  | case2 seen c cs ih => simpa [isOpen] using ih
  | case3 escaped seen c cs unescaped quote => simp [isOpen, unescaped, quote]
  | case4 escaped seen c cs unescaped other ih => simpa [isOpen, unescaped, other] using ih

/-- The characters that the editor looks for outside of literals. -/
def delimiters : List Char :=
  ['"', '(', '{', ')', '}']

/-- What passes a test that all delimiters fail is none of them. -/
private theorem not_mem_of_pass {p : Char → Bool} {c : Char}
    (fail : delimiters.any p = false) (pass : p c = true)
    : c ∉ delimiters :=
  fun found => List.any_eq_false.mp fail c found pass

/-- The editor passes over all other characters. -/
theorem isOpen_append {opened front behind cs : List Char} (whole : front ++ behind = cs)
    (passed : ∀ c ∈ front, c ∉ delimiters)
    : isOpen opened .code cs = isOpen opened .code behind := by
  subst whole
  induction front with
  | nil => rfl
  | cons c front ih =>
      obtain ⟨other, passed⟩ := List.forall_mem_cons.mp passed
      rw [← ih passed]
      simp only [delimiters, List.mem_cons, List.not_mem_nil, or_false, not_or] at other
      simp [isOpen, other]

theorem isOpen_dropWhile (opened cs : List Char)
    : isOpen opened .code cs = isOpen opened .code (cs.dropWhile isBlank) :=
  isOpen_append List.takeWhile_append_dropWhile fun _ found =>
    not_mem_of_pass (by decide) (Lexeme.of_mem_takeWhile found)

end Editor

-----------------------------------------------------------------------------------------
-- Lexemes
-----------------------------------------------------------------------------------------

open Editor Lexer

/-- Decoding a literal makes no delimiter of it. -/
theorem kind_token_not_mem {lexeme : Lexeme} (start : Nat) (other : lexeme.kind ∉ Delimiter.kinds)
    : (token start lexeme).kind ∉ Delimiter.kinds := by
  unfold token
  split
  · split <;> simp [Delimiter.kinds]
  · exact other

theorem kind_sign_not_mem {c : Char} {kind : Token.Kind} (sign : Lexeme.sign? c = some kind)
    (other : c ∉ delimiters)
    : kind ∉ Delimiter.kinds := by
  unfold Lexeme.sign? at sign
  split at sign <;> cases sign <;> revert other <;> decide

theorem kind_ofWord_not_mem (word : String) : Token.Kind.ofWord word ∉ Delimiter.kinds := by
  rcases Token.Kind.ofWord_eq_or_mem word with free | reserved
  · rw [free]
    decide
  · revert reserved
    cases Token.Kind.ofWord word <;> decide

/-- A lexeme that does not start with a delimiter has none. -/
theorem scan_of_not_mem {c : Char} (cs : List Char) (other : c ∉ delimiters)
    : (∀ d ∈ (Lexeme.scan (c :: cs)).text, d ∉ delimiters)
      ∧ (Lexeme.scan (c :: cs)).kind ∉ Delimiter.kinds := by
  have alone : ∀ d ∈ [c], d ∉ delimiters := List.forall_mem_singleton.mpr other
  have run {p : Char → Bool} (fail : delimiters.any p = false)
      : ∀ d ∈ c :: cs.takeWhile p, d ∉ delimiters :=
    List.forall_mem_cons.mpr
      ⟨other, fun _ found => not_mem_of_pass fail (Lexeme.of_mem_takeWhile found)⟩
  have scans := Lexeme.scans_scan (List.cons_ne_nil c cs)
  generalize Lexeme.scan (c :: cs) = lexeme at scans ⊢
  cases scans with
  | equalEqual | bangEqual => simp [delimiters, Delimiter.kinds]
  | sign sign => exact ⟨alone, kind_sign_not_mem sign other⟩
  | literal | openLiteral => exact absurd other (by decide)
  | integer => exact ⟨run (by decide), by simp [Delimiter.kinds]⟩
  | word => exact ⟨run (by decide), kind_ofWord_not_mem _⟩
  | other => exact ⟨alone, by simp [Delimiter.kinds]⟩

/-- Whether a token is an open literal can be told from its lexeme. -/
theorem isUnterminated_token {lexeme : Lexeme} {c : Char} {cs : List Char}
    (text : lexeme.text = c :: cs) (start : Nat)
    : (token start lexeme).isUnterminated
      = ((token start lexeme).kind == .illegal && (c == '"' && !hasClosingQuote ['"'] cs)) := by
  by_cases illegal : (token start lexeme).kind = .illegal
  · have literal : (token start lexeme).literal = String.ofList (c :: cs) := by
      rw [← text]
      exact literal_token (by simp [illegal])
    rw [Token.isUnterminated, literal, String.toList_ofList]
    split
    · rename_i same
      cases same
      simp
    · rename_i other
      have no_quote : c ≠ '"' := fun quote => other cs (quote ▸ rfl)
      simp [no_quote]
  · rw [Token.isUnterminated, beq_eq_false_iff_ne.mpr illegal, Bool.false_and, Bool.false_and]

/-- Only a lexeme that starts with a quote is an open literal. -/
theorem isUnterminated_token_of_ne {c : Char} (cs : List Char) (start : Nat) (other : c ≠ '"')
    : (token start (Lexeme.scan (c :: cs))).isUnterminated = false := by
  obtain ⟨more, text⟩ := Lexeme.exists_text_scan c cs
  simp [isUnterminated_token text, other]

/-- A literal is open if no quote closes it. -/
theorem isUnterminated_token_scanString (cs : List Char) (start : Nat)
    : (token start (Lexeme.scanString cs)).isUnterminated
      = (Lexeme.splitQuote false ['"'] cs).isNone := by
  unfold Lexeme.scanString
  cases closed : Lexeme.splitQuote false ['"'] cs with
  | none =>
      have never : hasClosingQuote ['"'] cs = false := by
        rw [← Lexeme.isSome_splitQuote]
        exact congrArg Option.isSome closed
      rw [isUnterminated_token rfl, never]
      rfl
  | some both =>
      obtain ⟨text, rest⟩ := both
      obtain ⟨body, rfl, closes⟩ := Lexeme.hasClosingQuote_of_splitQuote ['"'] closed
      have quoted : (⟨.string, '"' :: body, rest⟩ : Lexeme).text = '"' :: body := rfl
      exact (isUnterminated_token quoted start).trans (by simp [closes])

/-- A literal opens and closes nothing. -/
theorem track_scanString (opened : List Delimiter) (cs : List Char) (start : Nat)
    : Delimiter.track opened (token start (Lexeme.scanString cs)) = some opened := by
  refine Delimiter.track_of_not_mem (kind_token_not_mem start ?_) opened
  unfold Lexeme.scanString
  split <;> simp [Delimiter.kinds]

/-- What is open behind the next token of a text is open behind its characters. -/
theorem isOpen_scan (opened : List Delimiter) (cs : List Char) (start : Nat)
    : isOpen (opened.map Delimiter.opening) .code cs
      = match Delimiter.track opened (token start (Lexeme.scan cs)) with
        | none => false
        | some later =>
          (token start (Lexeme.scan cs)).isUnterminated
            || isOpen (later.map Delimiter.opening) .code (Lexeme.scan cs).rest := by
  cases cs with
  | nil => rfl
  | cons c cs =>
      by_cases other : c ∉ delimiters
      · obtain ⟨text, kind⟩ := scan_of_not_mem cs other
        have no_quote : c ≠ '"' := fun quote => other (quote ▸ by decide)
        rw [Delimiter.track_of_not_mem (kind_token_not_mem start kind),
          isUnterminated_token_of_ne cs start no_quote]
        exact isOpen_append (Lexeme.text_append_rest _) text
      · simp only [delimiters, List.mem_cons, List.not_mem_nil, or_false,
          Classical.not_not] at other
        rcases other with rfl | rfl | rfl | rfl | rfl
        · have literal : Lexeme.scan ('"' :: cs) = Lexeme.scanString cs := rfl
          rw [literal, track_scanString, isUnterminated_token_scanString]
          refine (isOpen_literal (opened.map Delimiter.opening) false ['"'] cs).trans ?_
          unfold Lexeme.scanString
          cases Lexeme.splitQuote false ['"'] cs <;> rfl
        · rfl
        · rfl
        · cases opened with
          | nil => rfl
          | cons last opened => cases last <;> rfl
        · cases opened with
          | nil => rfl
          | cons last opened => cases last <;> rfl

/-- Behind a literal that is open there is nothing left. -/
theorem rest_of_isUnterminated {cs : List Char} {start : Nat}
    (unterminated : (token start (Lexeme.scan cs)).isUnterminated = true)
    : (Lexeme.scan cs).rest = [] := by
  cases cs with
  | nil => rfl
  | cons c cs =>
      by_cases quote : c = '"'
      · subst quote
        have literal : Lexeme.scan ('"' :: cs) = Lexeme.scanString cs := rfl
        rw [literal, isUnterminated_token_scanString, Option.isNone_iff_eq_none] at unterminated
        rw [literal, Lexeme.scanString, unterminated]
      · rw [isUnterminated_token_of_ne cs start quote] at unterminated
        cases unterminated

-----------------------------------------------------------------------------------------
-- Inputs
-----------------------------------------------------------------------------------------

/-- A token that is not an open literal leaves open what is open behind it. -/
theorem leavesOpen_cons {token : Token} (closed : token.isUnterminated = false)
    (opened : List Delimiter) (tokens : List Token) (last : Token)
    : leavesOpen opened (token :: (tokens ++ [last]))
      = match Delimiter.track opened token with
        | none => false
        | some later => leavesOpen later (tokens ++ [last]) := by
  have lexemes : (token :: (tokens ++ [last])).dropLast = token :: tokens := by
    rw [← List.cons_append, List.dropLast_concat]
  have same : (token :: tokens).getLast?.any Token.isUnterminated
      = tokens.getLast?.any Token.isUnterminated := by
    rw [List.getLast?_cons]
    cases tokens.getLast? with
    | none => simp [closed]
    | some => rfl
  simp only [leavesOpen, List.foldlM_cons, lexemes, same, List.dropLast_concat]
  cases Delimiter.track opened token <;> rfl

/-- What is open behind the next token is open at the cursor. -/
theorem isOpen_step {lexer later : Lexer} {token : Token} (step : lexer.step? = some (token, later))
    (opened : List Delimiter)
    : isOpen (opened.map Delimiter.opening) .code lexer.rest
      = match Delimiter.track opened token with
        | none => false
        | some further =>
          token.isUnterminated || isOpen (further.map Delimiter.opening) .code later.rest := by
  obtain ⟨_, next⟩ := step?_eq_some step
  obtain ⟨rfl, rfl⟩ := Prod.mk.inj next
  rw [isOpen_dropWhile]
  exact isOpen_scan opened _ _

/-- Behind a literal that is open no token follows. -/
theorem drain_of_isUnterminated {lexer later : Lexer} {token : Token}
    (step : lexer.step? = some (token, later)) (unterminated : token.isUnterminated = true)
    : later.drain [] = [] := by
  obtain ⟨_, next⟩ := step?_eq_some step
  have nothing : later.rest = [] := by
    obtain ⟨rfl, rfl⟩ := Prod.mk.inj next
    exact rest_of_isUnterminated unterminated
  exact drain_nil (by simp [step?, nothing])

/-- What is open at a cursor can be told from the tokens behind it. -/
theorem isOpen_drain (opened : List Delimiter) (lexer : Lexer) (size : Nat)
    : isOpen (opened.map Delimiter.opening) .code lexer.rest
      = leavesOpen opened (lexer.drain [] ++ [.ending size]) := by
  induction lexer using step_induction generalizing opened with
  | ends lexer step =>
      rw [isOpen_dropWhile, step?_eq_none step, drain_nil step]
      cases opened <;> rfl
  | goes_on lexer later token step ih =>
      rw [isOpen_step step, drain_step step]
      cases unterminated : token.isUnterminated with
      | true =>
          rw [drain_of_isUnterminated step unterminated]
          simp only [leavesOpen, List.cons_append, List.foldlM_cons]
          cases Delimiter.track opened token with
          | none => rfl
          | some further => simp [unterminated, Delimiter.track, Token.ending]
      | false =>
          rw [List.cons_append, leavesOpen_cons unterminated]
          cases Delimiter.track opened token with
          | none => rfl
          | some further => exact ih further

/-- The editor reads from the characters of a line what the lexer tells from its tokens: which
delimiters count, whether they fit, and whether a literal is open at the end.
-/
theorem isComplete_eq_not_leavesOpen (line : String)
    : Editor.isComplete line = !leavesOpen [] (tokenize line) :=
  congrArg not (isOpen_drain [] (.ofString line) line.utf8ByteSize)

-- A quote behind two backslashes closes its literal, and a quote behind one does not.
example : Editor.isComplete "(\"\\\\\")" = true ∧ Editor.isComplete "(\"\\\")" = false := by
  decide

end Guion
