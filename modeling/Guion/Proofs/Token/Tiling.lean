import Guion.Proofs.Token.Lexed

/-! The tokens of a source text tile it.

From the start of the text to its end the tokens stand one behind the other, and what lies between
two of them is blank. So no character is lost, none is read twice, and the text can be put together
again from its lexemes and the gaps between them.
-/

namespace Guion

open Text

-----------------------------------------------------------------------------------------
-- Tilings
-----------------------------------------------------------------------------------------

/-- A text of blanks only. -/
def IsGap (text : String) : Prop :=
  ∀ c ∈ text.toList, isBlank c = true

instance (text : String) : Decidable (IsGap text) :=
  List.decidableBAll (fun c => isBlank c = true) text.toList

theorem isGap_takeWhile (cs : List Char) : IsGap (String.ofList (cs.takeWhile isBlank)) := by
  intro c found
  rw [String.toList_ofList] at found
  exact Lexeme.of_mem_takeWhile found

/-- How a token in front of the end of a text reads the lexeme that it stands for. -/
structure Token.Reads (token : Token) (lexeme : String) : Prop where
  inside : token.kind ≠ .endOfInput
  dark : ∃ c cs, lexeme.toList = c :: cs ∧ isBlank c = false
  raw : token.kind ≠ .string → token.literal = lexeme

/-- The tokens take what is left of a source text behind the part that is `passed`. The pieces of
what is left are the gap in front of each token and the lexeme, in turn; the bytes of a token are
those that its lexeme takes in the source text.
-/
inductive Tiles (source : String) : String → List Token → List String → Prop where
  | ending {passed gap : String}
      (blank : IsGap gap)
      (whole : passed ++ gap = source)
      : Tiles source passed [.ending source.utf8ByteSize] [gap, ""]
  | token {passed gap lexeme : String} {token : Token} {tokens : List Token}
      {pieces : List String}
      (blank : IsGap gap)
      (reads : token.Reads lexeme)
      (start : token.start = (passed ++ gap).utf8ByteSize)
      (stop : token.stop = (passed ++ gap ++ lexeme).utf8ByteSize)
      (later : Tiles source (passed ++ gap ++ lexeme) tokens pieces)
      : Tiles source passed (token :: tokens) (gap :: lexeme :: pieces)

/-- Where the first part of a text ends is a boundary of characters. -/
private theorem isValid_utf8ByteSize {source front behind : String}
    (split : front ++ behind = source)
    : String.Pos.Raw.IsValid source ⟨front.utf8ByteSize⟩ :=
  String.Pos.Raw.isValid_iff_exists_append.mpr ⟨front, behind, split.symm, rfl⟩

namespace Tiles

variable {source passed : String} {tokens : List Token} {pieces : List String}

/-- The pieces rebuild what is left of the text. -/
theorem append_join (tiles : Tiles source passed tokens pieces)
    : passed ++ String.join pieces = source := by
  induction tiles with
  | ending _ whole => simpa using whole
  | token _ _ _ _ _ ih =>
      rw [String.join_cons, String.join_cons, ← String.append_assoc, ← String.append_assoc]
      exact ih

/-- No token starts in the part that is passed. -/
theorem le_start (tiles : Tiles source passed tokens pieces)
    : ∀ token ∈ tokens, passed.utf8ByteSize ≤ token.start := by
  induction tiles with
  | ending _ whole =>
      intro token found
      rw [List.mem_singleton.mp found, Token.ending, ← whole, String.utf8ByteSize_append]
      exact Nat.le_add_right ..
  | token _ _ start _ _ ih =>
      simp only [String.utf8ByteSize_append] at start ih
      refine List.forall_mem_cons.mpr ⟨by omega, fun token found => ?_⟩
      exact Nat.le_trans (by omega) (ih token found)

/-- No token starts before those in front of it end. -/
theorem pairwise (tiles : Tiles source passed tokens pieces)
    : tokens.Pairwise fun left right => left.stop ≤ right.start := by
  induction tiles with
  | ending => exact List.pairwise_singleton ..
  | token _ _ _ stop later ih => exact .cons (stop ▸ later.le_start) ih

/-- The ends of a token lie on boundaries of characters. -/
theorem isValid (tiles : Tiles source passed tokens pieces)
    : ∀ token ∈ tokens,
      String.Pos.Raw.IsValid source ⟨token.start⟩ ∧ String.Pos.Raw.IsValid source ⟨token.stop⟩ := by
  induction tiles with
  | ending _ _ =>
      have last : String.Pos.Raw.IsValid source ⟨source.utf8ByteSize⟩ :=
        isValid_utf8ByteSize String.append_empty
      exact List.forall_mem_singleton.mpr ⟨last, last⟩
  | @token passed gap lexeme token _ pieces _ _ start stop later ih =>
      refine List.forall_mem_cons.mpr ⟨⟨?_, ?_⟩, ih⟩
      · have split : passed ++ gap ++ (lexeme ++ String.join pieces) = source := by
          rw [← String.append_assoc]
          exact later.append_join
        exact start ▸ isValid_utf8ByteSize split
      · exact stop ▸ isValid_utf8ByteSize later.append_join

end Tiles

-----------------------------------------------------------------------------------------
-- Lexemes
-----------------------------------------------------------------------------------------

namespace Lexeme

theorem splitQuote_append {escaped : Bool} {seen cs text rest : List Char}
    (closed : splitQuote escaped seen cs = some (text, rest))
    : text ++ rest = seen.reverse ++ cs := by
  fun_induction splitQuote escaped seen cs with
  | case1 => cases closed
  | case2 _ _ _ ih => simpa using ih closed
  | case3 =>
      cases closed
      simp
  | case4 _ _ _ _ _ _ ih => simpa using ih closed

theorem Scans.text_append_rest {cs : List Char} {lexeme : Lexeme} (scans : Scans cs lexeme)
    : lexeme.text ++ lexeme.rest = cs := by
  cases scans with
  | equalEqual | bangEqual | sign | other => rfl
  | literal closed => exact splitQuote_append closed
  | openLiteral => exact List.append_nil _
  | integer | word => exact congrArg (_ :: ·) List.takeWhile_append_dropWhile

/-- A lexeme and what follows it make up the text. -/
theorem text_append_rest (cs : List Char) : (scan cs).text ++ (scan cs).rest = cs := by
  cases cs with
  | nil => rfl
  | cons c cs => exact (scans_scan (List.cons_ne_nil c cs)).text_append_rest

/-- A lexeme starts with the first character of the text. -/
theorem exists_text_scan (c : Char) (cs : List Char)
    : ∃ more, (scan (c :: cs)).text = c :: more := by
  have whole := text_append_rest (c :: cs)
  have shorter := length_scan (List.cons_ne_nil c cs)
  cases text : (scan (c :: cs)).text with
  | nil =>
      rw [text, List.nil_append] at whole
      rw [whole] at shorter
      exact absurd shorter (Nat.lt_irrefl _)
  | cons d more =>
      rw [text, List.cons_append] at whole
      exact ⟨more, congrArg (· :: more) (List.cons.inj whole).1⟩

end Lexeme

-----------------------------------------------------------------------------------------
-- The cursor
-----------------------------------------------------------------------------------------

namespace Lexer

theorem byteLength_eq (cs : List Char) : byteLength cs = (String.ofList cs).utf8ByteSize := by
  have fold : ∀ length, cs.foldl (fun length c => length + c.utf8Size) length
      = length + (String.ofList cs).utf8ByteSize := by
    induction cs with
    | nil => intro length; rfl
    | cons c cs ih =>
        intro length
        rw [List.foldl_cons, ih, String.ofList_cons, String.utf8ByteSize_append,
          String.utf8ByteSize_singleton, Nat.add_assoc]
  rw [byteLength, fold, Nat.zero_add]

theorem start_token (start : Nat) (lexeme : Lexeme) : (token start lexeme).start = start := by
  unfold token
  split
  · split <;> rfl
  · rfl

theorem stop_token (start : Nat) (lexeme : Lexeme)
    : (token start lexeme).stop = start + byteLength lexeme.text := by
  unfold token
  split
  · split <;> rfl
  · rfl

/-- Only string literals are decoded. -/
theorem literal_token {start : Nat} {lexeme : Lexeme} (raw : (token start lexeme).kind ≠ .string)
    : (token start lexeme).literal = String.ofList lexeme.text := by
  unfold token at raw ⊢
  split
  · split
    · simp_all
    · rfl
  · rfl

/-- The iterator yields these tokens one by one, and then it stops. -/
inductive Yields : Lexer → List Token → Prop where
  | stops {lexer : Lexer}
      (none : lexer.next.1 = none)
      : Yields lexer []
  | yields {lexer later : Lexer} {token : Token} {tokens : List Token}
      (next : lexer.next = (some token, later))
      (rest : Yields later tokens)
      : Yields lexer (token :: tokens)

/-- The cursor stands in a source text behind the part that is `passed`. -/
structure Behind (source passed : String) (lexer : Lexer) : Prop where
  offset : lexer.offset = passed.utf8ByteSize
  whole : passed ++ String.ofList lexer.rest = source
  goes_on : lexer.finished = false

variable {source passed : String} {lexer later : Lexer} {token : Token}

theorem behind_ofString (source : String) : (ofString source).Behind source "" where
  offset := rfl
  whole := by rw [ofString, String.ofList_toList, String.empty_append]
  goes_on := rfl

namespace Behind

/-- The next token stands behind the blanks at the cursor, and the cursor moves behind the lexeme
that is scanned there.
-/
theorem scans (behind : lexer.Behind source passed) (step : lexer.step? = some (token, later))
    : let gap := String.ofList (lexer.rest.takeWhile isBlank)
      let lexeme := String.ofList (Lexeme.scan (lexer.rest.dropWhile isBlank)).text
      IsGap gap
      ∧ token.Reads lexeme
      ∧ token.start = (passed ++ gap).utf8ByteSize
      ∧ token.stop = (passed ++ gap ++ lexeme).utf8ByteSize
      ∧ later.Behind source (passed ++ gap ++ lexeme) := by
  obtain ⟨more, next⟩ := step?_eq_some step
  obtain ⟨rfl, rfl⟩ := Prod.mk.inj next
  obtain ⟨c, cs, dark⟩ := List.exists_cons_of_ne_nil more
  intro gap lexeme
  have split : gap ++ (lexeme ++ String.ofList (Lexeme.scan (lexer.rest.dropWhile isBlank)).rest)
      = String.ofList lexer.rest := by
    rw [← String.ofList_append, ← String.ofList_append, Lexeme.text_append_rest,
      List.takeWhile_append_dropWhile]
  have start : lexer.nextToken.1.start = (passed ++ gap).utf8ByteSize := by
    rw [String.utf8ByteSize_append, ← behind.offset, ← byteLength_eq]
    exact start_token ..
  have stop : lexer.nextToken.1.stop = (passed ++ gap ++ lexeme).utf8ByteSize := by
    rw [String.utf8ByteSize_append, ← start, ← byteLength_eq, nextToken, stop_token, start_token]
  refine ⟨isGap_takeWhile _, ⟨?_, ?_, literal_token⟩, start, stop, stop, ?_, behind.goes_on⟩
  · exact (spells_token _ (Lexeme.spells_scan more)).inside
  · obtain ⟨text, opens⟩ := Lexeme.exists_text_scan c cs
    have first := List.head_dropWhile_not isBlank more
    simp only [dark, List.head_cons] at first
    exact ⟨c, text, by rw [String.toList_ofList, ← opens, ← dark], first⟩
  · have rebuilt := behind.whole
    rw [← split] at rebuilt
    rw [← rebuilt, String.append_assoc, String.append_assoc]

/-- The next token stands behind a gap, and the cursor moves behind its lexeme. -/
theorem step (behind : lexer.Behind source passed) (step : lexer.step? = some (token, later))
    : ∃ gap lexeme,
      IsGap gap
      ∧ token.Reads lexeme
      ∧ token.start = (passed ++ gap).utf8ByteSize
      ∧ token.stop = (passed ++ gap ++ lexeme).utf8ByteSize
      ∧ later.Behind source (passed ++ gap ++ lexeme) :=
  ⟨_, _, behind.scans step⟩

/-- At the end of the text only blanks are left. -/
theorem ends (behind : lexer.Behind source passed) (step : lexer.step? = none)
    : IsGap (String.ofList lexer.rest) ∧ lexer.nextToken.1 = .ending source.utf8ByteSize := by
  have blank := List.takeWhile_append_dropWhile (p := isBlank) (l := lexer.rest)
  rw [step?_eq_none step, List.append_nil] at blank
  constructor
  · exact blank ▸ isGap_takeWhile lexer.rest
  · rw [nextToken, step?_eq_none step, blank, behind.offset, byteLength_eq,
      ← String.utf8ByteSize_append, behind.whole]
    rfl

end Behind

/-- The tokens at a cursor tile what is left of the source text. -/
theorem tiles_drain (behind : lexer.Behind source passed)
    : ∃ pieces, Tiles source passed (lexer.drain [] ++ [.ending source.utf8ByteSize]) pieces := by
  induction lexer using step_induction generalizing passed with
  | ends lexer step =>
      rw [drain_nil step]
      exact ⟨_, .ending (behind.ends step).1 behind.whole⟩
  | goes_on lexer later token step ih =>
      obtain ⟨gap, lexeme, blank, reads, start, stop, further⟩ := behind.step step
      obtain ⟨pieces, tiles⟩ := ih further
      rw [drain_step step]
      exact ⟨_, .token blank reads start stop tiles⟩

/-- The iterator yields the tokens at its cursor, then the end of the text, and then it stops. -/
theorem yields_drain (behind : lexer.Behind source passed)
    : lexer.Yields (lexer.drain [] ++ [.ending source.utf8ByteSize]) := by
  induction lexer using step_induction generalizing passed with
  | ends lexer step =>
      have last : lexer.next = (some (.ending source.utf8ByteSize),
          { lexer.nextToken.2 with finished := true }) := by
        simp [next, behind.goes_on, (behind.ends step).2, Token.ending]
      rw [drain_nil step]
      exact .yields last (.stops rfl)
  | goes_on lexer later token step ih =>
      obtain ⟨_, _, _, reads, _, _, further⟩ := behind.step step
      have unfinished : { later with finished := false } = later := by rw [← further.goes_on]
      have next : lexer.next = (some token, later) := by
        simp [next, behind.goes_on, (step?_eq_some step).2, reads.inside, unfinished]
      rw [drain_step step]
      exact .yields next (ih further)

end Lexer

/-- The lexer comes to an end on every source text, and its tokens tile the text: each starts no
earlier than those in front of it end, both its ends lie on boundaries of characters, and the gaps
and lexemes put together are the text.
-/
theorem tokenize_tiles (source : String)
    : (Lexer.ofString source).Yields (tokenize source)
      ∧ (tokenize source).Pairwise (fun left right => left.stop ≤ right.start)
      ∧ (∀ token ∈ tokenize source,
        String.Pos.Raw.IsValid source ⟨token.start⟩ ∧ String.Pos.Raw.IsValid source ⟨token.stop⟩)
      ∧ ∃ pieces,
        Tiles source "" (tokenize source) pieces
        ∧ String.join pieces = source := by
  have start := Lexer.behind_ofString source
  obtain ⟨pieces, tiles⟩ := Lexer.tiles_drain start
  have rebuilt := tiles.append_join
  rw [String.empty_append] at rebuilt
  exact ⟨Lexer.yields_drain start, tiles.pairwise, tiles.isValid, pieces, tiles, rebuilt⟩

end Guion
