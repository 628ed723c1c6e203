import Guion.Proofs.Token.Shape

/-! Texts in a row.

The tokens of a text stay what they are when more text is put behind it, if its last token cannot
become longer.
-/

namespace Guion

open Text

namespace Lexeme

/-- The kinds of signs that no other character can become a part of, and that no word has. -/
def sealedKinds : List Token.Kind :=
  [.semicolon, .leftBrace]

/-- What stands behind a closing quote does not matter. -/
theorem splitQuote_append_right {escaped : Bool} {seen cs text rest : List Char}
    (closed : splitQuote escaped seen cs = some (text, rest)) (ds : List Char)
    : splitQuote escaped seen (cs ++ ds) = some (text, rest ++ ds) := by
  fun_induction splitQuote escaped seen cs with
  | case1 => cases closed
  | case2 seen c cs ih =>
      rw [List.cons_append, splitQuote, if_pos rfl]
      exact ih closed
  | case3 escaped seen c cs plain quote =>
      cases closed
      rw [List.cons_append, splitQuote, if_neg plain, if_pos quote]
  | case4 escaped seen c cs plain no_quote ih =>
      rw [List.cons_append, splitQuote, if_neg plain, if_neg no_quote]
      exact ih closed

/-- A run of characters that pass a test ends where it ends already. -/
private theorem span_append {p : Char → Bool} {cs : List Char} (ends : cs.dropWhile p ≠ [])
    (ds : List Char)
    : (cs ++ ds).takeWhile p = cs.takeWhile p ∧ (cs ++ ds).dropWhile p = cs.dropWhile p ++ ds := by
  constructor
  · rw [List.takeWhile_append, if_neg]
    intro whole
    have split : cs.takeWhile p ++ cs.dropWhile p = cs := List.takeWhile_append_dropWhile
    have lengths := congrArg List.length split
    rw [List.length_append, whole] at lengths
    exact ends (List.length_eq_zero_iff.mp (by omega))
  · rw [List.dropWhile_append, if_neg (by simpa using ends)]

/-- A lexeme in front of more text. -/
def further (lexeme : Lexeme) (ds : List Char) : Lexeme :=
  { lexeme with rest := lexeme.rest ++ ds }

/-- Text stands behind a lexeme already, or no text could become a part of it. -/
def Ended (lexeme : Lexeme) : Prop :=
  lexeme.rest ≠ [] ∨ lexeme.kind ∈ sealedKinds

/-- A lexeme of another kind has ended only if text stands behind it. -/
private theorem Ended.rest_ne_nil {lexeme : Lexeme} (ended : lexeme.Ended) (kind : Token.Kind)
    (found : lexeme.kind = kind) (other : kind ∉ sealedKinds := by decide)
    : lexeme.rest ≠ [] :=
  ended.resolve_right (found ▸ other)

private theorem scanString_append {cs : List Char} (ended : (scanString cs).Ended)
    (ds : List Char)
    : scanString (cs ++ ds) = (scanString cs).further ds := by
  unfold scanString at ended ⊢
  cases closed : splitQuote false ['"'] cs with
  | none =>
      rw [closed] at ended
      exact absurd rfl (ended.rest_ne_nil .illegal rfl)
  | some parts =>
      rw [splitQuote_append_right closed ds]
      rfl

/-- No word is a sign. -/
private theorem ofWord_not_mem_sealedKinds (word : String)
    : Token.Kind.ofWord word ∉ sealedKinds := by
  rcases Token.Kind.ofWord_eq_or_mem word with free | reserved
  · rw [free]
    decide
  · revert reserved
    cases Token.Kind.ofWord word <;> decide

private theorem scanFrom_append {c : Char} {cs : List Char} (ended : (scanFrom c cs).Ended)
    (ds : List Char)
    : scanFrom c (cs ++ ds) = (scanFrom c cs).further ds := by
  unfold scanFrom at ended ⊢
  cases sign : sign? c with
  | some kind => rfl
  | none =>
      rw [sign] at ended
      dsimp only at ended ⊢
      by_cases quote : (c == '"') = true
      · rw [if_pos quote] at ended
        rw [if_pos quote, if_pos quote]
        exact scanString_append ended ds
      by_cases digit : c.isDigit = true
      · rw [if_neg quote, if_pos digit] at ended
        obtain ⟨taken, left⟩ := span_append (ended.rest_ne_nil .integer rfl) ds
        rw [if_neg quote, if_pos digit, if_neg quote, if_pos digit, taken, left]
        rfl
      by_cases letter : isLetter c = true
      · rw [if_neg quote, if_neg digit, if_pos letter] at ended
        obtain ⟨taken, left⟩ :=
          span_append (ended.rest_ne_nil _ rfl (ofWord_not_mem_sealedKinds _)) ds
        rw [if_neg quote, if_neg digit, if_pos letter, if_neg quote, if_neg digit, if_pos letter,
          taken, left]
        rfl
      · rw [if_neg quote, if_neg digit, if_neg letter, if_neg quote, if_neg digit, if_neg letter]
        rfl

/-- A lexeme that has ended stays what it is in front of more text. -/
theorem scan_append {cs : List Char} (nonempty : cs ≠ []) (ended : (scan cs).Ended)
    (ds : List Char)
    : scan (cs ++ ds) = (scan cs).further ds := by
  cases cs with
  | nil => contradiction
  | cons c cs =>
      by_cases double : cs.head? = some '=' ∧ (c = '=' ∨ c = '!')
      · obtain ⟨next, rfl | rfl⟩ := double <;>
        · obtain ⟨cs, rfl⟩ := List.head?_eq_some_iff.mp next
          rfl
      · have single : cs.head? = some '=' → c ≠ '=' ∧ c ≠ '!' := fun next =>
          not_or.mp fun first => double ⟨next, first⟩
        have here := Lexer.scan_cons single
        rw [here] at ended ⊢
        rw [List.cons_append, Lexer.scan_cons, scanFrom_append ended ds]
        intro next
        cases cs with
        | cons d cs => exact single next
        | nil =>
            -- Nothing stands behind the sign, so it is one that nothing can become a part of.
            constructor <;>
            · rintro rfl
              rcases ended with rest | sign
              · exact rest rfl
              · exact absurd sign (by decide)

end Lexeme

namespace Lexer

/-- The token of a lexeme has the kind of a sign only if the lexeme has. -/
private theorem kind_mem_of_token {lexeme : Lexeme}
    (sealed : (token 0 lexeme).shape.1 ∈ Lexeme.sealedKinds)
    : lexeme.kind ∈ Lexeme.sealedKinds := by
  by_cases string : lexeme.kind = .string
  · unfold token at sealed
    rw [string] at sealed
    dsimp only at sealed
    split at sealed <;> simp [Token.shape, Lexeme.sealedKinds] at sealed
  · rwa [shape_of_ne string] at sealed

/-- The tokens of texts in a row are those of the first text and those of the second, if nothing
can become a part of the last token of the first.
-/
theorem shapes_append {cs : List Char}
    (sealed : ∀ shape, (shapes cs).getLast? = some shape → shape.1 ∈ Lexeme.sealedKinds)
    (ds : List Char)
    : shapes (cs ++ ds) = shapes cs ++ shapes ds := by
  induction length : cs.length using Nat.strongRecOn generalizing cs with
  | _ n ih =>
      by_cases blank : cs.dropWhile isBlank = []
      · have blank : (cs.dropWhile isBlank).isEmpty = true := List.isEmpty_iff.mpr blank
        rw [shapes_eq (cs ++ ds), shapes_eq cs, List.dropWhile_append, if_pos blank, if_pos blank,
          List.nil_append, ← shapes_eq ds]
      · have dark : ¬ (cs.dropWhile isBlank).isEmpty = true := mt List.isEmpty_iff.mp blank
        let lexeme := Lexeme.scan (cs.dropWhile isBlank)
        have here : shapes cs = (token 0 lexeme).shape :: shapes lexeme.rest := by
          rw [shapes_eq, if_neg dark]
        rw [here] at sealed
        have ended : lexeme.Ended := by
          by_cases behind : lexeme.rest = []
          · rw [behind, shapes_nil] at sealed
            exact .inr (kind_mem_of_token (sealed _ rfl))
          · exact .inl behind
        have shorter : lexeme.rest.length < n := by
          have scanned : lexeme.rest.length < (cs.dropWhile isBlank).length :=
            Lexeme.length_scan blank
          have dropped := (List.dropWhile_sublist isBlank (l := cs)).length_le
          omega
        have others : shapes (lexeme.rest ++ ds) = shapes lexeme.rest ++ shapes ds := by
          refine ih _ shorter (fun shape found => sealed shape ?_) rfl
          rw [List.getLast?_cons, found]
          rfl
        have further : shapes (cs ++ ds)
            = (token 0 (lexeme.further ds)).shape :: shapes (lexeme.further ds).rest := by
          rw [shapes_eq, List.dropWhile_append, if_neg dark, if_neg (by simp [blank]),
            Lexeme.scan_append blank ended]
        rw [further, here, List.cons_append, ← others]
        rfl

end Lexer

end Guion
