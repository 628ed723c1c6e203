import Guion.Token.Lexer

/-! What the lexer yields: which lexemes there are, and how the words and numbers among the tokens
of a text are spelled.
-/

namespace Guion

open Text

/-- A name is a word that is not reserved: it starts with a letter and has no other characters
than those of words.
-/
structure IsName (name : String) : Prop where
  spelled : ∃ c cs, name.toList = c :: cs ∧ isLetter c = true ∧ ∀ d ∈ cs, isWordChar d = true
  free : Token.Kind.ofWord name = .identifier

/-- How a spelling must look for its kind of token, which is never that of the end of the text. -/
structure Token.Kind.Spells (kind : Token.Kind) (spelling : String) : Prop where
  inside : kind ≠ .endOfInput
  name : kind = .identifier → IsName spelling
  digits : kind = .integer → ∀ c ∈ spelling.toList, c.isDigit = true

namespace Token.Kind

/-- A word is an identifier, or else it is reserved. -/
theorem ofWord_eq_or_mem (word : String) : ofWord word = .identifier ∨ ofWord word ∈ reserved := by
  unfold ofWord
  cases found : reserved.find? fun kind => kind.spelling? == some word with
  | none => exact .inl rfl
  | some kind => exact .inr (List.mem_of_find?_eq_some found)

theorem ofWord_ne_string (word : String) : ofWord word ≠ .string := by
  intro string
  rcases ofWord_eq_or_mem word with free | reserved
  · exact absurd (string.symm.trans free) (by decide)
  · exact absurd (string ▸ reserved) (by decide)

/-- The spelling matters for names and numbers only. -/
theorem spells_of_other {kind : Token.Kind} (spelling : String)
    (other : kind ∉ [.endOfInput, .identifier, .integer])
    : kind.Spells spelling := by
  simp only [List.mem_cons, List.not_mem_nil, or_false, not_or] at other
  obtain ⟨inside, no_name, no_integer⟩ := other
  exact ⟨inside, fun named => absurd named no_name, fun digits => absurd digits no_integer⟩

/-- A word is spelled as its kind demands. -/
theorem spells_ofWord {c : Char} {cs : List Char} (letter : isLetter c = true)
    (word : ∀ d ∈ cs, isWordChar d = true)
    : (ofWord (String.ofList (c :: cs))).Spells (String.ofList (c :: cs)) := by
  rcases ofWord_eq_or_mem (String.ofList (c :: cs)) with free | reserved
  · refine ⟨?_, fun _ => ⟨⟨c, cs, String.toList_ofList, letter, word⟩, free⟩, ?_⟩ <;>
    · rw [free]
      intro h
      cases h
  · refine spells_of_other _ fun other => ?_
    revert reserved other
    cases ofWord (String.ofList (c :: cs)) <;> decide

end Token.Kind

namespace Lexeme

/-- What the lexeme at the start of a text that is not empty can be. -/
inductive Scans : List Char → Lexeme → Prop where
  | equalEqual {cs : List Char}
      : Scans ('=' :: '=' :: cs) ⟨.equalEqual, ['=', '='], cs⟩
  | bangEqual {cs : List Char}
      : Scans ('!' :: '=' :: cs) ⟨.bangEqual, ['!', '='], cs⟩
  | sign {c : Char} {cs : List Char} {kind : Token.Kind}
      (sign : sign? c = some kind)
      : Scans (c :: cs) ⟨kind, [c], cs⟩
  | literal {cs text rest : List Char}
      (closed : splitQuote false ['"'] cs = some (text, rest))
      : Scans ('"' :: cs) ⟨.string, text, rest⟩
  | openLiteral {cs : List Char}
      (never : splitQuote false ['"'] cs = none)
      : Scans ('"' :: cs) ⟨.illegal, '"' :: cs, []⟩
  | integer {c : Char} {cs : List Char}
      (digit : c.isDigit = true)
      : Scans (c :: cs) ⟨.integer, c :: cs.takeWhile Char.isDigit, cs.dropWhile Char.isDigit⟩
  | word {c : Char} {cs : List Char}
      (letter : isLetter c = true)
      : Scans (c :: cs)
          ⟨.ofWord (String.ofList (c :: cs.takeWhile isWordChar)), c :: cs.takeWhile isWordChar,
            cs.dropWhile isWordChar⟩
  | other {c : Char} {cs : List Char}
      (no_quote : c ≠ '"')
      : Scans (c :: cs) ⟨.illegal, [c], cs⟩

theorem scans_scanFrom (c : Char) (cs : List Char) : Scans (c :: cs) (scanFrom c cs) := by
  unfold scanFrom
  split
  · exact .sign (by assumption)
  · split
    · rename_i quote
      obtain rfl := eq_of_beq quote
      unfold scanString
      split
      · exact .literal (by assumption)
      · exact .openLiteral (by assumption)
    · rename_i no_quote
      split
      · exact .integer (by assumption)
      · split
        · exact .word (by assumption)
        · exact .other (by simpa using no_quote)

theorem scans_scan {cs : List Char} (nonempty : cs ≠ []) : Scans cs (scan cs) := by
  unfold scan
  split
  · contradiction
  · exact .equalEqual
  · exact .bangEqual
  · exact scans_scanFrom ..

/-- No sign is a name, a number or the end of the text. -/
theorem spells_sign {c : Char} {kind : Token.Kind} (sign : sign? c = some kind) (spelling : String)
    : kind.Spells spelling := by
  refine Token.Kind.spells_of_other spelling ?_
  unfold sign? at sign
  split at sign <;> cases sign <;> decide

/-- The characters from the start of a text that pass a test all pass it. -/
theorem of_mem_takeWhile {p : Char → Bool} {d : Char} {cs : List Char}
    (found : d ∈ cs.takeWhile p)
    : p d = true :=
  List.all_eq_true.mp List.all_takeWhile d found

/-- A lexeme has a spelling of its kind. -/
theorem spells_scan {cs : List Char} (nonempty : cs ≠ [])
    : (scan cs).kind.Spells (String.ofList (scan cs).text) := by
  have scans := scans_scan nonempty
  generalize scan cs = lexeme at scans ⊢
  cases scans with
  | equalEqual | bangEqual | literal | openLiteral | other =>
      exact Token.Kind.spells_of_other _ (by simp)
  | sign sign => exact spells_sign sign _
  | integer digit =>
      refine ⟨by simp, by simp, fun _ d found => ?_⟩
      rw [String.toList_ofList] at found
      rcases List.mem_cons.mp found with rfl | behind
      · exact digit
      · exact of_mem_takeWhile behind
  | word letter => exact Token.Kind.spells_ofWord letter fun d found => of_mem_takeWhile found

end Lexeme

namespace Lexer

/-- A token has a spelling of its kind if its lexeme has. -/
theorem spells_token {lexeme : Lexeme} (start : Nat)
    (spells : lexeme.kind.Spells (String.ofList lexeme.text))
    : (token start lexeme).kind.Spells (token start lexeme).literal := by
  unfold token
  split
  · split <;> exact Token.Kind.spells_of_other _ (by simp)
  · exact spells

/-- A cursor whose text goes on stands in front of a lexeme that is yet to be scanned. -/
theorem step?_eq_some {lexer later : Lexer} {token : Token}
    (step : lexer.step? = some (token, later))
    : lexer.rest.dropWhile isBlank ≠ [] ∧ lexer.nextToken = (token, later) := by
  unfold step? at step
  split at step
  · cases step
  · rename_i more
    exact ⟨by simpa using more, Option.some.inj step⟩

theorem step?_eq_none {lexer : Lexer} (step : lexer.step? = none)
    : lexer.rest.dropWhile isBlank = [] := by
  unfold step? at step
  split at step
  · rename_i ends
    exact List.isEmpty_iff.mp ends
  · cases step

/-- What holds at the end of a text, and at a cursor once it holds behind the next token, holds at
every cursor.
-/
@[elab_as_elim]
theorem step_induction {motive : Lexer → Prop} (lexer : Lexer)
    (ends : ∀ lexer : Lexer, lexer.step? = none → motive lexer)
    (goes_on : ∀ (lexer later : Lexer) (token : Token),
      lexer.step? = some (token, later) → motive later → motive lexer)
    : motive lexer := by
  induction length : lexer.rest.length using Nat.strongRecOn generalizing lexer with
  | _ n ih =>
      cases step : lexer.step? with
      | none => exact ends lexer step
      | some both => exact goes_on lexer _ _ step (ih _ (length ▸ length_step step) _ rfl)

/-- All tokens in front of the end of the text have spellings of their kinds. -/
theorem spells_of_mem_drain {lexer : Lexer} {token : Token} (found : token ∈ lexer.drain [])
    : token.kind.Spells token.literal := by
  induction lexer using step_induction with
  | ends lexer step =>
      rw [drain_nil step] at found
      cases found
  | goes_on lexer later first step ih =>
      rw [drain_step step] at found
      rcases List.mem_cons.mp found with rfl | behind
      · obtain ⟨more, next⟩ := step?_eq_some step
        obtain ⟨rfl, rfl⟩ := Prod.mk.inj next
        exact spells_token _ (Lexeme.spells_scan more)
      · exact ih behind

end Lexer

theorem spells_of_mem_words {source : String} {token : Token} (found : token ∈ words source)
    : token.kind.Spells token.literal :=
  Lexer.spells_of_mem_drain found

end Guion
