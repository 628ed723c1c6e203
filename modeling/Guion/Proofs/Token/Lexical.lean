import Guion.Proofs.Editor.Delimiters
import Guion.Proofs.Token.Shape

/-! The lexical grammar: which lexemes there are, and which character must not follow them.

Of a text that stands behind the tokens read so far, the grammar allows one lexeme only. So it cuts
a source text in one way, and this is how the lexer cuts it.
-/

namespace Guion

open Text

-----------------------------------------------------------------------------------------
-- The grammar
-----------------------------------------------------------------------------------------

/-- The letters are those of the English alphabet, those that Spanish adds to them, and the
underscore.
-/
def IsLetter (c : Char) : Prop :=
  ('a' ≤ c ∧ c ≤ 'z')
  ∨ ('A' ≤ c ∧ c ≤ 'Z')
  ∨ c = '_'
  ∨ c ∈ ['á', 'é', 'í', 'ó', 'ú', 'Á', 'É', 'Í', 'Ó', 'Ú', 'ñ', 'Ñ']

def IsDigit (c : Char) : Prop :=
  '0' ≤ c ∧ c ≤ '9'

def IsWordChar (c : Char) : Prop :=
  IsLetter c ∨ IsDigit c

/-- A word starts with a letter and goes on with letters and digits. -/
def IsWord (lexeme : String) : Prop :=
  ∃ c cs, lexeme.toList = c :: cs ∧ IsLetter c ∧ ∀ d ∈ cs, IsWordChar d

/-- A closed literal starts with a quote and ends at the first later quote that is not escaped. -/
def IsClosedLiteral (lexeme : String) : Prop :=
  ∃ body,
    lexeme.toList = '"' :: body ++ ['"']
    ∧ hasClosingQuote ['"'] body = false
    ∧ isEscaped (body.reverse ++ ['"']) = false

/-- An open literal starts with a quote, and every later quote is escaped. -/
def IsOpenLiteral (lexeme : String) : Prop :=
  ∃ body, lexeme.toList = '"' :: body ∧ hasClosingQuote ['"'] body = false

/-- The kind and the literal that the token of a lexeme has, if `next` is the character right behind
the lexeme.
-/
inductive Lexical (lexeme : String) (next : Option Char) : Token.Kind → String → Prop where
  | identifier
      (word : IsWord lexeme)
      (free : ∀ kind ∈ Token.Kind.reserved, kind.spelling? ≠ some lexeme)
      (apart : ∀ c ∈ next, ¬ IsWordChar c)
      : Lexical lexeme next .identifier lexeme
  | reserved {kind : Token.Kind}
      (word : IsWord lexeme)
      (reserved : kind ∈ Token.Kind.reserved)
      (spelled : kind.spelling? = some lexeme)
      (apart : ∀ c ∈ next, ¬ IsWordChar c)
      : Lexical lexeme next kind lexeme
  | integer
      (nonempty : lexeme ≠ "")
      (digits : ∀ c ∈ lexeme.toList, IsDigit c)
      (apart : ∀ c ∈ next, ¬ IsDigit c)
      : Lexical lexeme next .integer lexeme
  | sign {kind : Token.Kind}
      (sign : kind ∉ Token.Kind.reserved)
      (spelled : kind.spelling? = some lexeme)
      (single : kind ∈ [.equal, .bang] → next ≠ some '=')
      : Lexical lexeme next kind lexeme
  | string {literal : String}
      (closed : IsClosedLiteral lexeme)
      (decoded : Escape.unescape lexeme.toList = .ok literal.toList)
      : Lexical lexeme next .string literal
  | malformed
      (closed : IsClosedLiteral lexeme)
      (broken : ∀ contents, Escape.unescape lexeme.toList ≠ .ok contents)
      : Lexical lexeme next .illegal lexeme
  | unterminated
      (opened : IsOpenLiteral lexeme)
      (last : next = none)
      : Lexical lexeme next .illegal lexeme
  | stray {c : Char}
      (alone : lexeme.toList = [c])
      (dark : isBlank c = false)
      (no_letter : ¬ IsLetter c)
      (no_digit : ¬ IsDigit c)
      (no_quote : c ≠ '"')
      (no_sign : ∀ kind : Token.Kind, kind.spelling? ≠ some lexeme)
      : Lexical lexeme next .illegal lexeme

/-- All tokens in front of the last one follow the grammar. The pieces are the gap in front of each
token and its lexeme, in turn.
-/
inductive FollowGrammar : List Token → List String → Prop where
  | ending {token : Token} {gap : String}
      : FollowGrammar [token] [gap, ""]
  | token {token : Token} {tokens : List Token} {gap lexeme : String} {pieces : List String}
      (lexical : Lexical lexeme (String.join pieces).toList.head? token.kind token.literal)
      (later : FollowGrammar tokens pieces)
      : FollowGrammar (token :: tokens) (gap :: lexeme :: pieces)

-----------------------------------------------------------------------------------------
-- Letters and digits
-----------------------------------------------------------------------------------------

/-- The lexer tests for the digits of the grammar. -/
theorem isDigit_iff {c : Char} : c.isDigit = true ↔ IsDigit c :=
  Bool.and_eq_true_iff.trans (and_congr decide_eq_true_iff decide_eq_true_iff)

/-- The lexer tests for the letters of the grammar. -/
theorem isLetter_iff {c : Char} : isLetter c = true ↔ IsLetter c := by
  have lower : c.isLower = true ↔ 'a' ≤ c ∧ c ≤ 'z' :=
    Bool.and_eq_true_iff.trans (and_congr decide_eq_true_iff decide_eq_true_iff)
  have upper : c.isUpper = true ↔ 'A' ≤ c ∧ c ≤ 'Z' := decide_eq_true_iff
  have alpha : c.isAlpha = true ↔ c.isUpper = true ∨ c.isLower = true := Bool.or_eq_true_iff
  rw [isLetter, Bool.or_eq_true, alpha, lower, upper, decide_eq_true_eq, List.mem_cons,
    or_comm (b := 'a' ≤ c ∧ _), or_assoc, IsLetter]

theorem isWordChar_iff {c : Char} : isWordChar c = true ↔ IsWordChar c := by
  rw [isWordChar, Bool.or_eq_true, isLetter_iff, isDigit_iff, IsWordChar]

theorem isDigit_eq_false_iff {c : Char} : c.isDigit = false ↔ ¬ IsDigit c := by
  rw [← isDigit_iff, Bool.not_eq_true]

theorem isWordChar_eq_false_iff {c : Char} : isWordChar c = false ↔ ¬ IsWordChar c := by
  rw [← isWordChar_iff, Bool.not_eq_true]

-----------------------------------------------------------------------------------------
-- Spellings
-----------------------------------------------------------------------------------------

namespace Token.Kind

/-- A reserved word is known by its spelling. -/
theorem ofWord_of_spelling {kind : Kind} {word : String} (reserved : kind ∈ Kind.reserved)
    (spelled : kind.spelling? = some word)
    : ofWord word = kind := by
  revert spelled
  cases kind <;> first
    | exact absurd reserved (by decide)
    | rintro ⟨⟩
      decide

theorem ofWord_of_free {word : String} (free : ∀ kind ∈ reserved, kind.spelling? ≠ some word)
    : ofWord word = .identifier := by
  have none : reserved.find? (fun kind => kind.spelling? == some word) = none := by
    simpa using free
  rw [ofWord, none]
  rfl

/-- The kind of a word is that of the reserved word of this spelling, if there is one. -/
theorem ofWord_cases (word : String)
    : ofWord word = .identifier ∧ (∀ kind ∈ reserved, kind.spelling? ≠ some word)
      ∨ ofWord word ∈ reserved ∧ (ofWord word).spelling? = some word := by
  unfold ofWord
  cases found : reserved.find? fun kind => kind.spelling? == some word with
  | none => exact .inl ⟨rfl, by simpa using found⟩
  | some kind => exact .inr ⟨List.mem_of_find?_eq_some found, by simpa using List.find?_some found⟩

end Token.Kind

namespace Lexeme

/-- Each sign has a spelling of its own. -/
theorem spelling?_of_sign {c : Char} {kind : Token.Kind} (sign : sign? c = some kind)
    : kind ∉ Token.Kind.reserved
      ∧ kind.spelling? = some (String.ofList [c])
      ∧ (kind ∈ [.equal, .bang] ↔ c = '=' ∨ c = '!') := by
  unfold sign? at sign
  split at sign <;> cases sign <;> decide

/-- A spelling of one character is that of a sign. -/
theorem sign?_of_spelling {c : Char} {kind : Token.Kind}
    (spelled : kind.spelling? = some (String.ofList [c]))
    : sign? c = some kind := by
  have text := congrArg (Option.map String.toList) spelled
  rw [Option.map_some, String.toList_ofList] at text
  cases kind <;> simp [Token.Kind.spelling?] at text
  all_goals
    subst text
    rfl

/-- A sign is one character, or two of which the second is an equals sign. -/
theorem sign_cases {kind : Token.Kind} {lexeme : String} (sign : kind ∉ Token.Kind.reserved)
    (spelled : kind.spelling? = some lexeme)
    : (∃ c, lexeme = String.ofList [c])
      ∨ kind = .equalEqual ∧ lexeme = "=="
      ∨ kind = .bangEqual ∧ lexeme = "!=" := by
  cases kind <;> cases spelled
  case equalEqual => exact .inr (.inl ⟨rfl, rfl⟩)
  case bangEqual => exact .inr (.inr ⟨rfl, rfl⟩)
  case letWord | functionWord | ifWord | elseWord | returnWord | trueWord | falseWord =>
    exact absurd (by decide) sign
  all_goals exact .inl ⟨_, rfl⟩

-----------------------------------------------------------------------------------------
-- What the lexer scans follows the grammar
-----------------------------------------------------------------------------------------

/-- A literal is split at the quote that closes it. -/
theorem exists_of_splitQuote (seen : List Char) {cs text rest : List Char}
    (closed : splitQuote (isEscaped seen) seen cs = some (text, rest))
    : ∃ body,
        text = seen.reverse ++ body ++ ['"']
        ∧ hasClosingQuote seen body = false
        ∧ isEscaped (body.reverse ++ seen) = false := by
  induction cs generalizing seen with
  | nil => cases closed
  | cons c cs ih =>
      rw [splitQuote_cons] at closed
      split at closed
      · rename_i closes
        cases closed
        simp only [Bool.and_eq_true, beq_iff_eq, Bool.not_eq_true'] at closes
        exact ⟨[], by simp [closes.1], rfl, closes.2⟩
      · rename_i goes_on
        obtain ⟨body, rfl, never, plain⟩ := ih _ closed
        refine ⟨c :: body, by simp, ?_, by simpa using plain⟩
        rw [hasClosingQuote, never, Bool.or_false]
        exact Bool.eq_false_iff.mpr goes_on

/-- Up to the quote that closes it a literal is passed over. -/
theorem splitQuote_of_closed (seen body rest : List Char)
    (never : hasClosingQuote seen body = false) (plain : isEscaped (body.reverse ++ seen) = false)
    : splitQuote (isEscaped seen) seen (body ++ '"' :: rest)
      = some (seen.reverse ++ body ++ ['"'], rest) := by
  induction body generalizing seen with
  | nil =>
      rw [List.reverse_nil, List.nil_append] at plain
      rw [List.nil_append, splitQuote_cons, plain]
      simp
  | cons c body ih =>
      rw [hasClosingQuote, Bool.or_eq_false_iff] at never
      rw [List.cons_append, splitQuote_cons, never.1, if_neg Bool.false_ne_true]
      rw [ih (c :: seen) never.2 (by simpa using plain)]
      simp

end Lexeme

namespace Lexer

open Lexeme

/-- All but string literals stand for themselves. -/
theorem token_of_ne {lexeme : Lexeme} (raw : lexeme.kind ≠ .string) (start : Nat)
    : token start lexeme
      = ⟨lexeme.kind, .ofList lexeme.text, start, start + byteLength lexeme.text⟩ := by
  unfold token
  split
  · contradiction
  · rfl

/-- The token of a literal that can be decoded. -/
theorem token_of_unescape {text rest contents : List Char} (start : Nat)
    (decoded : Escape.unescape text = .ok contents)
    : token start ⟨.string, text, rest⟩
      = ⟨.string, String.ofList contents, start, start + byteLength text⟩ := by
  simp only [token, decoded]

/-- The token of a literal that cannot be decoded. -/
theorem token_of_not_unescape {text rest : List Char} (start : Nat)
    (broken : ∀ contents, Escape.unescape text ≠ .ok contents)
    : token start ⟨.string, text, rest⟩
      = ⟨.illegal, String.ofList text, start, start + byteLength text⟩ := by
  cases decoded : Escape.unescape text with
  | ok contents => exact absurd decoded (broken contents)
  | error fault => simp only [token, decoded]

variable {next : Option Char}

/-- A lexeme that is no literal has the kind and the literal that the grammar says. -/
private theorem lexical_token {lexeme : Lexeme} (raw : lexeme.kind ≠ .string) (start : Nat)
    (lexical : Lexical (.ofList lexeme.text) next lexeme.kind (.ofList lexeme.text))
    : Lexical (.ofList lexeme.text) next (token start lexeme).kind
        (token start lexeme).literal := by
  rw [token_of_ne raw]
  exact lexical

/-- A literal that is closed is a string if it can be decoded. -/
private theorem lexical_closed {text rest : List Char} (start : Nat)
    (closed : IsClosedLiteral (.ofList text))
    : Lexical (.ofList text) next (token start ⟨.string, text, rest⟩).kind
        (token start ⟨.string, text, rest⟩).literal := by
  by_cases decodable : ∃ contents, Escape.unescape text = .ok contents
  · obtain ⟨contents, decoded⟩ := decodable
    rw [token_of_unescape start decoded]
    exact .string closed (by rwa [String.toList_ofList, String.toList_ofList])
  · rw [token_of_not_unescape start (not_exists.mp decodable)]
    exact .malformed closed (by rwa [String.toList_ofList, ← not_exists])

/-- Nothing that passes a test stands behind the characters that pass it. -/
private theorem head?_dropWhile (p : Char → Bool) (cs : List Char)
    : ∀ c ∈ (cs.dropWhile p).head?, p c = false := by
  intro c found
  have stops := List.head?_dropWhile_not p cs
  rw [Option.mem_def.mp found] at stops
  exact stops

private theorem lexical_scanString (cs : List Char) (start : Nat)
    : Lexical (.ofList (scanString cs).text) (scanString cs).rest.head?
        (token start (scanString cs)).kind (token start (scanString cs)).literal := by
  unfold scanString
  cases closed : splitQuote false ['"'] cs with
  | none =>
      have never : hasClosingQuote ['"'] cs = false := by
        rw [← isSome_splitQuote]
        exact congrArg Option.isSome closed
      exact lexical_token (by simp) start (.unterminated ⟨cs, String.toList_ofList, never⟩ rfl)
  | some both =>
      obtain ⟨text, rest⟩ := both
      obtain ⟨body, rfl, never, plain⟩ := exists_of_splitQuote ['"'] closed
      exact lexical_closed start ⟨body, String.toList_ofList, never, plain⟩

private theorem lexical_word {c : Char} (letter : isLetter c = true) (cs : List Char)
    : Lexical (.ofList (c :: cs.takeWhile isWordChar)) (cs.dropWhile isWordChar).head?
        (.ofWord (.ofList (c :: cs.takeWhile isWordChar)))
        (.ofList (c :: cs.takeWhile isWordChar)) := by
  have word : IsWord (.ofList (c :: cs.takeWhile isWordChar)) :=
    ⟨c, _, String.toList_ofList, isLetter_iff.mp letter, fun d found =>
      isWordChar_iff.mp (of_mem_takeWhile found)⟩
  have apart : ∀ d ∈ (cs.dropWhile isWordChar).head?, ¬ IsWordChar d := fun d found =>
    isWordChar_eq_false_iff.mp (head?_dropWhile isWordChar cs d found)
  rcases Token.Kind.ofWord_cases (.ofList (c :: cs.takeWhile isWordChar)) with
    ⟨kind, free⟩ | ⟨reserved, spelled⟩
  · rw [kind]
    exact .identifier word free apart
  · exact .reserved word reserved spelled apart

private theorem lexical_scanFrom {c : Char} {cs : List Char} (dark : isBlank c = false)
    (single : cs.head? = some '=' → c ≠ '=' ∧ c ≠ '!') (start : Nat)
    : Lexical (.ofList (scanFrom c cs).text) (scanFrom c cs).rest.head?
        (token start (scanFrom c cs)).kind (token start (scanFrom c cs)).literal := by
  unfold scanFrom
  cases sign : sign? c with
  | some kind =>
      obtain ⟨free, spelled, doubling⟩ := spelling?_of_sign sign
      have raw : kind ≠ .string := by
        rintro rfl
        cases spelled
      refine lexical_token raw start (.sign free spelled fun first next => ?_)
      rcases doubling.mp first with rfl | rfl
      · exact (single next).1 rfl
      · exact (single next).2 rfl
  | none =>
      dsimp only
      split
      · exact lexical_scanString cs start
      · rename_i no_quote
        split
        · rename_i digit
          have digits : ∀ d ∈ c :: cs.takeWhile Char.isDigit, d.isDigit = true :=
            List.forall_mem_cons.mpr ⟨digit, fun d found => of_mem_takeWhile found⟩
          refine lexical_token (by simp) start (.integer (by simp) ?_ ?_)
          · rw [String.toList_ofList]
            exact fun d found => isDigit_iff.mp (digits d found)
          · exact fun d found => isDigit_eq_false_iff.mp (head?_dropWhile _ _ d found)
        · rename_i no_digit
          split
          · rename_i letter
            exact lexical_token (Token.Kind.ofWord_ne_string _) start (lexical_word letter cs)
          · rename_i no_letter
            refine lexical_token (by simp) start (.stray String.toList_ofList dark ?_ ?_ ?_ ?_)
            · rwa [← isLetter_iff]
            · rwa [← isDigit_iff]
            · simpa using no_quote
            · intro kind spelled
              rw [sign?_of_spelling spelled] at sign
              cases sign

/-- The token of a lexeme at the start of a text follows the grammar. -/
theorem lexical_scan {c : Char} (dark : isBlank c = false) (cs : List Char) (start : Nat)
    : Lexical (.ofList (scan (c :: cs)).text) (scan (c :: cs)).rest.head?
        (token start (scan (c :: cs))).kind (token start (scan (c :: cs))).literal := by
  by_cases double : cs.head? = some '=' ∧ (c = '=' ∨ c = '!')
  · obtain ⟨next, rfl | rfl⟩ := double <;>
    · obtain ⟨cs, rfl⟩ := List.head?_eq_some_iff.mp next
      exact lexical_token (by simp [scan]) start
        (.sign (by simp [scan, Token.Kind.reserved]) rfl (by simp [scan]))
  · have single : cs.head? = some '=' → c ≠ '=' ∧ c ≠ '!' := fun next =>
      not_or.mp fun first => double ⟨next, first⟩
    rw [scan_cons single]
    exact lexical_scanFrom dark single start

-----------------------------------------------------------------------------------------
-- The grammar allows no other lexeme
-----------------------------------------------------------------------------------------

private theorem scan_of_literal {body : List Char} (rest : List Char)
    (never : hasClosingQuote ['"'] body = false) (plain : isEscaped (body.reverse ++ ['"']) = false)
    : scan ('"' :: body ++ ['"'] ++ rest) = ⟨.string, '"' :: body ++ ['"'], rest⟩ := by
  have closed := splitQuote_of_closed ['"'] body rest never plain
  have split : splitQuote false ['"'] (body ++ '"' :: rest) = some ('"' :: body ++ ['"'], rest) :=
    closed
  rw [List.append_assoc, List.cons_append, scan_quote, List.singleton_append, scanString, split]

private theorem scan_of_opened {body : List Char} (never : hasClosingQuote ['"'] body = false)
    : scan ('"' :: body) = ⟨.illegal, '"' :: body, []⟩ := by
  have none : splitQuote false ['"'] body = none := by
    rw [← isSome_splitQuote] at never
    exact Option.isSome_eq_false_iff.mp never |> Option.isNone_iff_eq_none.mp
  rw [scan_quote, scanString, none]

private theorem scan_of_word {lexeme : String} {rest : List Char} (word : IsWord lexeme)
    (apart : ∀ c ∈ rest.head?, ¬ IsWordChar c)
    : scan (lexeme.toList ++ rest) = ⟨.ofWord lexeme, lexeme.toList, rest⟩ := by
  obtain ⟨c, cs, spelled, letter, chars⟩ := word
  have scanned := scan_word (isLetter_iff.mpr letter)
    (fun d found => isWordChar_iff.mpr (chars d found))
    (fun d found => isWordChar_eq_false_iff.mpr (apart d found))
  rwa [← spelled, String.ofList_toList] at scanned

private theorem scan_of_stray {c : Char} (rest : List Char) (no_letter : ¬ IsLetter c)
    (no_digit : ¬ IsDigit c) (no_quote : c ≠ '"')
    (no_sign : ∀ kind : Token.Kind, kind.spelling? ≠ some (.ofList [c]))
    : scan (c :: rest) = ⟨.illegal, [c], rest⟩ := by
  have sign : sign? c = none := by
    rw [Option.eq_none_iff_forall_ne_some]
    exact fun kind sign => no_sign kind (spelling?_of_sign sign).2.1
  have single : rest.head? = some '=' → c ≠ '=' ∧ c ≠ '!' := by
    intro _
    constructor <;>
    · rintro rfl
      cases sign
  rw [scan_cons single, scanFrom, sign]
  simp [isLetter_iff, isDigit_iff, no_letter, no_digit, no_quote]

private theorem scan_of_sign {kind : Token.Kind} {lexeme : String} {rest : List Char}
    (sign : kind ∉ Token.Kind.reserved) (spelled : kind.spelling? = some lexeme)
    (single : kind ∈ [.equal, .bang] → rest.head? ≠ some '=')
    : scan (lexeme.toList ++ rest) = ⟨kind, lexeme.toList, rest⟩ := by
  rcases sign_cases sign spelled with ⟨c, rfl⟩ | ⟨rfl, rfl⟩ | ⟨rfl, rfl⟩
  · have known := sign?_of_spelling spelled
    rw [String.toList_ofList]
    refine scan_sign known fun next => not_or.mp fun first => ?_
    exact single ((spelling?_of_sign known).2.2.mpr first) next
  · rfl
  · rfl

/-- A lexeme of the grammar is what the lexer scans, as long as the character behind it is the one
that the grammar speaks of.
-/
theorem scan_of_lexical {lexeme literal : String} {rest : List Char} {kind : Token.Kind}
    (lexical : Lexical lexeme rest.head? kind literal)
    : ∃ scanned,
        scan (lexeme.toList ++ rest) = ⟨scanned, lexeme.toList, rest⟩
        ∧ (token 0 ⟨scanned, lexeme.toList, rest⟩).shape = (kind, literal) := by
  have plain {other : Token.Kind} (raw : other ≠ .string)
      : (token 0 ⟨other, lexeme.toList, rest⟩).shape = (other, lexeme) := by
    rw [shape_of_ne raw, String.ofList_toList]
  cases lexical with
  | identifier word free apart =>
      have scanned := scan_of_word word apart
      rw [Token.Kind.ofWord_of_free free] at scanned
      exact ⟨_, scanned, plain (by decide)⟩
  | reserved word reserved spelling apart =>
      have scanned := scan_of_word word apart
      rw [Token.Kind.ofWord_of_spelling reserved spelling] at scanned
      refine ⟨_, scanned, plain ?_⟩
      rintro rfl
      cases spelling
  | integer nonempty digits apart =>
      cases spelled : lexeme.toList with
      | nil => exact absurd (String.toList_eq_nil_iff.mp spelled) nonempty
      | cons c cs =>
          rw [spelled] at digits
          rw [← spelled]
          have scanned := scan_digits (fun d found => isDigit_iff.mpr (digits d found))
            (fun d found => isDigit_eq_false_iff.mpr (apart d found))
          exact ⟨_, spelled ▸ scanned, plain (by decide)⟩
  | sign sign spelled single =>
      refine ⟨_, scan_of_sign sign spelled single, plain ?_⟩
      rintro rfl
      cases spelled
  | string closed decoded =>
      obtain ⟨body, spelled, never, ends⟩ := closed
      refine ⟨_, spelled ▸ scan_of_literal rest never ends, ?_⟩
      rw [token_of_unescape 0 decoded, String.ofList_toList]
      rfl
  | malformed closed broken =>
      obtain ⟨body, spelled, never, ends⟩ := closed
      refine ⟨_, spelled ▸ scan_of_literal rest never ends, ?_⟩
      rw [token_of_not_unescape 0 broken, String.ofList_toList]
      rfl
  | unterminated opened last =>
      obtain ⟨body, spelled, never⟩ := opened
      obtain rfl := List.head?_eq_none_iff.mp last
      rw [List.append_nil]
      exact ⟨_, spelled ▸ scan_of_opened never, plain (by decide)⟩
  | stray alone dark no_letter no_digit no_quote no_sign =>
      have whole := congrArg String.ofList alone
      rw [String.ofList_toList] at whole
      exact ⟨_, alone ▸ scan_of_stray rest no_letter no_digit no_quote (whole ▸ no_sign),
        plain (by decide)⟩

-----------------------------------------------------------------------------------------
-- The tokens at a cursor
-----------------------------------------------------------------------------------------

/-- Where the parts in front of two cuts of a text are equally long, they are the same. -/
theorem append_inj_of_size {front front' rear rear' : String}
    (whole : front ++ rear = front' ++ rear') (size : front.utf8ByteSize = front'.utf8ByteSize)
    : front = front' ∧ rear = rear' := by
  have bytes := congrArg (fun text => text.toByteArray.data) whole
  simp only [String.toByteArray_append, ByteArray.data_append] at bytes
  obtain ⟨fronts, rears⟩ := Array.append_inj bytes size
  exact ⟨String.toByteArray_inj.mp (ByteArray.ext fronts),
    String.toByteArray_inj.mp (ByteArray.ext rears)⟩

variable {source passed gap lexeme : String} {pieces : List String} {lexer : Lexer}

/-- A cursor passes over a gap, and scans what stands behind. -/
theorem Behind.exists_step (here : lexer.Behind source passed) (blank : IsGap gap)
    (dark : ∃ c cs, lexeme.toList = c :: cs ∧ isBlank c = false)
    (rebuilt : passed ++ String.join (gap :: lexeme :: pieces) = source)
    : ∃ later,
        lexer.step?
          = some (token (passed ++ gap).utf8ByteSize
              (scan (lexeme.toList ++ (String.join pieces).toList)), later)
        ∧ later.rest = (scan (lexeme.toList ++ (String.join pieces).toList)).rest
        ∧ later.offset
          = (passed ++ gap).utf8ByteSize
            + byteLength (scan (lexeme.toList ++ (String.join pieces).toList)).text
        ∧ later.finished = false := by
  obtain ⟨c, cs, spelled, dark⟩ := dark
  have same := (String.append_right_inj passed).mp (here.whole.trans rebuilt.symm)
  have rest : lexer.rest = gap.toList ++ (lexeme.toList ++ (String.join pieces).toList) := by
    rw [← String.toList_ofList (l := lexer.rest), same, String.join_cons, String.join_cons,
      String.toList_append, String.toList_append]
  have left : lexer.rest.dropWhile isBlank = lexeme.toList ++ (String.join pieces).toList := by
    rw [rest, List.dropWhile_append_of_pos blank, spelled, List.cons_append,
      List.dropWhile_cons_of_neg (by simp [dark])]
  have taken : lexer.rest.takeWhile isBlank = gap.toList := by
    rw [rest, List.takeWhile_append_of_pos blank, spelled, List.cons_append,
      List.takeWhile_cons_of_neg (by simp [dark]), List.append_nil]
  have offset : lexer.offset + byteLength gap.toList = (passed ++ gap).utf8ByteSize := by
    rw [here.offset, byteLength_eq, String.ofList_toList, String.utf8ByteSize_append]
  have goes_on : ¬ (lexer.rest.dropWhile isBlank).isEmpty = true := by
    rw [left, spelled]
    exact Bool.false_ne_true
  have next : lexer.nextToken.1
      = token (passed ++ gap).utf8ByteSize
          (scan (lexeme.toList ++ (String.join pieces).toList)) := by
    rw [nextToken, left, taken, offset]
  refine ⟨lexer.nextToken.2, ?_, ?_, ?_, here.goes_on⟩
  · rw [← next]
    exact if_neg goes_on
  · rw [nextToken, left]
  · rw [← stop_token, ← next]
    rfl

/-- If the next lexeme is as long as a piece of the text, it is this piece. -/
private theorem scan_of_size {behind : String}
    (size : byteLength (scan (lexeme.toList ++ behind.toList)).text = lexeme.utf8ByteSize)
    : String.ofList (scan (lexeme.toList ++ behind.toList)).text = lexeme
      ∧ (scan (lexeme.toList ++ behind.toList)).rest = behind.toList := by
  generalize scanned : scan (lexeme.toList ++ behind.toList) = found at size ⊢
  have whole : String.ofList found.text ++ String.ofList found.rest = lexeme ++ behind := by
    rw [← String.ofList_append, ← scanned, text_append_rest, String.ofList_append,
      String.ofList_toList, String.ofList_toList]
  obtain ⟨text, rest⟩ := append_inj_of_size whole (by rw [← byteLength_eq, size])
  exact ⟨text, by rw [← rest, String.toList_ofList]⟩

/-- A cursor that has gone over a gap and a lexeme stands behind them. -/
private theorem behind_of_tiles {tokens : List Token}
    (tiles : Tiles source (passed ++ gap ++ lexeme) tokens pieces)
    (left : lexer.rest = (String.join pieces).toList)
    (offset : lexer.offset = (passed ++ gap).utf8ByteSize + lexeme.utf8ByteSize)
    (goes_on : lexer.finished = false)
    : lexer.Behind source (passed ++ gap ++ lexeme) := by
  refine ⟨?_, ?_, goes_on⟩
  · rw [offset, ← String.utf8ByteSize_append]
  · rw [left, String.ofList_toList]
    exact tiles.append_join

/-- The tokens at a cursor follow the grammar, by induction along the text. -/
theorem followGrammar_drain (here : lexer.Behind source passed)
    (tiles : Tiles source passed (lexer.drain [] ++ [.ending source.utf8ByteSize]) pieces)
    : FollowGrammar (lexer.drain [] ++ [.ending source.utf8ByteSize]) pieces := by
  induction lexer using step_induction generalizing passed pieces with
  | ends lexer step =>
      rw [drain_nil step] at tiles ⊢
      cases tiles with
      | ending => exact .ending
      | token _ _ _ _ later => cases later
  | goes_on lexer later token step ih =>
      rw [drain_step step, List.cons_append] at tiles ⊢
      generalize tokens : later.drain [] ++ [.ending source.utf8ByteSize] = behind at tiles ⊢
      cases tiles with
      | ending => simp at tokens
      | @token _ gap lexeme _ _ pieces blank reads start stop tiles =>
          have rebuilt := (Tiles.token blank reads start stop tiles).append_join
          obtain ⟨cursor, steps, left, offset, goes_on⟩ :=
            here.exists_step blank reads.dark rebuilt
          obtain ⟨rfl, rfl⟩ := Prod.mk.inj (Option.some.inj (steps.symm.trans step))
          have size : byteLength (scan (lexeme.toList ++ (String.join pieces).toList)).text
              = lexeme.utf8ByteSize := by
            rw [stop_token, String.utf8ByteSize_append (s := passed ++ gap)] at stop
            exact Nat.add_left_cancel stop
          obtain ⟨text, further⟩ := scan_of_size size
          obtain ⟨c, cs, spelled, dark⟩ := reads.dark
          have lexical := lexical_scan dark (cs ++ (String.join pieces).toList)
            (passed ++ gap).utf8ByteSize
          rw [← List.cons_append, ← spelled, text, further] at lexical
          rw [further] at left
          rw [size] at offset
          subst tokens
          exact .token lexical (ih (behind_of_tiles tiles left offset goes_on) tiles)

/-- Tokens that follow the grammar are those at the cursor, by induction on the tiling. -/
theorem drain_of_followGrammar {tokens : List Token} (here : lexer.Behind source passed)
    (tiles : Tiles source passed tokens pieces) (follow : FollowGrammar tokens pieces)
    : lexer.drain [] ++ [.ending source.utf8ByteSize] = tokens := by
  induction tiles generalizing lexer with
  | @ending passed gap blank whole =>
      have same := (String.append_right_inj passed).mp (here.whole.trans whole.symm)
      have blanks : lexer.rest = gap.toList := by rw [← same, String.toList_ofList]
      have left : lexer.rest.dropWhile isBlank = [] := by
        rw [blanks, ← List.append_nil gap.toList, List.dropWhile_append_of_pos blank]
        rfl
      rw [drain_nil (if_pos (List.isEmpty_iff.mpr left))]
      rfl
  | @token passed gap lexeme token tokens pieces blank reads start stop tiles ih =>
      cases follow with
      | ending => cases tiles
      | token lexical follow =>
          have rebuilt := (Tiles.token blank reads start stop tiles).append_join
          obtain ⟨later, steps, left, offset, goes_on⟩ :=
            here.exists_step blank reads.dark rebuilt
          obtain ⟨kind, scanned, shape⟩ := scan_of_lexical lexical
          rw [scanned] at steps left offset
          have size : byteLength lexeme.toList = lexeme.utf8ByteSize := by
            rw [byteLength_eq, String.ofList_toList]
          rw [size] at offset
          have further := behind_of_tiles tiles left offset goes_on
          have same : Lexer.token (passed ++ gap).utf8ByteSize
              ⟨kind, lexeme.toList, (String.join pieces).toList⟩ = token := by
            refine Token.eq_of_shape ((shape_token ..).trans shape) ?_ ?_
            · rw [start_token, start]
            · rw [stop_token, stop, size, ← String.utf8ByteSize_append]
          rw [drain_step steps, List.cons_append, same, ih further follow]

end Lexer

/-- The tokens of a source text are those that tile it and follow the lexical grammar, and there are
no others.
-/
theorem eq_tokenize_iff (source : String) (tokens : List Token)
    : tokens = tokenize source
      ↔ ∃ pieces, Tiles source "" tokens pieces ∧ FollowGrammar tokens pieces := by
  have start := Lexer.behind_ofString source
  constructor
  · rintro rfl
    obtain ⟨pieces, tiles⟩ := Lexer.tiles_drain start
    exact ⟨pieces, tiles, Lexer.followGrammar_drain start tiles⟩
  · rintro ⟨pieces, tiles, follow⟩
    exact (Lexer.drain_of_followGrammar start tiles follow).symm

end Guion
