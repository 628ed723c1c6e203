import Mathlib.Algebra.Group.Nat.Defs
import Mathlib.Data.List.Forall2
import Guion.Proofs.Integer.Numeral
import Guion.Proofs.Parsing.Acceptance
import Guion.Proofs.Parsing.Course
import Guion.Proofs.Parsing.Validity

/-! Where reports come from.

Each report is justified by one token of the source text, and the tokens that justify the reports
stand in the order of the reports. The last token of the text, which stands for its end, may justify
a report as well.
-/

namespace Guion

-----------------------------------------------------------------------------------------
-- What justifies an error
-----------------------------------------------------------------------------------------

/-- Which errors a token justifies, by its kind and its literal. -/
def Token.Kind.Justifies (kind : Token.Kind) (literal : String) : ParseError → Prop
  | .unexpected expected found =>
      found = kind ∧ expected ≠ found ∧ expected ∈ Parsing.demanded
  | .noOperand shown => shown = literal ∧ kind ∉ Grammar.starters
  | .noOperator _ => False
  | .integerTooLarge shown =>
      kind = .integer
      ∧ shown = literal
      ∧ (∀ c ∈ literal.toList, c.isDigit = true)
      ∧ 2 ^ 63 - 1 < Nat.ofDigitChars 10 literal.toList 0

namespace Parsing

variable {a b c start part position site : Position} {ds es : List Diagnostic} {place : Place}

/-- Which errors the token at a position justifies, if a lexer may yield the tokens there. -/
def Explains (position : Position) (error : ParseError) : Prop :=
  Spelled position → (Position.kind position).Justifies (Position.literal position) error

/-- A literal of digits is refused if it is too large. -/
theorem explains_integerTooLarge (kind : Position.kind position = .integer)
    (refused : Integer.ofLiteral? (Position.literal position) = none)
    : Explains position (.integerTooLarge (Position.literal position)) := by
  intro spelled
  obtain ⟨token, rest, rfl, integer⟩ := exists_of_kind kind (by decide)
  have digits := (spelled token (List.mem_cons_self ..)).digits integer
  refine ⟨kind, rfl, digits, ?_⟩
  refine Nat.lt_of_not_le fun small => ?_
  obtain ⟨value, numeral⟩ := (Integer.exists_isNumeral digits).mpr small
  cases refused.symm.trans (Integer.ofLiteral?_eq_some.mpr numeral)

/-- The reports from one position on up to another one, each with a token in between that justifies
it, in order.
-/
inductive Justified : Position → List Diagnostic → Position → Prop where
  | none {start last} (behind : last <:+ start) : Justified start [] last
  | report {start site last report others} (behind : site <:+ start)
    (explains : Explains site report.error) (further : Justified site others last)
    : Justified start (report :: others) last

namespace Justified

theorem refl (position : Position) : Justified position [] position :=
  .none (List.suffix_refl _)

/-- Justified reports are so from every earlier position on. -/
theorem from_earlier (justified : Justified b ds c) (behind : b <:+ a) : Justified a ds c := by
  cases justified with
  | none further => exact .none (further.trans behind)
  | report further explains others => exact .report (further.trans behind) explains others

theorem append (first : Justified a ds b) (second : Justified b es c)
    : Justified a (ds ++ es) c := by
  induction first with
  | none behind => exact second.from_earlier behind
  | report behind explains _ ih => exact .report behind explains (ih second)

/-- One report more is justified by a token between those of the others and the end. -/
theorem concat {report : Diagnostic} (justified : Justified a ds site)
    (explains : Explains site report.error) (behind : b <:+ site)
    : Justified a (ds ++ [report]) b :=
  justified.append (.report (List.suffix_refl _) explains (.none behind))

end Justified

-----------------------------------------------------------------------------------------
-- Reports in a task
-----------------------------------------------------------------------------------------

/-- The course on which every report is justified. An error is justified by the token on which
reading stopped, or by the one behind it.
-/
def provenance : Course where
  Mark := Position
  here position := position
  behind position := position.tail
  laden _ mark := mark
  spans := Justified
  breaks start reports error position :=
    ∃ site, Justified start reports site ∧ Explains site error ∧ position.tail <:+ site
  laden_zero _ := rfl
  laden_laden _ _ _ := rfl
  refl := .refl
  trans := .append
  trans_breaks := by
    rintro a b ds es error position first ⟨site, justified, explains, behind⟩
    exact ⟨site, first.append justified, explains, behind⟩
  spans_laden spans _ := spans
  breaks_laden breaks _ := breaks
  pass position := .none (List.tail_suffix position)
  enter position := .refl position.tail
  unexpected {position kind} known other :=
    ⟨position.tail, .refl _, fun _ => ⟨rfl, other.symm, known⟩, List.suffix_refl _⟩
  noOperand position other :=
    ⟨position, .refl _, fun _ => ⟨rfl, other⟩, List.tail_suffix position⟩
  integerTooLarge position kind refused :=
    ⟨position, .refl _, explains_integerTooLarge kind refused, List.tail_suffix position⟩

/-- The reports on the statements of a place are justified up to the token behind its end, and in
front of the end of the source, if those on each single statement are.
-/
private theorem provenance_statements (place : Place) (start : Position)
    (keeps : ∀ part, part <:+ start → provenance.Keeps (.statement part))
    : Justified start (readStatements place start).diagnostics.toList
        (readStatements place start).position.tail
      ∧ (Position.kind (readStatements place start).position = .endOfInput
        → Justified start (readStatements place start).diagnostics.toList
            (readStatements place start).position) := by
  induction start using readStatements_induction place with
  | closed start closed =>
      obtain ⟨-, positions, diagnostics⟩ := readStatements_of_closed closed
      rw [positions, diagnostics]
      exact ⟨.none (List.tail_suffix _), fun _ => .refl _⟩
  | read start s opened found ih =>
      have suffix := (readStatement start).suffix
      obtain ⟨-, positions, diagnostics⟩ := readStatements_of_ok opened found
      rw [positions, diagnostics]
      have first := (keeps start (List.suffix_refl _)).full s found
      have others := ih fun part inside => keeps part (inside.trans (tail_suffix suffix))
      exact ⟨first.append others.1, fun ends => first.append (others.2 ends)⟩
  | closing start error opened broken closing =>
      obtain ⟨-, positions, diagnostics⟩ := readStatements_of_closing opened broken closing
      rw [positions, diagnostics]
      obtain ⟨site, justified, explains, behind⟩ :=
        (keeps start (List.suffix_refl _)).broken error broken
      have later := (suffix_tails (skip_suffix (readStatement start).position)).trans behind
      refine ⟨justified.concat explains later, fun ends => ?_⟩
      rw [closing.2] at ends
      cases ends
  | skipped start error opened broken goes_on ih =>
      have suffix := (readStatement start).suffix
      have skipped := skip_suffix (readStatement start).position
      obtain ⟨-, positions, diagnostics⟩ := readStatements_of_skipped opened broken goes_on
      rw [positions, diagnostics]
      obtain ⟨site, justified, explains, behind⟩ :=
        (keeps start (List.suffix_refl _)).broken error broken
      have later := (suffix_tails skipped).trans behind
      have others := ih fun part inside =>
        keeps part (inside.trans (tail_suffix (skipped.trans suffix)))
      exact ⟨justified.append (.report (List.suffix_refl _) explains (others.1.from_earlier later)),
        fun ends => justified.append
          (.report (List.suffix_refl _) explains ((others.2 ends).from_earlier later))⟩

private theorem provenance_block (start : Position)
    (ih : ∀ task, lower task (.block start) → provenance.Keeps task)
    : provenance.Keeps (.block start) := by
  obtain ⟨justified, ended⟩ := provenance_statements .block start.tail fun part inside =>
    ih (.statement part) (lower_of_rank (inside.trans (List.tail_suffix _)) (by simp))
  rw [Course.Keeps, readBlock_eq]
  constructor
  · intro ss _
    exact justified
  · intro error found
    dsimp only at found
    split at found
    · rename_i ends
      cases found
      exact ⟨_, ended ends, fun _ => ⟨ends.symm, by decide, by decide⟩, List.tail_suffix _⟩
    · cases found

/-- Every task keeps to the course on which every report is justified. -/
theorem keeps_provenance (task : Task) : provenance.Keeps task :=
  provenance.keeps provenance_block task

-----------------------------------------------------------------------------------------
-- Positions as numbers
-----------------------------------------------------------------------------------------

/-- Where a position is found among all tokens of a source text. -/
def index (source : String) (position : Position) : Nat :=
  (words source).length - position.length

theorem index_le_of_suffix {source : String} (inside : part <:+ start)
    : index source start ≤ index source part :=
  Nat.sub_le_sub_left inside.length_le _

/-- There is a token at every position, also at the end. -/
theorem exists_getElem?_index {source : String} (inside : position <:+ words source)
    : ∃ token,
        (tokenize source)[index source position]? = some token
        ∧ token.kind = Position.kind position
        ∧ token.literal = Position.literal position := by
  obtain ⟨passed, whole⟩ := inside
  have found : index source position = passed.length := by
    rw [index, ← whole, List.length_append, Nat.add_sub_cancel]
  rw [found, tokenize, ← whole]
  cases position with
  | nil => exact ⟨.ending source.utf8ByteSize, by simp, rfl, rfl⟩
  | cons token rest => exact ⟨token, by simp, rfl, rfl⟩

/-- Justified reports have justifying tokens at numbers that do not decrease. -/
theorem Justified.exists_sites {source : String} (justified : Justified start ds b)
    (inside : start <:+ words source)
    : ∃ sites : List Nat,
        (∀ site ∈ sites, index source start ≤ site)
        ∧ sites.Pairwise (· ≤ ·)
        ∧ List.Forall₂
            (fun site error =>
              ∃ token,
                (tokenize source)[site]? = some token ∧ token.kind.Justifies token.literal error)
            sites (ds.map Diagnostic.error) := by
  induction justified with
  | none => exact ⟨[], by simp, .nil, .nil⟩
  | @report start site last report others behind explains _ ih =>
      have inside := behind.trans inside
      obtain ⟨sites, later, ordered, justify⟩ := ih inside
      obtain ⟨token, found, kind, literal⟩ := exists_getElem?_index inside
      have spelled : Spelled site := fun token member => spells_of_mem_words (inside.subset member)
      have first : index source start ≤ index source site := index_le_of_suffix behind
      refine ⟨index source site :: sites, ?_, .cons later ordered, .cons ⟨token, found, ?_⟩ justify⟩
      · exact List.forall_mem_cons.mpr ⟨first, fun other member =>
          Nat.le_trans first (later other member)⟩
      · rw [kind, literal]
        exact explains spelled

end Parsing

-----------------------------------------------------------------------------------------
-- The tables of operators
-----------------------------------------------------------------------------------------

namespace Token.Kind

/-- How tightly a token binds behind an expression. Calls are left out, as they bind tighter than
all operators.
-/
def precedence : Token.Kind → Precedence
  | .equalEqual | .bangEqual => .equality
  | .less | .greater => .comparison
  | .plus | .minus => .sum
  | .star | .slash => .product
  | _ => .lowest

/-- An operator binds as tightly as its sign. -/
theorem precedence_of_operator {kind : Token.Kind} {operator : BinaryOperator}
    (signed : BinaryOperator.ofKind? kind = some operator)
    : kind.precedence = operator.precedence := by
  cases kind <;> cases signed <;> rfl

/-- What is no sign of an operator does not bind. -/
theorem precedence_of_no_operator {kind : Token.Kind}
    (other : BinaryOperator.ofKind? kind = none)
    : kind.precedence = .lowest := by
  cases kind <;> first | rfl | cases other

end Token.Kind

namespace Parsing

theorem tail_tail_suffix (position : Position) : position.tail.tail <:+ position :=
  tail_suffix (List.tail_suffix position)

/-- What is read behind an expression if every table is looked up for itself: how tightly the next
token binds, whether there is a rule that goes on with it, and in that rule, which operator it is.
-/
def lookUpOperators (level : Precedence) (left : Expression) (start : Position)
    : Phrase Expression start :=
  let next := Position.nextKind start
  if next ≠ .semicolon ∧ (next = .leftParen ∨ level < next.precedence) then
    if next = .leftParen then
      if Position.nextKind start.tail = .rightParen then
        (readOperators level (.call left []) start.tail.tail).within (tail_tail_suffix start)
      else
        (readArguments start.tail.tail).andThen (tail_tail_suffix start)
          fun arguments last _ inside =>
        (readOperators level (.call left arguments) last).within inside
    else if (BinaryOperator.ofKind? next).isSome then
      match BinaryOperator.ofKind? (Position.kind start.tail) with
      | none =>
        reject (.noOperator (Position.literal start.tail)) start.tail (List.tail_suffix start)
      | some operator =>
        (readExpression (Position.kind start.tail).precedence start.tail.tail).andThen
          (tail_tail_suffix start) fun right last _ inside =>
        (readOperators level (.binary left operator right) last).within inside
    else
      accept left start (List.suffix_refl _)
  else
    accept left start (List.suffix_refl _)

/-- The tables agree: a token that binds has a rule that goes on with it, and if that is the rule of
the operators, then it is the sign of one.
-/
theorem readOperators_eq_lookUp (level : Precedence) (left : Expression) (start : Position)
    : readOperators level left start = lookUpOperators level left start := by
  unfold lookUpOperators
  dsimp only
  by_cases call : Position.nextKind start = .leftParen
  · rw [if_pos ⟨by rw [call]; decide, .inl call⟩, if_pos call]
    split
    · exact readOperators_call_nil call ‹_›
    · exact readOperators_call call ‹_›
  cases signed : BinaryOperator.ofKind? (Position.nextKind start) with
  | none =>
      have loose := Token.Kind.precedence_of_no_operator signed
      rw [if_neg, readOperators_end call fun operator found => by cases signed.symm.trans found]
      rintro ⟨-, opens | tighter⟩
      · exact call opens
      · rw [loose] at tighter
        exact absurd tighter (Nat.not_lt_zero _)
  | some operator =>
      have same := Token.Kind.precedence_of_operator signed
      have no_semicolon : Position.nextKind start ≠ .semicolon := by
        intro semicolon
        rw [semicolon] at signed
        cases signed
      by_cases tighter : level < operator.precedence
      · rw [if_pos ⟨no_semicolon, .inr (same ▸ tighter)⟩, if_neg call, Option.isSome_some,
          if_pos rfl, readOperators_binary signed tighter]
        have here : BinaryOperator.ofKind? (Position.kind start.tail) = some operator := signed
        have same : (Position.kind start.tail).precedence = operator.precedence := same
        rw [here, same]
      · rw [if_neg, readOperators_end call]
        · intro other found
          cases signed.symm.trans found
          exact tighter
        · rintro ⟨-, opens | tighter'⟩
          · exact call opens
          · exact tighter (same ▸ tighter')

end Parsing

open Parsing

/-- On every source text each error is justified by a token, and the numbers of these tokens do not
decrease. A missing operator is never reported, although it would be if the tables of operators did
not agree.
-/
theorem parse_errors_justified (source : String)
    : (∃ sites : List Nat,
        sites.Pairwise (· ≤ ·)
        ∧ List.Forall₂
            (fun site error =>
              ∃ token,
                (tokenize source)[site]? = some token ∧ token.kind.Justifies token.literal error)
            sites (parse source).errors)
      ∧ (∀ literal, .noOperator literal ∉ (parse source).errors)
      ∧ ∀ level left start, readOperators level left start = lookUpOperators level left start := by
  have justified := (provenance_statements .program (words source) fun part _ =>
    keeps_provenance (.statement part)).1
  rw [← diagnostics_parse] at justified
  obtain ⟨sites, -, ordered, justify⟩ := justified.exists_sites (List.suffix_refl _)
  rw [← Parsed.errors] at justify
  refine ⟨⟨sites, ordered, justify⟩, ?_, readOperators_eq_lookUp⟩
  intro literal reported
  obtain ⟨⟨n, inside⟩, same⟩ := List.mem_iff_get.mp reported
  obtain ⟨token, -, justifies⟩ := justify.get (justify.length_eq ▸ inside) inside
  rw [same] at justifies
  exact justifies

end Guion
