import Guion.Proofs.Grammar.Nesting
import Guion.Proofs.Parsing.Likeness
import Guion.Proofs.Parsing.Soundness
import Guion.Proofs.Program.Computation

/-! Where a block ends.

A block is never read beyond its own closing brace, and without errors it is read up to there. A
broken statement may end it early: it is given up at the first closing brace that comes, which may
belong to a block inside.
-/

namespace Guion.Parsing

open Grammar

-----------------------------------------------------------------------------------------
-- The closing brace of a block
-----------------------------------------------------------------------------------------

/-- The closing brace of a block, from a position in it where `depth` blocks inside are open. -/
def closingBrace : Nat → Position → Option Position
  | _, [] => none
  | depth, token :: rest =>
    match token.kind with
    | .leftBrace => closingBrace (depth + 1) rest
    | .rightBrace =>
      match depth with
      | 0 => some (token :: rest)
      | depth + 1 => closingBrace depth rest
    | .endOfInput => none
    | _ => closingBrace depth rest

variable {token : Token} {depth : Nat} {start last rest : Position}

theorem closingBrace_opening (opens : token.kind = .leftBrace)
    : closingBrace depth (token :: rest) = closingBrace (depth + 1) rest := by
  simp only [closingBrace, opens]

theorem closingBrace_closing (closes : token.kind = .rightBrace)
    : closingBrace (depth + 1) (token :: rest) = closingBrace depth rest := by
  simp only [closingBrace, closes]

theorem closingBrace_own (closes : token.kind = .rightBrace)
    : closingBrace 0 (token :: rest) = some (token :: rest) := by
  simp only [closingBrace, closes]

/-- Nothing is closed behind the end. -/
theorem closingBrace_end (ends : Position.kind start = .endOfInput)
    : closingBrace depth start = none := by
  cases start with
  | nil => rfl
  | cons token rest =>
      have ends : token.kind = .endOfInput := ends
      simp only [closingBrace, ends]

theorem closingBrace_other (other : token.kind ∉ [.leftBrace, .rightBrace, .endOfInput])
    : closingBrace depth (token :: rest) = closingBrace depth rest := by
  simp only [List.mem_cons, List.not_mem_nil, or_false, not_or] at other
  obtain ⟨no_opening, no_closing, no_end⟩ := other
  simp only [closingBrace]

/-- The closing brace stands where it is found, or behind that. -/
theorem suffix_of_closingBrace (found : closingBrace depth start = some last)
    : last <:+ start := by
  fun_induction closingBrace depth start with
  | case1 => cases found
  | case2 depth token rest opens ih => exact (ih found).trans (List.suffix_cons ..)
  | case3 token rest closes =>
      cases found
      exact List.suffix_refl _
  | case4 token rest closes depth ih => exact (ih found).trans (List.suffix_cons ..)
  | case5 => cases found
  | case6 depth token rest _ _ _ ih => exact (ih found).trans (List.suffix_cons ..)

/-- Delimiters in pairs close nothing around them. -/
theorem closingBrace_append {ts : List Token} (nested : Nested ts) (depth : Nat)
    (rest : Position)
    : closingBrace depth (ts ++ rest) = closingBrace depth rest := by
  induction nested generalizing depth rest with
  | nil => rfl
  | token other inside _ ih =>
      have no_brace : [.leftBrace, .rightBrace] ⊆ Delimiter.kinds := by decide
      rw [List.cons_append, closingBrace_other, ih]
      simp only [List.mem_cons, List.not_mem_nil, or_false, not_or]
      exact ⟨fun opens => other (no_brace (by simp [opens])),
        fun closes => other (no_brace (by simp [closes])), inside⟩
  | pair kind opens _ closes _ inner further =>
      rw [List.cons_append, List.append_assoc, List.cons_append]
      cases kind with
      | paren =>
          rw [closingBrace_other (opens ▸ by decide), inner,
            closingBrace_other (closes ▸ by decide), further]
      | brace => rw [closingBrace_opening opens, inner, closingBrace_closing closes, further]

-----------------------------------------------------------------------------------------
-- Positions inside of a block
-----------------------------------------------------------------------------------------

/-- At this position at least `depth` blocks are open inside of the block that `last` closes. -/
def Deep (last : Position) (depth : Nat) (position : Position) : Prop :=
  ∃ opened, depth ≤ opened ∧ closingBrace opened position = some last

namespace Deep

theorem of_succ (deep : Deep last (depth + 1) start) : Deep last depth start := by
  obtain ⟨opened, enough, found⟩ := deep
  exact ⟨opened, Nat.le_of_succ_le enough, found⟩

theorem suffix (deep : Deep last depth start) : last <:+ start := by
  obtain ⟨opened, -, found⟩ := deep
  exact suffix_of_closingBrace found

theorem kind_ne_end (deep : Deep last depth start) : Position.kind start ≠ .endOfInput := by
  intro ends
  obtain ⟨opened, -, found⟩ := deep
  rw [closingBrace_end ends] at found
  cases found

/-- One more block is open behind an opening brace. -/
theorem tail_of_opening (deep : Deep last depth start)
    (opens : Position.kind start = .leftBrace)
    : Deep last (depth + 1) start.tail := by
  obtain ⟨token, rest, rfl, kind⟩ := exists_of_kind opens (by decide)
  obtain ⟨opened, enough, found⟩ := deep
  rw [closingBrace_opening kind] at found
  exact ⟨opened + 1, Nat.succ_le_succ enough, found⟩

/-- One block less is open behind a closing brace. -/
theorem tail_of_closing (deep : Deep last (depth + 1) start)
    (closes : Position.kind start = .rightBrace)
    : Deep last depth start.tail := by
  obtain ⟨token, rest, rfl, kind⟩ := exists_of_kind closes (by decide)
  obtain ⟨opened, enough, found⟩ := deep
  cases opened with
  | zero => exact absurd enough (Nat.not_succ_le_zero _)
  | succ opened =>
      rw [closingBrace_closing kind] at found
      exact ⟨opened, Nat.le_of_succ_le_succ enough, found⟩

/-- No block is closed behind any other token. -/
theorem tail (deep : Deep last depth start) (goes_on : Position.kind start ≠ .rightBrace)
    : Deep last depth start.tail := by
  by_cases opens : Position.kind start = .leftBrace
  · exact (deep.tail_of_opening opens).of_succ
  · have inside := deep.kind_ne_end
    obtain ⟨opened, enough, found⟩ := deep
    cases start with
    | nil => cases found
    | cons token rest =>
        have other : token.kind ∉ [.leftBrace, .rightBrace, .endOfInput] := by
          simpa using ⟨opens, goes_on, inside⟩
        rw [closingBrace_other other] at found
        exact ⟨opened, enough, found⟩

/-- What is skipped of a broken statement closes no block. -/
theorem skip (deep : Deep last depth start) : Deep last depth (Parsing.skip start) := by
  induction start with
  | nil => exact deep
  | cons token rest ih =>
      unfold Parsing.skip
      split
      · exact deep
      · rename_i goes_on
        refine ih (deep.tail fun closes => ?_)
        have closes : token.kind = .rightBrace := closes
        exact goes_on (.inl (by simp [closes]))

end Deep

/-- Positions look like themselves only, and only those that are inside of a block. So what is read
alike from one of them ends inside of the block.
-/
def insideBlock (last : Position) (depth size : Nat) : Likeness where
  same a b := a = b ∧ Deep last depth a ∧ a.length ≤ size
  passes a := Deep last depth a.tail
  agree _ _ := True
  kind := by
    rintro a _ ⟨rfl, -⟩
    rfl
  literal := by
    rintro a _ ⟨rfl, -⟩
    rfl
  tail := by
    rintro a _ ⟨rfl, -, short⟩ goes_on
    exact ⟨rfl, goes_on, Nat.le_trans (List.tail_sublist a).length_le short⟩
  unbroken := by
    rintro a _ ⟨rfl, deep, -⟩ other
    refine deep.tail fun closes => ?_
    rw [closes] at other
    exact other (by decide)
  silent := trivial
  append _ _ := trivial

/-- The statements of a block end inside of a block around it, if each of them does. -/
private theorem deep_readStatements {size : Nat}
    (keeps : ∀ task, (insideBlock last depth size).Keeps task) (short : start.length ≤ size)
    (deep : Deep last depth start)
    : Deep last depth (readStatements .block start).position := by
  -- Where a statement stops is inside, and also what is behind a statement that is read in full.
  have ends (start : Position) (short : start.length ≤ size) (deep : Deep last depth start)
      : Alike (insideBlock last depth size) (insideBlock last depth size).Closes
          (readStatement start) (readStatement start) :=
    keeps (.statement start) start ⟨rfl, deep, short⟩
  induction start using readStatements_induction .block with
  | closed start closed =>
      rw [(readStatements_of_closed closed).2.1]
      exact deep
  | read start s opened found ih =>
      have alike := ends start short deep
      have behind : Deep last depth (readStatement start).position.tail := by
        rcases alike.ended s found with passed | semicolon
        · exact passed
        · exact alike.position.2.1.tail (by simp [semicolon])
      rw [(readStatements_of_ok opened found).2.1]
      exact ih (length_tail_le (readStatement start).suffix short) behind
  | closing start error opened broken closing =>
      rw [(readStatements_of_closing opened broken closing).2.1]
      exact (ends start short deep).position.2.1.skip
  | skipped start error opened broken goes_on ih =>
      have stopped := (ends start short deep).position.2.1.skip
      rw [(readStatements_of_skipped opened broken goes_on).2.1]
      exact ih (length_tail_le ((skip_suffix _).trans (readStatement start).suffix) short)
        (stopped.tail fun closing => goes_on ⟨rfl, closing⟩)

/-- A block inside of another is read up to a closing brace inside of that. -/
private theorem readBlock_of_deep {size : Nat}
    (keeps : ∀ task, (insideBlock last depth size).Keeps task) (short : start.tail.length ≤ size)
    (deep : Deep last depth start.tail)
    : Deep last depth (readBlock start).position
      ∧ Position.kind (readBlock start).position = .rightBrace
      ∧ (readBlock start).value = .ok (readStatements .block start.tail).value := by
  have stopped := deep_readStatements keeps short deep
  have closed := closes_readStatements .block start.tail
  have goes_on := stopped.kind_ne_end
  rw [readBlock_eq]
  refine ⟨stopped, ?_, if_neg goes_on⟩
  simpa [closes, goes_on] using closed

/-- All that is read from inside of a block ends there. The induction is on the number of tokens, as
the blocks inside have fewer of them and are deeper.
-/
theorem keeps_insideBlock (last : Position) (depth size : Nat) (task : Task)
    : (insideBlock last depth size).Keeps task := by
  induction size using Nat.strongRecOn generalizing depth task with
  | _ size ih =>
      refine (insideBlock last depth size).keeps (fun start _ => ?_) task
      rintro _ ⟨rfl, deep, short⟩ opens
      have shorter : start.tail.length < size := by
        obtain ⟨token, rest, rfl, -⟩ := exists_of_kind opens (by decide)
        exact short
      obtain ⟨stopped, closing, -⟩ :=
        readBlock_of_deep (ih _ shorter (depth + 1)) (Nat.le_refl _) (deep.tail_of_opening opens)
      have within : (readBlock start).position.length ≤ size :=
        Nat.le_trans (readBlock start).suffix.length_le short
      have passed := stopped.tail_of_closing closing
      exact ⟨rfl, ⟨rfl, stopped.of_succ, within⟩, trivial, fun _ _ => passed⟩

-----------------------------------------------------------------------------------------
-- The end of a block
-----------------------------------------------------------------------------------------

/-- Without errors a block ends with its own closing brace, as its statements pair all braces. -/
private theorem position_readBlock_of_silent (matched : closingBrace 0 start.tail = some last)
    (closing : Position.kind (readBlock start).position = .rightBrace)
    (silent : (readBlock start).diagnostics.toList = [])
    : (readBlock start).position = last := by
  rw [readBlock_eq] at closing silent ⊢
  obtain ⟨ts, here, derived, -⟩ := sound (.statements .block start.tail) silent
  obtain ⟨token, rest, found, kind⟩ := exists_of_kind closing (by decide)
  have found : (readStatements .block start.tail).position = token :: rest := found
  rw [here, closingBrace_append derived.nested, found, closingBrace_own kind] at matched
  exact found.trans (Option.some.inj matched)

/-- A block in which no other brace is closed ends with its own. -/
private theorem position_readBlock_of_flat {front : List Token}
    (closing : Position.kind (readBlock start).position = .rightBrace)
    (behind : last <:+ (readBlock start).position)
    (within : (readBlock start).position <:+ start.tail) (here : start.tail = front ++ last)
    (flat : ∀ token ∈ front, token.kind ≠ .rightBrace)
    : (readBlock start).position = last := by
  obtain ⟨skipped, whole⟩ := within
  obtain ⟨between, found⟩ := behind
  rw [← found, ← List.append_assoc, here] at whole
  obtain rfl := List.append_cancel_right whole
  cases between with
  | nil => exact found.symm
  | cons token rest =>
      rw [← found] at closing
      exact absurd closing (flat token (by simp))

/-- A block whose closing brace is there is read in full, up to a closing brace and never beyond its
own. It is its own if nothing is reported in the block, and also if no other stands in front of it.
-/
theorem readBlock_ends (start last : Position) (matched : closingBrace 0 start.tail = some last)
    : (∃ ss, (readBlock start).value = .ok ss)
      ∧ Position.kind (readBlock start).position = .rightBrace
      ∧ last <:+ (readBlock start).position
      ∧ ((readBlock start).diagnostics.toList = [] → (readBlock start).position = last)
      ∧ ∀ front,
          start.tail = front ++ last
          → (∀ token ∈ front, token.kind ≠ .rightBrace)
          → (readBlock start).position = last := by
  have deep : Deep last 0 start.tail := ⟨0, Nat.le_refl 0, matched⟩
  obtain ⟨stopped, closing, value⟩ :=
    readBlock_of_deep (keeps_insideBlock last 0 start.tail.length) (Nat.le_refl _) deep
  have within : (readBlock start).position <:+ start.tail := by
    rw [readBlock_eq]
    exact (readStatements .block start.tail).suffix
  refine ⟨⟨_, value⟩, closing, stopped.suffix, ?_, fun front here flat => ?_⟩
  · exact position_readBlock_of_silent matched closing
  · exact position_readBlock_of_flat closing stopped.suffix within here flat

/-- A statement that is broken at its first token, and the block around it. -/
theorem readBlock_ends_broken
    : closingBrace 0
          [⟨.rightParen, ")", 1, 2⟩, ⟨.semicolon, ";", 2, 3⟩, ⟨.rightBrace, "\x7d", 3, 4⟩]
        = some [⟨.rightBrace, "\x7d", 3, 4⟩]
      ∧ (readBlock [⟨.leftBrace, "\x7b", 0, 1⟩, ⟨.rightParen, ")", 1, 2⟩, ⟨.semicolon, ";", 2, 3⟩,
          ⟨.rightBrace, "\x7d", 3, 4⟩]).position
        = [⟨.rightBrace, "\x7d", 3, 4⟩] := by
  have matched : closingBrace 0
      [⟨.rightParen, ")", 1, 2⟩, ⟨.semicolon, ";", 2, 3⟩, ⟨.rightBrace, "\x7d", 3, 4⟩]
      = some [⟨.rightBrace, "\x7d", 3, 4⟩] := rfl
  obtain ⟨-, -, -, -, flat⟩ := readBlock_ends (⟨.leftBrace, "\x7b", 0, 1⟩ :: _) _ matched
  exact ⟨matched, flat [⟨.rightParen, ")", 1, 2⟩, ⟨.semicolon, ";", 2, 3⟩] rfl (by decide)⟩

/-- A parenthesis is missed behind a conditional, where the reader stands on the closing brace of
its block. So the block around both ends there.
-/
theorem readBlock_ends_early
    : ∃ start last,
        Position.kind start = .leftBrace
        ∧ closingBrace 0 start.tail = some last
        ∧ (readBlock start).value = .ok []
        ∧ (readBlock start).position ≠ last := by
  let start : Position :=
    [⟨.leftBrace, "\x7b", 0, 1⟩, ⟨.leftParen, "(", 2, 3⟩, ⟨.ifWord, "si", 3, 5⟩,
      ⟨.leftParen, "(", 6, 7⟩, ⟨.identifier, "x", 7, 8⟩, ⟨.rightParen, ")", 8, 9⟩,
      ⟨.leftBrace, "\x7b", 10, 11⟩, ⟨.integer, "1", 12, 13⟩, ⟨.rightBrace, "\x7d", 14, 15⟩,
      ⟨.rightBrace, "\x7d", 16, 17⟩]
  have value : (readBlock start).value = .ok [] :=
    apply_read_of_answer? 12 (.block start) (·.value) rfl
  have position : (readBlock start).position
      = [⟨.rightBrace, "\x7d", 14, 15⟩, ⟨.rightBrace, "\x7d", 16, 17⟩] :=
    apply_read_of_answer? 12 (.block start) (·.position) rfl
  refine ⟨start, [⟨.rightBrace, "\x7d", 16, 17⟩], rfl, rfl, value, ?_⟩
  rw [position]
  decide

end Guion.Parsing
