import SourceLint.Proofs.Statements.Headers

/-!
The condition of a branch.

A branch header is read in two ways: for its condition and what follows that, and as one of the
headers that are taken off a statement. Both find the same parentheses, so what the one leaves of a
line is what the other goes on with.
-/

namespace SourceLint.Statement

open Text

/-- The words of a branch in front of its parenthesis, with the white space behind them. -/
inductive BranchWords : Text → Prop
  | single {gap : Text} (blank : ∀ c ∈ gap, isSpace c = true) : BranchWords (['i', 'f'] ++ gap)
  | otherwise {space gap : Text} (spaced : space ≠ []) (spaces : ∀ c ∈ space, isSpace c = true)
      (blank : ∀ c ∈ gap, isSpace c = true) :
      BranchWords (['e', 'l', 's', 'e'] ++ (space ++ (['i', 'f'] ++ gap)))

variable {text rest front condition remainder : Text}

/-- The words of a branch are read in front of a parenthesis if an `if` is. -/
theorem BranchWords.afterBranch? {keywords : List Text} (words : BranchWords front)
    (opens : ∀ gap : Text, (∀ c ∈ gap, isSpace c = true) →
      afterOpening? keywords (['i', 'f'] ++ (gap ++ '(' :: rest)) = some rest) :
    Statement.afterBranch? keywords (front ++ '(' :: rest) = some rest := by
  cases words with
  | @single gap blank =>
    -- An `if` is no `else`.
    have other : after? "else".toList (['i', 'f'] ++ (gap ++ '(' :: rest)) = none := rfl
    rw [List.append_assoc, Statement.afterBranch?, afterSpaced?_eq_none other, Option.bind_none,
      Option.none_or, opens gap blank]
  | @otherwise space gap spaced spaces blank =>
    have word : afterSpaced? "else".toList
        (['e', 'l', 's', 'e'] ++ (space ++ (['i', 'f'] ++ (gap ++ '(' :: rest)))) =
          some (['i', 'f'] ++ (gap ++ '(' :: rest)) :=
      afterSpaced?_eq_some_iff.mpr ⟨space, spaced, spaces, rfl, rfl⟩
    rw [List.append_assoc, List.append_assoc, List.append_assoc, Statement.afterBranch?, word,
      Option.bind_some, opens gap blank, Option.some_or]

/-- What follows the parenthesis of a branch is read behind the words of a branch only. -/
theorem afterBranch?_eq_some_iff :
    afterBranch? ["if".toList] text = some rest ↔
      ∃ front, BranchWords front ∧ text = front ++ '(' :: rest := by
  constructor
  · intro read
    -- The `if` stands behind an `else` or alone.
    rcases Option.or_eq_some_iff.mp read with first | ⟨-, second⟩
    · obtain ⟨tail, word, opening⟩ := Option.bind_eq_some_iff.mp first
      obtain ⟨space, spaced, spaces, rfl, -⟩ := afterSpaced?_eq_some_iff.mp word
      obtain ⟨keyword, listed, gap, blank, rfl⟩ := exists_of_afterOpening? opening
      rw [List.mem_singleton.mp listed]
      exact ⟨_, .otherwise spaced spaces blank, by simp⟩
    · obtain ⟨keyword, listed, gap, blank, rfl⟩ := exists_of_afterOpening? second
      rw [List.mem_singleton.mp listed]
      exact ⟨_, .single blank, by simp⟩
  · -- Conversely the words are followed by the parenthesis, which is all that the reader asks for.
    rintro ⟨front, words, rfl⟩
    refine words.afterBranch? fun gap blank => ?_
    have skipped : skipSpace (gap ++ '(' :: rest) = '(' :: rest := skipSpace_append blank _
    simp [afterOpening?, after?, skipped]

/-- The words of a branch and a parenthesis are a control header. -/
theorem BranchWords.header? (words : BranchWords front) :
    Statement.header? (front ++ '(' :: rest) = some (.paren rest) := by
  -- An `if` is one of the keywords that take a parenthesis.
  have opened : Statement.afterBranch? controlKeywords (front ++ '(' :: rest) = some rest :=
    words.afterBranch? fun gap blank =>
      afterOpening?_eq_some_iff.mpr ⟨['i', 'f'], List.mem_cons_self, gap, blank, rfl⟩
  rw [Statement.header?, opened]

/-- The words of a branch open no literal. -/
theorem BranchWords.isQuote (words : BranchWords front) : ∀ c ∈ front, isQuote c = false := by
  -- White space opens no literal, and the words can be tested.
  have blanks : ∀ {gap : Text}, (∀ c ∈ gap, isSpace c = true) → ∀ c ∈ gap, Text.isQuote c = false :=
    fun blank c member => isQuote_of_isSpace (blank c member)
  cases words with
  | single blank => exact List.forall_mem_append.mpr ⟨by decide, blanks blank⟩
  | otherwise _ spaces blank =>
    refine List.forall_mem_append.mpr ⟨by decide, List.forall_mem_append.mpr ⟨blanks spaces, ?_⟩⟩
    exact List.forall_mem_append.mpr ⟨by decide, blanks blank⟩

/--
What the condition of a line is.

It stands behind the words of a branch and a parenthesis. All of its literals and parentheses are
closed, and the parenthesis behind it closes the one in front of it.
-/
theorem condition?_eq_some_iff :
    condition? text = some (condition, remainder) ↔
      ∃ front after, BranchWords front ∧ text = front ++ '(' :: (condition ++ ')' :: after) ∧
        trim after = remainder ∧ Closed condition ∧ Balances '(' ')' 0 (mask condition) := by
  -- The words are read first, and then the clause up to its parenthesis.
  rw [condition?, Option.bind_eq_some_iff]
  constructor
  · rintro ⟨rest, branch, closed⟩
    obtain ⟨⟨inside, after⟩, closing, same⟩ := Option.map_eq_some_iff.mp closed
    cases same
    obtain ⟨front, words, rfl⟩ := afterBranch?_eq_some_iff.mp branch
    obtain ⟨rfl, literals, balanced⟩ := closeParen?_eq_some_iff.mp closing
    exact ⟨front, after, words, rfl, rfl, literals, balanced⟩
  · -- The parts are given, so both readers find what they look for.
    rintro ⟨front, after, words, rfl, rfl, literals, balanced⟩
    refine ⟨_, afterBranch?_eq_some_iff.mpr ⟨front, words, rfl⟩, ?_⟩
    rw [closeParen?_eq_some_iff.mpr ⟨rfl, literals, balanced⟩, Option.map_some]

/--
The two ways to read a branch header agree.

Where a condition is read, it stands between the parenthesis behind the words of the branch and the
one that closes it, which both show outside literals, and it opens as many parentheses as it closes
and never closes more than it has opened. What is left of the line behind its headers is what is
left of the text behind the condition. Where none is read, nothing is left of the line.
-/
theorem body_of_isBranchHeader (header : LineShape.isBranchHeader text = true) :
    (∀ condition remainder, condition? text = some (condition, remainder) →
      body text = body remainder ∧ Balances '(' ')' 0 (mask condition) ∧
        ∃ front after, BranchWords front ∧ text = front ++ '(' :: (condition ++ ')' :: after) ∧
          mask text = front ++ '(' :: (mask condition ++ ')' :: mask after) ∧
          trim after = remainder) ∧
      (condition? text = none → body text = []) := by
  constructor
  · intro condition remainder read
    obtain ⟨front, after, words, rfl, rfl, literals, balanced⟩ := condition?_eq_some_iff.mp read
    have closing : closeParen? (condition ++ ')' :: after) = some (condition, after) :=
      closeParen?_eq_some_iff.mpr ⟨rfl, literals, balanced⟩
    refine ⟨body_of_header?_paren words.header? closing, balanced, front, after, words, rfl, ?_,
      rfl⟩
    -- Neither the words nor the parentheses open a literal, and the condition closes its own.
    rw [mask, maskWith_append_plain _ words.isQuote, ← mask, mask_cons (by decide),
      literals.mask_append_cons (by decide)]
  · intro unread
    obtain ⟨rest, branch⟩ := Option.isSome_iff_exists.mp header
    obtain ⟨front, words, rfl⟩ := afterBranch?_eq_some_iff.mp branch
    -- The parenthesis never closes, or there would be a condition.
    rw [condition?, branch, Option.bind_some, Option.map_eq_none_iff] at unread
    exact body_of_header?_unclosed words.header? unread

/-- A condition may hold a parenthesis in a literal, and another header may follow it. -/
theorem body_of_isBranchHeader_nested :
    let text := "else  if (f(\")\", (a))) while (b) x = 1".toList
    LineShape.isBranchHeader text = true ∧
      condition? text = some ("f(\")\", (a))".toList, "while (b) x = 1".toList) ∧
      body text = "x = 1".toList := by
  -- The header and its condition are read, and the theorem says what is left.
  intro text
  have header : LineShape.isBranchHeader text = true := by decide +kernel
  have read : condition? text = some ("f(\")\", (a))".toList, "while (b) x = 1".toList) := by
    decide +kernel
  obtain ⟨agrees, -⟩ := body_of_isBranchHeader header
  obtain ⟨left, -⟩ := agrees _ _ read
  exact ⟨header, read, left.trans (by decide +kernel)⟩

end SourceLint.Statement
