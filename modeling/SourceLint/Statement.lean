import SourceLint.Text.Bracket

/-! The statements of a line, and what is left of one after its control headers. -/

namespace SourceLint

/-- A piece of a line that acts on its own. -/
structure Statement where
  text : Text
  /-- Whether a semicolon ends it. -/
  terminated : Bool
deriving DecidableEq

namespace Statement

/-- The trimmed pieces of a line, of which only the last one lacks a semicolon. -/
def ofPieces (first : Text) : List Text → List Statement
  | [] => [⟨Text.trim first, false⟩]
  | next :: others => ⟨Text.trim first, true⟩ :: ofPieces next others

/-- The statements of a line. A semicolon inside brackets or a literal ends none. -/
def split (line : Text) : List Statement :=
  let (first, others) := Text.cutTop (· == ';') line
  (ofPieces first others).filter fun statement => !statement.text.isEmpty

/-- A control header at the front of a statement. -/
inductive Header where
  /-- An `else` alone, with the text after it. -/
  | bare (rest : Text)
  /-- A keyword with a parenthesis, with the text after the opening of it. -/
  | paren (rest : Text)

/-- The text after one of the keywords, optional white space and an opening parenthesis. -/
def afterOpening? (keywords : List Text) (text : Text) : Option Text :=
  keywords.findSome? fun keyword =>
    (Text.after? keyword text).bind fun rest => Text.after? ['('] (Text.skipSpace rest)

/-- The text after an `else` that white space ends, when one of the keywords opens there or here. -/
def afterBranch? (keywords : List Text) (text : Text) : Option Text :=
  ((Text.afterSpaced? "else".toList text).bind (afterOpening? keywords)).or
    (afterOpening? keywords text)

/-- The keywords that take a parenthesis. -/
def controlKeywords : List Text :=
  ["if", "for", "while"].map String.toList

/-- The control header at the front of a statement. -/
def header? (text : Text) : Option Header :=
  match afterBranch? controlKeywords text with
  | some rest => some (.paren rest)
  | none =>
    if Text.startsWithWord "else".toList text then some (.bare (text.drop 4)) else none

/-- An opening takes at least one character. -/
theorem length_lt_of_afterOpening? {keywords : List Text} {text rest : Text}
    (found : afterOpening? keywords text = some rest) : rest.length < text.length := by
  -- The keyword and the white space take none or more, and the parenthesis takes one.
  obtain ⟨keyword, -, read⟩ := List.exists_of_findSome?_eq_some found
  obtain ⟨tail, word, opening⟩ := Option.bind_eq_some_iff.mp read
  have keywordLength := congrArg List.length (Text.eq_append_of_after? word)
  have openingLength := congrArg List.length (Text.eq_append_of_after? opening)
  have := Text.length_skipSpace_le tail
  simp only [List.length_append, List.length_cons, List.length_nil] at keywordLength openingLength
  omega

/-- A branch header takes at least one character. -/
theorem length_lt_of_afterBranch? {keywords : List Text} {text rest : Text}
    (found : afterBranch? keywords text = some rest) : rest.length < text.length := by
  -- With an `else` in front, both parts take characters.
  rcases Option.or_eq_some_iff.mp found with first | ⟨-, second⟩
  · obtain ⟨tail, spaced, opening⟩ := Option.bind_eq_some_iff.mp first
    exact Nat.lt_trans (length_lt_of_afterOpening? opening) (Text.length_lt_of_afterSpaced? spaced)
  · exact length_lt_of_afterOpening? second

/-- What follows a header with a parenthesis is shorter than the statement. -/
theorem length_lt_of_header?_paren {text rest : Text} (found : header? text = some (.paren rest)) :
    rest.length < text.length := by
  -- Only a branch with a parenthesis is such a header.
  unfold header? at found
  split at found
  case h_1 tail read =>
    cases found
    exact length_lt_of_afterBranch? read
  · split at found <;> simp at found

/-- What follows a bare header is shorter than the statement. -/
theorem length_lt_of_header?_bare {text rest : Text} (found : header? text = some (.bare rest)) :
    rest.length < text.length := by
  -- The four letters of the keyword are there to be dropped.
  unfold header? at found
  split at found
  · simp at found
  · split at found
    case isTrue starts =>
      cases found
      unfold Text.startsWithWord at starts
      split at starts
      case h_1 tail read =>
        have := congrArg List.length (Text.eq_append_of_after? read)
        simp only [List.length_append, List.length_drop] at this ⊢
        have four : "else".toList.length = 4 := rfl
        omega
      · simp at starts
    · simp at found

/--
What is left of a statement after its leading control headers.

Nothing is left when the parenthesis of a header never closes.
-/
def body (text : Text) : Text :=
  match _ : header? text with
  | none => text
  | some (.bare rest) => body (Text.trim rest)
  | some (.paren rest) =>
    match _ : Text.closeParen? rest with
    | some (_, after) => body (Text.trim after)
    | none => []
termination_by text.length
decreasing_by
  · exact Nat.lt_of_le_of_lt (Text.length_trim_le _) (length_lt_of_header?_bare (by assumption))
  · exact Nat.lt_of_le_of_lt (Text.length_trim_le _) (Nat.lt_trans
      (Text.length_lt_of_closeParen? (by assumption)) (length_lt_of_header?_paren (by assumption)))

/-- The first clause of a loop header at the front of a line, up to the first semicolon. -/
def loopStart? (line : Text) : Option Text :=
  (afterOpening? ["for".toList] (Text.skipSpace line)).bind fun clauses =>
    let clause := Text.trim (clauses.takeWhile (· != ';'))
    if clauses.contains ';' && !clause.isEmpty then some clause else none

/--
The statements of a line that declare or assign, without their control headers.

The first clause of a loop header comes first. A statement without its semicolon is left out
unless it is asked for.
-/
def effective (line : Text) (withUnterminated : Bool) : List Text :=
  (loopStart? line).toList ++
    ((split line).filterMap fun statement =>
      let rest := body statement.text
      if rest.isEmpty || !(statement.terminated || withUnterminated) then none else some rest)

/-- Cuts a branch header into its condition and the trimmed text after it. -/
def condition? (line : Text) : Option (Text × Text) :=
  (afterBranch? ["if".toList] line).bind fun rest =>
    (Text.closeParen? rest).map fun (condition, after) => (condition, Text.trim after)

end Statement

end SourceLint
