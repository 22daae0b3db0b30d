import SourceLint.LineShape
import SourceLint.Proofs.Reading
import SourceLint.Proofs.Text.Class
import SourceLint.Proofs.Text.Masking

/-!
Readers that see no literals.

What is read at the front of a line without passing a quote is read off its masked view as well, and
it leaves the masked view of what it leaves of the line.
-/

namespace SourceLint

open Text

namespace Text

/-- The first character of a line shows. -/
theorem exists_mask_cons (c : Char) (rest : Text) : ∃ more, mask (c :: rest) = c :: more :=
  ⟨_, maskFrom_outside ['s'] c rest⟩

/-- A line and its view start alike. -/
theorem head?_mask (text : Text) : (mask text).head? = text.head? := by
  -- The first character opens a literal at most, and shows in either case.
  cases text with
  | nil => rfl
  | cons c rest =>
    obtain ⟨more, view⟩ := exists_mask_cons c rest
    rw [view, List.head?_cons, List.head?_cons]

/-- What follows a run of a class without quotes is masked on its own. -/
theorem dropWhile_mask {p : Char → Bool} (unquoted : ∀ c, p c = true → isQuote c = false)
    (text : Text) : (mask text).dropWhile p = mask (text.dropWhile p) := by
  -- By induction on the text, up to the character that ends the run.
  induction text with
  | nil => rfl
  | cons c rest ih =>
    by_cases inside : p c = true
    · rw [mask_cons (unquoted c inside), List.dropWhile_cons_of_pos inside,
        List.dropWhile_cons_of_pos inside, ih]
    · -- The first character shows even where it opens a literal.
      obtain ⟨more, view⟩ := exists_mask_cons c rest
      rw [List.dropWhile_cons_of_neg inside, view, List.dropWhile_cons_of_neg inside]

/-- White space is skipped in the view of a line as in the line. -/
theorem skipSpace_mask (text : Text) : skipSpace (mask text) = mask (skipSpace text) :=
  dropWhile_mask (fun _ => isQuote_of_isSpace) text

/-- A word without quotes is read off the view of a line as off the line. -/
theorem after?_mask {word : Text} (plain : ∀ c ∈ word, isQuote c = false) (text : Text) :
    after? word (mask text) = (after? word text).map mask := by
  -- By induction on the word, along the text.
  induction word generalizing text with
  | nil => rfl
  | cons f word ih =>
    cases text with
    | nil => rfl
    | cons c rest =>
      by_cases same : f = c
      · subst same
        rw [mask_cons (plain f (by simp)), after?, after?, if_pos rfl, if_pos rfl,
          ih (fun d member => plain d (by simp [member]))]
      · -- The first character of the view is that of the line.
        obtain ⟨more, view⟩ := exists_mask_cons c rest
        rw [view, after?, after?, if_neg same, if_neg same]
        rfl

/-- So is a word that white space ends. -/
theorem afterSpaced?_mask {word : Text} (plain : ∀ c ∈ word, isQuote c = false) (text : Text) :
    afterSpaced? word (mask text) = (afterSpaced? word text).map mask := by
  rw [afterSpaced?, afterSpaced?, after?_mask plain]
  -- Behind the word the texts start alike.
  cases after? word text with
  | none => rfl
  | some tail =>
    -- White space shows, and another character hides none.
    cases tail with
    | nil => rfl
    | cons c rest =>
      by_cases space : isSpace c = true
      · simp only [Option.map_some, mask_cons (isQuote_of_isSpace space), if_pos space,
          skipSpace_mask]
      · obtain ⟨more, view⟩ := exists_mask_cons c rest
        simp only [Option.map_some, view, if_neg space, Option.map_none]

/-- A character of a word delimits no literal. -/
theorem isQuote_of_isWord {c : Char} (word : isWord c = true) : isQuote c = false := by
  -- The two quotes are tested.
  rw [← Bool.not_eq_true]
  intro quote
  exact forall_isQuote (motive := fun c => isWord c ≠ true) quote (by decide) (by decide) word

/-- The name at the front of a line shows. -/
theorem afterName?_mask (text : Text) : afterName? (mask text) = (afterName? text).map mask := by
  cases text with
  | nil => rfl
  | cons c rest =>
    by_cases starts : isNameStart c = true
    · -- A name holds no quote, so it shows and what follows it is masked on its own.
      have unquoted := isQuote_of_isWord (isWord_of_isNameChar (isNameChar_of_isNameStart starts))
      simp only [afterName?, name?, mask_cons unquoted, if_pos starts, Option.map_some,
        dropWhile_mask (fun _ => isQuote_of_isWord) rest]
    · -- What starts no name starts none in the view either.
      obtain ⟨more, view⟩ := exists_mask_cons c rest
      simp only [afterName?, name?, view, if_neg starts, Option.map_none]

/-- A word that starts a line shows there. -/
theorem startsWithWord_mask {word : Text} (plain : ∀ c ∈ word, isQuote c = false) (text : Text) :
    startsWithWord word (mask text) = startsWithWord word text := by
  -- Behind the word the first character is the same.
  rw [startsWithWord, startsWithWord, after?_mask plain]
  cases after? word text with
  | none => rfl
  | some rest => simp only [Option.map_some, head?_mask]

/-- A line and its view are blank together. -/
theorem isBlank_mask (text : Text) : isBlank (mask text) = isBlank text := by
  unfold isBlank
  -- By induction on the text, up to the first character that is no white space.
  induction text with
  | nil => rfl
  | cons c rest ih =>
    -- The first character shows, and white space opens no literal.
    by_cases space : isSpace c = true
    · rw [mask_cons (isQuote_of_isSpace space), List.all_cons, List.all_cons, ih]
    · obtain ⟨more, view⟩ := exists_mask_cons c rest
      rw [view, List.all_cons, List.all_cons, Bool.eq_false_iff.mpr space, Bool.false_and,
        Bool.false_and]

/-- A call at the front of a line shows. -/
theorem startsWithCall_mask (text : Text) : startsWithCall (mask text) = startsWithCall text := by
  -- The name shows, and so does the white space behind it.
  rw [startsWithCall, startsWithCall, afterName?_mask]
  cases afterName? text with
  | none => rfl
  | some rest => simp only [Option.map_some, skipSpace_mask, head?_mask]

end Text

namespace Statement

variable {keywords : List Text}

/-- A keyword that opens at the front of a line shows. -/
theorem afterOpening?_mask (plain : ∀ keyword ∈ keywords, ∀ c ∈ keyword, isQuote c = false)
    (text : Text) :
    afterOpening? keywords (mask text) = (afterOpening? keywords text).map mask := by
  unfold afterOpening?
  -- By induction on the keywords, the first of which that fits is taken.
  induction keywords with
  | nil => rfl
  | cons keyword others ih =>
    have later := ih fun other listed => plain other (by simp [listed])
    -- The white space behind the keyword shows, and so does the parenthesis.
    have here : ((after? keyword (mask text)).bind fun rest => after? ['('] (skipSpace rest)) =
        ((after? keyword text).bind fun rest => after? ['('] (skipSpace rest)).map mask := by
      rw [after?_mask (plain keyword (by simp))]
      cases after? keyword text with
      | none => rfl
      | some rest =>
        simp only [Option.map_some, Option.bind_some, skipSpace_mask]
        exact after?_mask (by decide) (skipSpace rest)
    rw [List.findSome?_cons, List.findSome?_cons, here, later]
    cases (after? keyword text).bind fun rest => after? ['('] (skipSpace rest) <;> rfl

/-- A branch header at the front of a line shows. -/
theorem afterBranch?_mask (plain : ∀ keyword ∈ keywords, ∀ c ∈ keyword, isQuote c = false)
    (text : Text) : afterBranch? keywords (mask text) = (afterBranch? keywords text).map mask := by
  -- With or without an `else` in front, an opening is read.
  rw [afterBranch?, afterBranch?, afterSpaced?_mask (by decide), afterOpening?_mask plain,
    Option.map_or]
  congr 1
  cases afterSpaced? "else".toList text with
  | none => rfl
  | some rest => exact afterOpening?_mask plain rest

end Statement

namespace Vocabulary

/-- A qualifier at the front of a line shows. -/
theorem afterQualifier?_mask (text : Text) :
    afterQualifier? (mask text) = (afterQualifier? text).map mask := by
  -- Each of the two qualifiers shows.
  rw [afterQualifier?, afterQualifier?, afterSpaced?_mask (by decide),
    afterSpaced?_mask (by decide), Option.map_or]

/-- Qualifiers are skipped in the view of a line as in the line. -/
theorem skipQualifiers_mask (text : Text) :
    skipQualifiers (mask text) = mask (skipQualifiers text) := by
  -- By induction on the qualifiers that the line starts with.
  have read := afterQualifier?_mask text
  induction text using induction_on_qualifiers with
  | qualified text rest found ih =>
    -- The same qualifier is taken off both, and the rest of the view is the view of the rest.
    rw [found, Option.map_some] at read
    rw [skipQualifiers_of_qualifier read, skipQualifiers_of_qualifier found,
      ih (afterQualifier?_mask rest)]
  | plain text absent =>
    rw [absent, Option.map_none] at read
    rw [skipQualifiers_eq_self read, skipQualifiers_eq_self absent]

end Vocabulary

namespace LineShape

variable {words : List Text}

/-- The words that may start a line show there. -/
theorem afterAny?_mask (plain : ∀ word ∈ words, ∀ c ∈ word, isQuote c = false) (text : Text) :
    afterAny? words (mask text) = (afterAny? words text).map mask := by
  unfold afterAny?
  -- By induction on the words.
  induction words with
  | nil => rfl
  | cons word others ih =>
    have here := afterSpaced?_mask (plain word (by simp)) text
    have later := ih fun other listed => plain other (by simp [listed])
    rw [List.findSome?_cons, List.findSome?_cons, here]
    -- The first word is read in both or in neither.
    cases afterSpaced? word text with
    | none => exact later
    | some rest => rfl

/-- A call behind words shows. -/
theorem callFollows_mask (plain : ∀ word ∈ words, ∀ c ∈ word, isQuote c = false) (text : Text) :
    callFollows words (mask text) = callFollows words text := by
  -- Every word that is passed over makes the text shorter.
  induction size : text.length using Nat.strong_induction_on generalizing text with
  | _ size ih =>
    subst size
    have read := afterAny?_mask plain text
    rw [callFollows, callFollows.eq_def words text, startsWithCall_mask]
    congr 1
    -- Without a word the call has to follow at once, and with one the rest is shorter.
    cases there : afterAny? words text with
    | none =>
      rw [there, Option.map_none] at read
      split <;> simp_all only [reduceCtorEq]
    | some rest =>
      have shorter := ih rest.length (length_lt_of_afterAny? there) rest rfl
      rw [there, Option.map_some] at read
      split <;> simp_all only [Option.some.injEq, reduceCtorEq]

/-- A line and its view are directives together. -/
theorem isDirective_mask (line : Text) : isDirective (mask line) = isDirective line := by
  rw [isDirective, isDirective, head?_mask]

/-- Whether a branch header starts a line shows. -/
theorem isBranchHeader_mask (line : Text) : isBranchHeader (mask line) = isBranchHeader line := by
  rw [isBranchHeader, isBranchHeader, Statement.afterBranch?_mask (by decide), Option.isSome_map]

/-- A line and its view are signatures of functions together. -/
theorem isSignature_mask {types : List Text}
    (typed : ∀ word ∈ types, ∀ c ∈ word, isQuote c = false)
    (plain : ∀ word ∈ words, ∀ c ∈ word, isQuote c = false) (line : Text) :
    isSignature types words (mask line) = isSignature types words line := by
  -- The qualifiers and the type show, and what follows is asked for a call.
  rw [isSignature, isSignature, skipSpace_mask, Vocabulary.skipQualifiers_mask,
    afterAny?_mask typed]
  cases afterAny? types (Vocabulary.skipQualifiers (skipSpace line)) with
  | none => rfl
  | some rest => exact callFollows_mask plain rest

end LineShape

end SourceLint
