import SourceLint.Proofs.Text.Class
import SourceLint.Proofs.Text.Span
import SourceLint.Text.Position

/-! Words and other finds at the places of a text, for texts that are put together from parts. -/

namespace SourceLint.Text

/-- A reader that finds nothing behind some characters finds nothing inside a run of them. -/
theorem filterMap_positionsFrom_run {α : Type} {read? : Position → Option α} {p : Char → Bool}
    (silent : ∀ place : Position, place.follows p = true → read? place = none) {before : Text}
    (within : before.head?.any p = true) {run : Text} (all : ∀ c ∈ run, p c = true) (rest : Text) :
    (positionsFrom before (run ++ rest)).filterMap read? =
      (positionsFrom (run.reverse ++ before) rest).filterMap read? := by
  -- Every place of the run follows such a character.
  induction run generalizing before with
  | nil => rfl
  | cons c run ih =>
    -- The first place follows one of the characters already.
    have nothing : read? ⟨before, c :: (run ++ rest)⟩ = none := silent _ within
    rw [List.cons_append, positionsFrom, List.filterMap_cons_none nothing,
      ih (by simpa using all c (by simp)) fun d member => all d (by simp [member])]
    simp

/-- The words of a text that continues a word or not, without their places. -/
def wordTextsFrom (continues : Bool) : Text → List Text
  | [] => []
  | c :: rest =>
    let others := wordTextsFrom (isWord c) rest
    if isWord c && !continues then (c :: rest.takeWhile isWord) :: others else others

/-- The words of a text, without their places. -/
def wordTexts (text : Text) : List Text :=
  wordTextsFrom false text

/-- A word starts at a word character that continues no other word. -/
theorem wordAt?_cons (before : Text) (c : Char) (rest : Text) :
    wordAt? ⟨before, c :: rest⟩ =
      if isWord c && !before.head?.any isWord then
        some ⟨⟨before, c :: rest⟩, (c :: rest).takeWhile isWord, (c :: rest).dropWhile isWord⟩
      else none :=
  rfl

/-- The words found at the places of a text are its words. -/
theorem map_text_words (text : Text) : (words text).map Word.text = wordTexts text := by
  -- What stands before a place matters only through its nearest character.
  have general : ∀ before : Text, ((positionsFrom before text).filterMap wordAt?).map Word.text =
      wordTextsFrom (before.head?.any isWord) text := by
    induction text with
    | nil => simp [positionsFrom, wordAt?, wordTextsFrom]
    | cons c rest ih =>
      intro before
      have others := ih (c :: before)
      simp only [List.head?_cons, Option.any_some] at others
      rw [positionsFrom, wordTextsFrom, List.filterMap_cons, wordAt?_cons]
      -- A word is found at its first character and nowhere else.
      by_cases start : (isWord c && !before.head?.any isWord) = true
      · obtain ⟨word, outside⟩ := Bool.and_eq_true_iff.mp start
        rw [if_pos start, if_pos start]
        simp [others, word]
      · rw [if_neg start, if_neg start]
        exact others
  -- The whole text is the case in which nothing stands in front.
  exact general []

/-- A character that belongs to no word separates the words on either side of it. -/
theorem wordTexts_append_cons {c : Char} (separates : isWord c = false) (first second : Text) :
    wordTexts (first ++ c :: second) = wordTexts first ++ wordTexts second := by
  -- A word of the first part ends at the separating character at the latest.
  have general : ∀ continues : Bool, wordTextsFrom continues (first ++ c :: second) =
      wordTextsFrom continues first ++ wordTexts second := by
    induction first with
    | nil => simp [wordTextsFrom, separates, wordTexts]
    | cons d first ih =>
      intro continues
      -- So the word is the same as without what follows.
      have ended : (first ++ c :: second).takeWhile isWord = first.takeWhile isWord :=
        takeWhile_append_stop (by simp [separates]) first
      simp only [List.cons_append, wordTextsFrom, ih, ended]
      split <;> simp
  exact general false

/-- A character in front that belongs to no word adds none. -/
theorem wordTexts_cons {c : Char} (separates : isWord c = false) (text : Text) :
    wordTexts (c :: text) = wordTexts text := by
  simp [wordTexts, wordTextsFrom, separates]

/-- A run of word characters is one word. -/
theorem wordTexts_run {run : Text} (some : run ≠ []) (word : ∀ c ∈ run, isWord c = true) :
    wordTexts run = [run] := by
  -- Behind the first character the word goes on to the end.
  have inside : ∀ rest : Text, (∀ c ∈ rest, isWord c = true) → wordTextsFrom true rest = [] := by
    intro rest all
    induction rest with
    | nil => rfl
    | cons d rest ih =>
      simp [wordTextsFrom, all d (by simp), ih fun e member => all e (by simp [member])]
  -- The first character starts the only word.
  obtain ⟨c, rest, rfl⟩ := List.exists_cons_of_ne_nil some
  have others : ∀ d ∈ rest, isWord d = true := fun d member => word d (by simp [member])
  have whole : rest.takeWhile isWord = rest := List.takeWhile_eq_self_iff.mpr others
  simp [wordTexts, wordTextsFrom, word c (by simp), inside rest others, whole]

/-- A text without word characters has no words. -/
theorem wordTexts_eq_nil {text : Text} (gaps : ∀ c ∈ text, isWord c = false) :
    wordTexts text = [] := by
  -- No character starts a word.
  induction text with
  | nil => rfl
  | cons c rest ih =>
    rw [wordTexts_cons (gaps c (by simp)), ih fun d member => gaps d (by simp [member])]

/-- White space in front of a text holds no words. -/
theorem wordTexts_append_left {space : Text} (blank : ∀ c ∈ space, isSpace c = true)
    (text : Text) : wordTexts (space ++ text) = wordTexts text := by
  -- White space is skipped one character at a time.
  induction space with
  | nil => rfl
  | cons c space ih =>
    obtain ⟨first, others⟩ := List.forall_mem_cons.mp blank
    rw [List.cons_append, wordTexts_cons (isWord_of_isSpace first), ih others]

/-- A run of word characters is a given word when the word is there and nothing continues it. -/
theorem takeWhile_isWord_beq {word : Text} (all : ∀ c ∈ word, isWord c = true) (text : Text) :
    (text.takeWhile isWord == word) =
      (after? word text).any fun rest => !rest.head?.any isWord := by
  -- The first difference decides, or the text goes on behind the word.
  induction word generalizing text with
  | nil =>
    cases text with
    | nil => rfl
    | cons c rest => by_cases inside : isWord c = true <;> simp [after?, inside]
  | cons f word ih =>
    have first := all f (by simp)
    cases text with
    | nil => rfl
    | cons c rest =>
      -- Equal characters are passed together, and different ones decide.
      by_cases same : f = c
      · subst same
        have others := ih (fun d member => all d (by simp [member])) rest
        simpa [after?, first] using others
      · by_cases inside : isWord c = true <;> simp [after?, inside, same, Ne.symm same]

/-- A place of a text splits it in two. -/
theorem split_of_mem_positions {text : Text} {place : Position} (found : place ∈ positions text) :
    text = place.before.reverse ++ place.after := by
  -- What stands before the places grows from behind, so it is generalised.
  have general : ∀ before : Text, place ∈ positionsFrom before text →
      before.reverse ++ text = place.before.reverse ++ place.after := by
    clear found
    induction text with
    | nil =>
      intro before found
      rw [List.mem_singleton.mp found]
    | cons c rest ih =>
      intro before found
      rcases List.mem_cons.mp found with rfl | later
      · rfl
      · simpa using ih (c :: before) later
  -- At the first place nothing stands in front.
  exact general [] found

/-- A word of a text has no word character in front of it and takes all that follow. -/
theorem split_of_mem_words {text : Text} {word : Word} (found : word ∈ words text) :
    text = word.place.before.reverse ++ (word.text ++ word.rest) ∧
      word.place.before.takeWhile isWord = [] ∧ ∀ c ∈ word.text, isWord c = true := by
  -- The word was found at some place, and the place splits the text.
  obtain ⟨place, listed, read⟩ := List.mem_filterMap.mp found
  have whole := split_of_mem_positions listed
  unfold wordAt? at read
  split at read
  · rename_i starts
    cases read
    refine ⟨?_, ?_, fun _ => List.mem_takeWhile_imp⟩
    · rw [List.takeWhile_append_dropWhile]
      exact whole
    · rw [Bool.and_eq_true, Bool.not_eq_true', Position.follows] at starts
      dsimp only
      -- A word starts where no word character is in front.
      cases before : place.before with
      | nil => rfl
      | cons c rest =>
        rw [before, List.head?_cons, Option.any_some] at starts
        rw [List.takeWhile_cons, starts.2]
        rfl
  · cases read

/-- Wherever a text is split there is a place of it. -/
theorem mem_positions (before after : Text) :
    (⟨before.reverse, after⟩ : Position) ∈ positions (before ++ after) := by
  -- What stands before the places grows from behind, so it is generalised.
  have general : ∀ passed : Text,
      (⟨before.reverse ++ passed, after⟩ : Position) ∈ positionsFrom passed (before ++ after) := by
    induction before with
    | nil =>
      intro passed
      cases after <;> simp [positionsFrom]
    | cons c before ih =>
      intro passed
      rw [List.cons_append, positionsFrom, List.reverse_cons, List.append_assoc]
      exact List.mem_cons_of_mem _ (ih (c :: passed))
  -- At the start of the text nothing has been passed.
  simpa [positions] using general []

/-- A test is met somewhere in a text when it is met where the text is split. -/
theorem anywhere_iff {text : Text} {test : Position → Bool} :
    anywhere text test = true ↔
      ∃ before after, text = before ++ after ∧ test ⟨before.reverse, after⟩ = true := by
  unfold anywhere
  -- The places of a text are its splits.
  rw [List.any_eq_true]
  constructor
  · rintro ⟨place, found, met⟩
    exact ⟨place.before.reverse, place.after, split_of_mem_positions found, by simpa using met⟩
  · rintro ⟨before, after, rfl, met⟩
    exact ⟨_, mem_positions before after, met⟩

/-- A test that fails at every place of a text fails everywhere in it. -/
theorem anywhere_eq_false {text : Text} {test : Position → Bool}
    (fails : ∀ before after, text = before ++ after → test ⟨before.reverse, after⟩ = false) :
    anywhere text test = false := by
  -- A place where the test is met would split the text.
  rw [← Bool.not_eq_true, anywhere_iff]
  rintro ⟨before, after, split, met⟩
  rw [fails before after split] at met
  cases met

/-- Taking distinct entries neither adds nor loses one. -/
theorem mem_distinct {α : Type} [BEq α] [LawfulBEq α] {entries : List α} {entry : α} :
    entry ∈ distinct entries ↔ entry ∈ entries := by
  -- An entry is among those kept so far or among those that are left.
  have general : ∀ kept : List α,
      entry ∈ entries.foldl (fun kept entry => if kept.contains entry then kept
        else kept ++ [entry]) kept ↔ entry ∈ kept ∨ entry ∈ entries := by
    induction entries with
    | nil => simp
    | cons first others ih =>
      intro kept
      rw [List.foldl_cons, ih]
      -- The first entry is dropped when it is there already and added at the end otherwise.
      split
      · rename_i listed
        have old : first ∈ kept := by simpa using listed
        constructor
        · rintro (before | later)
          · exact .inl before
          · exact .inr (List.mem_cons_of_mem _ later)
        · rintro (before | later)
          · exact .inl before
          · rcases List.mem_cons.mp later with rfl | behind
            · exact .inl old
            · exact .inr behind
      · simp [or_assoc]
  -- Nothing is kept at the start.
  have whole := general []
  rw [← distinct] at whole
  simpa using whole

end SourceLint.Text
