import SourceLint.Proofs.Comment.Lines
import SourceLint.Proofs.Insertion.Token

/-! Removing comments from a text to which white space is added at the edge of a line. -/

namespace SourceLint.Comment

open Text

/-- A text that starts with white space, if it starts with anything. -/
def Spaced (text : Text) : Prop :=
  ∀ c ∈ text.head?, isSpace c = true

/-- A place that can be reached: a quote delimits the literal, and the comment is open already. -/
def Place.Sound (line : Int) : Place → Prop
  | .literal quote => isQuote quote = true
  | .blockComment start => start ≤ line
  | _ => True

/--
A text after which the removal of comments goes on from a place that depends on the text alone.

All that has been found up to there lies on the lines of the text.
-/
def Carries (place : Place) (line : Int) (text : Text) : Prop :=
  ∃ kept nested next, breaks kept = breaks text ∧ (∀ found ∈ nested, found ≤ line + breaks text) ∧
    next.Sound (line + breaks text) ∧ ∀ rest, Spaced rest → stripFrom place line (text ++ rest) =
      (stripFrom next (line + breaks text) rest).behind kept nested

/-- Nothing carries itself. -/
theorem Carries.nil {place : Place} {line : Int} (sound : place.Sound line) :
    Carries place line [] :=
  -- Nothing is read, so nothing is kept and the place stays.
  ⟨[], [], place, rfl, by simp, by simpa [breaks] using sound, fun rest _ => by
    simp [breaks, Stripped.behind]⟩

/-- Only white space follows a text that ends with a character. -/
theorem head_append_ne {text rest : Text} (spaced : Spaced rest) {d : Char}
    (other : text.head? ≠ some d) (solid : isSpace d = false) : (text ++ rest).head? ≠ some d := by
  cases text with
  | nil =>
    -- The character would be the first one of the white space.
    intro first
    have space := spaced d first
    rw [solid] at space
    cases space
  | cons c more => simpa using other

/-- White space that ends no line is dropped in a comment and kept everywhere else. -/
theorem stripFrom_space {c : Char} (space : isSpace c = true) (unbroken : c ≠ '\n')
    {place : Place} {line : Int} (sound : place.Sound line) :
    (∀ rest, stripFrom place line (c :: rest) = stripFrom place line rest) ∨
      ∀ rest, stripFrom place line (c :: rest) = (stripFrom place line rest).keep c := by
  have outside := isQuote_of_isSpace space
  have solid : ∀ {d : Char}, isSpace d = false → c ≠ d := ne_of_class space
  -- White space neither opens nor closes anything, so the place stays what it is.
  cases place with
  -- In code and in a literal the character is kept.
  | code =>
    refine .inr fun rest => ?_
    rw [stripFrom_code (solid (by decide)), outside, if_neg unbroken]
    rfl
  | literal quote =>
    refine .inr fun rest => ?_
    have other : c ≠ quote := by
      rintro rfl
      exact absurd sound (by simp [Place.Sound, outside])
    rw [stripFrom_literal unbroken (solid (by decide)), if_neg other]
  -- In a comment it is dropped.
  | lineComment =>
    refine .inl fun rest => ?_
    rw [stripFrom, if_neg unbroken]
  | blockComment start =>
    refine .inl fun rest => ?_
    have star : c ≠ '*' := solid (by decide)
    have slash : c ≠ '/' := solid (by decide)
    rw [stripFrom_block (by simp [star]) (by simp [slash]), if_neg unbroken]

/-- White space is kept in a literal whether it is escaped or not. -/
theorem stripFrom_escaped_space {quote hidden : Char} (quoted : isQuote quote = true)
    (space : isSpace hidden = true) (unbroken : hidden ≠ '\n') (line : Int) (more : Text) :
    stripFrom (.literal quote) line (backslash :: hidden :: more) =
      (stripFrom (.literal quote) line (hidden :: more)).keep backslash := by
  -- Without the backslash it would neither end the literal nor escape anything.
  have other : hidden ≠ quote := by
    rintro rfl
    rw [isQuote_of_isSpace space] at quoted
    cases quoted
  have plain : hidden ≠ backslash := ne_of_class space (by decide)
  have escaped : stripFrom (.literal quote) line (backslash :: hidden :: more) =
      ((stripFrom (.literal quote) line more).keep hidden).keep backslash := by
    simp [stripFrom, unbroken, backslash]
  -- With it the two are kept one after the other, and the literal goes on.
  rw [escaped, stripFrom_literal unbroken plain, if_neg other]

namespace Moved

variable {line : Int} {place : Place} {text : Text} {move : Move}

/-- A move from a place that can be reached leads to one. -/
theorem sound_next (moved : Moved line place text move) (sound : place.Sound line) :
    move.next.Sound (line + breaks move.taken) := by
  cases moved with
  | lineBreak =>
    -- Behind a line break only a block comment goes on, and its opener stands further up.
    cases place with
    | blockComment start =>
      have opened : start ≤ line := sound
      exact show start ≤ line + _ by omega
    | _ => trivial
  -- The comment that is opened starts on this line.
  | opener => exact Int.le_add_of_nonneg_right (Int.natCast_nonneg _)
  | nestedOpener start | blocked start =>
    exact Int.le_trans (show start ≤ line from sound)
      (Int.le_add_of_nonneg_right (Int.natCast_nonneg _))
  | @plain c _ _ _ =>
    dsimp only
    -- A literal is opened by a quote.
    split
    · assumption
    · trivial
  | content quote =>
    dsimp only
    split
    · trivial
    · exact sound
  | escape | lastBackslash => exact sound
  | lineOpener | remark | closer => trivial

/-- A move goes the same way when white space is put behind the text. -/
theorem stripFrom_append (moved : Moved line place text move) (sound : place.Sound line)
    {more : Text} (spaced : Spaced more) :
    stripFrom place line (text ++ more) =
      (stripFrom move.next (line + breaks move.taken)
        (text.drop move.taken.length ++ more)).behind move.kept move.nested := by
  -- Behind the same move the text that is left has the white space behind it.
  have same : Moved line place (text ++ more) move →
      stripFrom place line (text ++ more) =
        (stripFrom move.next (line + breaks move.taken)
          (text.drop move.taken.length ++ more)).behind move.kept move.nested := by
    intro again
    obtain ⟨rest, rfl⟩ := moved.taken_starts
    rw [again.stripFrom_eq, List.append_assoc, List.drop_left, List.drop_left]
  cases moved with
  | lineBreak place rest => exact same (.lineBreak place _)
  | opener rest => exact same (.opener _)
  | lineOpener rest => exact same (.lineOpener _)
  -- The moves that look one character ahead may now see a different one.
  | plain unbroken uncommented =>
    -- White space completes no marker.
    exact same (.plain unbroken fun slash =>
      ⟨head_append_ne spaced (uncommented slash).1 (by decide),
        head_append_ne spaced (uncommented slash).2 (by decide)⟩)
  | remark unbroken rest => exact same (.remark unbroken _)
  | closer start rest => exact same (.closer start _)
  | nestedOpener start rest => exact same (.nestedOpener start _)
  | blocked start unbroken unclosed unopened =>
    exact same (.blocked start unbroken
      (fun star => head_append_ne spaced (unclosed star) (by decide))
      fun slash => head_append_ne spaced (unopened slash) (by decide))
  | escape quote unbroken rest => exact same (.escape quote unbroken _)
  | content quote unbroken unescaped rest => exact same (.content quote unbroken unescaped _)
  | @lastBackslash quote rest ends =>
    by_cases still : ∀ c ∈ (rest ++ more).head?, c = '\n'
    · exact same (.lastBackslash quote still)
    · -- The backslash was the last character, and now it hides white space.
      cases rest with
      | cons c rest => exact absurd ends still
      | nil =>
        cases more with
        | nil => simp at still
        | cons hidden more =>
          have unbroken : hidden ≠ '\n' := by simpa using still
          have count : breaks [backslash] = 0 := by decide
          have read := stripFrom_escaped_space sound (spaced hidden rfl) unbroken line more
          simpa [count, Stripped.behind, Stripped.keep] using read

end Moved

/-- Every text carries the removal of comments to its end. -/
theorem carries {place : Place} {line : Int} (sound : place.Sound line) (text : Text) :
    Carries place line text := by
  -- By induction along the moves, each of which may have white space behind its text.
  induction place, line, text using induction_on_moves with
  | ended place line => exact .nil sound
  | @step place line text move moved ih =>
    obtain ⟨kept, nested, final, count, bounded, reached, last⟩ := ih (moved.sound_next sound)
    have whole := moved.breaks_eq
    have total : line + breaks move.taken + (breaks (text.drop move.taken.length) : Int) =
        line + breaks text := by omega
    rw [total] at bounded reached last
    -- What the move keeps and reports comes first, and the rest goes on from where it leads.
    refine ⟨move.kept ++ kept, move.nested ++ nested, final, ?_, ?_, reached, ?_⟩
    · rw [breaks_append, moved.thinned.breaks_eq, count, whole]
    · intro found member
      rcases List.mem_append.mp member with here | there
      · -- A move reports its own line, if any.
        rcases moved.nested_cases with silent | reported
        · simp [silent] at here
        · rw [reported, List.mem_singleton] at here
          omega
      · exact bounded found there
    · intro rest spaced
      rw [moved.stripFrom_append sound spaced, last rest spaced]
      simp [Stripped.behind]

/-- The place on a line with another number. -/
def Place.renumber (number : Int → Int) : Place → Place
  | .code => .code
  | .literal quote => .literal quote
  | .lineComment => .lineComment
  | .blockComment start => .blockComment (number start)

/-- The outcome on lines with other numbers. -/
def Stripped.renumber (number : Int → Int) (stripped : Stripped) : Stripped :=
  { stripped with
    nested := stripped.nested.map number
    unclosed := stripped.unclosed.map number }

/-- The move on a line with another number. -/
def Move.renumber (number : Int → Int) (move : Move) : Move :=
  { move with
    next := move.next.renumber number
    nested := move.nested.map number }

/-- A move on a line is possible on that line under another number as well. -/
theorem Moved.renumber {number : Int → Int} {line other : Int} {place : Place} {text : Text}
    {move : Move} (moved : Moved line place text move) (here : number line = other) :
    Moved other (place.renumber number) text (move.renumber number) := by
  subst here
  -- Only the comment that is opened and the opener that is reported know the number of the line.
  cases moved with
  | lineBreak _ rest => cases place <;> exact .lineBreak _ rest
  | opener rest => exact .opener rest
  | lineOpener rest => exact .lineOpener rest
  -- The literal that a quote opens is named after the quote.
  | @plain c rest unbroken uncommented =>
    have again := @Moved.plain (number line) c rest unbroken uncommented
    unfold Move.renumber
    dsimp only
    split <;> simpa [Place.renumber, *] using again
  | remark unbroken rest => exact .remark unbroken rest
  | closer start rest => exact .closer (number start) rest
  | nestedOpener start rest => exact .nestedOpener (number start) rest
  | blocked start unbroken unclosed unopened =>
    exact .blocked (number start) unbroken unclosed unopened
  | escape quote unbroken rest => exact .escape quote unbroken rest
  | lastBackslash quote ends => exact .lastBackslash quote ends
  -- At the end of a literal the place is code, which knows no line.
  | @content quote c unbroken unescaped rest =>
    have again := @Moved.content (number line) quote c unbroken unescaped rest
    unfold Move.renumber
    dsimp only
    split <;> simpa [Place.renumber, *] using again

/-- A text whose lines have other numbers has the same comments on them. -/
theorem stripFrom_renumber {number : Int → Int} (place : Place) (text : Text) {first start : Int}
    (same : ∀ index : Nat, index ≤ breaks text → number (first + index) = start + index) :
    stripFrom (place.renumber number) start text =
      (stripFrom place first text).renumber number := by
  -- By induction along the moves, which are the same in both numberings.
  induction place, first, text using induction_on_moves generalizing start with
  | ended place first => cases place <;> rfl
  | @step place first text move moved ih =>
    have here : number first = start := by simpa using same 0 (by simp)
    have whole := moved.breaks_eq
    -- Behind the move both numberings have gone on by the line breaks that it takes.
    have inner := @ih (start + breaks move.taken) fun index inside => by
      have moved := same (breaks move.taken + index) (by omega)
      rw [Int.natCast_add, ← Int.add_assoc, ← Int.add_assoc] at moved
      exact moved
    rw [moved.stripFrom_eq, (moved.renumber here).stripFrom_eq]
    simp only [Move.renumber]
    rw [inner]
    simp [Stripped.renumber, Stripped.behind]

/-- A place whose comment starts on a line that keeps its number is the same place. -/
theorem Place.Sound.renumber {place : Place} {line : Int} (sound : place.Sound line)
    {number : Int → Int} (fixed : ∀ other, other ≤ line → number other = other) :
    place.renumber number = place := by
  -- Only the opener of a block comment is remembered by its line.
  cases place with
  | blockComment start => rw [Place.renumber, fixed start sound]
  | _ => rfl

/-- What is sound in front of a line break is sound behind it. -/
theorem Place.Sound.next {place : Place} {line : Int} (sound : place.Sound line) :
    place.next.Sound line := by
  -- A block comment goes on behind the break, and its opener stands further up than before.
  cases place with
  | blockComment start => exact sound
  | _ => trivial

/-- The outcome is the same on other lines, with the character kept in front or dropped. -/
def Gains (c : Char) (number : Int → Int) (stripped changed : Stripped) : Prop :=
  changed = (stripped.renumber number).keep c ∨ changed = stripped.renumber number ∧ c ≠ '\n'

/-- A line break is gained by the text behind a place when its lines move by one. -/
theorem gains_break {place : Place} {kept : Int} (sound : place.Sound kept) {line : Int}
    (large : kept < line) (rest : Text) :
    Gains '\n' (shiftBy '\n' kept) (stripFrom place line rest)
      ((stripFrom place (line + 1) rest).keep '\n') := by
  -- All that follows is one line further down.
  have moved := @stripFrom_renumber (shiftBy '\n' kept) place rest line (line + 1) fun index _ => by
    rw [shiftBy_of_lt (by omega)]
    omega
  rw [sound.renumber fun other small => shiftBy_of_le '\n' small] at moved
  exact .inl (by rw [moved])

/-- White space other than a line break is gained wherever it stands. -/
theorem gains_space {c : Char} (space : isSpace c = true) (unbroken : c ≠ '\n') {place : Place}
    {line : Int} (sound : place.Sound line) (kept : Int) (rest : Text) :
    Gains c (shiftBy c kept) (stripFrom place line rest) (stripFrom place line (c :: rest)) := by
  -- No line is moved.
  have same : ∀ stripped : Stripped, stripped.renumber (shiftBy c kept) = stripped := by
    intro stripped
    simp [shiftBy_of_ne unbroken, Stripped.renumber]
  rw [Gains, same]
  rcases stripFrom_space space unbroken sound with dropped | kept
  · exact .inr ⟨dropped rest, unbroken⟩
  · exact .inl (kept rest)

/-- White space at the start of a line is gained by what follows it. -/
theorem gains_start {c : Char} (space : isSpace c = true) {place : Place} {line : Int}
    (sound : place.Sound line) (rest : Text) :
    Gains c (shiftBy c line) (stripFrom place.next (line + 1) rest)
      (stripFrom place.next (line + 1) (c :: rest)) := by
  by_cases broken : c = '\n'
  · subst broken
    -- A second break leads to the same place as the first one.
    have again : place.next.next = place.next := by cases place <;> rfl
    rw [stripFrom_break, again]
    exact gains_break sound.next (by omega) rest
  · -- The next line starts in a place that can be reached from here.
    have later : place.next.Sound (line + 1) := by
      cases place with
      | blockComment start =>
        have opened : start ≤ line := sound
        exact show start ≤ line + 1 by omega
      | _ => trivial
    exact gains_space space broken later line rest

/-- White space at the end of a line is gained by the line break that follows it. -/
theorem gains_stop {c : Char} (space : isSpace c = true) {place : Place} {line : Int}
    (sound : place.Sound line) (rest : Text) :
    Gains c (shiftBy c line) (stripFrom place line ('\n' :: rest))
      (stripFrom place line (c :: '\n' :: rest)) := by
  by_cases broken : c = '\n'
  · subst broken
    -- A second break leads to the same place as the first one.
    have again : place.next.next = place.next := by cases place <;> rfl
    rcases gains_break sound.next (show line < line + 1 by omega) rest with gained | ⟨-, other⟩
    · refine .inl ?_
      rw [stripFrom_break, stripFrom_break, stripFrom_break, again]
      exact congrArg (Stripped.keep '\n') gained
    · exact absurd rfl other
  · -- Other white space joins the end of the line and adds no line of its own.
    exact gains_space space broken sound line _

/-- White space at the end of the source is gained as well. -/
theorem gains_last {c : Char} (space : isSpace c = true) {place : Place} {line : Int}
    (sound : place.Sound line) :
    Gains c (shiftBy c line) (stripFrom place line []) (stripFrom place line [c]) := by
  by_cases broken : c = '\n'
  · subst broken
    refine .inl ?_
    rw [stripFrom_break]
    -- At the end of a source only an open comment is still to be told, and it started above.
    cases place with
    | blockComment start =>
      have same : shiftBy '\n' line start = start := shiftBy_of_le '\n' sound
      simp [stripFrom, Place.next, Stripped.renumber, Stripped.keep, same]
    | _ => rfl
  · -- Other white space is gained like anywhere else.
    exact gains_space space broken sound line []

/-- What has been gained behind a text is gained by the whole. -/
theorem Gains.behind {c : Char} {number : Int → Int} {stripped changed : Stripped}
    (gained : Gains c number stripped changed) {nested : List Int}
    (fixed : ∀ line ∈ nested, number line = line) (front : Text) :
    (changed.behind front nested).nested = (stripped.behind front nested).nested.map number ∧
      (changed.behind front nested).unclosed =
        (stripped.behind front nested).unclosed.map number ∧
      ((changed.behind front nested).text = front ++ c :: stripped.text ∨
        (changed.behind front nested).text = (stripped.behind front nested).text ∧ c ≠ '\n') := by
  -- What was reported in front keeps its lines.
  have same : nested.map number = nested := by
    simpa using List.map_congr_left fixed
  rcases gained with rfl | ⟨rfl, unbroken⟩
  · simp [Stripped.behind, Stripped.renumber, Stripped.keep, same]
  · simp [Stripped.behind, Stripped.renumber, same, unbroken]

/-- A text carries the removal of comments from the first line of a source to its own last line. -/
theorem strip_append (before : Text) : ∃ front nested place, breaks front = breaks before ∧
    (∀ line ∈ nested, line ≤ ((breaks before + 1 : Nat) : Int)) ∧
    place.Sound ((breaks before + 1 : Nat) : Int) ∧ ∀ rest, Spaced rest →
      strip (before ++ rest) =
        (stripFrom place ((breaks before + 1 : Nat) : Int) rest).behind front nested := by
  -- Lines are counted from one on.
  have number : (1 : Int) + breaks before = ((breaks before + 1 : Nat) : Int) := by omega
  obtain ⟨front, nested, place, count, bounded, sound, read⟩ := @carries .code 1 trivial before
  rw [number] at bounded sound read
  exact ⟨front, nested, place, count, bounded, sound, read⟩

/-- Lines in front of the place stay where they are. -/
theorem fixed_of_le (c : Char) {kept : Int} {nested : List Int}
    (bounded : ∀ line ∈ nested, line ≤ kept) : ∀ line ∈ nested, shiftBy c kept line = line :=
  fun line member => shiftBy_of_le c (bounded line member)

/--
White space at the edge of a line moves the comments behind it by the lines it adds.

It stays at the edge of a line of what is left of the source, or it is part of a comment.
-/
theorem strip_insert {before after : Text} {kept : Nat} (edge : Edge before after kept) {c : Char}
    (space : isSpace c = true) :
    (strip (before ++ c :: after)).nested =
        (strip (before ++ after)).nested.map (shiftBy c kept) ∧
      (strip (before ++ c :: after)).unclosed =
        (strip (before ++ after)).unclosed.map (shiftBy c kept) ∧
      ((∃ front back, Edge front back kept ∧ (strip (before ++ after)).text = front ++ back ∧
          (strip (before ++ c :: after)).text = front ++ c :: back) ∨
        (strip (before ++ c :: after)).text = (strip (before ++ after)).text ∧ c ≠ '\n') := by
  have spaced : ∀ {d : Char} (rest : Text), isSpace d = true → Spaced (d :: rest) := by
    intro d rest space e first
    cases first
    exact space
  -- In front of the place nothing moves, and white space there is gained by what stands behind.
  cases edge with
  -- At the front of the source no comment is open.
  | front =>
    have gained := @gains_start c space .code 0 trivial after
    obtain ⟨nested, unclosed, text⟩ := @Gains.behind _ _ _ _ gained [] (by simp) []
    refine ⟨nested, unclosed, text.imp (fun kept => ?_) id⟩
    exact ⟨[], _, .front _, rfl, kept⟩
  -- The text in front of the place is read first, and leads to a place behind its last break.
  | start before =>
    obtain ⟨front, nested, place, count, bounded, sound, read⟩ := strip_append before
    have fixed := fixed_of_le c bounded
    have across : ∀ rest, strip (before ++ ['\n'] ++ rest) =
        (stripFrom place.next (((breaks before + 1 : Nat) : Int) + 1) rest).behind
          (front ++ ['\n']) nested := by
      intro rest
      rw [List.append_assoc, List.singleton_append, read _ (spaced rest (by decide)),
        stripFrom_break]
      simp [Stripped.behind, Stripped.keep]
    rw [across, across]
    obtain ⟨comments, unclosed, text⟩ := (gains_start space sound after).behind fixed
      (front ++ ['\n'])
    refine ⟨comments, unclosed, text.imp (fun kept => ?_) id⟩
    exact ⟨front ++ ['\n'], _, count ▸ Edge.start front _, rfl, kept⟩
  | stop _ after =>
    obtain ⟨front, nested, place, count, bounded, sound, read⟩ := strip_append before
    have fixed := fixed_of_le c bounded
    -- Behind the text in front the break is read next, with the white space or without it.
    rw [read _ (spaced _ space), read _ (spaced _ (by decide))]
    obtain ⟨comments, unclosed, text⟩ := (gains_stop space sound after).behind fixed front
    refine ⟨comments, unclosed, text.imp (fun kept => ?_) id⟩
    rw [stripFrom_break] at kept ⊢
    exact ⟨front, _, count ▸ Edge.stop front _, rfl, kept⟩
  | last =>
    obtain ⟨front, nested, place, count, bounded, sound, read⟩ := strip_append before
    have fixed := fixed_of_le c bounded
    -- At the end of the source nothing is left to be kept.
    have ended : (stripFrom place ((breaks before + 1 : Nat) : Int) []).text = [] := by
      cases place <;> rfl
    rw [read _ (spaced _ space), read _ (by simp [Spaced])]
    obtain ⟨comments, unclosed, text⟩ := (gains_last space sound).behind fixed front
    refine ⟨comments, unclosed, text.imp (fun kept => ?_) id⟩
    rw [ended] at kept
    exact ⟨front, [], count ▸ Edge.last front, by rw [Stripped.behind, ended], kept⟩

end SourceLint.Comment
