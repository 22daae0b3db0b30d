import Mathlib.Data.List.Basic
import SourceLint.Proofs.Insertion.Token
import SourceLint.Proofs.Lines

/-!
The tokens of a text cover it, and every line has tokens of its own.

Nothing but white space stands between two lexemes, so no other character is lost. A line that is
checked has the tokens that it would have as a text, and no token stands on a line that is not.
-/

namespace SourceLint

open Text

/-- A lexeme with the white space behind it. -/
structure Tile where
  token : Token
  gap : Text

/-- The part of a text that a tile takes. -/
def Tile.text (tile : Tile) : Text :=
  tile.token.lexeme ++ tile.gap

/-- A text that is made of tiles behind white space, its first line having the given number. -/
structure Tiling (first : Int) (text lead : Text) (tiles : List Tile) : Prop where
  whole : text = lead ++ tiles.flatMap Tile.text
  blankLead : ∀ c ∈ lead, isSpace c = true
  blankGap : ∀ tile ∈ tiles, ∀ c ∈ tile.gap, isSpace c = true
  filled : ∀ tile ∈ tiles, tile.token.lexeme ≠ []
  unbroken : ∀ tile ∈ tiles, '\n' ∉ tile.token.lexeme
  /-- The line of a token counts the line breaks in front of its lexeme. -/
  placed : ∀ index (inside : index < tiles.length), tiles[index].token.line =
    first + breaks (lead ++ (tiles.take index).flatMap Tile.text)

namespace Tiling

variable {first : Int} {text lead : Text} {tiles : List Tile}

/-- A text without characters has no tiles. -/
theorem nil (first : Int) : Tiling first [] [] [] where
  whole := rfl
  -- There is nothing to check of the tiles.
  blankLead := by simp
  blankGap := by simp
  filled := by simp
  unbroken := by simp
  placed := by simp

/-- A line break in front of a text moves its tiles to the next line. -/
theorem consBreak (tiling : Tiling (first + 1) text lead tiles) :
    Tiling first ('\n' :: text) ('\n' :: lead) tiles where
  whole := by rw [tiling.whole, List.cons_append]
  -- The line break is white space, and it adds one to the number of breaks in front of every tile.
  blankLead := List.forall_mem_cons.mpr ⟨by decide, tiling.blankLead⟩
  blankGap := tiling.blankGap
  filled := tiling.filled
  unbroken := tiling.unbroken
  placed := by
    intro index inside
    rw [tiling.placed index inside, List.cons_append, breaks_cons_break]
    omega

/-- Other white space in front of a text leaves its tiles where they are. -/
theorem consSpace {c : Char} (space : isSpace c = true) (unbroken : c ≠ '\n')
    (tiling : Tiling first text lead tiles) : Tiling first (c :: text) (c :: lead) tiles where
  whole := by rw [tiling.whole, List.cons_append]
  -- The character is white space, and it adds no line break.
  blankLead := List.forall_mem_cons.mpr ⟨space, tiling.blankLead⟩
  blankGap := tiling.blankGap
  filled := tiling.filled
  unbroken := tiling.unbroken
  placed := by
    intro index inside
    rw [tiling.placed index inside, List.cons_append, breaks_cons unbroken]

/-- A lexeme in front of a text takes the white space between them. -/
theorem consLexeme {token : Token} (here : token.line = first) (filled : token.lexeme ≠ [])
    (unbroken : '\n' ∉ token.lexeme) (tiling : Tiling first text lead tiles) :
    Tiling first (token.lexeme ++ text) [] (⟨token, lead⟩ :: tiles) where
  whole := by rw [tiling.whole, List.flatMap_cons, Tile.text, List.append_assoc, List.nil_append]
  blankLead := by simp
  blankGap := List.forall_mem_cons.mpr ⟨tiling.blankLead, tiling.blankGap⟩
  filled := List.forall_mem_cons.mpr ⟨filled, tiling.filled⟩
  unbroken := List.forall_mem_cons.mpr ⟨unbroken, tiling.unbroken⟩
  placed := by
    intro index inside
    cases index with
    | zero =>
      -- Nothing stands in front of the lexeme.
      simpa [breaks] using here
    | succ index =>
      -- The lexeme breaks no line, so only the white space behind it counts.
      have later := tiling.placed index (Nat.lt_of_succ_lt_succ inside)
      rw [List.getElem_cons_succ, later, List.take_succ_cons, List.flatMap_cons, Tile.text,
        List.nil_append, List.append_assoc, breaks_append token.lexeme, breaks_eq_zero unbroken,
        Nat.zero_add]

/-- The characters of a text other than white space are those of its lexemes, in order. -/
theorem filter_solid (tiling : Tiling first text lead tiles) :
    text.filter (fun c => !isSpace c) =
      (tiles.map Tile.token).flatMap fun token => token.lexeme.filter fun c => !isSpace c := by
  -- Gaps hold white space only, so nothing of them is left.
  have blank : ∀ {gap : Text}, (∀ c ∈ gap, isSpace c = true) →
      gap.filter (fun c => !isSpace c) = [] := by
    intro gap spaces
    exact List.filter_eq_nil_iff.mpr fun c member => by simp [spaces c member]
  rw [tiling.whole, List.filter_append, blank tiling.blankLead, List.nil_append,
    List.filter_flatMap, List.flatMap_map]
  -- Of a tile only the lexeme is left.
  refine List.flatMap_congr fun tile member => ?_
  rw [Tile.text, List.filter_append, blank (tiling.blankGap tile member), List.append_nil]

end Tiling

namespace Token

/-- The tokens of a text that stands behind another one cover it. -/
theorem exists_tiling (before : Option Char) (line : Int) (text : Text) :
    ∃ lead tiles, tiles.map Tile.token = tokenizeFrom before line text ∧
      Tiling line text lead tiles := by
  -- Each character is white space and goes to the lead, or it starts a lexeme.
  induction before, line, text using induction_on_lexemes with
  -- At the end there is neither a lead nor a tile.
  | ended before line => exact ⟨[], [], by simp [tokenizeFrom], .nil line⟩
  | lineBreak before line rest ih =>
    obtain ⟨lead, tiles, listed, tiling⟩ := ih
    exact ⟨'\n' :: lead, tiles, by rw [listed, tokenizeFrom_break], tiling.consBreak⟩
  | space before line c rest unbroken space ih =>
    obtain ⟨lead, tiles, listed, tiling⟩ := ih
    exact ⟨c :: lead, tiles, by rw [listed, tokenizeFrom_space _ _ unbroken space],
      tiling.consSpace space unbroken⟩
  | lexeme before line c rest unbroken solid ih =>
    -- The lexeme takes some characters of the text, and the induction goes on behind them.
    rw [tokenizeFrom_lexeme _ _ unbroken solid]
    have starts := lexemeTail_starts before c rest
    have inner := unbroken_lexemeTail before c rest
    generalize lexemeTail before c rest = tail at ih starts inner ⊢
    obtain ⟨lead, tiles, listed, tiling⟩ := ih
    -- The lexeme is read off the front of the text and ends with its line.
    obtain ⟨more, split⟩ := starts
    have whole : '\n' ∉ c :: tail := by
      rw [List.mem_cons, not_or]
      exact ⟨Ne.symm unbroken, inner⟩
    have covered := @tiling.consLexeme _ _ _ _ ⟨c :: tail, line, categorize (c :: tail)⟩ rfl
      (List.cons_ne_nil c tail) whole
    have front : c :: tail ++ rest.drop tail.length = c :: rest := by
      rw [← split, List.drop_left, List.cons_append]
    rw [front] at covered
    exact ⟨[], _, congrArg _ listed, covered⟩

/--
The lexemes of a text and the white space between them make up the text.

A token stands on the line of its lexeme, which is not empty and breaks no line. Apart from white
space, the text and its lexemes hold the same characters in the same order.
-/
theorem tokenize_tiles (text : Text) :
    ∃ lead tiles, tiles.map Tile.token = tokenize text ∧ Tiling 1 text lead tiles ∧
      text.filter (fun c => !isSpace c) =
        (tokenize text).flatMap fun token => token.lexeme.filter fun c => !isSpace c := by
  -- The whole text is one that nothing stands in front of.
  obtain ⟨lead, tiles, listed, tiling⟩ := exists_tiling none 1 text
  refine ⟨lead, tiles, listed, tiling, ?_⟩
  rw [tiling.filter_solid, listed]
  rfl

end Token

namespace LineReader

variable {α : Type} (reader : LineReader α)

/-- White space in front of a line is passed over. -/
theorem read_blank_append {blank : Text} (spaces : ∀ c ∈ blank, isSpace c = true)
    (unbroken : '\n' ∉ blank) (text : Text) (first : Int) :
    reader.read (blank ++ text) first = reader.read text first := by
  -- The characters are taken off one by one.
  induction blank with
  | nil => rfl
  | cons c blank ih =>
    rw [List.mem_cons, not_or] at unbroken
    rw [List.cons_append, reader.read_cons (spaces c (by simp)) (Ne.symm unbroken.1),
      ih (fun d member => spaces d (by simp [member])) unbroken.2]

/-- White space behind a line is passed over. -/
theorem read_append_blank {blank : Text} (spaces : ∀ c ∈ blank, isSpace c = true)
    (unbroken : '\n' ∉ blank) (text : Text) (first : Int) :
    reader.read (text ++ blank) first = reader.read text first := by
  -- The white space next to the line is made a part of it and goes last.
  induction blank generalizing text with
  | nil => rw [List.append_nil]
  | cons c blank ih =>
    rw [List.mem_cons, not_or] at unbroken
    rw [← List.singleton_append, ← List.append_assoc,
      ih (fun d member => spaces d (by simp [member])) unbroken.2,
      reader.read_concat (spaces c (by simp)) (Ne.symm unbroken.1)]

/-- A text of one line is read as its trimmed line, unless it is blank. -/
theorem read_line {line : Text} (unbroken : '\n' ∉ line) (first : Int) :
    reader.read line first =
      (prepareLines line first).flatMap fun line => reader.read line.text line.number := by
  -- White space on both sides holds no line break, so reading skips it.
  obtain ⟨lead, gap, split, indented, spaced⟩ := exists_eq_trim line
  have inLead : '\n' ∉ lead := fun member => unbroken (split ▸ by simp [member])
  have inGap : '\n' ∉ gap := fun member => unbroken (split ▸ by simp [member])
  have trimmed : reader.read line first = reader.read (trim line) first := by
    calc reader.read line first
        = reader.read (lead ++ (trim line ++ gap)) first := by rw [← split]
      _ = reader.read (trim line ++ gap) first := reader.read_blank_append indented inLead _ _
      _ = reader.read (trim line) first := reader.read_append_blank spaced inGap _ _
  -- So the trimmed line is the only one that is left to read.
  rw [trimmed, prepareLines, lines_single unbroken]
  -- Nothing is read from a blank line, which is not prepared.
  cases filled : trim line with
  | nil => simp [numberLines, filled, reader.read_nil]
  | cons c rest => simp [numberLines, filled]

/-- A text is read line by line, and only the lines that are not blank matter. -/
theorem read_eq_flatMap (text : Text) (first : Int) :
    reader.read text first =
      (prepareLines text first).flatMap fun line => reader.read line.text line.number := by
  -- The last line is split off, and the lines in front of it form a shorter text.
  rcases exists_last_line text with whole | ⟨before, line, split, whole⟩
  · exact reader.read_line whole first
  · have shorter : before.length < text.length := by simp [split]
    rw [split, reader.read_break, prepareLines_append_break, List.flatMap_append,
      read_eq_flatMap before, reader.read_line whole]
termination_by text.length

end LineReader

namespace Token

/-- The tokens of one line carry its number. -/
theorem tokenizeFrom_line {line : Text} (unbroken : '\n' ∉ line) (number : Int) :
    tokenizeFrom none number line =
      (tokenize line).map fun token => { token with line := number } := by
  refine @tokenizeFrom_renumber (fun _ => number) none line 1 number fun index inside => ?_
  -- A line breaks nowhere, so its only number is its own.
  rw [breaks_eq_zero unbroken, Nat.le_zero] at inside
  simp [inside]

/-- A text with a character other than white space has a token. -/
theorem tokenize_ne_nil {text : Text} {c : Char} (member : c ∈ text) (solid : isSpace c = false) :
    tokenize text ≠ [] := by
  intro none
  obtain ⟨lead, tiles, listed, tiling⟩ := exists_tiling Option.none 1 text
  -- Without tokens there are no tiles, and the whole text is white space.
  have empty : tiles = [] := List.map_eq_nil_iff.mp (listed.trans none)
  have whole : text = lead := by simpa [empty] using tiling.whole
  have space := tiling.blankLead c (whole ▸ member)
  rw [solid] at space
  cases space

/-- A line that is checked breaks nowhere and has a token. -/
theorem of_mem_prepareLines {text : Text} {first : Int} {line : NumberedLine}
    (member : line ∈ prepareLines text first) :
    '\n' ∉ line.text ∧ tokenize line.text ≠ [] := by
  obtain ⟨index, raw, found, trimmed, -⟩ := exists_of_mem_prepareLines member
  have filled : line.text ≠ [] := by simpa using (List.mem_filter.mp member).2
  constructor
  · -- The line is a part of a line of the text.
    obtain ⟨lead, gap, split, -, -⟩ := exists_eq_trim raw
    have unbroken := unbroken_of_mem_lines (List.mem_of_getElem? found)
    rw [trimmed]
    exact fun broken => unbroken (split ▸ by simp [broken])
  · -- A trimmed line does not end with white space.
    have ends := getLast?_trim raw
    rw [← trimmed, List.getLast?_eq_some_getLast filled, Option.any_some] at ends
    exact tokenize_ne_nil (List.getLast_mem filled) ends

/--
The tokens of a text are those of the lines that are checked, each on its own.

So a line has tokens exactly when it is checked.
-/
theorem tokenize_prepareLines (text : Text) :
    tokenize text = ((prepareLines text 1).flatMap fun line =>
        (tokenize line.text).map fun token => { token with line := line.number }) ∧
      ∀ number, (∃ token ∈ tokenize text, token.line = number) ↔
        ∃ line ∈ prepareLines text 1, line.number = number := by
  have byLine : tokenize text = (prepareLines text 1).flatMap fun line =>
      (tokenize line.text).map fun token => { token with line := line.number } := by
    -- Reading line by line puts the number of the line on every token.
    refine (tokenized.read_eq_flatMap text 1).trans (List.flatMap_congr fun line member => ?_)
    exact tokenizeFrom_line (of_mem_prepareLines member).1 line.number
  refine ⟨byLine, fun number => ?_⟩
  rw [byLine]
  constructor
  · -- Either way the token and its line are found in the list of all lines.
    rintro ⟨token, listed, same⟩
    obtain ⟨line, member, found⟩ := List.mem_flatMap.mp listed
    obtain ⟨own, -, rfl⟩ := List.mem_map.mp found
    exact ⟨line, member, same⟩
  · rintro ⟨line, member, same⟩
    -- Whichever token the line has, it carries the number of the line.
    obtain ⟨token, found⟩ := List.exists_mem_of_ne_nil _ (of_mem_prepareLines member).2
    refine ⟨{ token with line := line.number }, ?_, same⟩
    exact List.mem_flatMap.mpr ⟨line, member, List.mem_map.mpr ⟨token, found, rfl⟩⟩

end Token

end SourceLint
