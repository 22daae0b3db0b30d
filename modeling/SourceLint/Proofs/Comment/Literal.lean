import SourceLint.Proofs.Comment.Uncommented
import SourceLint.Proofs.Insertion.Mask

/-!
The literals of a source, as the removal of comments and as the masked view see them.

The one reads the whole source and the other what is left of it, line by line. They still find the
same characters inside literals, so no comment shows in the masked view of what is left.
-/

namespace SourceLint.Text

/-- A source masked line by line, given the literal that its first line starts in. -/
def maskSourceFrom (fill : Char) (inside : Option Char) (source : Text) : Text :=
  let (first, others) := cutWhere (· == '\n') source
  join ['\n'] (maskFrom [fill] inside first :: others.map (maskWith [fill]))

/-- A position at which the masked view of a source shows the fill, whatever the fill is. -/
def Hidden (source : Text) (index : Nat) : Prop :=
  ∀ fill, (join ['\n'] ((lines source).map (maskWith [fill])))[index]? = some fill

/-- Characters that are no separators make the first piece longer. -/
theorem cutWhere_append {separates : Char → Bool} {front : Text}
    (uncut : ∀ c ∈ front, separates c = false) (text : Text) :
    cutWhere separates (front ++ text) =
      (front ++ (cutWhere separates text).1, (cutWhere separates text).2) := by
  -- Each of the characters goes to the front of the first piece.
  induction front with
  | nil => rfl
  | cons c front ih =>
    have others := ih fun d member => uncut d (by simp [member])
    simp [cutWhere, uncut c (by simp), others]

/-- Nothing shows for an empty source. -/
@[simp] theorem maskSourceFrom_nil (fill : Char) (inside : Option Char) :
    maskSourceFrom fill inside [] = [] := by
  cases inside <;> rfl

/-- A line break shows, and no literal goes on behind it. -/
@[simp] theorem maskSourceFrom_break (fill : Char) (inside : Option Char) (rest : Text) :
    maskSourceFrom fill inside ('\n' :: rest) = '\n' :: maskSourceFrom fill none rest := by
  cases inside <;> rfl

/-- Characters in front of a source are masked together with its first line. -/
theorem maskSourceFrom_append (front shown : Text) {fill : Char} {inside next : Option Char}
    {rest : Text} (unbroken : '\n' ∉ front)
    (masked : maskFrom [fill] inside (front ++ (cutWhere (· == '\n') rest).1) =
      shown ++ maskFrom [fill] next (cutWhere (· == '\n') rest).1) :
    maskSourceFrom fill inside (front ++ rest) = shown ++ maskSourceFrom fill next rest := by
  -- The front only makes the first line longer.
  have uncut : ∀ c ∈ front, (c == '\n') = false := by
    intro c member
    rw [beq_eq_false_iff_ne]
    rintro rfl
    exact unbroken member
  simp only [maskSourceFrom, cutWhere_append uncut, masked, join_append_cons]

/-- Outside a literal every character shows, and a quote opens a literal. -/
theorem maskSourceFrom_outside (fill : Char) {c : Char} (unbroken : c ≠ '\n') (rest : Text) :
    maskSourceFrom fill none (c :: rest) =
      c :: maskSourceFrom fill (if isQuote c then some c else none) rest :=
  maskSourceFrom_append [c] [c] (by simpa using Ne.symm unbroken) (maskFrom_outside [fill] c _)

/-- A character of a literal is replaced, unless it is the delimiter that ends the literal. -/
theorem maskSourceFrom_inside (fill quote : Char) {c : Char} (unbroken : c ≠ '\n')
    (unescaped : c ≠ backslash) (rest : Text) :
    maskSourceFrom fill (some quote) (c :: rest) =
      if c = quote then c :: maskSourceFrom fill none rest
      else fill :: maskSourceFrom fill (some quote) rest := by
  -- The character is no line break, so it belongs to the first line of what follows.
  have single : '\n' ∉ [c] := by simpa using Ne.symm unbroken
  have masked := maskFrom_inside [fill] quote (cutWhere (· == '\n') rest).1 unescaped
  split
  case isTrue closes =>
    rw [if_pos closes] at masked
    exact maskSourceFrom_append [c] [c] single masked
  case isFalse other =>
    rw [if_neg other] at masked
    exact maskSourceFrom_append [c] [fill] single masked

/-- An escape is replaced together with the character that it hides. -/
theorem maskSourceFrom_escape (fill quote : Char) {hidden : Char} (unbroken : hidden ≠ '\n')
    (rest : Text) :
    maskSourceFrom fill (some quote) (backslash :: hidden :: rest) =
      fill :: fill :: maskSourceFrom fill (some quote) rest :=
  -- Neither of the two is a line break, so the first line of what follows is masked behind them.
  maskSourceFrom_append [backslash, hidden] [fill, fill]
    (by simpa [backslash] using Ne.symm unbroken) (by simp [maskFrom])

/-- A backslash at the end of a line is replaced. -/
theorem maskSourceFrom_lastBackslash (fill : Char) {quote : Char} (opens : isQuote quote = true)
    {rest : Text} (ends : ∀ c ∈ rest.head?, c = '\n') :
    maskSourceFrom fill (some quote) (backslash :: rest) =
      fill :: maskSourceFrom fill (some quote) rest := by
  have unescaped : backslash ≠ quote := (unescaped_of_isQuote opens).symm
  -- Nothing is left of the line for the backslash to hide.
  have empty : (cutWhere (· == '\n') rest).1 = [] := by
    cases rest with
    | nil => rfl
    | cons c rest => simp [cutWhere, ends c rfl]
  refine maskSourceFrom_append [backslash] [fill] (by decide) ?_
  simp [empty, maskFrom, unescaped]

end SourceLint.Text

namespace SourceLint.Comment

open Text

namespace Moved

variable {line : Int} {place : Place} {text : Text} {move : Move}

/-- Only quotes open literals. -/
theorem quoted_next (moved : Moved line place text move) (quoted : Quoted place.inside) :
    Quoted move.next.inside := by
  -- Each move leads to a place in which a literal is open or not.
  cases moved with
  | lineBreak =>
    rw [Place.inside_next]
    exact quoted_none
  | plain =>
    rw [apply_ite Place.inside]
    exact quoted_opened _
  -- Inside a literal the delimiter stays the same until it is found.
  | content =>
    dsimp only
    split
    · exact quoted_none
    · exact quoted
  | escape => exact quoted
  | lastBackslash => exact quoted
  | _ => exact quoted_none

/-- A move inside a literal shows the fill for what it keeps, and any other shows what it keeps. -/
theorem maskSourceFrom_eq (moved : Moved line place text move) (quoted : Quoted place.inside)
    (fill : Char) {left : Text}
    (stripped : left = (stripFrom move.next (line + breaks move.taken)
      (text.drop move.taken.length)).text) :
    maskSourceFrom fill place.inside (move.kept ++ left) =
      (if place.inside.isSome && move.next.inside.isSome then
        List.replicate move.kept.length fill else move.kept) ++
        maskSourceFrom fill move.next.inside left := by
  cases moved with
  | lineBreak => simp [Place.inside_next]
  -- A quote that opens a literal shows, although the place behind it is inside.
  | plain unbroken =>
    simp only [Place.inside, List.cons_append, List.nil_append, maskSourceFrom_outside _ unbroken]
    split <;> simp
  | escape quote unbroken => simp [Place.inside, maskSourceFrom_escape _ _ unbroken]
  | lastBackslash quote ends =>
    -- The line ends behind the backslash in what is left as it does in the text.
    have opens : isQuote quote = true := quoted quote rfl
    have behind : ∀ c ∈ left.head?, c = '\n' := stripped ▸ head?_stripFrom_ends _ _ ends
    simp [Place.inside, maskSourceFrom_lastBackslash _ opens behind]
  | content quote unbroken unescaped =>
    simp only [Place.inside, List.cons_append, List.nil_append,
      maskSourceFrom_inside _ _ unbroken unescaped]
    split <;> simp
  -- Nothing is kept of a comment, and all of its places are outside of literals.
  | _ => rfl

end Moved

namespace Reader

/-- Whether the next move of the reader stays inside a literal. -/
def hides (reader : Reader) : Bool :=
  reader.place.inside.isSome && reader.next.place.inside.isSome

/-- What the next move of the reader keeps. -/
def keeps (reader : Reader) : Text :=
  reader.next.kept.drop reader.kept.length

/-- What is kept of the rest. -/
def ahead (reader : Reader) : Text :=
  (stripFrom reader.place reader.line reader.rest).text

/-- What is kept after a move is what was kept before and what the move keeps. -/
theorem kept_next (reader : Reader) : reader.next.kept = reader.kept ++ reader.keeps := by
  -- The reader stands still and keeps nothing, or the move tells what it keeps.
  rw [keeps]
  rcases reader.next_cases with ⟨-, same⟩ | ⟨move, -, step⟩
  · simp [same]
  · simp [step, advance]

/-- Only quotes open literals. -/
theorem quoted_next {reader : Reader} (quoted : Quoted reader.place.inside) :
    Quoted reader.next.place.inside := by
  -- A reader that stands still stays in its literal.
  rcases reader.next_cases with ⟨-, same⟩ | ⟨move, moved, step⟩
  · rwa [same]
  · rw [step]
    exact moved.quoted_next quoted

/-- A move inside a literal shows the fill for what it keeps, and any other shows what it keeps. -/
theorem maskSourceFrom_ahead {reader : Reader} (quoted : Quoted reader.place.inside)
    (fill : Char) :
    maskSourceFrom fill reader.place.inside reader.ahead =
      (if reader.hides then List.replicate reader.keeps.length fill else reader.keeps) ++
        maskSourceFrom fill reader.next.place.inside reader.next.ahead := by
  have both := reader.kept_next
  rw [hides]
  rcases reader.next_cases with ⟨ended, same⟩ | ⟨move, moved, step⟩
  · -- At the end of the source nothing is kept any more.
    have nothing : reader.keeps = [] := by simpa [same] using both
    simp [same, nothing]
  · -- What lies ahead starts with what the move keeps.
    rw [step] at both ⊢
    have kept : reader.keeps = move.kept := (List.append_cancel_left both).symm
    have left : reader.ahead = move.kept ++ (reader.advance move).ahead := by
      rw [ahead, moved.stripFrom_eq, ahead, line_advance]
      rfl
    rw [left, kept]
    exact moved.maskSourceFrom_eq quoted fill (by rw [ahead, line_advance]; rfl)

end Reader

/-- A position of what is left of a source whose character was read inside a literal. -/
def InLiteral (source : Text) (index : Nat) : Prop :=
  ∃ moves, (reader source moves).hides = true ∧ (reader source moves).kept.length ≤ index ∧
    index < (reader source (moves + 1)).kept.length

/-- The reader only ever stands in literals that a quote delimits. -/
theorem quoted_reader (source : Text) (moves : Nat) :
    Quoted (reader source moves).place.inside := by
  -- By induction on the moves, the first of them starting outside of literals.
  induction moves with
  | zero => exact quoted_none
  | succ moves ih => exact Reader.quoted_next ih

/-- What is left of a source starts with what its reader has kept. -/
theorem kept_append_ahead (source : Text) (moves : Nat) :
    (reader source moves).kept ++ (reader source moves).ahead = (strip source).text := by
  -- The outcome of the source is put behind what has been kept so far.
  rw [strip_eq_outcome source moves]
  rfl

/-- Behind what the reader has kept, what is left is masked from the place of the reader. -/
theorem drop_maskSourceFrom (source : Text) (fill : Char) (moves : Nat) :
    (maskSourceFrom fill none (strip source).text).drop (reader source moves).kept.length =
      maskSourceFrom fill (reader source moves).place.inside (reader source moves).ahead := by
  -- By induction on the moves. At first nothing has been kept.
  induction moves with
  | zero =>
    rw [← kept_append_ahead source 0]
    rfl
  | succ moves ih =>
    -- The move shows as many characters as it keeps.
    rw [Reader.maskSourceFrom_ahead (quoted_reader source moves)] at ih
    rw [reader, Reader.kept_next, List.length_append, ← List.drop_drop, ih]
    split <;> simp

/-- A reader keeps no less than it has kept before. -/
theorem length_kept_le (source : Text) {earlier later : Nat} (ordered : earlier ≤ later) :
    (reader source earlier).kept.length ≤ (reader source later).kept.length := by
  -- A move adds to what is kept or leaves it as it is.
  induction ordered with
  | refl => exact Nat.le_refl _
  | @step later _ ih =>
    rw [reader, Reader.kept_next, List.length_append]
    omega

/-- Every character that is kept is kept by some move. -/
theorem exists_move {source : Text} {index moves : Nat}
    (kept : index < (reader source moves).kept.length) :
    ∃ move, (reader source move).kept.length ≤ index ∧
      index < (reader source (move + 1)).kept.length := by
  induction moves with
  | zero => simp [reader] at kept
  | succ moves ih =>
    -- It has been kept before the last move or by it.
    rcases Nat.lt_or_ge index (reader source moves).kept.length with before | here
    · exact ih before
    · exact ⟨moves, here, kept⟩

/-- A character is read inside a literal exactly if the move that keeps it stays inside one. -/
theorem inLiteral_iff {source : Text} {index moves : Nat}
    (first : (reader source moves).kept.length ≤ index)
    (last : index < (reader source (moves + 1)).kept.length) :
    InLiteral source index ↔ (reader source moves).hides = true := by
  refine ⟨?_, fun hides => ⟨moves, hides, first, last⟩⟩
  rintro ⟨other, hides, start, stop⟩
  -- No other move keeps a character at this position.
  rcases Nat.lt_trichotomy other moves with before | rfl | behind
  · -- What one move keeps ends where the next one starts.
    have earlier : (reader source (other + 1)).kept.length ≤ _ := length_kept_le source before
    omega
  · exact hides
  · have later : (reader source (moves + 1)).kept.length ≤ _ := length_kept_le source behind
    omega

/-- What shows at a position that is kept by a move. -/
theorem getElem?_maskSourceFrom {source : Text} {index moves : Nat} (fill : Char)
    (first : (reader source moves).kept.length ≤ index)
    (last : index < (reader source (moves + 1)).kept.length) :
    (maskSourceFrom fill none (strip source).text)[index]? =
      if (reader source moves).hides then some fill else (strip source).text[index]? := by
  -- The position is counted from where the move starts, in both texts.
  obtain ⟨offset, rfl⟩ := Nat.exists_eq_add_of_le first
  have masked := drop_maskSourceFrom source fill moves
  -- So it falls into what the move keeps, which shows as the fill or as it is.
  rw [Reader.maskSourceFrom_ahead (quoted_reader source moves)] at masked
  have whole := kept_append_ahead source (moves + 1)
  rw [reader, Reader.kept_next] at last whole
  have inside : offset < (reader source moves).keeps.length := by
    rw [List.length_append] at last
    omega
  rw [← List.getElem?_drop, masked, ← whole]
  split
  · rw [List.getElem?_append_left (by simpa using inside), List.getElem?_replicate, if_pos inside]
  · rw [List.getElem?_append_left inside, List.append_assoc,
      List.getElem?_append_right (Nat.le_add_right _ _), Nat.add_sub_cancel_left,
      List.getElem?_append_left inside]

/-- A text in which no comment is opened. -/
def Unopened (text : Text) : Prop :=
  ¬ ['/', '/'] <:+: text ∧ ¬ ['/', '*'] <:+: text

/-- A character opens no comment in front of another text, unless it is a slash before a marker. -/
theorem Unopened.cons {c : Char} {text : Text}
    (uncommented : c = '/' → text.head? ≠ some '*' ∧ text.head? ≠ some '/')
    (behind : Unopened text) : Unopened (c :: text) := by
  -- What stands behind the character has no openers of its own.
  obtain ⟨unremarked, unopened⟩ := behind
  -- An opener that is new would start with the character in front.
  have apart : ∀ d : Char, (c = '/' → text.head? ≠ some d) → ¬ ['/', d] <+: c :: text := by
    rintro d other ⟨rest, starts⟩
    cases starts
    exact other rfl rfl
  constructor
  · rw [List.infix_cons_iff]
    exact not_or.mpr ⟨apart '/' fun slash => (uncommented slash).2, unremarked⟩
  · rw [List.infix_cons_iff]
    exact not_or.mpr ⟨apart '*' fun slash => (uncommented slash).1, unopened⟩

/-- Outside of literals the masked view shows the first character of a source. -/
theorem head?_maskSourceFrom (fill : Char) (source : Text) :
    (maskSourceFrom fill none source).head? = source.head? := by
  -- A line break shows as well, and so does any other first character.
  cases source with
  | nil => rfl
  | cons c rest =>
    by_cases broken : c = '\n'
    · simp [broken]
    · simp [maskSourceFrom_outside fill broken]

/-- No comment is opened in the masked view of a text without comments. -/
theorem Uncommented.unopened_mask {inside : Option Char} {text : Text}
    (uncommented : Uncommented inside text) (quoted : Quoted inside) :
    Unopened (maskSourceFrom 's' inside text) := by
  -- The fill is no slash, so nothing inside a literal opens a comment.
  have filled : ∀ {shown : Text}, Unopened shown → Unopened ('s' :: shown) :=
    Unopened.cons (by simp)
  -- By induction on the text without comments.
  induction uncommented with
  | nil => simp [Unopened]
  | @plain c rest plain _ ih =>
    have behind := ih (quoted_opened c)
    by_cases broken : c = '\n'
    · subst broken
      rw [maskSourceFrom_break]
      exact behind.cons (by simp)
    · rw [maskSourceFrom_outside _ broken]
      refine behind.cons fun slash => ?_
      -- A slash opens no literal, so what follows it shows.
      have outside : isQuote c = false := by rw [slash]; rfl
      rw [outside]
      simpa [head?_maskSourceFrom] using plain slash
  | lineBreak quote _ ih =>
    rw [maskSourceFrom_break]
    exact (ih quoted_none).cons (by simp)
  -- Inside a literal both characters of an escape are filled.
  | escape unbroken _ ih =>
    rw [maskSourceFrom_escape _ _ unbroken]
    exact filled (filled (ih quoted))
  | lastBackslash ends _ ih =>
    rw [maskSourceFrom_lastBackslash _ (quoted _ rfl) ends]
    exact filled (ih quoted)
  | @content quote c rest unbroken unescaped _ ih =>
    rw [maskSourceFrom_inside _ _ unbroken unescaped]
    split
    case isTrue closes =>
      -- A delimiter is no slash.
      have unslashed : c ≠ '/' := by
        rintro rfl
        exact absurd (quoted quote rfl) (closes ▸ by decide)
      rw [if_pos closes] at ih
      exact (ih quoted_none).cons fun slash => absurd slash unslashed
    case isFalse other =>
      rw [if_neg other] at ih
      exact filled (ih quoted)

/-- The masked view shows the character at a position that is not inside a literal. -/
theorem getElem?_maskSourceFrom_of_not_inLiteral {source : Text} {index : Nat}
    (outside : ¬ InLiteral source index) (fill : Char) :
    (maskSourceFrom fill none (strip source).text)[index]? = (strip source).text[index]? := by
  have kept : (strip source).text = (reader source source.length).kept := by rw [strip_eq]
  -- Inside the text the position is kept by some move.
  rcases Nat.lt_or_ge index (strip source).text.length with within | beyond
  · obtain ⟨moves, first, last⟩ := exists_move (kept ▸ within)
    rw [inLiteral_iff first last] at outside
    rw [getElem?_maskSourceFrom fill first last, if_neg outside]
  · -- Nothing shows behind the end, since nothing is kept of an empty rest.
    have ends : (maskSourceFrom fill none (strip source).text).drop
        (strip source).text.length = [] := by
      have last := drop_maskSourceFrom source fill source.length
      rw [← kept] at last
      rw [last, Reader.ahead, rest_eq_nil (Nat.le_refl _)]
      cases (reader source source.length).place <;> simp [stripFrom]
    rw [List.getElem?_eq_none beyond,
      List.getElem?_eq_none (Nat.le_trans (List.drop_eq_nil_iff.mp ends) beyond)]

/-- The masked view of a source hides exactly the positions inside literals. -/
theorem hidden_iff (source : Text) (index : Nat) :
    Hidden (strip source).text index ↔ InLiteral source index := by
  constructor
  · intro hidden
    by_contra outside
    -- The character that shows there would have to be every fill at once.
    have shown := fun fill =>
      (hidden fill).symm.trans (getElem?_maskSourceFrom_of_not_inLiteral outside fill)
    exact absurd ((shown 'a').trans (shown 'b').symm) (by simp)
  · -- The move that keeps the position hides it, whatever the fill is.
    rintro ⟨moves, hides, first, last⟩ fill
    exact (getElem?_maskSourceFrom fill first last).trans (if_pos hides)

/-- A line break stands wherever the masked view shows one. -/
theorem getElem?_maskSource_break (source : Text) (index : Nat) :
    (maskSource source)[index]? = some '\n' ↔ source[index]? = some '\n' := by
  -- A text has its breaks where the list of its breaks says so.
  have broken : ∀ text : Text,
      text[index]? = some '\n' ↔ (text.map (· == '\n'))[index]? = some true := by
    intro text
    simp
  rw [broken, map_maskSource, ← broken]

/--
The removal of comments and the masked view agree on literals.

The masked view of what is left of a source has the length of that text and its line breaks, and no
comment is opened in it. It hides exactly the characters that were read inside a literal, and it
shows all others.
-/
theorem maskSource_strip (source : Text) :
    (maskSource (strip source).text).length = (strip source).text.length ∧
      (∀ index : Nat, (maskSource (strip source).text)[index]? = some '\n' ↔
        (strip source).text[index]? = some '\n') ∧
      ¬ ['/', '/'] <:+: maskSource (strip source).text ∧
      ¬ ['/', '*'] <:+: maskSource (strip source).text ∧
      (∀ index, Hidden (strip source).text index ↔ InLiteral source index) ∧
      ∀ index, ¬ InLiteral source index →
        (maskSource (strip source).text)[index]? = (strip source).text[index]? := by
  -- The first two parts hold of every text, and the next two of every text without comments.
  obtain ⟨unremarked, unopened⟩ := (uncommented_strip source).unopened_mask quoted_none
  exact ⟨length_maskSource _, getElem?_maskSource_break _, unremarked, unopened, hidden_iff source,
    fun _ outside => getElem?_maskSourceFrom_of_not_inLiteral outside 's'⟩

end SourceLint.Comment
