import SourceLint.Proofs.Text.Class
import SourceLint.Proofs.Text.Span
import SourceLint.Text.Bracket

/-! The masked view of texts that are put together from parts. -/

namespace SourceLint.Text

/-- What holds of both quotes holds of every quote. -/
@[elab_as_elim] theorem forall_isQuote {motive : Char → Prop} {c : Char} (quote : isQuote c = true)
    (single : motive singleQuote) (double : motive doubleQuote) : motive c := by
  -- There are only two quotes.
  simp only [isQuote, Bool.or_eq_true, beq_iff_eq] at quote
  rcases quote with rfl | rfl
  · exact single
  · exact double

/-- A delimiter escapes nothing. -/
theorem unescaped_of_isQuote {quote : Char} (opens : isQuote quote = true) : quote ≠ backslash := by
  exact ne_of_class opens (by decide)

/-- Outside a literal every character shows, and a quote opens a literal. -/
theorem maskFrom_outside (fill : Text) (c : Char) (rest : Text) :
    maskFrom fill none (c :: rest) =
      c :: maskFrom fill (if isQuote c then some c else none) rest := by
  rw [maskFrom]

/-- A character of a literal is replaced, unless it is the delimiter that ends the literal. -/
theorem maskFrom_inside (fill : Text) (quote : Char) {c : Char} (rest : Text)
    (plain : c ≠ backslash) :
    maskFrom fill (some quote) (c :: rest) =
      if c = quote then c :: maskFrom fill none rest
      else fill ++ maskFrom fill (some quote) rest := by
  -- The last character of a text has no character to hide, which changes nothing here.
  cases rest <;> simp [maskFrom, plain]

/-- An escape is replaced together with the character that it hides. -/
theorem maskFrom_escape (fill : Text) (quote hidden : Char) (rest : Text) :
    maskFrom fill (some quote) (backslash :: hidden :: rest) =
      fill ++ fill ++ maskFrom fill (some quote) rest := by
  rw [maskFrom, if_pos rfl]

/-- The delimiter of a literal shows, and ends it. -/
theorem maskFrom_delimiter (fill : Text) {quote : Char} (opens : isQuote quote = true)
    (rest : Text) :
    maskFrom fill (some quote) (quote :: rest) = quote :: maskFrom fill none rest := by
  -- A delimiter escapes nothing, so it is read on its own.
  rw [maskFrom_inside _ _ _ (unescaped_of_isQuote opens), if_pos rfl]

/-- Any other character of a literal is replaced on its own, also an escape of nothing. -/
theorem maskFrom_content (fill : Text) {quote c : Char} {rest : Text} (other : c ≠ quote)
    (last : c = backslash → rest = []) :
    maskFrom fill (some quote) (c :: rest) = fill ++ maskFrom fill (some quote) rest := by
  by_cases escape : c = backslash
  · -- There is nothing behind the escape that it could hide.
    simp [last escape, maskFrom, other]
  · rw [maskFrom_inside _ _ _ escape, if_neg other]

/-- The literal that a text stands in, if there is one, is delimited by a quote. -/
def Quoted (inside : Option Char) : Prop :=
  ∀ quote ∈ inside, isQuote quote = true

/-- Outside of literals there is no delimiter. -/
theorem quoted_none : Quoted none := by
  simp [Quoted]

/-- A character opens a literal only if it is a quote. -/
theorem quoted_opened (c : Char) : Quoted (if isQuote c then some c else none) := by
  -- What is opened is the character itself, which has been found to be one.
  intro quote member
  split at member
  case isTrue opens =>
    cases member
    exact opens
  case isFalse => cases member

/-- How a text is read when it is masked, step by step, from the literal that it starts in. -/
inductive Masking : (inside : Option Char) → Text → Prop
  /-- The text is over, whether a literal is open or not. -/
  | ended (inside : Option Char) (quoted : Quoted inside) : Masking inside []
  /-- A character outside literals, which opens one if it is a quote. -/
  | outside (c : Char) {rest : Text} (behind : Masking (if isQuote c then some c else none) rest) :
      Masking none (c :: rest)
  /-- An escape in a literal, with the character that it hides. -/
  | escape {quote : Char} (hidden : Char) {rest : Text} (behind : Masking (some quote) rest) :
      Masking (some quote) (backslash :: hidden :: rest)
  /-- The delimiter that ends a literal. -/
  | delimiter {quote : Char} (opens : isQuote quote = true) {rest : Text}
      (behind : Masking none rest) : Masking (some quote) (quote :: rest)
  /-- Any other character of a literal. An escape is one if it is the last character. -/
  | content {quote c : Char} (other : c ≠ quote) {rest : Text} (last : c = backslash → rest = [])
      (behind : Masking (some quote) rest) : Masking (some quote) (c :: rest)

/-- Every text is read so, if the literal that it starts in has a delimiter. -/
theorem masking {inside : Option Char} (quoted : Quoted inside) (text : Text) :
    Masking inside text := by
  -- The induction is on what is left of the text, since an escape takes two characters at once.
  induction size : text.length using Nat.strongRecOn generalizing inside text with
  | _ size ih =>
    subst size
    cases text with
    | nil => exact .ended inside quoted
    | cons c rest =>
      -- A character of a literal ends it, escapes another one or is just replaced.
      cases inside with
      | none => exact .outside c (ih _ (by simp) (quoted_opened c) rest rfl)
      | some quote =>
        by_cases ends : c = quote
        · subst ends
          exact .delimiter (quoted c rfl) (ih _ (by simp) quoted_none rest rfl)
        · by_cases escape : c = backslash
          · -- An escape takes the character behind it, if there is one.
            cases rest with
            | nil => exact .content ends (fun _ => rfl) (.ended _ quoted)
            | cons hidden rest =>
              subst escape
              exact .escape hidden (ih _ (by simp only [List.length_cons]; omega) quoted rest rfl)
          · exact .content ends (fun same => absurd same escape) (ih _ (by simp) quoted rest rfl)

/-- A fill of one character keeps the length of a text. -/
theorem length_maskFrom (fill : Char) (inside : Option Char) (text : Text) :
    (maskFrom [fill] inside text).length = text.length := by
  -- An escape replaces two characters, and every other step replaces or keeps one.
  fun_induction maskFrom [fill] inside text <;> simp_all

/-- The masked view of a line is as long as the line. -/
@[simp] theorem length_mask (line : Text) : (mask line).length = line.length :=
  length_maskFrom 's' none line

/-- A masked text shows its own character at a place, or the fill. -/
theorem getElem?_maskFrom {fill c : Char} {inside : Option Char} (quoted : Quoted inside)
    {text : Text} {index : Nat} (shown : (maskFrom [fill] inside text)[index]? = some c) :
    c = fill ∨ text[index]? = some c := by
  -- The place is in what the first step takes, or behind it.
  induction masking quoted text generalizing index with
  | ended => simp [maskFrom] at shown
  | outside d _ ih =>
    rw [maskFrom_outside] at shown
    cases index with
    | zero => exact .inr shown
    | succ index => exact ih (quoted_opened d) shown
  | escape hidden _ ih =>
    -- What an escape hides is hidden whatever it is.
    rw [maskFrom_escape] at shown
    -- An escape takes two places, and the fill shows at both.
    rcases index with _ | _ | index
    · exact .inl (Option.some.inj shown).symm
    · exact .inl (Option.some.inj shown).symm
    · exact ih quoted shown
  -- The delimiter shows itself, so its place is like one outside literals.
  | delimiter opens _ ih =>
    rw [maskFrom_delimiter _ opens] at shown
    cases index with
    | zero => exact .inr shown
    | succ index => exact ih quoted_none shown
  | content other last _ ih =>
    rw [maskFrom_content _ other last] at shown
    cases index with
    | zero => exact .inl (Option.some.inj shown).symm
    | succ index => exact ih quoted shown

/-- A place of the masked view shows the character that stands there, or the fill. -/
theorem getElem?_mask {c : Char} {text : Text} {index : Nat}
    (shown : (mask text)[index]? = some c) : c = 's' ∨ text[index]? = some c :=
  -- No literal is open at the start.
  getElem?_maskFrom quoted_none shown

/-- A character shows itself or the fill. -/
theorem shown_of_mem_marked {text : Text} {pair : Char × Char} (member : pair ∈ marked text) :
    pair.2 = pair.1 ∨ pair.2 = 's' := by
  -- A pair has what stands at a place, and what shows there.
  obtain ⟨index, found⟩ := List.mem_iff_getElem?.mp member
  obtain ⟨own, shows⟩ := List.getElem?_zip_eq_some.mp found
  rcases getElem?_mask shows with fill | same
  · exact .inr fill
  · exact .inl (Option.some.inj (same.symm.trans own))

/-- A place that is not in a class shows nothing of it, if the fill is not in it. -/
theorem any_getElem?_mask {p : Char → Bool} (fill : p 's' = false) {text : Text} {index : Nat}
    (own : text[index]?.any p = false) : (mask text)[index]?.any p = false := by
  -- What shows there is the fill, or what stands there.
  rw [Option.any_eq_false]
  intro c shown
  rcases getElem?_mask shown with rfl | same
  · simp [fill]
  · simpa [same] using own

/-- The masked view of a text ends outside a class when the text and the fill are outside. -/
theorem any_getLast?_mask {p : Char → Bool} (fill : p 's' = false) {text : Text}
    (own : text.getLast?.any p = false) : (mask text).getLast?.any p = false := by
  -- The last place of the view is that of the text, since both are equally long.
  rw [List.getLast?_eq_getElem?] at own ⊢
  rw [length_mask]
  exact any_getElem?_mask fill own

/--
Masking a masked text anew is masking the text itself.

The first fill must be no quote and no backslash, so that it neither ends a literal nor hides what
follows it.
-/
theorem maskFrom_maskFrom {fill : Char} (unquoted : isQuote fill = false)
    (plain : fill ≠ backslash) (other : Char) {inside : Option Char}
    (quoted : ∀ quote ∈ inside, isQuote quote = true) (text : Text) :
    maskFrom [other] inside (maskFrom [fill] inside text) = maskFrom [other] inside text := by
  -- Inside a literal the fill is replaced like what it replaced before.
  have filled : ∀ {quote : Char}, isQuote quote = true → ∀ rest : Text,
      maskFrom [other] (some quote) (fill :: rest) =
        other :: maskFrom [other] (some quote) rest := by
    intro quote opens rest
    have differs : fill ≠ quote := (ne_of_class opens unquoted).symm
    rw [maskFrom_inside _ _ _ plain, if_neg differs, List.singleton_append]
  -- Outside literals the view has the same characters, so the same literals are open in it.
  induction masking quoted text with
  | ended => rfl
  | outside c _ ih =>
    rw [maskFrom_outside, maskFrom_outside, maskFrom_outside, ih (quoted_opened c)]
  | @escape quote hidden rest _ ih =>
    -- Both characters of an escape have been replaced, and are replaced again.
    rw [maskFrom_escape, maskFrom_escape, List.append_assoc, List.singleton_append,
      List.singleton_append, filled (quoted quote rfl), filled (quoted quote rfl), ih quoted]
    rfl
  | delimiter opens _ ih =>
    rw [maskFrom_delimiter _ opens, maskFrom_delimiter _ opens, maskFrom_delimiter _ opens,
      ih quoted_none]
  | @content quote c differs rest last _ ih =>
    rw [maskFrom_content _ differs last, maskFrom_content _ differs last, List.singleton_append,
      filled (quoted quote rfl), ih quoted]
    rfl

/-- A masked view shows nothing less when it is masked again. -/
theorem mask_mask (text : Text) : mask (mask text) = mask text :=
  maskFrom_maskFrom (by decide) (by decide) 's' (by simp) text

/-- The view that is blank in literals is the same for a line and its masked view. -/
theorem blank_mask (text : Text) : blank (mask text) = blank text :=
  maskFrom_maskFrom (by decide) (by decide) ' ' (by simp) text

/-- The masked view of a trimmed text is trimmed. -/
theorem trim_mask {text : Text} (trimmed : trim text = text) : trim (mask text) = mask text := by
  have starts := head?_trim text
  have ends := getLast?_trim text
  rw [trimmed] at starts ends
  -- Neither end of the view is white space, since the fill is none.
  refine trim_of_ends ?_ (any_getLast?_mask (by decide) ends)
  rw [List.head?_eq_getElem?] at starts ⊢
  exact any_getElem?_mask (by decide) starts

/-- A text that closes every literal it opens, so that what follows is masked on its own. -/
def Closed (text : Text) : Prop :=
  ∀ (fill : Char) (rest : Text),
    maskWith [fill] (text ++ rest) = maskWith [fill] text ++ maskWith [fill] rest

/-- The literal that a text ends in, given the one that it starts in. -/
def literalAfter : (inside : Option Char) → Text → Option Char
  | inside, [] => inside
  | none, c :: rest => literalAfter (if isQuote c then some c else none) rest
  | some quote, c :: rest =>
    match rest with
    | hidden :: rest =>
      if c = backslash then literalAfter (some quote) rest
      else if c = quote then literalAfter none (hidden :: rest)
      else literalAfter (some quote) (hidden :: rest)
    | [] => if c = quote then none else some quote

/-- Behind the delimiter of a literal no literal is open. -/
theorem literalAfter_delimiter {quote : Char} (opens : isQuote quote = true) (rest : Text) :
    literalAfter (some quote) (quote :: rest) = literalAfter none rest := by
  -- A delimiter escapes nothing.
  cases rest <;> simp [literalAfter, unescaped_of_isQuote opens]

/-- Behind any other character that is read on its own a literal is open as before. -/
theorem literalAfter_content {quote c : Char} {rest : Text} (other : c ≠ quote)
    (last : c = backslash → rest = []) :
    literalAfter (some quote) (c :: rest) = literalAfter (some quote) rest := by
  -- An escape at the end of a text hides nothing, so it counts as content.
  cases rest with
  | nil => simp [literalAfter, other]
  | cons hidden rest =>
    have unescaped : c ≠ backslash := fun escape => List.cons_ne_nil _ _ (last escape)
    rw [literalAfter, if_neg unescaped, if_neg other]

/-- What follows a text that ends outside literals is masked on its own. -/
theorem maskFrom_append_of_literalAfter (fill : Char) {inside : Option Char} {text : Text}
    (quoted : ∀ quote ∈ inside, isQuote quote = true) (ended : literalAfter inside text = none)
    (rest : Text) :
    maskFrom [fill] inside (text ++ rest) =
      maskFrom [fill] inside text ++ maskFrom [fill] none rest := by
  -- The literal at the end is the one that is open behind every step before.
  induction masking quoted text with
  | ended inside =>
    obtain rfl : inside = none := ended
    rfl
  | outside c _ ih =>
    rw [List.cons_append, maskFrom_outside, maskFrom_outside, ih (quoted_opened c) ended,
      List.cons_append]
  | @escape quote hidden text _ ih =>
    -- An escape is replaced whatever it hides.
    rw [literalAfter, if_pos rfl] at ended
    rw [List.cons_append, List.cons_append, maskFrom_escape, maskFrom_escape, ih quoted ended]
    simp only [List.append_assoc]
  | delimiter opens _ ih =>
    rw [literalAfter_delimiter opens] at ended
    rw [List.cons_append, maskFrom_delimiter _ opens, maskFrom_delimiter _ opens,
      ih quoted_none ended, List.cons_append]
  | @content quote c other text last _ ih =>
    rw [literalAfter_content other last] at ended
    have filled : text ≠ [] := by
      rintro rfl
      cases ended
    -- The literal ends, so this is not its last character.
    have unescaped : c ≠ backslash := fun escape => filled (last escape)
    rw [List.cons_append, maskFrom_inside _ _ _ unescaped, maskFrom_inside _ _ _ unescaped,
      if_neg other, if_neg other, ih quoted ended, List.append_assoc]

/-- What follows a text changes nothing of what the text shows. -/
theorem maskFrom_prefix (fill : Char) {inside : Option Char} {text : Text}
    (quoted : ∀ quote ∈ inside, isQuote quote = true) (rest : Text) :
    maskFrom [fill] inside text <+: maskFrom [fill] inside (text ++ rest) := by
  -- The longer text is read by the same steps, up to the last one inside a literal.
  induction masking quoted text with
  | ended => exact List.nil_prefix
  | outside c _ ih =>
    rw [List.cons_append, maskFrom_outside, maskFrom_outside]
    exact List.cons_prefix_cons.mpr ⟨rfl, ih (quoted_opened c)⟩
  | escape hidden _ ih =>
    rw [List.cons_append, List.cons_append, maskFrom_escape, maskFrom_escape]
    exact (List.prefix_append_right_inj _).mpr (ih quoted)
  | delimiter opens _ ih =>
    rw [List.cons_append, maskFrom_delimiter _ opens, maskFrom_delimiter _ opens]
    exact List.cons_prefix_cons.mpr ⟨rfl, ih quoted_none⟩
  -- Only content can be read in another way when something follows it.
  | @content quote c other text last _ ih =>
    by_cases escape : c = backslash
    · -- The last character is filled, also when it may hide the next one.
      have single : maskFrom [fill] (some quote) [c] = [fill] := by simp [maskFrom, other]
      rw [last escape, single]
      rw [escape] at single ⊢
      cases rest with
      | nil => exact ⟨[], by rw [List.append_nil, List.append_nil, single]⟩
      | cons hidden rest =>
        rw [List.singleton_append, maskFrom_escape, List.append_assoc]
        exact List.prefix_append _ _
    · rw [List.cons_append, maskFrom_inside _ _ _ escape, maskFrom_inside _ _ _ escape,
        if_neg other, if_neg other]
      exact (List.prefix_append_right_inj _).mpr (ih quoted)

/-- A text that ends outside literals closes every literal it opens. -/
theorem closed_of_literalAfter {text : Text} (ended : literalAfter none text = none) :
    Closed text :=
  fun fill rest => maskFrom_append_of_literalAfter fill (by simp) ended rest

/-- Closed texts stay closed when they are put together. -/
theorem Closed.append {first second : Text} (left : Closed first) (right : Closed second) :
    Closed (first ++ second) := by
  -- What follows the first text starts with the second one.
  intro fill rest
  rw [List.append_assoc, left, right, left, List.append_assoc]

/-- A character that opens no literal shows in front of the view of a line. -/
theorem maskWith_cons (fill : Text) {c : Char} (unquoted : isQuote c = false) (rest : Text) :
    maskWith fill (c :: rest) = c :: maskWith fill rest := by
  -- No literal is open behind the character.
  rw [maskWith, maskFrom_outside, unquoted]
  rfl

/-- Such a character shows in the masked view. -/
theorem mask_cons {c : Char} (unquoted : isQuote c = false) (rest : Text) :
    mask (c :: rest) = c :: mask rest :=
  maskWith_cons ['s'] unquoted rest

/-- Behind a closed text such a character shows between what is masked on its own. -/
theorem Closed.mask_append_cons {front : Text} (closed : Closed front) {c : Char}
    (unquoted : isQuote c = false) (back : Text) :
    mask (front ++ c :: back) = mask front ++ c :: mask back := by
  -- The closed text is masked on its own, and then the character comes first.
  rw [← mask_cons unquoted]
  exact closed 's' (c :: back)

/-- Such a character is paired with itself. -/
theorem marked_cons {c : Char} (unquoted : isQuote c = false) (rest : Text) :
    marked (c :: rest) = (c, c) :: marked rest := by
  -- The view starts with the character as well.
  rw [marked, mask_cons unquoted]
  rfl

/-- The masked view of a text without quotes is the text itself. -/
theorem maskWith_append_plain (fill : Text) {text : Text}
    (plain : ∀ c ∈ text, isQuote c = false) (rest : Text) :
    maskWith fill (text ++ rest) = text ++ maskWith fill rest := by
  -- No character of the text opens a literal.
  induction text with
  | nil => rfl
  | cons c text ih =>
    obtain ⟨first, others⟩ := List.forall_mem_cons.mp plain
    rw [List.cons_append, maskWith_cons fill first, ih others, List.cons_append]

/-- A text without quotes shows as it is. -/
theorem maskWith_plain (fill : Text) {text : Text} (plain : ∀ c ∈ text, isQuote c = false) :
    maskWith fill text = text := by
  simpa [maskWith, maskFrom] using maskWith_append_plain fill plain []

/-- A text without quotes is closed. -/
theorem closed_of_plain {text : Text} (plain : ∀ c ∈ text, isQuote c = false) : Closed text := by
  -- All of such a text shows, whatever follows it.
  intro fill rest
  rw [maskWith_append_plain [fill] plain, maskWith_plain [fill] plain]

/-- What is left of a closed text behind characters other than quotes is closed. -/
theorem Closed.back {front text : Text} (closed : Closed (front ++ text))
    (plain : ∀ c ∈ front, isQuote c = false) : Closed text := by
  -- The front shows on its own in both views, so it can be taken off.
  intro fill rest
  have whole := closed fill rest
  rw [List.append_assoc, maskWith_append_plain [fill] plain, maskWith_append_plain [fill] plain,
    List.append_assoc] at whole
  exact List.append_cancel_left whole

/-- What a literal holds: escapes, and characters that neither end it nor escape another one. -/
inductive Content (quote : Char) : Text → Prop
  | nil : Content quote []
  | plain {c : Char} {rest : Text} (other : c ≠ quote) (unescaped : c ≠ backslash)
      (behind : Content quote rest) : Content quote (c :: rest)
  | escape {hidden : Char} {rest : Text} (behind : Content quote rest) :
      Content quote (backslash :: hidden :: rest)

/-- Text that holds neither its delimiter nor a backslash may stand in a literal. -/
theorem content_of_plain {quote : Char} {content : Text}
    (inside : ∀ c ∈ content, c ≠ quote ∧ c ≠ backslash) : Content quote content := by
  -- Character by character, each of them is plain content.
  induction content with
  | nil => exact .nil
  | cons c content ih =>
    obtain ⟨first, others⟩ := List.forall_mem_cons.mp inside
    exact (ih others).plain first.1 first.2

/-- The content of a literal is replaced, character by character. -/
theorem Content.maskFrom_append {quote : Char} {content : Text} (inside : Content quote content)
    (fill : Char) (rest : Text) :
    maskFrom [fill] (some quote) (content ++ rest) =
      List.replicate content.length fill ++ maskFrom [fill] (some quote) rest := by
  -- Neither a plain character nor an escape ends the literal.
  induction inside with
  | nil => rfl
  | @plain c content other unescaped _ ih =>
    rw [List.cons_append, maskFrom_inside _ _ _ unescaped, if_neg other, ih]
    rfl
  | @escape hidden content _ ih =>
    -- An escape is replaced whatever it hides.
    rw [List.cons_append, List.cons_append, maskFrom, if_pos rfl, ih]
    rfl

/-- A literal shows its delimiters and nothing of its content. -/
theorem maskWith_literal {quote : Char} (opens : isQuote quote = true) {content : Text}
    (inside : Content quote content) (fill : Char) (rest : Text) :
    maskWith [fill] (quote :: (content ++ quote :: rest)) =
      quote :: (List.replicate content.length fill ++ quote :: maskWith [fill] rest) := by
  -- The first delimiter opens the literal, the content fills it, and the second one ends it.
  rw [maskWith, maskFrom_outside, if_pos opens, inside.maskFrom_append,
    maskFrom_inside _ _ _ (unescaped_of_isQuote opens), if_pos rfl]
  rfl

/-- A closed text is paired with its masked view before what follows it is. -/
theorem marked_append {text : Text} (closed : Closed text) (rest : Text) :
    marked (text ++ rest) = marked text ++ marked rest := by
  -- The masked view splits where the text does.
  have split : mask (text ++ rest) = mask text ++ mask rest := closed 's' rest
  rw [marked, split, List.zip_append (length_mask text).symm]
  rfl

/-- The marks of a text are those that every longer text starts with. -/
theorem marked_prefix (text rest : Text) : marked text <+: marked (text ++ rest) := by
  -- The view of the text starts that of the longer one, so the pairs do as well.
  obtain ⟨more, view⟩ : mask text <+: mask (text ++ rest) := maskFrom_prefix 's' (by simp) rest
  refine ⟨rest.zip more, ?_⟩
  rw [marked, marked, ← view, List.zip_append (length_mask text).symm]

/-- The characters that a text shows in its masked view are paired with its own. -/
theorem marked_fst (text : Text) : (marked text).map Prod.fst = text := by
  simp [marked, List.map_fst_zip]

/-- What they are paired with is the masked view. -/
theorem marked_snd (text : Text) : (marked text).map Prod.snd = mask text :=
  List.map_snd_zip (length_mask text).le

end SourceLint.Text
