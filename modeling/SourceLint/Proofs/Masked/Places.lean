import Mathlib.Data.List.Induction
import SourceLint.Proofs.Masked.Reading
import SourceLint.Proofs.Standing

/-!
Places of a line and of its masked view.

A character outside literals is read at the same place of both. A character inside a literal is
hidden, and a reader of the line may see it all the same.
-/

namespace SourceLint.Text

/-- Whether a line has a character at a place where its masked view shows another one. -/
def hides (line : Text) (c : Char) : Bool :=
  (marked line).any fun mark => mark.1 == c && mark.2 != c

/-- Behind a closed front the literals hide what they hide in the whole line. -/
theorem hides_append {front : Text} (closed : Closed front) (rest : Text) (c : Char) :
    hides (front ++ rest) c = (hides front c || hides rest c) := by
  rw [hides, marked_append closed, List.any_append, hides, hides]

/-- A class of which nothing is hidden has the same places in a line and in its view. -/
theorem map_mask {p : Char → Bool} (fill : p 's' = false) {line : Text}
    (shows : ∀ c, p c = true → hides line c = false) : (mask line).map p = line.map p := by
  have marks : ∀ mark ∈ marked line, p mark.2 = p mark.1 := by
    intro mark listed
    rcases shown_of_mem_marked listed with same | filled
    · rw [same]
    · -- The fill is not in the class, and what it replaces would be hidden.
      rw [filled, fill]
      by_contra inside
      have hidden : mark.2 = mark.1 := by
        simpa using List.any_eq_false.mp (shows mark.1 (by simpa using inside)) mark listed
      rw [← hidden, filled, fill] at inside
      exact inside rfl
  -- The marks of a line give its view and the line itself.
  calc (mask line).map p
      = ((marked line).map Prod.snd).map p := by
        rw [marked_snd]
    _ = ((marked line).map Prod.fst).map p := by
        rw [List.map_map, List.map_map]
        exact List.map_congr_left marks
    _ = line.map p := by rw [marked_fst]

/-- So a line and its view have characters of the class together. -/
theorem any_mask {p : Char → Bool} (fill : p 's' = false) {line : Text}
    (shows : ∀ c, p c = true → hides line c = false) : (mask line).any p = line.any p := by
  -- The places of the class decide whether there is any.
  have places := congrArg (List.any · id) (map_mask fill shows)
  simpa only [List.any_map, Function.id_comp] using places

/-- A text ends like its view, or it leaves a literal open that hides what follows. -/
theorem getLast?_maskFrom_or {inside : Option Char} (quoted : Quoted inside) (text : Text) :
    (maskFrom ['s'] inside text).getLast? = text.getLast? ∨
      (maskFrom ['s'] inside (text ++ ['('])).getLast? = some 's' := by
  -- No literal ends with a parenthesis.
  have open_ : ∀ quote, isQuote quote = true →
      (maskFrom ['s'] (some quote) ['(']).getLast? = some 's' := fun quote opens =>
    forall_isQuote opens rfl rfl
  -- By induction along the masking, with the state at the end kept.
  induction masking quoted text with
  | ended => exact .inl rfl
  | outside c _ ih =>
    rw [List.cons_append, maskFrom_outside, maskFrom_outside, List.getLast?_cons,
      List.getLast?_cons, List.getLast?_cons]
    rcases ih (quoted_opened c) with same | hides
    · exact .inl (by rw [same])
    · exact .inr (by rw [hides]; rfl)
  | @escape quote hidden rest _ ih =>
    rw [List.cons_append, List.cons_append, maskFrom_escape, maskFrom_escape]
    by_cases ended : rest = []
    · -- An escape at the end hides nothing behind it, but the literal goes on.
      subst ended
      exact .inr (by simp [List.getLast?_cons, open_ quote (quoted quote rfl)])
    · rcases ih quoted with same | hides
      · exact .inl (by simp [List.getLast?_cons, same, List.getLast?_eq_some_getLast ended])
      · exact .inr (by simp [List.getLast?_cons, hides])
  -- Behind a closing delimiter the text goes on outside a literal.
  | delimiter opens _ ih =>
    rw [List.cons_append, maskFrom_delimiter _ opens, maskFrom_delimiter _ opens,
      List.getLast?_cons, List.getLast?_cons, List.getLast?_cons]
    rcases ih quoted_none with same | hides
    · exact .inl (by rw [same])
    · exact .inr (by rw [hides]; rfl)
  | @content quote c other rest last _ ih =>
    by_cases ended : rest = []
    · -- The literal is open at the end, whether its last character is an escape or not.
      subst ended
      refine .inr ?_
      by_cases escape : c = backslash
      · rw [escape, List.singleton_append, maskFrom_escape]
        rfl
      · rw [List.singleton_append, maskFrom_inside _ _ _ escape, if_neg other,
          List.singleton_append, List.getLast?_cons, open_ quote (quoted quote rfl)]
        rfl
    · have unescaped : c ≠ backslash := fun escape => ended (last escape)
      rw [List.cons_append, maskFrom_inside _ _ _ unescaped, maskFrom_inside _ _ _ unescaped,
        if_neg other, if_neg other]
      rcases ih quoted with same | hides
      · exact .inl (by simp [List.getLast?_cons, same, List.getLast?_eq_some_getLast ended])
      · exact .inr (by simp [List.getLast?_cons, hides])

/-- A text that closes its literals ends like its view. -/
theorem Closed.getLast?_mask {text : Text} (closed : Closed text) :
    (mask text).getLast? = text.getLast? := by
  -- A parenthesis behind the text shows, so the text leaves no literal open.
  refine (getLast?_maskFrom_or quoted_none text).resolve_right fun hidden => ?_
  have shown : mask (text ++ ['(']) = mask text ++ ['('] := closed 's' ['(']
  rw [← maskWith, ← mask, shown, List.getLast?_concat] at hidden
  cases hidden

/-- A closed text is closed in front of characters other than quotes. -/
theorem Closed.front {text plain : Text} (closed : Closed (text ++ plain))
    (bare : ∀ c ∈ plain, isQuote c = false) : Closed text := by
  -- A parenthesis behind both shows, and only characters other than quotes are in between.
  have shown : mask (text ++ (plain ++ ['('])) = mask (text ++ plain) ++ ['('] := by
    rw [← List.append_assoc]
    exact closed 's' ['(']
  refine @closed_of_shown '(' (by decide) (by decide) text plain ['('] bare ?_
  rw [shown, ← List.length_append, ← length_mask (text ++ plain), List.getElem?_concat_length]

/-- What a closed text shows at its end without a quote is its end. -/
theorem Closed.exists_front {text shown plain : Text} (closed : Closed text)
    (view : mask text = shown ++ plain) (bare : ∀ c ∈ plain, isQuote c = false) :
    ∃ front, text = front ++ plain ∧ Closed front ∧ mask front = shown := by
  -- The characters are taken off the end one by one, and what is left in front stays closed.
  induction plain using List.reverseRecOn generalizing text with
  | nil => exact ⟨text, (List.append_nil text).symm, closed, by rw [view, List.append_nil]⟩
  | append_singleton plain p ih =>
    -- The last character that shows is the last one of the text.
    have last : text.getLast? = some p := by
      rw [← closed.getLast?_mask, view, ← List.append_assoc, List.getLast?_concat]
    obtain ⟨init, rfl⟩ := List.getLast?_eq_some_iff.mp last
    have single : ∀ c ∈ [p], isQuote c = false := fun c member => bare c (by simp_all)
    have left := closed.front single
    have split : mask (init ++ [p]) = mask init ++ [p] :=
      (left 's' [p]).trans (congrArg (mask init ++ ·) (maskWith_plain ['s'] single))
    rw [split, ← List.append_assoc] at view
    obtain ⟨front, rfl, outside, shows⟩ := ih left (List.append_cancel_right view)
      fun c member => bare c (by simp [member])
    exact ⟨front, by rw [List.append_assoc], outside, shows⟩

section Shown

variable {c : Char} (unquoted : isQuote c = false)
include unquoted

/-- Around a character that is not hidden a line is masked part by part. -/
theorem mask_of_shown (unfilled : c ≠ 's') {front plain back : Text}
    (bare : ∀ c ∈ plain, isQuote c = false)
    (shows : hides (front ++ (plain ++ c :: back)) c = false) :
    Closed front ∧
      mask (front ++ (plain ++ c :: back)) = mask front ++ (plain ++ c :: mask back) := by
  -- The character stands in the view at the places where it stands in the line.
  have places := map_mask (p := (· == c)) (by simpa using unfilled.symm)
    (fun d same => by rw [eq_of_beq same]; exact shows)
  -- So the view shows the character, and no literal is open in front of it.
  have shown : (mask (front ++ (plain ++ c :: back)))[front.length + plain.length]? = some c := by
    have place := congrArg (·[front.length + plain.length]?) places
    simp only [List.getElem?_map] at place
    rw [List.getElem?_append_right (by omega), List.getElem?_append_right (by omega),
      Nat.add_sub_cancel_left, Nat.sub_self, List.getElem?_cons_zero, Option.map_some,
      BEq.rfl, Option.map_eq_some_iff] at place
    obtain ⟨d, found, same⟩ := place
    rw [found, eq_of_beq same]
  have closed := closed_of_shown unfilled unquoted bare shown
  refine ⟨closed, ?_⟩
  -- The front is closed, so the line is masked part by part.
  calc mask (front ++ (plain ++ c :: back))
      = mask front ++ mask (plain ++ c :: back) := closed 's' _
    _ = mask front ++ (plain ++ mask (c :: back)) := by
        rw [mask, mask, maskWith_append_plain ['s'] bare, mask]
    _ = mask front ++ (plain ++ c :: mask back) := by rw [mask_cons unquoted]

/-- A character other than the fill is shown by a place of the line where it stands. -/
theorem exists_of_mask (unfilled : c ≠ 's') {line shown more : Text}
    (view : mask line = shown ++ c :: more) :
    ∃ front back, line = front ++ c :: back ∧ Closed front ∧ mask front = shown ∧
      mask back = more := by
  -- The view shows the character, so the line has it at the same place.
  have place : (mask line)[shown.length]? = some c := by
    rw [view, List.getElem?_append_right (Nat.le_refl _), Nat.sub_self, List.getElem?_cons_zero]
  have own := (getElem?_mask place).resolve_left unfilled
  obtain ⟨within, here⟩ := List.getElem?_eq_some_iff.mp own
  have split : line = line.take shown.length ++ ([] ++ c :: line.drop (shown.length + 1)) := by
    rw [List.nil_append, ← here, List.getElem_cons_drop, List.take_append_drop]
  have size : (line.take shown.length).length = shown.length :=
    List.length_take_of_le within.le
  -- No literal is open at the place, since the character shows there.
  have closed : Closed (line.take shown.length) := by
    refine @closed_of_shown c unfilled unquoted _ [] (c :: line.drop (shown.length + 1))
      (by simp) ?_
    rw [← split, size]
    exact place
  have parts : mask (line.take shown.length) ++ c :: mask (line.drop (shown.length + 1)) =
      shown ++ c :: more := by
    rw [List.nil_append] at split
    rw [← view, ← closed.mask_append_cons unquoted, ← split]
  -- Both views have the character at the same place, so their parts agree.
  obtain ⟨front, rest⟩ := List.append_inj parts (by rw [length_mask, size])
  exact ⟨_, _, split, closed, front, (List.cons_eq_cons.mp rest).2⟩

end Shown

end SourceLint.Text
