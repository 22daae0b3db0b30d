import SourceLint.MainFunction
import SourceLint.Proofs.Reading
import SourceLint.Proofs.Text.Scanning

/-! Where a main function can be found in a masked source. -/

namespace SourceLint

open Text

/-- A consuming reader that recognises nothing at any place finds nothing. -/
theorem finds_eq_nil {α : Type} {read? : Position → Option (Nat × α)} {text : Text}
    (nothing : ∀ before after, text = before ++ after → read? ⟨before.reverse, after⟩ = none) :
    finds read? text = [] := by
  -- Without finds nothing is passed over.
  have general : ∀ before : Text, (∀ first after, text = first ++ after →
      read? ⟨first.reverse ++ before, after⟩ = none) → findsFrom read? 0 before text = [] := by
    clear nothing
    induction text with
    | nil => exact fun _ _ => rfl
    | cons c rest ih =>
      intro before nothing
      -- The place at the front is one of the places of the text.
      have here := nothing [] (c :: rest) rfl
      have later := ih (c :: before) fun first after split => by
        simpa [split] using nothing (c :: first) after (by simp [split])
      simp only [List.reverse_nil, List.nil_append] at here
      simp [findsFrom, here, later]
  exact general [] (by simpa using nothing)

/-- An opening needs a parenthesis. -/
theorem paren_mem_of_afterOpening? {keywords : List Text} {text rest : Text}
    (read : Statement.afterOpening? keywords text = some rest) : '(' ∈ text := by
  -- The parenthesis stands behind a keyword and white space.
  obtain ⟨keyword, -, gap, -, rfl⟩ := Statement.exists_of_afterOpening? read
  simp

/-- A header of a main function needs a parenthesis. -/
theorem MainHeader.all_eq_nil {masked : Text} (unopened : '(' ∉ masked) :
    MainHeader.all masked = [] := by
  refine finds_eq_nil fun before after split => ?_
  -- A complete header holds the parenthesis of its parameters.
  have headless : ∀ returnType, afterHeader? returnType after = none := by
    intro returnType
    rw [← Option.not_isSome_iff_eq_none, Option.isSome_iff_exists]
    rintro ⟨rest, read⟩
    obtain ⟨inner, spaced, opened⟩ := Option.bind_eq_some_iff.mp read
    obtain ⟨parameters, opening, -⟩ := Option.bind_eq_some_iff.mp opened
    have inAfter : '(' ∈ after :=
      (suffix_of_afterSpaced? spaced).subset (paren_mem_of_afterOpening? opening)
    exact unopened (by simp [split, inAfter])
  simp [at?, headless]

namespace MainFunction

/-- Something like a header of a main function needs a parenthesis as well. -/
theorem anywhere_malformedAt {masked : Text} (unopened : '(' ∉ masked) :
    anywhere masked malformedAt = false := by
  refine anywhere_eq_false fun before after split => ?_
  -- No end of the source starts with a parenthesis.
  have closed : ∀ part : Text, part <:+ masked → (part.head? == some '(') = false := by
    intro part ends
    rw [beq_eq_false_iff_ne]
    exact fun first => unopened (ends.subset (List.mem_of_head? first))
  have skipped : ∀ part : Text, skipSpace part <:+ part := fun _ => List.dropWhile_suffix _
  -- Either test asks for a parenthesis behind the word.
  have unread : ((after? "main".toList after).any fun rest =>
      let rest := skipSpace rest
      (rest.dropWhile fun c => c != '(' && c != '\n').head? == some '(' ||
        (after? [')'] rest).any fun rest => (skipSpace rest).head? == some '(') = false := by
    rw [Option.any_eq_false]
    intro rest found
    -- Whatever is looked at behind the word is the end of the source.
    have behind : skipSpace rest <:+ masked :=
      (skipped rest).trans ⟨before ++ "main".toList, by
        rw [split, eq_append_of_after? found, List.append_assoc]⟩
    have here := closed _ ((List.dropWhile_suffix fun c => c != '(' && c != '\n').trans behind)
    have there : ((after? [')'] (skipSpace rest)).any fun rest =>
        (skipSpace rest).head? == some '(') = false := by
      rw [Option.any_eq_false]
      intro tail shut
      refine closed _ ((skipped tail).trans (List.IsSuffix.trans ⟨[')'], ?_⟩ behind))
      exact (eq_append_of_after? shut).symm
    rw [Bool.or_eq_false_iff]
    exact ⟨here, there⟩
  rw [malformedAt, unread, Bool.and_false]

/-- The word for the main function is looked for among the words. -/
theorem hasMainWord_iff (masked : Text) :
    hasMainWord masked = true ↔ "main".toList ∈ wordTexts masked := by
  -- The words are those of the text with their places.
  rw [← map_text_words, hasMainWord, List.any_eq_true]
  simp only [beq_iff_eq, List.mem_map]

end MainFunction

end SourceLint
