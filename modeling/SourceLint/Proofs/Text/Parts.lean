import SourceLint.Proofs.LineFront
import SourceLint.Proofs.Reading

/-!
Parts of a text.

Parts that stand one behind the other are so many places of the text. Separators cut a text into
such parts, and trimming leaves a part of it.
-/

namespace SourceLint.Text

/-- Parts that stand in a text one behind the other. -/
def Holds : (text : Text) → (parts : List Text) → Prop
  | _, [] => True
  | text, part :: others => ∃ front back, text = front ++ (part ++ back) ∧ Holds back others

namespace Holds

variable {text first second : Text} {parts more : List Text}

/-- A text in front of the parts does not matter. -/
theorem behind (holds : Holds text parts) (front : Text) : Holds (front ++ text) parts := by
  -- Only the gap in front of the first part becomes longer.
  cases parts with
  | nil => trivial
  | cons part others =>
    obtain ⟨gap, back, split, rest⟩ := holds
    exact ⟨front ++ gap, back, by rw [split, List.append_assoc], rest⟩

/-- Parts of two texts stand one behind the other when the texts do. -/
theorem append (left : Holds first parts) (right : Holds second more) :
    Holds (first ++ second) (parts ++ more) := by
  -- The front shrinks to what is behind the part that was placed last.
  induction parts generalizing first with
  | nil => exact right.behind first
  | cons part others ih =>
    obtain ⟨front, back, split, rest⟩ := left
    exact ⟨front, back ++ second, by simp [split], ih rest⟩

/-- A text behind the parts does not matter. -/
theorem before (holds : Holds text parts) (back : Text) : Holds (text ++ back) parts := by
  -- This is the case in which no parts follow.
  have whole := @append text back parts [] holds trivial
  rwa [List.append_nil] at whole

/-- Some of the parts stand one behind the other as well. -/
theorem sublist (holds : Holds text parts) (fewer : more.Sublist parts) : Holds text more := by
  induction fewer generalizing text with
  | slnil => trivial
  | cons part _ ih =>
    -- A part that is left out becomes text in front of the others.
    obtain ⟨front, back, split, rest⟩ := holds
    rw [split, ← List.append_assoc]
    exact (ih rest).behind _
  | cons_cons part _ ih =>
    -- A part that is kept stays where it is.
    obtain ⟨front, back, split, rest⟩ := holds
    exact ⟨front, back, split, ih rest⟩

/-- The parts of parts stand one behind the other. -/
theorem flatMap {cut : Text → List Text} (holds : Holds text parts)
    (each : ∀ part ∈ parts, Holds part (cut part)) : Holds text (parts.flatMap cut) := by
  induction parts generalizing text with
  | nil => trivial
  | cons part others ih =>
    obtain ⟨front, back, split, rest⟩ := holds
    -- The parts of the first part come first, and then those of the others.
    have later := ih rest fun other member => each other (by simp [member])
    rw [split, List.flatMap_cons]
    exact ((each part (by simp)).append later).behind front

/-- A part of each part is a part of the text. -/
theorem map {cut : Text → Text} (holds : Holds text parts)
    (each : ∀ part ∈ parts, Holds part [cut part]) : Holds text (parts.map cut) := by
  -- Each part is cut on its own.
  rw [List.map_eq_flatMap]
  exact holds.flatMap each

/-- A part of a part is a part of the text. -/
theorem trans {part inner : Text} (holds : Holds text [part]) (inside : Holds part [inner]) :
    Holds text [inner] := by
  -- Putting the outer texts around the inner part is enough.
  obtain ⟨front, back, split, -⟩ := holds
  exact split ▸ (inside.before back).behind front

/-- The trimmed text is a part of the text. -/
theorem trim (text : Text) : Holds text [Text.trim text] := by
  -- White space on both sides is all that is cut off.
  obtain ⟨lead, gap, split, -⟩ := exists_eq_trim text
  exact ⟨lead, gap, split, trivial⟩

end Holds

/-- What separators cut a text into stands in it piece by piece. -/
theorem holds_cutTopFrom (separates : Char → Bool) (depth : Nat) (pairs : List (Char × Char)) :
    ∃ back, pairs.map Prod.fst = (cutTopFrom separates depth pairs).1 ++ back ∧
      Holds back (cutTopFrom separates depth pairs).2 := by
  induction pairs generalizing depth with
  | nil => exact ⟨[], rfl, trivial⟩
  | cons mark pairs ih =>
    by_cases ends : EndsPiece separates depth mark.2
    · -- The separator stands between the first piece, which is empty, and the others.
      obtain ⟨back, split, holds⟩ := ih 0
      rw [cutTopFrom_of_ends ends]
      exact ⟨mark.1 :: pairs.map Prod.fst, rfl, [mark.1], back, by rw [split]; rfl, holds⟩
    · -- Any other character is put in front of the first piece.
      obtain ⟨back, split, holds⟩ := ih (depthAfter depth [mark.2])
      rw [cutTopFrom_of_not_ends ends]
      exact ⟨back, by rw [List.map_cons, split, List.cons_append], holds⟩

/-- The pieces of a text stand in it one behind the other. -/
theorem holds_splitTop (separates : Char → Bool) (text : Text) :
    Holds text (splitTop separates text) := by
  -- The marks only say where to cut, so the pieces are pieces of the text.
  obtain ⟨back, split, holds⟩ := holds_cutTopFrom separates 0 (marked text)
  rw [marked_fst] at split
  exact ⟨[], back, split, holds⟩

/-- A front without separators is the front of the first piece. -/
theorem cutTopFrom_append_uncut {separates : Char → Bool} {pairs : List (Char × Char)}
    (uncut : ∀ pair ∈ pairs, separates pair.2 = false) (depth : Nat)
    (rest : List (Char × Char)) :
    ∃ inner, cutTopFrom separates depth (pairs ++ rest) =
      (pairs.map Prod.fst ++ (cutTopFrom separates inner rest).1,
        (cutTopFrom separates inner rest).2) := by
  induction pairs generalizing depth with
  | nil => exact ⟨depth, rfl⟩
  | cons mark pairs ih =>
    -- A mark that ends no piece is put in front of the first piece.
    have kept : ¬EndsPiece separates depth mark.2 := by
      intro ends
      have here := uncut mark (by simp)
      rw [ends.separates] at here
      cases here
    -- Brackets change the depth of what follows.
    obtain ⟨inner, cut⟩ := ih (fun pair member => uncut pair (by simp [member]))
      (depthAfter depth [mark.2])
    refine ⟨inner, ?_⟩
    rw [List.cons_append, cutTopFrom_of_not_ends kept, cut]
    rfl

/-- A text without semicolons in front goes to the first piece between semicolons. -/
theorem exists_cutTop_append {front : Text} (plain : ';' ∉ front) (rest : Text) :
    ∃ more back, (cutTop (· == ';') (front ++ rest)).1 = front ++ more ∧ rest = more ++ back ∧
      Holds back (cutTop (· == ';') (front ++ rest)).2 := by
  -- The marks are cut where the front ends.
  generalize whole : marked (front ++ rest) = pairs
  have texts : pairs.map Prod.fst = front ++ rest := by rw [← whole, marked_fst]
  have left : (pairs.take front.length).map Prod.fst = front := by
    rw [List.map_take, texts, List.take_left]
  have right : (pairs.drop front.length).map Prod.fst = rest := by
    rw [List.map_drop, texts, List.drop_left]
  -- No character of the front shows a semicolon.
  have uncut : ∀ pair ∈ pairs.take front.length, (pair.2 == ';') = false := by
    intro pair member
    rw [beq_eq_false_iff_ne]
    intro semicolon
    have listed : pair ∈ marked (front ++ rest) := whole ▸ List.mem_of_mem_take member
    rcases shown_of_mem_marked listed with same | fill
    · refine plain ?_
      rw [← semicolon, same, ← left]
      exact List.mem_map_of_mem member
    · rw [fill] at semicolon
      cases semicolon
  obtain ⟨inner, cut⟩ := @cutTopFrom_append_uncut (· == ';') _ uncut 0 (pairs.drop front.length)
  obtain ⟨back, split, holds⟩ := holds_cutTopFrom (· == ';') inner (pairs.drop front.length)
  -- From the end of the front on the pieces stand in the rest.
  rw [List.take_append_drop, left] at cut
  rw [right] at split
  unfold cutTop
  rw [whole, cut]
  exact ⟨_, back, rfl, split, holds⟩

/-- A text that white space neither starts nor ends is trimmed behind it only. -/
theorem exists_trim_solid {front : Text} (some : front ≠ [])
    (starts : front.head?.any isSpace = false) (ends : front.getLast?.any isSpace = false)
    (rest : Text) :
    ∃ part tail, trim (front ++ rest) = front ++ part ∧ rest = part ++ tail := by
  have own : trim front = front := trim_of_ends starts ends
  obtain ⟨part, whole⟩ := exists_trim_append (own.symm ▸ some) rest
  -- What is trimmed behind the text is the gap on the right.
  obtain ⟨lead, gap, split, leads, -⟩ := exists_eq_trim (front ++ rest)
  rw [own] at whole
  rw [whole] at split
  refine ⟨part, gap, whole, ?_⟩
  cases lead with
  -- Nothing is trimmed in front, so the fronts cancel.
  | nil =>
    rw [List.nil_append, List.append_assoc] at split
    exact List.append_cancel_left split
  | cons c lead =>
    -- The text would start with white space.
    obtain ⟨d, others, rfl⟩ := List.exists_cons_of_ne_nil some
    have same : d = c := (List.cons_eq_cons.mp split).1
    have space := leads c (by simp)
    rw [List.head?_cons, Option.any_some, same, space] at starts
    cases starts

end SourceLint.Text
