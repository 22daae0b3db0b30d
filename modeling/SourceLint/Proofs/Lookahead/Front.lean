import SourceLint.Proofs.Insertion.Comment
import SourceLint.Proofs.Lookahead.Header
import SourceLint.Proofs.Rescan.Agreement
import SourceLint.Proofs.Stages

/-!
Sources that are cut behind one of their lines, inside the body of the main function.

What a run says about the lines in front of the cut is known by these lines and by the table with
which the body is entered.
-/

namespace SourceLint

open Text

/-- A source is cut behind any line but the last one. -/
theorem exists_cut_of_lt {source : Text} {count : Nat} (positive : 0 < count)
    (long : count < (lines source).length) :
    ∃ rest, source = join ['\n'] ((lines source).take count) ++ '\n' :: rest ∧
      breaks (join ['\n'] ((lines source).take count)) + 1 = count := by
  -- The cut is behind the first line and in front of the last one, so both parts are filled.
  have front : (lines source).take count ≠ [] := by
    intro none
    have length := congrArg List.length none
    rw [List.length_take, List.length_nil] at length
    omega
  have back : (lines source).drop count ≠ [] := by
    intro none
    have length := congrArg List.length none
    rw [List.length_drop, List.length_nil] at length
    omega
  have whole := join_append ['\n'] front back
  rw [List.take_append_drop, join_lines, List.append_assoc, List.singleton_append] at whole
  refine ⟨_, whole, ?_⟩
  -- The lines in front of the cut are the lines of their text.
  rw [← length_lines, lines_join front fun line member =>
    unbroken_of_mem_lines (List.mem_of_mem_take member), List.length_take]
  omega

namespace Comment

/-- A source without its comments that is cut at a line break. -/
structure Cut (source kept more : Text) (nested late : List Int) : Prop where
  text : (strip source).text = kept ++ '\n' :: more
  reports : (strip source).nested = nested ++ late
  behind : ∀ line ∈ late, (breaks kept : Int) + 1 < line

/-- What is left in front of a line break does not depend on what follows it. -/
theorem exists_cut (front : Text) :
    ∃ kept nested, breaks kept = breaks front ∧
      ∀ rest, ∃ more late, Cut (front ++ '\n' :: rest) kept more nested late := by
  -- The stripper is in the same state behind the break, whatever follows.
  obtain ⟨kept, nested, place, counted, -, -, carried⟩ :=
    carries (show Place.code.Sound 1 from trivial) front
  refine ⟨kept, nested, counted, fun rest => ?_⟩
  -- What is kept of the front is decided before the break.
  have spaced : Spaced ('\n' :: rest) := by
    intro c first
    obtain rfl := Option.some.inj first
    decide
  have parts := carried ('\n' :: rest) spaced
  rw [stripFrom_break] at parts
  obtain ⟨-, bounds⟩ := nested_stripFrom place.next (1 + breaks front + 1) rest
  refine ⟨_, _, congrArg Stripped.text parts, congrArg Stripped.nested parts, ?_⟩
  intro line late
  have bound := (bounds line late).1
  omega

end Comment

/-- Behind a line break the lines of a text are checked on their own, with higher numbers. -/
theorem Validator.validate_append_break (validator : Validator) (front back : Text) (first : Int) :
    (validator.validate (front ++ '\n' :: back) first).1 =
        ((validator.validate front first).1.validateLines
          (prepareLines back (first + (breaks front + 1)))).1 ∧
      ∃ late, (validator.validate (front ++ '\n' :: back) first).2 =
          (validator.validate front first).2 ++ late ∧
        ∀ diagnostic ∈ late, ∃ line, diagnostic.line = some line ∧ first + breaks front < line := by
  -- The lines of both texts are checked by the same validator one after the other.
  unfold validate
  rw [prepareLines_append_break, validateLines_append]
  refine ⟨rfl, _, rfl, fun diagnostic member => ?_⟩
  obtain ⟨finding, -, -, -, line, listed, rfl⟩ := exists_finding_of_mem_validateLines member
  obtain ⟨index, -, -, -, number⟩ := exists_of_mem_prepareLines listed
  exact ⟨line.number, rfl, by omega⟩

/-- A message about one of the first lines. -/
def Diagnostic.UpTo (count : Nat) (diagnostic : Diagnostic) : Prop :=
  diagnostic.origin = .line ∧ ∃ line, diagnostic.line = some line ∧ line ≤ count

/-- A message about one of the first lines is not among those about later ones. -/
theorem Diagnostic.UpTo.mem_of_mem_append {count : Nat} {diagnostic : Diagnostic}
    (near : diagnostic.UpTo count) {front late : List Diagnostic}
    (member : diagnostic ∈ front ++ late)
    (behind : ∀ diagnostic ∈ late, ∃ line, diagnostic.line = some line ∧ (count : Int) < line) :
    diagnostic ∈ front := by
  -- A late message has a larger number, so it is not the one in question.
  rcases List.mem_append.mp member with here | there
  · exact here
  · obtain ⟨-, line, carried, low⟩ := near
    obtain ⟨number, told, high⟩ := behind diagnostic there
    rw [carried] at told
    obtain rfl := Option.some.inj told
    omega

namespace MainFunction.Outlined

variable {source kept more : Text} {main : MainFunction}
variable {start header gap inside tail part within : Text}

/-- The closing brace stands as many lines behind the opening one as the body has line breaks. -/
theorem lineOf_bodyEnd
    (outlined : Outlined (maskSource source) main start header gap inside tail) :
    lineOf source main.bodyEnd =
      ((breaks (start ++ (header ++ gap)) + breaks inside + 1 : Nat) : Int) := by
  have slice := breaks_slice (map_maskSource source).symm 0 main.bodyEnd
  -- In front of the closing brace are the start, the header, the gap and the body.
  have front : (maskSource source).take main.bodyEnd =
      start ++ (header ++ gap) ++ '{' :: inside := by
    have regroup : maskSource source =
        (start ++ (header ++ gap) ++ '{' :: inside) ++ '}' :: tail := by
      rw [outlined.whole]
      simp
    have size : main.bodyEnd = (start ++ (header ++ gap) ++ '{' :: inside).length := by
      rw [outlined.bodyEnd]
      simp only [List.length_append, List.length_cons]
      omega
    rw [regroup, size, List.take_left]
  rw [List.drop_zero, List.drop_zero, front, breaks_append, breaks_cons (by decide)] at slice
  unfold lineOf
  dsimp only
  rw [if_pos (Int.natCast_nonneg _), Int.toNat_natCast, slice]
  omega

/-- A body around a line break is cut there as well. -/
theorem body_append_break
    (outlined : Outlined (maskSource (kept ++ '\n' :: more)) main start header gap
      (part ++ '\n' :: within) tail)
    (shared : maskSource kept = start ++ (header ++ (gap ++ '{' :: part))) :
    main.body (kept ++ '\n' :: more) =
        kept.drop main.bodyStart ++ '\n' :: more.take within.length ∧
      main.bodyLine + breaks (kept.drop main.bodyStart) = breaks kept + 1 := by
  have length := congrArg List.length shared
  rw [length_maskSource] at length
  simp only [List.length_append, List.length_cons] at length
  have begins := outlined.bodyStart
  simp only [List.length_append] at begins
  have size : (kept.drop main.bodyStart).length = part.length := by
    rw [List.length_drop]
    omega
  constructor
  · have stop : main.bodyEnd - main.bodyStart =
        (kept.drop main.bodyStart).length + (within.length + 1) := by
      rw [size, outlined.bodyEnd, outlined.bodyStart, Nat.add_sub_cancel_left]
      simp only [List.length_append, List.length_cons]
    unfold body
    rw [List.drop_append_of_le_length (by omega), stop, List.take_length_add_append,
      List.take_succ_cons]
  · -- The masked view has its line breaks in the same places.
    have counted := breaks_maskSource kept
    have parts := congrArg breaks shared
    have inner : breaks (kept.drop main.bodyStart) = breaks part := by
      have slice := breaks_slice (map_maskSource kept).symm main.bodyStart part.length
      have regroup : maskSource kept = start ++ (header ++ gap) ++ '{' :: part := by
        rw [shared]
        simp
      rw [List.take_of_length_le (Nat.le_of_eq size), regroup, outlined.bodyStart,
        List.drop_length_add_append, List.drop_succ_cons, List.drop_zero,
        List.take_of_length_le (Nat.le_refl _), ← outlined.bodyStart] at slice
      exact slice
    simp only [breaks_append, breaks_cons (c := '{') (by decide)] at parts
    rw [inner, outlined.bodyLine]
    simp only [breaks_append]
    omega

end MainFunction.Outlined

namespace Analysis

/-- A source whose only main function is open at the end of line `count`. -/
structure Split (source : Text) (count : Nat) (main : MainFunction) : Prop where
  ends : (analyze {} source).aborted = false
  found : MainFunction.locate false (Comment.strip source).text = .found main
  opened : main.bodyLine ≤ count
  closed : count < lineOf (Comment.strip source).text main.bodyEnd

/-- The messages about the lines in front of a cut, for the table with which the body is entered. -/
def frontMessages (nested : List Int) (kept : Text) (main : MainFunction) (table : SymbolTable) :
    List Diagnostic :=
  nested.map Finding.nestedComment.onLine ++
    ((Validator.standard false false {}).validate kept 1).2 ++
    ((Validator.standard true false table).validate (kept.drop main.bodyStart) main.bodyLine).2

namespace Split

variable {source kept more : Text} {nested late : List Int} {count : Nat} {main : MainFunction}

/-- The comments of such a source all end. -/
theorem unclosed (split : Split source count main) : (Comment.strip source).unclosed = none := by
  -- A run that is not aborted has met the end of every comment.
  have ends := split.ends
  rw [aborted_analyze] at ends
  simpa using ends

/-- Such a source goes on behind the line. -/
theorem count_bounds (split : Split source count main) :
    0 < count ∧ count < (lines source).length := by
  obtain ⟨start, header, gap, inside, tail, outlined⟩ := MainFunction.exists_outlined split.found
  have opened := split.opened
  have closed := split.closed
  have parts := congrArg breaks outlined.whole
  rw [outlined.bodyLine] at opened
  rw [outlined.lineOf_bodyEnd] at closed
  -- Both braces stand on lines of the source.
  simp only [breaks_append, breaks_cons (c := '{') (by decide),
    breaks_cons (c := '}') (by decide)] at parts opened closed
  rw [breaks_maskSource, (Comment.thinned_strip source).breaks_eq] at parts
  rw [length_lines]
  omega

/-- The body is cut where the source is. -/
theorem exists_outlined (split : Split source count main)
    (cut : Comment.Cut source kept more nested late) (counted : breaks kept + 1 = count) :
    ∃ start header gap part within tail,
      MainFunction.Outlined (maskSource kept ++ '\n' :: maskSource more) main start header gap
        (part ++ '\n' :: within) tail ∧
      maskSource kept = start ++ (header ++ (gap ++ '{' :: part)) := by
  -- The outline of the main function gives the lines of its two braces.
  obtain ⟨start, header, gap, inside, tail, outlined⟩ := MainFunction.exists_outlined split.found
  have opened := split.opened
  have closed := split.closed
  rw [outlined.bodyLine] at opened
  rw [outlined.lineOf_bodyEnd] at closed
  rw [cut.text, maskSource_append_break] at outlined
  have lines := breaks_maskSource kept
  -- The opening brace is above the cut and the closing one below it.
  obtain ⟨part, within, shared, rfl⟩ := outlined.exists_part (by omega) (by omega)
  exact ⟨start, header, gap, part, within, tail, outlined, shared⟩

/-- The second look at such a source starts with the lines of the body in front of the cut. -/
theorem exists_secondLook (split : Split source count main)
    (cut : Comment.Cut source kept more nested late) (counted : breaks kept + 1 = count)
    (validator : Validator) :
    ∃ later, (validator.validate (main.body (Comment.strip source).text) main.bodyLine).2 =
        (validator.validate (kept.drop main.bodyStart) main.bodyLine).2 ++ later ∧
      ∀ diagnostic ∈ later, ∃ line, diagnostic.line = some line ∧ (count : Int) < line := by
  -- The body is cut where the source is, so its lines are those of the cut.
  obtain ⟨start, header, gap, part, within, tail, outlined, shared⟩ :=
    split.exists_outlined cut counted
  rw [← maskSource_append_break] at outlined
  obtain ⟨body, last⟩ := outlined.body_append_break shared
  rw [cut.text, body]
  -- The body is checked up to the cut, and then behind it.
  obtain ⟨-, later, parts, behind⟩ := validator.validate_append_break
    (kept.drop main.bodyStart) (more.take within.length) main.bodyLine
  refine ⟨later, parts, fun diagnostic member => ?_⟩
  obtain ⟨line, carried, high⟩ := behind diagnostic member
  exact ⟨line, carried, by omega⟩

/-- What a run says about the lines in front of the cut. -/
theorem mem_diagnostics_iff (split : Split source count main)
    (cut : Comment.Cut source kept more nested late) (counted : breaks kept + 1 = count)
    {diagnostic : Diagnostic} (near : diagnostic.UpTo count) :
    diagnostic ∈ (analyze {} source).diagnostics ↔
      diagnostic ∈ frontMessages nested kept main
        (MainFunction.Scan.startTable {} main (analyze {} source).symbols) := by
  obtain ⟨stages, all, of⟩ := exists_stages {} split.unclosed
  have comments := of.comments
  -- The comments behind the cut are reported on later lines.
  rw [cut.reports, List.map_append] at comments
  have lateComments : ∀ diagnostic ∈ late.map Finding.nestedComment.onLine,
      ∃ line, diagnostic.line = some line ∧ (count : Int) < line := by
    intro diagnostic member
    obtain ⟨line, listed, rfl⟩ := List.mem_map.mp member
    have behind := cut.behind line listed
    exact ⟨line, rfl, by omega⟩
  -- So is what the first look says about the lines behind it.
  have first := of.first
  obtain ⟨-, lateFirst, parts, behindFirst⟩ :=
    (Validator.standard false false {}).validate_append_break kept more 1
  rw [cut.text, parts] at first
  obtain ⟨lateSecond, second, behindSecond⟩ := split.exists_secondLook cut counted
    (Validator.standard true false
      (MainFunction.Scan.startTable {} main (analyze {} source).symbols))
  unfold frontMessages
  rw [all, of.mem_all_iff near.1, List.mem_append, List.mem_append, or_assoc]
  constructor
  · -- Whatever is said about the first lines has been said about the first part.
    intro member
    rcases member with spoken | looked | again
    · exact .inl (near.mem_of_mem_append (comments ▸ spoken) lateComments)
    · refine .inr (.inl (near.mem_of_mem_append (first ▸ looked) fun told member => ?_))
      obtain ⟨line, carried, high⟩ := behindFirst told member
      exact ⟨line, carried, by omega⟩
    · right
      right
      rcases of.raised with none | ⟨other, found, listed⟩
      · rw [none] at again
        cases again
      · obtain rfl : main = other := MainFunction.Search.found.inj (split.found.symm.trans found)
        exact near.mem_of_mem_append (second ▸ listed.subset again) behindSecond
  · -- Conversely the first part is a part of every stage.
    intro member
    rcases member with spoken | looked | again
    · exact .inl (comments ▸ List.mem_append_left _ spoken)
    · exact .inr (.inl (first ▸ List.mem_append_left _ looked))
    · -- What the second look does not report has been reported before.
      have told := of.told main split.found (second ▸ List.mem_append_left lateSecond again)
      rw [List.mem_append, List.mem_append, or_assoc] at told
      exact told

end Split

end Analysis

end SourceLint
