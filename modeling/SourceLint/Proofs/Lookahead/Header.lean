import SourceLint.Proofs.MainOutline

/-!
Main functions of sources that start with the same lines.

A header is read without a look at what follows it. So when the opening brace stands on one of the
lines that two sources share, they have the same header and the same start of the body.
-/

namespace SourceLint

open Text

namespace MainHeader

/-- A complete header: a return type, white space, the name and the parameters in parentheses. -/
def IsHeader (returnType header : Text) : Prop :=
  ∃ space gap parameters,
    header = returnType ++ (space ++ ("main".toList ++ (gap ++ '(' :: (parameters ++ [')'])))) ∧
      space ≠ [] ∧ (∀ c ∈ space, isSpace c = true) ∧ (∀ c ∈ gap, isSpace c = true) ∧
      ')' ∉ parameters

/-- Whatever is read as a header is one. -/
theorem exists_isHeader {returnType text rest : Text}
    (found : afterHeader? returnType text = some rest) :
    ∃ header, IsHeader returnType header ∧ text = header ++ rest := by
  -- The readers are taken apart, and each gives the part that it has read.
  rw [afterHeader?_eq] at found
  obtain ⟨typed, type, spaced⟩ := Option.bind_eq_some_iff.mp found
  obtain ⟨named, space, parameters⟩ := Option.bind_eq_some_iff.mp spaced
  obtain ⟨behind, name, opened⟩ := Option.bind_eq_some_iff.mp parameters
  obtain ⟨inner, opening, closing⟩ := Option.bind_eq_some_iff.mp opened
  unfold spaceTail? at space
  split at space
  · rename_i starts
    cases space
    refine ⟨_, ⟨typed.takeWhile isSpace, behind.takeWhile isSpace, inner.takeWhile (· != ')'), rfl,
      ?_, fun c => List.mem_takeWhile_imp, fun c => List.mem_takeWhile_imp, fun close => ?_⟩, ?_⟩
    · -- The white space that was asked for is there.
      intro none
      cases typed with
      | nil => cases starts
      | cons c more =>
        rw [List.takeWhile_cons, show isSpace c = true from starts] at none
        cases none
    · simpa using List.mem_takeWhile_imp close
    · -- The parts are put together from the right, each behind what was skipped for it.
      have shut : inner = inner.takeWhile (· != ')') ++ ')' :: rest := by
        conv_lhs => rw [← List.takeWhile_append_dropWhile (p := (· != ')')) (l := inner)]
        rw [eq_append_of_after? closing]
        rfl
      have wide : behind = behind.takeWhile isSpace ++ '(' :: inner := by
        conv_lhs => rw [← List.takeWhile_append_dropWhile (p := isSpace) (l := behind)]
        exact congrArg _ (eq_append_of_after? opening)
      have apart : typed = typed.takeWhile isSpace ++ ("main".toList ++ behind) := by
        conv_lhs => rw [← List.takeWhile_append_dropWhile (p := isSpace) (l := typed)]
        exact congrArg _ (eq_append_of_after? name)
      calc text = returnType ++ typed := eq_append_of_after? type
        _ = returnType ++ (typed.takeWhile isSpace ++ ("main".toList ++
              (behind.takeWhile isSpace ++
                '(' :: (inner.takeWhile (· != ')') ++ ')' :: rest)))) := by
            rw [← shut, ← wide, ← apart]
        _ = _ := by simp
  · -- Without white space behind the type nothing is read.
    cases space

/-- A header is read whatever follows it. -/
theorem afterHeader?_append {returnType header : Text} (complete : IsHeader returnType header)
    (rest : Text) : afterHeader? returnType (header ++ rest) = some rest := by
  obtain ⟨space, gap, parameters, rfl, nonempty, spaces, blank, unclosed⟩ := complete
  -- Every part is read up to the next one, whatever follows there.
  have starts : ∀ more, spaceTail? (space ++ ("main".toList ++ more)) =
      some ("main".toList ++ more) := by
    intro more
    obtain ⟨c, others, rfl⟩ := List.exists_cons_of_ne_nil nonempty
    unfold spaceTail?
    rw [if_pos (by simpa using spaces c (by simp)), skipSpace_append spaces]
    rfl
  have opens : ∀ more, skipSpace (gap ++ '(' :: more) = '(' :: more := by
    intro more
    rw [skipSpace_append blank]
    rfl
  have passes : ∀ more, (parameters ++ ')' :: more).dropWhile (· != ')') = ')' :: more := by
    intro more
    rw [List.dropWhile_append_of_pos]
    · rfl
    · intro c member
      simp only [bne_iff_ne, ne_eq]
      intro close
      exact unclosed (close ▸ member)
  -- The parts are read one after the other.
  rw [afterHeader?_eq]
  simp only [List.append_assoc, List.cons_append, List.nil_append, after?_append, Option.bind_some,
    starts, afterParameters?, opens]
  rw [show after? ['('] ('(' :: (parameters ++ ')' :: rest)) = some (parameters ++ ')' :: rest)
    from rfl, Option.bind_some, passes]
  rfl

/-- A header is read off the front of exactly those texts that start with one. -/
theorem read?_eq_some_iff {text rest returnType : Text} :
    read? text = some (returnType, rest) ↔
      returnType ∈ returnTypes ∧ ∃ header, IsHeader returnType header ∧ text = header ++ rest := by
  constructor
  · -- The type that is read is listed, and what follows it is complete.
    intro found
    obtain ⟨word, listed, read⟩ := List.exists_of_findSome?_eq_some found
    obtain ⟨tail, after, same⟩ := Option.map_eq_some_iff.mp read
    cases same
    exact ⟨listed, exists_isHeader after⟩
  · -- Of the two types only the one that the header starts with can be read.
    rintro ⟨listed, header, complete, rfl⟩
    have reads := afterHeader?_append complete rest
    unfold read? returnTypes
    rw [List.findSome?_cons]
    simp only [returnTypes, List.mem_cons, List.not_mem_nil, or_false] at listed
    rcases listed with rfl | rfl
    · rw [reads]
      rfl
    · -- A header of the other type starts with another letter.
      have different : afterHeader? "int".toList (header ++ rest) = none := by
        obtain ⟨space, gap, parameters, rfl, -⟩ := complete
        rw [afterHeader?_eq]
        rfl
      rw [different, Option.map_none, List.findSome?_cons, reads]
      rfl

/-- The header at the front of a text is read without a look at what follows it. -/
theorem read?_append {returnType header rest : Text}
    (found : read? (header ++ rest) = some (returnType, rest)) (other : Text) :
    read? (header ++ other) = some (returnType, other) := by
  -- Being complete says nothing about what follows.
  obtain ⟨listed, front, complete, parts⟩ := read?_eq_some_iff.mp found
  obtain rfl := List.append_cancel_right parts
  exact read?_eq_some_iff.mpr ⟨listed, header, complete, rfl⟩

end MainHeader

namespace MainFunction.Outlined

variable {front back other : Text} {main second : MainFunction}
variable {start header gap inside tail part : Text}
variable {otherStart otherHeader otherGap otherInside otherTail otherPart : Text}

/-- A body that is opened on the first lines and closed behind them goes on behind a line break. -/
theorem exists_part (outlined : Outlined (front ++ '\n' :: back) main start header gap inside tail)
    (opened : breaks (start ++ (header ++ gap)) ≤ breaks front)
    (closed : breaks front < breaks (start ++ (header ++ gap)) + breaks inside) :
    ∃ part within, front = start ++ (header ++ (gap ++ '{' :: part)) ∧
      inside = part ++ '\n' :: within := by
  -- The text is cut at the break, which is in front of the opening brace or behind it.
  have whole : front ++ '\n' :: back =
      start ++ (header ++ gap) ++ '{' :: (inside ++ '}' :: tail) := by
    rw [outlined.whole]
    simp
  rcases List.append_eq_append_iff.mp whole with ⟨more, lead, rest⟩ | ⟨more, lead, rest⟩
  · -- The opening brace would stand behind the first lines.
    exfalso
    cases more with
    | nil => simp at rest
    | cons c more =>
      obtain ⟨rfl, -⟩ := List.cons_eq_cons.mp rest
      rw [lead, breaks_append, breaks_cons_break] at opened
      omega
  · -- The break is behind the opening brace, so only the closing brace is left to place.
    cases more with
    | nil => simp at rest
    | cons c part =>
      obtain ⟨rfl, behind⟩ := List.cons_eq_cons.mp rest
      rcases List.append_eq_append_iff.mp behind with ⟨more, inner, last⟩ | ⟨more, inner, last⟩
      · -- The closing brace would stand on the first lines.
        exfalso
        cases more with
        | nil => simp at last
        | cons d more =>
          rw [lead, inner] at closed
          simp only [breaks_append, breaks_cons (c := '{') (by decide)] at closed
          omega
      · cases more with
        | nil => simp at last
        | cons d within =>
          obtain ⟨rfl, -⟩ := List.cons_eq_cons.mp last
          exact ⟨part, within, by rw [lead]; simp, inner⟩

/-- A header on the first lines does not stand further right than another one. -/
theorem length_start_le
    (outlined : Outlined (front ++ '\n' :: back) main start header gap inside tail)
    (again : Outlined (front ++ '\n' :: other) second otherStart otherHeader otherGap otherInside
      otherTail)
    (shared : front = otherStart ++ (otherHeader ++ (otherGap ++ '{' :: otherPart))) :
    start.length ≤ otherStart.length := by
  -- Suppose the other header stands to the left of the first one that is found.
  apply Nat.le_of_not_lt
  intro shorter
  -- What is read there with the one continuation is read with the other one as well.
  have split : front ++ '\n' :: back =
      otherStart ++ (otherHeader ++ (otherGap ++ '{' :: otherPart ++ '\n' :: back)) := by
    rw [shared]
    simp
  have read := MainHeader.read?_append again.read (otherGap ++ '{' :: otherPart ++ '\n' :: back)
  rcases outlined.first _ _ split shorter with continues | unread
  · rw [again.outside] at continues
    cases continues
  · rw [read] at unread
    cases unread

/-- Two sources that share the lines up to the opening brace have the same main function there. -/
theorem agree (outlined : Outlined (front ++ '\n' :: back) main start header gap inside tail)
    (again : Outlined (front ++ '\n' :: other) second otherStart otherHeader otherGap otherInside
      otherTail)
    (shared : front = start ++ (header ++ (gap ++ '{' :: part)))
    (sharedAgain : front = otherStart ++ (otherHeader ++ (otherGap ++ '{' :: otherPart))) :
    start = otherStart ∧ start ++ (header ++ gap) = otherStart ++ (otherHeader ++ otherGap) ∧
      part = otherPart := by
  -- Neither of the two headers stands to the left of the other.
  have length : start.length = otherStart.length :=
    Nat.le_antisymm (outlined.length_start_le again sharedAgain)
      (again.length_start_le outlined shared)
  have parts := shared.symm.trans sharedAgain
  obtain ⟨rfl, texts⟩ := List.append_inj parts length
  -- Both headers are read at the same place, so the same text follows them.
  have read := MainHeader.read?_append outlined.read (gap ++ '{' :: part)
  have readAgain := MainHeader.read?_append again.read (otherGap ++ '{' :: otherPart)
  rw [← texts, read] at readAgain
  obtain ⟨-, rests⟩ := Prod.mk.inj (Option.some.inj readAgain)
  have headers : header = otherHeader := by
    rw [rests] at texts
    exact List.append_cancel_right texts
  -- What stands in front of a brace is all the white space that there is.
  have gaps : gap = otherGap := by
    have first := congrArg (List.takeWhile isSpace) rests
    have brace : ('{' :: part).takeWhile isSpace = [] := rfl
    have otherBrace : ('{' :: otherPart).takeWhile isSpace = [] := rfl
    rw [List.takeWhile_append_of_pos outlined.blank, List.takeWhile_append_of_pos again.blank,
      brace, otherBrace, List.append_nil, List.append_nil] at first
    exact first
  rw [gaps] at rests
  refine ⟨rfl, by rw [headers, gaps], ?_⟩
  exact (List.cons_eq_cons.mp (List.append_cancel_left rests)).2

end MainFunction.Outlined

end SourceLint
