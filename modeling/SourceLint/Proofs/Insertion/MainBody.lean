import SourceLint.Proofs.Insertion.MainFunction

/-!
The body of the main function with and without one more character at the edge of a line.

The source and its masked view have their line breaks in the same places, so the braces that the
view shows cut the same lines out of the source.
-/

namespace SourceLint

open Text

variable {front back : Text} {c shown : Char} {kept : Nat}

/-- What stands in front of an edge is on the lines that are kept. -/
theorem Edge.le_kept (edge : Edge front back kept) {before part : Text} {d : Char}
    (unbroken : d ≠ '\n') (split : front = before ++ d :: part) : breaks before + 1 ≤ kept := by
  -- The character stands behind as many breaks as there are in front of it.
  have counted := congrArg breaks split
  rw [breaks_append, breaks_cons unbroken] at counted
  cases edge with
  | front => simp at split
  | start more =>
    -- The line break in front of the edge stands behind the character.
    have ending : (d :: part).getLast? = some '\n' := by
      have last := congrArg List.getLast? split
      rw [List.getLast?_concat, List.getLast?_append_of_ne_nil _ (by simp)] at last
      exact last.symm
    cases part with
    | nil => exact absurd (by simpa using ending) unbroken
    -- So there is a break behind the character, and its line ends in front of the edge.
    | cons e part =>
      have broken : '\n' ∈ e :: part := List.mem_of_getLast? (by simpa using ending)
      have positive : 0 < breaks (e :: part) := List.count_pos_iff.mpr broken
      have single : breaks ['\n'] = 1 := rfl
      rw [breaks_append, single] at counted
      omega
  | stop => omega
  | last => omega

/-- What stands behind an edge is on the lines that move. -/
theorem Edge.kept_lt (edge : Edge front back kept) {passed rest : Text} {d : Char}
    (unbroken : d ≠ '\n') (split : back = passed ++ d :: rest) :
    kept < breaks (front ++ passed) + 1 := by
  rw [breaks_append]
  -- A place behind the edge is on a later line than the lines that stay.
  cases edge with
  | front => omega
  | start more =>
    have single : breaks ['\n'] = 1 := rfl
    rw [breaks_append, single]
    omega
  -- At the end of a line the first character behind the edge is the line break.
  | stop _ more =>
    cases passed with
    | nil => simp [Ne.symm unbroken] at split
    | cons e passed =>
      cases split
      rw [breaks_cons_break]
      omega
  | last => simp at split

/-- The edge of a line is one as well in the middle of a text that is cut inside of lines. -/
theorem Edge.inner {head body more tail : Text} (edge : Edge (head ++ body) (more ++ tail) kept)
    (starts : (head.map (· == '\n')).getLast? = some false)
    (ends : (tail.map (· == '\n')).head? = some false) :
    ∃ inner, Edge body more inner ∧ kept = breaks head + inner := by
  generalize before : head ++ body = first at edge
  generalize after : more ++ tail = second at edge
  -- An edge at the end of the outer text would have the cut at a line break.
  cases edge with
  | front =>
    simp [List.append_eq_nil_iff.mp before] at starts
  | start lines =>
    -- The edge stands behind a break, which is inside the part or at its start.
    rcases List.eq_nil_or_concat body with rfl | ⟨init, d, rfl⟩
    · rw [List.append_nil] at before
      simp [before] at starts
    · rw [List.concat_eq_append, ← List.append_assoc] at before
      obtain ⟨rfl, same⟩ := List.append_inj' before rfl
      obtain rfl : d = '\n' := by simpa using same
      refine ⟨breaks init + 1, List.concat_eq_append ▸ .start init more, ?_⟩
      rw [breaks_append]
      omega
  | stop _ lines =>
    cases more with
    | nil =>
      rw [List.nil_append] at after
      simp [after] at ends
    -- The break behind the edge is inside the part behind it.
    | cons d more =>
      cases after
      refine ⟨breaks body + 1, .stop body more, ?_⟩
      rw [← before, breaks_append]
      omega
  | last =>
    simp [List.append_eq_nil_iff.mp after] at ends

/-- The character is a line break where the inserted one is. -/
theorem Shown.break_iff (kind : Shown c front back shown) : shown = '\n' ↔ c = '\n' := by
  -- What hides an inserted character is a fill, and a line break is never hidden.
  cases kind with
  | plain => rfl
  | hidden unbroken => simp [unbroken]

/-- The line of a place is numbered anew when the place is behind the character. -/
theorem line_insert (edge : Edge front back kept) (kind : Shown c front back shown) {d : Char}
    (unspaced : isSpace d = false) {before rest lead other : Text}
    (same : Rest front back shown (d :: rest) other) (left : front ++ back = before ++ d :: rest)
    (right : front ++ shown :: back = lead ++ other) :
    ((breaks lead + 1 : Nat) : Int) = shiftBy c kept ((breaks before + 1 : Nat) : Int) := by
  -- The place is no white space, so it is in front of the inserted character or behind it.
  have unbroken : d ≠ '\n' := (ne_of_class (by decide) unspaced).symm
  rcases same.solid unspaced with ⟨first, part, whole, rfl, rfl⟩ | ⟨rfl, passed, split⟩
  · -- Both sides read the same text up to the place.
    have heads : before = first := by
      rw [whole, List.append_assoc, List.cons_append] at left
      exact (List.append_cancel_right left).symm
    have tails : lead = first := by
      rw [whole, List.append_assoc, List.cons_append] at right
      exact (List.append_cancel_right right).symm
    have small := edge.le_kept unbroken whole
    rw [heads, tails, shiftBy_of_le c (by omega)]
  · -- The place is behind the character, so it moves if that is a line break.
    have heads : before = front ++ passed := by
      rw [← split, ← List.append_assoc] at left
      exact (List.append_cancel_right left).symm
    have tails : lead = front ++ shown :: passed := by
      rw [← split, ← List.cons_append, ← List.append_assoc] at right
      exact (List.append_cancel_right right).symm
    have large := edge.kept_lt unbroken split.symm
    by_cases broken : c = '\n'
    · subst broken
      rw [kind.break_iff.mpr rfl] at tails
      rw [heads, tails, shiftBy_of_lt (by omega)]
      simp only [breaks_append, breaks_cons_break]
      omega
    · have plain : shown ≠ '\n' := fun shown => broken (kind.break_iff.mp shown)
      rw [heads, tails, shiftBy_of_ne broken, breaks_append, breaks_append, breaks_cons plain]
      rfl

namespace MainFunction

/-- What lies inside and behind braces in a masked source. -/
def close? (depth : Nat) (masked : Text) : Option (Text × Text) :=
  closeFrom? '{' '}' depth (masked.map fun c => (c, c))

/-- A character that is no brace is part of what lies inside. -/
theorem close?_cons {d : Char} (opening : d ≠ '{') (closing : d ≠ '}') (depth : Nat)
    (masked : Text) :
    close? depth (d :: masked) = (close? depth masked).map (Prod.map (d :: ·) id) := by
  -- Only a brace changes the depth.
  simp only [close?, List.map_cons, closeFrom?, if_neg opening, if_neg closing]
  rfl

/-- An opening brace is part of what lies inside. -/
theorem close?_opening (depth : Nat) (masked : Text) :
    close? depth ('{' :: masked) = (close? (depth + 1) masked).map (Prod.map ('{' :: ·) id) :=
  rfl

/-- A closing brace ends what lies inside, or an inner brace. -/
theorem close?_closing (depth : Nat) (masked : Text) :
    close? depth ('}' :: masked) = match depth with
      | 0 => some ([], masked)
      | depth + 1 => (close? depth masked).map (Prod.map ('}' :: ·) id) := by
  -- At depth zero the brace ends the search, and further in it is passed over.
  have other : '}' ≠ '{' := by decide
  cases depth with
  | zero => simp [close?, closeFrom?, other, Function.comp_def]
  | succ depth =>
    simp only [close?, List.map_cons, closeFrom?, if_neg other, if_true]
    rfl

/-- What lies inside braces ends at the closing one. -/
theorem eq_append_of_close? {depth : Nat} {masked inside after : Text}
    (found : close? depth masked = some (inside, after)) : masked = inside ++ '}' :: after := by
  -- By induction on the text, each character being passed over until the brace is found.
  induction masked generalizing depth inside with
  | nil => cases found
  | cons d rest ih =>
    -- A character that is passed over comes to the front of the inside.
    have step : ∀ {depth : Nat}, (close? depth rest).map (Prod.map (d :: ·) id) =
        some (inside, after) → d :: rest = inside ++ '}' :: after := by
      intro depth moved
      obtain ⟨⟨inner, tail⟩, read, same⟩ := Option.map_eq_some_iff.mp moved
      cases same
      rw [ih read]
      rfl
    -- An opening brace and an inner closing one are passed over like any other character.
    by_cases opening : d = '{'
    · subst opening
      exact step (close?_opening depth rest ▸ found)
    · by_cases closing : d = '}'
      · subst closing
        rw [close?_closing] at found
        cases depth with
        | zero =>
          cases found
          rfl
        | succ depth => exact step found
      · exact step (close?_cons opening closing depth rest ▸ found)

/-- Braces that open in front of the character close at the same place on both sides. -/
theorem close?_insert (gap : Gap front back shown) {before part : Text}
    (whole : front = before ++ part) (depth : Nat) :
    Option.Rel (fun left right => Rest front back shown ('}' :: left.2) ('}' :: right.2))
      (close? depth (part ++ back)) (close? depth (part ++ shown :: back)) := by
  have braces : Solid ['{', '}'] := ⟨by simp, by decide⟩
  -- What one more character adds to the inside does not matter to what follows.
  have moved : ∀ {d : Char} {left right : Option (Text × Text)},
      Option.Rel (fun left right => Rest front back shown ('}' :: left.2) ('}' :: right.2))
        left right →
      Option.Rel (fun left right => Rest front back shown ('}' :: left.2) ('}' :: right.2))
        (left.map (Prod.map (d :: ·) id)) (right.map (Prod.map (d :: ·) id)) := by
    rintro d left right (same | -)
    · exact .some same
    · exact .none
  -- The induction is on what stands between the opening brace and the character.
  induction part generalizing before depth with
  | nil =>
    have opening := Ne.symm (gap.ne_of_solid braces (c := '{') (by simp))
    have closing := Ne.symm (gap.ne_of_solid braces (c := '}') (by simp))
    -- White space is no brace, so the search goes on behind the inserted character.
    rw [List.nil_append, List.nil_append, close?_cons opening closing]
    cases found : close? depth back with
    | none => exact .none
    | some answer => exact .some (.behind ⟨answer.1, (eq_append_of_close? found).symm⟩)
  | cons d part ih =>
    have later := fun depth => @ih (before ++ [d]) (by simp [whole]) depth
    rw [List.cons_append, List.cons_append]
    by_cases opening : d = '{'
    · subst opening
      rw [close?_opening, close?_opening]
      exact moved (later (depth + 1))
    · by_cases closing : d = '}'
      · subst closing
        -- At depth zero the brace is found in front of the character, on both sides.
        rw [close?_closing, close?_closing]
        cases depth with
        | zero => exact .some (.inside whole (by simp))
        | succ depth => exact moved (later depth)
      · rw [close?_cons opening closing, close?_cons opening closing]
        exact moved (later depth)

section Body

variable {before after : Text}

/-- A part of a text has as many line breaks as the same part of a text with the same breaks. -/
theorem breaks_slice (same : before.map (· == '\n') = front.map (· == '\n')) (start size : Nat) :
    breaks ((before.drop start).take size) = breaks ((front.drop start).take size) := by
  -- The slice has its breaks where the other one has them.
  refine breaks_congr ?_
  rw [List.map_take, List.map_drop, same, List.map_take, List.map_drop]

/-- A body in front of the character is left as it is. -/
theorem body_front (edge : Edge front back kept) (c : Char)
    (same : before.map (· == '\n') = front.map (· == '\n')) {lead inside part : Text}
    (split : front = lead ++ '{' :: (inside ++ '}' :: part)) (rest other : Text) :
    prepareLines (((before ++ other).drop (lead.length + 1)).take inside.length)
        ((breaks lead + 1 : Nat) : Int) =
      (prepareLines (((before ++ rest).drop (lead.length + 1)).take inside.length)
        ((breaks lead + 1 : Nat) : Int)).map (NumberedLine.renumber (shiftBy c kept)) := by
  have size : before.length = lead.length + 1 + (inside.length + 1 + part.length) := by
    have lengths := congrArg List.length same
    rw [List.length_map, List.length_map, split] at lengths
    simp only [List.length_append, List.length_cons] at lengths
    omega
  -- The slice ends in front of the character, so it does not matter what follows.
  have slice : ∀ rest : Text, ((before ++ rest).drop (lead.length + 1)).take inside.length =
      (before.drop (lead.length + 1)).take inside.length := by
    intro rest
    rw [List.drop_append_of_le_length (by omega),
      List.take_append_of_le_length (by rw [List.length_drop]; omega)]
  have counted : breaks ((before.drop (lead.length + 1)).take inside.length) = breaks inside := by
    have shown : (front.drop (lead.length + 1)).take inside.length = inside := by
      rw [split, List.drop_length_add_append, List.drop_succ_cons, List.drop_zero,
        List.take_left]
    rw [breaks_slice same, shown]
  -- The line of the closing brace is one that stays.
  have small : breaks (lead ++ '{' :: inside) + 1 ≤ kept :=
    edge.le_kept (d := '}') (by decide) (by simpa using split)
  -- The slice has the breaks of the body, so all of its lines are in front of the edge.
  rw [breaks_append, breaks_cons (by decide)] at small
  rw [slice, slice]
  exact (preparedLines.map_kept c (by rw [counted]; omega)).symm

/-- A body around the character holds one more character at the edge of a line. -/
theorem body_across (edge : Edge before after kept) (space : isSpace c = true)
    (left : before.map (· == '\n') = front.map (· == '\n'))
    (right : after.map (· == '\n') = back.map (· == '\n')) {lead part inside tail : Text}
    (opened : front = lead ++ '{' :: part) (closed : back = inside ++ '}' :: tail) :
    prepareLines (((before ++ c :: after).drop (lead.length + 1)).take
        (part ++ shown :: inside).length) ((breaks lead + 1 : Nat) : Int) =
      (prepareLines (((before ++ after).drop (lead.length + 1)).take
        (part ++ inside).length) ((breaks lead + 1 : Nat) : Int)).map
          (NumberedLine.renumber (shiftBy c kept)) := by
  -- The source is cut where its masked view is.
  obtain ⟨head, body, rfl, heads⟩ : ∃ head body, before = head ++ body ∧
      head.map (· == '\n') = (lead ++ ['{']).map (· == '\n') := by
    refine ⟨before.take (lead.length + 1), before.drop (lead.length + 1), by simp, ?_⟩
    have shorter : (lead ++ '{' :: part).take (lead.length + 1) = lead ++ ['{'] := by
      rw [List.take_length_add_append]
      rfl
    rw [List.map_take, left, opened, ← List.map_take, shorter]
  obtain ⟨more, rest, rfl, mores⟩ : ∃ more rest, after = more ++ rest ∧
      more.map (· == '\n') = inside.map (· == '\n') := by
    refine ⟨after.take inside.length, after.drop inside.length, by simp, ?_⟩
    rw [List.map_take, right, closed, ← List.map_take, List.take_left]
  -- Each part of the source has its breaks where the part of the view has them.
  rw [List.map_append, heads, opened] at left
  rw [List.map_append, mores, closed] at right
  have bodies : body.map (· == '\n') = part.map (· == '\n') := by simpa using left
  have rests : rest.map (· == '\n') = ('}' :: tail).map (· == '\n') := by simpa using right
  -- So the edge is one inside the body as well.
  obtain ⟨inner, edge, count⟩ := edge.inner (by simp [heads]) (by simp [rests])
  have start : head.length = lead.length + 1 := by simpa using congrArg List.length heads
  have size : body.length = part.length := by simpa using congrArg List.length bodies
  have length : more.length = inside.length := by simpa using congrArg List.length mores
  have slice : ((head ++ body ++ (more ++ rest)).drop (lead.length + 1)).take
      (part ++ inside).length = body ++ more := by
    rw [← start, List.append_assoc, List.drop_left, ← List.append_assoc, List.length_append,
      ← size, ← length, ← List.length_append, List.take_left]
  have longer : ((head ++ body ++ c :: (more ++ rest)).drop (lead.length + 1)).take
      (part ++ shown :: inside).length = body ++ c :: more := by
    have sizes : (part ++ shown :: inside).length = (body ++ c :: more).length := by
      simp [size, length]
    have regroup : head ++ body ++ c :: (more ++ rest) = head ++ (body ++ c :: more ++ rest) := by
      simp
    rw [sizes, regroup, ← start, List.drop_left, List.take_left]
  -- The body starts on the same line in both, and the rest is the insertion at an edge.
  have counted : breaks head = breaks lead := by
    rw [breaks_congr heads, breaks_append]
    rfl
  have line : ((breaks lead + 1 : Nat) : Int) - 1 + inner = kept := by omega
  rw [slice, longer, ← line]
  exact preparedLines.read_insert edge space _

/-- A body behind the character is on lines that move. -/
theorem body_back (edge : Edge front back kept) (kind : Shown c front back shown)
    (same : before.length = front.length) {passed inside tail : Text}
    (split : back = passed ++ '{' :: (inside ++ '}' :: tail)) :
    prepareLines (((before ++ c :: after).drop ((front ++ shown :: passed).length + 1)).take
        inside.length) ((breaks (front ++ shown :: passed) + 1 : Nat) : Int) =
      (prepareLines (((before ++ after).drop ((front ++ passed).length + 1)).take
        inside.length) ((breaks (front ++ passed) + 1 : Nat) : Int)).map
          (NumberedLine.renumber (shiftBy c kept)) := by
  -- On both sides the body is the same slice of what follows the character.
  have slice : (before ++ after).drop ((front ++ passed).length + 1) =
      after.drop (passed.length + 1) := by
    rw [List.length_append, ← same, Nat.add_assoc, List.drop_length_add_append]
  have longer : (before ++ c :: after).drop ((front ++ shown :: passed).length + 1) =
      after.drop (passed.length + 1) := by
    rw [List.length_append, ← same, Nat.add_assoc, List.drop_length_add_append]
    rfl
  -- The opening brace stands behind the edge, so the lines of the body are behind it as well.
  have large : kept < breaks (front ++ passed) + 1 := edge.kept_lt (by decide) split
  rw [slice, longer]
  -- A line break moves them by one, and any other white space leaves them where they are.
  by_cases broken : c = '\n'
  · subst broken
    have moved : breaks (front ++ shown :: passed) = breaks (front ++ passed) + 1 := by
      rw [kind.break_iff.mpr rfl, breaks_append, breaks_append, breaks_cons_break]
      rfl
    have later : (kept : Int) < ((breaks (front ++ passed) + 1 : Nat) : Int) := by omega
    rw [moved, Int.natCast_add]
    exact (preparedLines.map_moved later).symm
  · have plain : shown ≠ '\n' := fun shown => broken (kind.break_iff.mp shown)
    have kept : breaks (front ++ shown :: passed) = breaks (front ++ passed) := by
      rw [breaks_append, breaks_append, breaks_cons plain]
    rw [kept, shiftBy_of_ne broken]
    exact (List.map_id _).symm

/-- The body between two braces has the same lines on both sides. -/
theorem body_insert (edge : Edge before after kept) (view : Edge front back kept)
    (space : isSpace c = true) (kind : Shown c front back shown)
    (left : before.map (· == '\n') = front.map (· == '\n'))
    (right : after.map (· == '\n') = back.map (· == '\n'))
    {lead head inside within tail rear : Text}
    (opened : Rest front back shown ('{' :: (inside ++ '}' :: tail))
      ('{' :: (within ++ '}' :: rear)))
    (closed : Rest front back shown ('}' :: tail) ('}' :: rear))
    (first : front ++ back = lead ++ '{' :: (inside ++ '}' :: tail))
    (second : front ++ shown :: back = head ++ '{' :: (within ++ '}' :: rear)) :
    prepareLines (((before ++ c :: after).drop (head.length + 1)).take within.length)
        ((breaks head + 1 : Nat) : Int) =
      (prepareLines (((before ++ after).drop (lead.length + 1)).take inside.length)
        ((breaks lead + 1 : Nat) : Int)).map (NumberedLine.renumber (shiftBy c kept)) := by
  -- The opening brace is in front of the character or behind it, and so is the closing one.
  have lengths : before.length = front.length := by simpa using congrArg List.length left
  rcases opened.solid (by decide) with ⟨init, part, split, text, other⟩ | ⟨other, passed, split⟩
  · -- The opening brace is in front of the character, so both sides read the same up to it.
    obtain rfl : lead = init := by
      rw [text, split, List.append_assoc] at first
      exact (List.append_cancel_right first).symm
    obtain rfl : head = lead := by
      rw [other, split, List.append_assoc] at second
      exact (List.append_cancel_right second).symm
    replace other : within ++ '}' :: rear = part ++ shown :: back := by simpa using other
    rcases closed.solid (by decide) with ⟨-, more, -, ends, rears⟩ | ⟨rears, more, ends⟩
    · have bodies : inside ++ '}' :: more = part := by
        rw [ends, ← List.cons_append, ← List.append_assoc] at text
        exact List.append_cancel_right text
      -- What follows the closing brace on each side tells that the insides are the same.
      have same : within = inside := by
        have behind : rear = more ++ shown :: back := by simpa using rears
        rw [behind, ← bodies, ← List.cons_append, ← List.append_assoc] at other
        simpa using List.append_cancel_right other
      rw [same]
      exact body_front view c left (bodies ▸ split) _ _
    · -- The character is inside the body, between what the view shows in front of it and behind it.
      obtain rfl : rear = tail := by simpa using rears
      obtain rfl : inside = part ++ more := by
        rw [← ends, ← List.append_assoc] at text
        exact List.append_cancel_right text
      obtain rfl : within = part ++ shown :: more := by
        rw [← ends, ← List.cons_append, ← List.append_assoc] at other
        exact List.append_cancel_right other
      exact body_across edge space left right split ends.symm
  · -- Both braces are behind the character, so the whole body is.
    have same : within ++ '}' :: rear = inside ++ '}' :: tail := by simpa using other
    rcases closed.solid (by decide) with ⟨-, more, -, ends, -⟩ | ⟨rears, -⟩
    · -- The closing brace cannot be in front of the character when the opening one is behind it.
      have long := congrArg List.length split
      rw [ends] at long
      simp only [List.length_append, List.length_cons] at long
      omega
    · obtain rfl : rear = tail := by simpa using rears
      obtain rfl : within = inside := by simpa using same
      -- What stands in front of the opening brace differs in the inserted character alone.
      obtain rfl : lead = front ++ passed := by
        rw [← split, ← List.append_assoc] at first
        exact (List.append_cancel_right first).symm
      obtain rfl : head = front ++ shown :: passed := by
        rw [← split, ← List.cons_append, ← List.append_assoc] at second
        exact (List.append_cancel_right second).symm
      exact body_back view kind lengths split.symm

end Body

/-- The main function between two known texts of a masked source. -/
def placed (masked returnType header body inside : Text) : MainFunction :=
  ⟨returnType, lineOf masked ((masked.length - header.length : Nat) : Int),
    masked.length - body.length, masked.length - body.length + inside.length,
    lineOf masked ((masked.length - ('{' :: body).length : Nat) : Int)⟩

/-- The main function with a header that is known by the texts from it on and behind it. -/
theorem ofHeader_eq {masked rest : Text} (ends : rest <:+ masked) (returnType text : Text) :
    ofHeader masked ⟨returnType, masked.length - text.length, masked.length - rest.length⟩ =
      match after? ['{'] (skipSpace rest) with
      | none => .faulty .mainWithoutOpening
      | some body => match close? 0 body with
        | none => .faulty .mainWithoutClosing
        | some (inside, _) => .found (placed masked returnType text body inside) := by
  -- Places are counted from the start of the view, and texts are known by what follows them.
  obtain ⟨before, rfl⟩ := ends
  -- What follows the header is the rest.
  have behind : (before ++ rest).drop ((before ++ rest).length - rest.length) = rest := by
    rw [List.length_append, Nat.add_sub_cancel, List.drop_left]
  have parts : rest.takeWhile isSpace ++ skipSpace rest = rest := List.takeWhile_append_dropWhile
  have skipped : rest.drop (rest.takeWhile isSpace).length = skipSpace rest :=
    drop_length_takeWhile isSpace rest
  have size := congrArg List.length parts
  rw [List.length_append] at size
  -- The opening brace is looked for behind the white space that follows the header.
  rw [ofHeader]
  simp only [behind, skipped]
  generalize opening : skipSpace rest = opened at size
  cases opened with
  | nil => rfl
  | cons d body =>
    by_cases brace : d = '{'
    · subst brace
      -- The lengths of what is left say where the brace and the body start.
      have index : (before ++ rest).length - rest.length + (rest.takeWhile isSpace).length =
          (before ++ rest).length - ('{' :: body).length := by
        rw [List.length_append]
        omega
      have inner : (before ++ rest).length - ('{' :: body).length + 1 =
          (before ++ rest).length - body.length := by
        rw [List.length_append]
        simp only [List.length_cons] at size ⊢
        omega
      simp only [after?, if_true, index, inner, placed]
      rw [close?]
      split <;> simp_all
    · -- Without an opening brace there is nothing to close.
      simp only [after?, if_neg (Ne.symm brace)]
      split
      · simp_all
      · rfl

/-- Braces that both sides open close at the same place. -/
theorem close?_rest (gap : Gap front back shown) {text other : Text}
    (opened : Rest front back shown ('{' :: text) ('{' :: other)) :
    Option.Rel (fun left right => Rest front back shown ('}' :: left.2) ('}' :: right.2))
      (close? 0 text) (close? 0 other) := by
  rcases opened.solid (by decide) with ⟨before, part, split, rfl, same⟩ | ⟨same, ends⟩
  · -- The brace is opened in front of the character, and both sides look for its end there.
    obtain rfl : other = part ++ shown :: back := by simpa using same
    exact @close?_insert _ _ _ gap (before ++ ['{']) part (by simp [split]) 0
  · -- Behind the character the search reads one text.
    obtain rfl : other = text := by simpa using same
    cases found : close? 0 other with
    | none => exact .none
    | some answer =>
      refine .some (.behind (List.IsSuffix.trans ⟨'{' :: answer.1, ?_⟩ ends))
      rw [eq_append_of_close? found]
      rfl

/-- The line of a text that ends the source. -/
theorem lineOf_suffix (lead text : Text) :
    lineOf (lead ++ text) (((lead ++ text).length - text.length : Nat) : Int) =
      ((breaks lead + 1 : Nat) : Int) := by
  -- The breaks in front of the text say on which line it starts.
  rw [List.length_append, Nat.add_sub_cancel, lineOf]
  simp

/-- The lines of a main function with known texts. -/
theorem lines_placed {masked header lead body : Text} (returnType inside start : Text)
    (starts : masked = start ++ header) (leads : masked = lead ++ '{' :: body) (source : Text) :
    (placed masked returnType header body inside).headerLine = ((breaks start + 1 : Nat) : Int) ∧
      (placed masked returnType header body inside).bodyLine = ((breaks lead + 1 : Nat) : Int) ∧
      (placed masked returnType header body inside).body source =
        (source.drop (lead.length + 1)).take inside.length := by
  -- Each place is given by what follows it, and the breaks in front of it say its line.
  refine ⟨?_, ?_, ?_⟩
  · rw [placed, starts]
    exact lineOf_suffix start header
  · rw [placed, leads]
    exact lineOf_suffix lead ('{' :: body)
  · -- The body starts behind the opening brace.
    have size : masked.length - body.length = lead.length + 1 := by
      rw [leads]
      simp only [List.length_append, List.length_cons]
      omega
    rw [MainFunction.body, placed, size, Nat.add_sub_cancel_left]

/-- The main function with a header on both sides is the same on renumbered lines. -/
theorem ofHeader_insert {before after : Text} (edge : Edge before after kept)
    (view : Edge front back kept) (space : isSpace c = true) (kind : Shown c front back shown)
    (left : before.map (· == '\n') = front.map (· == '\n'))
    (right : after.map (· == '\n') = back.map (· == '\n')) {site other : MainHeader.Site}
    (same : site.Similar front back shown other) :
    Search.Renumbered (shiftBy c kept) (before ++ after) (before ++ c :: after)
      (ofHeader (front ++ back) (site.header (front ++ back).length))
      (ofHeader (front ++ shown :: back) (other.header (front ++ shown :: back).length)) := by
  -- White space behind the header is skipped on both sides, and then the same brace is looked at.
  have gap := view.gap space kind
  have skipped := same.rest.skipSpace gap
  have opened := skipped.after? gap (show Solid ['{'] from ⟨by decide, by decide⟩)
  rw [MainHeader.Site.header, MainHeader.Site.header, ofHeader_eq same.rest.suffix.1,
    ofHeader_eq same.rest.suffix.2]
  -- The opening brace is found behind both headers or behind neither.
  generalize leftBody : after? ['{'] (skipSpace site.rest) = first at opened
  generalize rightBody : after? ['{'] (skipSpace other.rest) = second at opened
  cases opened with
  | none => exact .faulty _
  | @some text rest =>
    have leftOpen : skipSpace site.rest = '{' :: text := eq_append_of_after? leftBody
    have rightOpen : skipSpace other.rest = '{' :: rest := eq_append_of_after? rightBody
    rw [leftOpen, rightOpen] at skipped
    have closed := close?_rest gap skipped
    simp only
    -- The same goes for the brace that closes the body.
    generalize leftEnd : close? 0 text = first at closed
    generalize rightEnd : close? 0 rest = second at closed
    cases closed with
    | none => exact .faulty _
    | @some first second ended =>
      obtain ⟨inside, tail⟩ := first
      obtain ⟨within, rear⟩ := second
      obtain rfl := eq_append_of_close? leftEnd
      obtain rfl := eq_append_of_close? rightEnd
      -- What is on both sides of each place is read off the lengths that are known.
      obtain ⟨⟨start, starts⟩, ⟨begin, begins⟩⟩ := same.text.suffix
      obtain ⟨⟨lead, leads⟩, ⟨head, heads⟩⟩ := skipped.suffix
      obtain ⟨d, more, letter, unspaced⟩ := same.starts
      -- The lines of the header and of the body and the body itself match.
      have headerLine := line_insert view kind unspaced (letter ▸ same.text)
        (letter ▸ starts.symm) begins.symm
      have bodyLine := line_insert view kind (by decide) skipped leads.symm heads.symm
      have bodies := body_insert edge view space kind left right skipped ended leads.symm heads.symm
      obtain ⟨leftHeader, leftLine, leftInside⟩ := lines_placed site.returnType inside start
        starts.symm leads.symm (before ++ after)
      obtain ⟨rightHeader, rightLine, rightInside⟩ := lines_placed other.returnType within begin
        begins.symm heads.symm (before ++ c :: after)
      refine .found ⟨?_, ?_, ?_⟩
      · rw [leftHeader, rightHeader, headerLine]
      · rw [leftLine, rightLine, bodyLine]
      · rw [leftLine, rightLine, leftInside, rightInside, bodies]

/-- White space at the edge of a line moves the main function and changes nothing else of it. -/
theorem locate_insert {before after : Text} (edge : Edge before after kept)
    (space : isSpace c = true) (required : Bool) :
    Search.Renumbered (shiftBy c kept) (before ++ after) (before ++ c :: after)
      (locate required (before ++ after)) (locate required (before ++ c :: after)) := by
  -- The character goes into the view as it goes into the source.
  obtain ⟨front, back, shown, plain, longer, length, view, kind⟩ := maskSource_insert edge space
  have gap := view.gap space kind
  -- The masked view has its breaks where the source has them.
  have halves : before.map (· == '\n') = front.map (· == '\n') ∧
      after.map (· == '\n') = back.map (· == '\n') := by
    have whole := map_maskSource (before ++ after)
    rw [plain, List.map_append, List.map_append] at whole
    obtain ⟨left, right⟩ := List.append_inj whole (by simp [length])
    exact ⟨left.symm, right.symm⟩
  have sites := MainHeader.sites_insert gap
  -- Both searches start from the headers that the two views show.
  rw [locate, locate]
  simp only [plain, longer, MainHeader.all_eq]
  generalize MainHeader.sites (front ++ back) = first at sites
  generalize MainHeader.sites (front ++ shown :: back) = second at sites
  -- As many headers are found on both sides, and only a single one is opened.
  cases sites with
  | nil =>
    -- Without a header the reason depends on words that the view shows, and these are the same.
    rw [List.map_nil, List.map_nil]
    simp only
    rw [← missing_insert gap, missing]
    split
    · exact .faulty _
    · split
      · exact .faulty _
      · split
        · exact .faulty _
        · exact .absent
  | cons same others =>
    cases others with
    | nil => exact ofHeader_insert edge view space kind halves.1 halves.2 same
    | cons => exact .faulty _

end MainFunction

end SourceLint
