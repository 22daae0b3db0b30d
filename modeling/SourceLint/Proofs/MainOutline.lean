import SourceLint.Proofs.Insertion.MainBody

/-!
The parts of a source around its main function.

The header is the leftmost one that can be read, white space may stand between it and the opening
brace, and the body goes up to the brace that closes it.
-/

namespace SourceLint

open Text

/-- The first header that is found is the leftmost one, and the others are looked for behind it. -/
theorem MainHeader.exists_first_site {masked : Text} {site : Site} {others : List Site}
    (found : sites masked = site :: others) :
    ∃ start, masked = start ++ site.text ∧ start.reverse.head?.any isWord = false ∧
      read? site.text = some (site.returnType, site.rest) ∧
      (∀ before after, masked = before ++ after → before.length < start.length →
        before.reverse.head?.any isWord = true ∨ read? after = none) ∧
      others = sites site.rest := by
  -- The text that was passed over is kept in the statement, since a word may go on from there.
  have general : ∀ passed text : Text, findsFrom Site.at? 0 passed text = site :: others →
      ∃ start, text = start ++ site.text ∧ (start.reverse ++ passed).head?.any isWord = false ∧
        read? site.text = some (site.returnType, site.rest) ∧
        (∀ before after, text = before ++ after → before.length < start.length →
          (before.reverse ++ passed).head?.any isWord = true ∨ read? after = none) ∧
        others = sites site.rest := by
    intro passed text
    induction text generalizing passed with
    | nil =>
      intro found
      cases found
    | cons c rest ih =>
      intro found
      by_cases here : passed.head?.any isWord = true ∨ read? (c :: rest) = none
      · -- Nothing is read at this place, so the header is found later.
        rw [findsFrom_of_none here] at found
        obtain ⟨start, split, outside, read, first, behind⟩ := ih (c :: passed) found
        refine ⟨c :: start, by rw [split]; rfl, by simpa using outside, read, ?_, behind⟩
        intro before after whole shorter
        cases before with
        | nil =>
          rw [List.nil_append] at whole
          simpa [← whole] using here
        | cons d before =>
          obtain ⟨rfl, inner⟩ := List.cons_eq_cons.mp whole
          have earlier := first before after inner (by simpa using shorter)
          simpa using earlier
      · -- A header is read here, so it is the first one.
        rw [not_or, Bool.not_eq_true] at here
        obtain ⟨outside, readable⟩ := here
        obtain ⟨⟨returnType, tail⟩, read⟩ := Option.ne_none_iff_exists'.mp readable
        obtain ⟨header, split, nonempty, last, -⟩ := shape_of_read? read
        rw [findsFrom_of_read? outside read split nonempty] at found
        cases found
        refine ⟨[], rfl, by simpa using outside, read, fun before after whole shorter =>
          absurd shorter (Nat.not_lt_zero _), ?_⟩
        -- No word goes on behind the parenthesis that ends the header.
        exact findsFrom_congr (by simp [List.head?_append, last]; decide) 0 tail
  obtain ⟨start, split, outside, read, first, behind⟩ := general [] masked found
  exact ⟨start, split, by simpa using outside, read, by simpa using first, behind⟩

namespace MainFunction

/-- A main function whose header, braces and body are the given parts of a masked source. -/
structure Outlined (masked : Text) (main : MainFunction) (start header gap inside tail : Text) :
    Prop where
  whole : masked = start ++ (header ++ (gap ++ '{' :: (inside ++ '}' :: tail)))
  outside : start.reverse.head?.any isWord = false
  read : MainHeader.read? (header ++ (gap ++ '{' :: (inside ++ '}' :: tail))) =
    some (main.returnType, gap ++ '{' :: (inside ++ '}' :: tail))
  /-- No header can be read further left. -/
  first : ∀ before after, masked = before ++ after → before.length < start.length →
    before.reverse.head?.any isWord = true ∨ MainHeader.read? after = none
  blank : ∀ c ∈ gap, isSpace c = true
  closed : close? 0 (inside ++ '}' :: tail) = some (inside, tail)
  headerLine : main.headerLine = ((breaks start + 1 : Nat) : Int)
  bodyLine : main.bodyLine = ((breaks (start ++ (header ++ gap)) + 1 : Nat) : Int)
  bodyStart : main.bodyStart = (start ++ (header ++ gap)).length + 1
  bodyEnd : main.bodyEnd = (start ++ (header ++ gap)).length + 1 + inside.length

/-- A source without a header has no main function. -/
theorem missing_ne_found (required : Bool) (masked : Text) (main : MainFunction) :
    missing required masked ≠ .found main := by
  -- The message depends on what the source has instead of a header.
  unfold missing
  split
  · simp
  · split
    · simp
    · split <;> simp

/-- A main function that is found has the only header of the source. -/
theorem exists_site_of_locate {required : Bool} {source : Text} {main : MainFunction}
    (found : locate required source = .found main) :
    ∃ site : MainHeader.Site, MainHeader.sites (maskSource source) = [site] ∧
      ofHeader (maskSource source) (site.header (maskSource source).length) = .found main := by
  unfold locate at found
  dsimp only at found
  rw [MainHeader.all_eq] at found
  -- Without a header nothing is found, and several are a fault.
  cases sites : MainHeader.sites (maskSource source) with
  | nil =>
    rw [sites] at found
    exact absurd found (missing_ne_found required _ main)
  | cons site others =>
    rw [sites] at found
    cases others with
    -- A single header is the one that the body is looked for behind.
    | nil => exact ⟨site, rfl, found⟩
    | cons => cases found

/-- A main function that is found behind a header opens there and closes. -/
theorem exists_body_of_ofHeader {masked rest : Text} (ends : rest <:+ masked)
    {returnType text : Text} {main : MainFunction}
    (found : ofHeader masked
      ⟨returnType, masked.length - text.length, masked.length - rest.length⟩ = .found main) :
    ∃ gap inside tail, rest = gap ++ '{' :: (inside ++ '}' :: tail) ∧
      (∀ c ∈ gap, isSpace c = true) ∧
      close? 0 (inside ++ '}' :: tail) = some (inside, tail) ∧
      main = placed masked returnType text (inside ++ '}' :: tail) inside := by
  rw [ofHeader_eq ends] at found
  -- Both braces have been found, since otherwise there would be a fault.
  cases opened : after? ['{'] (skipSpace rest) with
  | none =>
    rw [opened] at found
    cases found
  | some body =>
    rw [opened] at found
    dsimp only at found
    cases closed : close? 0 body with
    | none =>
      rw [closed] at found
      cases found
    | some answer =>
      rw [closed] at found
      obtain ⟨inside, tail⟩ := answer
      obtain rfl := eq_append_of_close? closed
      -- The gap is what has been skipped, and the body lies between the two braces.
      have brace : skipSpace rest = '{' :: (inside ++ '}' :: tail) := eq_append_of_after? opened
      refine ⟨rest.takeWhile isSpace, inside, tail, ?_, fun _ => List.mem_takeWhile_imp, closed,
        (Search.found.inj found).symm⟩
      rw [← brace]
      exact List.takeWhile_append_dropWhile.symm

/-- A main function that is found has known parts. -/
theorem exists_outlined {required : Bool} {source : Text} {main : MainFunction}
    (found : locate required source = .found main) :
    ∃ start header gap inside tail,
      Outlined (maskSource source) main start header gap inside tail := by
  -- The site gives the start and the header, and what follows the header gives the rest.
  obtain ⟨⟨returnType, text, rest⟩, sites, headed⟩ := exists_site_of_locate found
  obtain ⟨start, split, outside, read, first, -⟩ := MainHeader.exists_first_site sites
  dsimp only at split outside read first
  obtain ⟨header, parts, -⟩ := MainHeader.shape_of_read? read
  have ends : rest <:+ maskSource source :=
    ⟨start ++ header, by rw [split, parts, List.append_assoc]⟩
  obtain ⟨gap, inside, tail, rfl, blank, closed, rfl⟩ := exists_body_of_ofHeader ends headed
  -- The header, the gap and the body lie one behind the other.
  have lead : maskSource source = start ++ (header ++ gap) ++ '{' :: (inside ++ '}' :: tail) := by
    rw [split, parts]
    simp
  obtain ⟨headerLine, bodyLine, -⟩ := lines_placed returnType inside start split lead source
  have size : (maskSource source).length - (inside ++ '}' :: tail).length =
      (start ++ (header ++ gap)).length + 1 := by
    rw [lead]
    simp only [List.length_append, List.length_cons]
    omega
  rw [parts] at read
  -- The places of the main function are counted from these parts.
  refine ⟨start, header, gap, inside, tail, ?_, outside, read, first, blank, closed, headerLine,
    bodyLine, size, ?_⟩
  · rw [split, parts]
  · rw [← size]
    rfl

namespace Outlined

variable {source : Text} {main : MainFunction} {start header gap inside tail : Text}

/-- The body has as many lines as what stands between the braces. -/
theorem breaks_body (outlined : Outlined (maskSource source) main start header gap inside tail) :
    breaks (main.body source) = breaks inside := by
  -- The source is cut where its masked view is, and both have their line breaks in the same places.
  unfold body
  rw [outlined.bodyEnd, outlined.bodyStart, Nat.add_sub_cancel_left,
    breaks_slice (map_maskSource source).symm, outlined.whole]
  have regroup : start ++ (header ++ (gap ++ '{' :: (inside ++ '}' :: tail))) =
      start ++ (header ++ gap) ++ '{' :: (inside ++ '}' :: tail) := by simp
  rw [regroup, List.drop_length_add_append, List.drop_succ_cons, List.drop_zero, List.take_left]

/-- The lines of the body are lines of the source. -/
theorem bodyLine_bounds
    (outlined : Outlined (maskSource source) main start header gap inside tail) :
    1 ≤ main.bodyLine ∧ main.bodyLine + breaks (main.body source) ≤ breaks source + 1 := by
  have counted := breaks_maskSource source
  -- The line breaks are those of the parts.
  have parts := congrArg breaks outlined.whole
  simp only [breaks_append, breaks_cons (c := '{') (by decide),
    breaks_cons (c := '}') (by decide)] at parts
  rw [outlined.breaks_body, outlined.bodyLine]
  simp only [breaks_append]
  omega

end Outlined

end MainFunction

end SourceLint
