import Mathlib.Data.List.Forall2
import SourceLint.Proofs.Insertion.Reading
import SourceLint.Proofs.MainFunction

/-! The headers of main functions with and without one more character at the edge of a line. -/

namespace SourceLint

open Text

variable {front back : Text} {shown : Char} {text other : Text}

/-- What follows the white space at the front of a text, if there is any. -/
def spaceTail? (text : Text) : Option Text :=
  if text.head?.any isSpace then some (skipSpace text) else none

/-- A word that white space ends is read word first. -/
theorem afterSpaced?_eq (word text : Text) :
    afterSpaced? word text = (after? word text).bind spaceTail? := by
  -- The word is read first, and the white space behind it is taken in one go.
  rw [afterSpaced?]
  cases after? word text with
  | none => rfl
  | some rest =>
    cases rest with
    | nil => rfl
    | cons c rest => cases space : isSpace c <;> simp [spaceTail?, skipSpace, space]

namespace MainHeader

/-- What follows the name and the parameters of a main function. -/
def afterParameters? (text : Text) : Option Text :=
  (after? "main".toList text).bind fun rest =>
    (after? ['('] (skipSpace rest)).bind fun parameters =>
      after? [')'] (parameters.dropWhile (· != ')'))

/-- A header is read return type first. -/
theorem afterHeader?_eq (returnType text : Text) :
    afterHeader? returnType text = (after? returnType text).bind fun rest =>
      (spaceTail? rest).bind afterParameters? := by
  -- There is only one word to look for in front of the parenthesis.
  have opening : ∀ rest, Statement.afterOpening? ["main".toList] rest =
      (after? "main".toList rest).bind fun tail => after? ['('] (skipSpace tail) := by
    intro rest
    rw [Statement.afterOpening?, List.findSome?_cons]
    split
    case h_1 found => exact found.symm
    case h_2 absent => exact absent.symm
  rw [afterHeader?, afterSpaced?_eq, Option.bind_assoc]
  refine congrArg _ (funext fun rest => congrArg _ (funext fun tail => ?_))
  -- What is left is the name, the opening parenthesis and the parameters, in this order.
  rw [opening, afterParameters?, Option.bind_assoc]

/-- Name and parameters are read on both sides or on neither. -/
theorem afterParameters?_rest (gap : Gap front back shown)
    (rest : Rest front back shown text other) :
    Option.Rel (Rest front back shown) (afterParameters? text) (afterParameters? other) := by
  have paren : Solid [')'] := ⟨by decide, by decide⟩
  -- The character is not the parenthesis that ends the parameters.
  have closing : (shown != ')') = true := by
    simpa using Ne.symm (gap.ne_of_solid paren (by simp))
  refine rel_bind (rest.after? gap ⟨by decide, by decide⟩) fun _ _ named => ?_
  refine rel_bind ((named.skipSpace gap).after? gap ⟨by decide, by decide⟩) fun _ _ opened => ?_
  exact (@Rest.dropWhile _ _ _ _ _ (· != ')') closing opened).after? gap paren

/-- A header is read on both sides or on neither. -/
theorem afterHeader?_rest (gap : Gap front back shown) {returnType : Text}
    (solid : Solid returnType) (rest : Rest front back shown text other) :
    Option.Rel (Rest front back shown) (afterHeader? returnType text)
      (afterHeader? returnType other) := by
  rw [afterHeader?_eq, afterHeader?_eq]
  -- The return type is read alike, so what follows it is related.
  refine rel_bind (rest.after? gap solid) fun left right typed => ?_
  -- Only at the end of the source is there white space on one side alone, and nothing follows it.
  have spaced : left.head?.any isSpace = right.head?.any isSpace ∨
      left = [] ∧ isSpace shown = true ∧ right = [shown] := by
    cases typed with
    | @inside before part split nonempty =>
      obtain ⟨c, more, rfl⟩ := List.exists_cons_of_ne_nil nonempty
      exact .inl rfl
    | next space ends =>
      rcases ends with rfl | ⟨more, rfl⟩
      · exact .inr ⟨rfl, space, rfl⟩
      · have broken : isSpace '\n' = true := by decide
        exact .inl (by simp [space, broken])
    | behind => exact .inl rfl
  -- With white space on both sides the rest is read alike, and on one side alone nothing is left.
  rcases spaced with same | ⟨rfl, space, rfl⟩
  · rw [spaceTail?, spaceTail?, same]
    split
    · exact afterParameters?_rest gap (typed.skipSpace gap)
    · exact .none
  · have nothing : afterParameters? [] = none := rfl
    have blank : spaceTail? [shown] = some [] := by simp [spaceTail?, skipSpace, space]
    rw [blank]
    exact .none

/-- The return types of main functions. -/
def returnTypes : List Text :=
  ["int".toList, "void".toList]

/-- The return type of the header at the front of a text, and what follows the header. -/
def read? (text : Text) : Option (Text × Text) :=
  returnTypes.findSome? fun returnType =>
    (afterHeader? returnType text).map fun rest => (returnType, rest)

/-- The same header is read on both sides or none is. -/
theorem read?_rest (gap : Gap front back shown) (rest : Rest front back shown text other) :
    Option.Rel (fun left right => left.1 = right.1 ∧ Rest front back shown left.2 right.2)
      (read? text) (read? other) := by
  -- The types are tried one after the other on both sides.
  have general : ∀ types : List Text, (∀ returnType ∈ types, Solid returnType) →
      Option.Rel (fun left right => left.1 = right.1 ∧ Rest front back shown left.2 right.2)
        (types.findSome? fun returnType =>
          (afterHeader? returnType text).map fun rest => (returnType, rest))
        (types.findSome? fun returnType =>
          (afterHeader? returnType other).map fun rest => (returnType, rest)) := by
    intro types solid
    induction types with
    | nil => exact .none
    | cons returnType others ih =>
      have here := afterHeader?_rest gap (solid returnType (by simp)) rest
      have later := ih fun next member => solid next (by simp [member])
      rw [List.findSome?_cons, List.findSome?_cons]
      generalize afterHeader? returnType text = left at here
      generalize afterHeader? returnType other = right at here
      -- The first type that is read decides, and it is the same one on both sides.
      cases here with
      | some same => exact .some ⟨rfl, same⟩
      | none => exact later
  refine general returnTypes fun returnType listed => ?_
  -- Neither return type has a character that the gap could split.
  simp only [returnTypes, List.mem_cons, List.not_mem_nil, or_false] at listed
  rcases listed with rfl | rfl <;> exact ⟨by decide, by decide⟩

/-- No header starts with white space or with the view of a literal. -/
theorem read?_eq_none {c : Char} (other : c ≠ 'i' ∧ c ≠ 'v') (rest : Text) :
    read? (c :: rest) = none := by
  -- Both return types start with another letter.
  have unread : ∀ returnType ∈ returnTypes, after? returnType (c :: rest) = none := by
    simp [returnTypes, after?, Ne.symm other.1, Ne.symm other.2]
  rw [read?, List.findSome?_eq_none_iff]
  intro returnType listed
  rw [afterHeader?_eq, unread returnType listed]
  rfl

/-- The parameters of a header end with a parenthesis. -/
theorem suffix_of_afterParameters? {text rest : Text}
    (found : afterParameters? text = some rest) : ')' :: rest <:+ text := by
  obtain ⟨named, name, opened⟩ := Option.bind_eq_some_iff.mp found
  obtain ⟨parameters, opening, closed⟩ := Option.bind_eq_some_iff.mp opened
  -- Each step of the reading leaves an end of what the one before has left.
  have ending : ')' :: rest <:+ parameters := by
    rw [show ')' :: rest = [')'] ++ rest from rfl, ← eq_append_of_after? closed]
    exact List.dropWhile_suffix _
  have inner : parameters <:+ named :=
    List.IsSuffix.trans ⟨['('], (eq_append_of_after? opening).symm⟩ (List.dropWhile_suffix _)
  -- The parts are ends of one another, so their order gives the end of the whole text.
  exact ending.trans (inner.trans ⟨_, (eq_append_of_after? name).symm⟩)

/-- A header starts with a letter and ends with a parenthesis. -/
theorem shape_of_read? {text rest returnType : Text}
    (found : read? text = some (returnType, rest)) :
    ∃ header, text = header ++ rest ∧ header ≠ [] ∧ header.getLast? = some ')' ∧
      ∃ c tail, text = c :: tail ∧ isSpace c = false := by
  obtain ⟨word, listed, read⟩ := List.exists_of_findSome?_eq_some found
  obtain ⟨tail, header, same⟩ := Option.map_eq_some_iff.mp read
  cases same
  rw [afterHeader?_eq] at header
  obtain ⟨typed, type, spaced⟩ := Option.bind_eq_some_iff.mp header
  obtain ⟨named, space, parameters⟩ := Option.bind_eq_some_iff.mp spaced
  -- The white space that is skipped and all that follows it end at the same place.
  have behind : named <:+ typed := by
    rw [spaceTail?] at space
    split at space
    · cases space
      exact List.dropWhile_suffix _
    · cases space
  obtain ⟨middle, split⟩ := (suffix_of_afterParameters? parameters).trans behind
  -- The header is the return type, what is skipped behind it, and the closing parenthesis.
  refine ⟨returnType ++ middle ++ [')'], ?_, by simp, by simp, ?_⟩
  · rw [eq_append_of_after? type, ← split]
    simp
  · rw [eq_append_of_after? type]
    -- Either return type starts with a letter.
    simp only [returnTypes, List.mem_cons, List.not_mem_nil, or_false] at listed
    rcases listed with rfl | rfl <;> exact ⟨_, _, rfl, by decide⟩

/-- A header in a masked source: its return type, the text from it on and the text behind it. -/
structure Site where
  returnType : Text
  text : Text
  rest : Text

/-- The header at a place, as long as no word continues there. -/
def Site.at? (place : Position) : Option (Nat × Site) :=
  if place.follows isWord then none else
    (read? place.after).map fun (returnType, rest) =>
      (place.after.length - rest.length, ⟨returnType, place.after, rest⟩)

/-- The indices of a header in a source of the given length. -/
def Site.header (length : Nat) (site : Site) : MainHeader :=
  ⟨site.returnType, length - site.text.length, length - site.rest.length⟩

/-- The headers of a masked source as its parts. -/
def sites (masked : Text) : List Site :=
  finds Site.at? masked

/-- The header at a place is read from what follows the place. -/
theorem at?_eq (place : Position) :
    at? place = (Site.at? place).map
      (Prod.map id (Site.header (place.before.length + place.after.length))) := by
  -- The places of a header are counted from what follows it.
  have read : at? place = if place.follows isWord then none else
      (read? place.after).map fun found =>
        (place.after.length - found.2.length, ⟨found.1, place.before.length,
          place.before.length + (place.after.length - found.2.length)⟩) := by
    rw [at?, read?, List.map_findSome?]
    congr 1
    refine congrFun (congrArg _ (funext fun returnType => ?_)) _
    rw [Function.comp_apply, Option.map_map]
    rfl
  rw [read, Site.at?]
  -- A place inside a word has no header, in either reading.
  split
  · rfl
  · rw [Option.map_map]
    refine Option.map_congr fun found member => ?_
    -- The header and the rest together are what follows the place, so the lengths add up.
    obtain ⟨header, split, -⟩ := shape_of_read? member
    have lengths := congrArg List.length split
    rw [List.length_append] at lengths
    simp only [Function.comp_apply, Prod.map, Site.header, id_eq, Prod.mk.injEq,
      MainHeader.mk.injEq]
    exact ⟨trivial, trivial, by omega, by omega⟩

/-- Headers are found where their texts are. -/
theorem all_eq (masked : Text) :
    MainHeader.all masked = (sites masked).map (Site.header masked.length) := by
  -- The sum of what is behind a place and what follows it stays the same.
  have general : ∀ (skip : Nat) (before text : Text),
      findsFrom MainHeader.at? skip before text =
        (findsFrom Site.at? skip before text).map (Site.header (before.length + text.length)) := by
    -- By induction on the text, one character of which moves from the one sum to the other.
    intro skip before text
    induction text generalizing skip before with
    | nil => cases skip <;> rfl
    | cons c rest ih =>
      have moved : before.length + (c :: rest).length = (c :: before).length + rest.length := by
        simp only [List.length_cons]
        omega
      cases skip with
      | succ skip => rw [findsFrom, findsFrom, ih, moved]
      | zero =>
        rw [findsFrom, findsFrom, at?_eq]
        cases Site.at? ⟨before, c :: rest⟩ with
        | none => rw [Option.map_none, moved]; exact ih 0 (c :: before)
        | some answer => rw [Option.map_some, List.map_cons, moved]; exact congrArg _ (ih _ _)
  simpa [MainHeader.all, sites, finds] using general 0 [] masked

/-- The search goes on behind what it passes over. -/
theorem findsFrom_append {α : Type} (read? : Position → Option (Nat × α)) (before passed : Text)
    (rest : Text) : findsFrom read? passed.length before (passed ++ rest) =
      findsFrom read? 0 (passed.reverse ++ before) rest := by
  -- By induction on what is passed over, each character being counted off.
  induction passed generalizing before with
  | nil => rfl
  | cons c passed ih =>
    rw [List.length_cons, List.cons_append, findsFrom, ih]
    simp

/-- A header is found, and the search goes on behind it. -/
theorem findsFrom_of_read? {before text rest returnType header : Text}
    (outside : before.head?.any isWord = false) (found : read? text = some (returnType, rest))
    (split : text = header ++ rest) (some : header ≠ []) :
    findsFrom Site.at? 0 before text =
      ⟨returnType, text, rest⟩ :: findsFrom Site.at? 0 (header.reverse ++ before) rest := by
  obtain ⟨c, tail, rfl⟩ := List.exists_cons_of_ne_nil some
  have here : Site.at? ⟨before, text⟩ =
      .some ((c :: tail).length, ⟨returnType, text, rest⟩) := by
    -- The place is as long as the header in front of the rest.
    have size : text.length - rest.length = (c :: tail).length := by
      rw [split, List.length_append, Nat.add_sub_cancel]
    rw [Site.at?, Position.follows, outside, found]
    simp [size]
  rw [split, List.cons_append] at here ⊢
  -- The search passes over the characters of the header.
  have later := findsFrom_append Site.at? (c :: before) tail rest
  simp [findsFrom, here, later]

/-- Without a header the search goes on at the next character. -/
theorem findsFrom_of_none {before rest : Text} {c : Char}
    (absent : before.head?.any isWord = true ∨ read? (c :: rest) = none) :
    findsFrom Site.at? 0 before (c :: rest) = findsFrom Site.at? 0 (c :: before) rest := by
  -- A word continues there, or what follows is no header.
  have here : Site.at? ⟨before, c :: rest⟩ = none := by
    rcases absent with follows | unread
    · rw [Site.at?, Position.follows, follows, if_pos rfl]
    · rw [Site.at?, unread]
      simp
  rw [findsFrom, here]

/-- Of what stands before a place only the question matters whether a word continues there. -/
theorem findsFrom_congr {before other : Text}
    (same : before.head?.any isWord = other.head?.any isWord) (skip : Nat) (text : Text) :
    findsFrom Site.at? skip before text = findsFrom Site.at? skip other text := by
  induction text generalizing skip before other with
  | nil => cases skip <;> rfl
  | cons c rest ih =>
    -- From the second place on both texts are preceded by the same character.
    have later : ∀ skip, findsFrom Site.at? skip (c :: before) rest =
        findsFrom Site.at? skip (c :: other) rest :=
      fun skip => @ih (c :: before) (c :: other) rfl skip
    -- Where the search looks, it reads the same, since the test for a word is the same.
    cases skip with
    | succ skip => exact later skip
    | zero =>
      have here : Site.at? ⟨before, c :: rest⟩ = Site.at? ⟨other, c :: rest⟩ := by
        rw [Site.at?, Site.at?, Position.follows, Position.follows, same]
      rw [findsFrom, findsFrom, here]
      split <;> rw [later]

/-- Two headers with the same return type at the same places around one more character. -/
structure Site.Similar (front back : Text) (shown : Char) (left right : Site) : Prop where
  returnType : left.returnType = right.returnType
  text : Rest front back shown left.text right.text
  rest : Rest front back shown left.rest right.rest
  starts : ∃ c tail, left.text = c :: tail ∧ isSpace c = false

/-- The headers behind the character are the same on both sides. -/
theorem sites_behind {before other part : Text} (ends : part <:+ back)
    (same : before.head?.any isWord = other.head?.any isWord) :
    List.Forall₂ (Site.Similar front back shown) (findsFrom Site.at? 0 before part)
      (findsFrom Site.at? 0 other part) := by
  rw [findsFrom_congr same]
  -- Every header there starts and ends in what follows the character.
  have inside : ∀ (skip : Nat) (before text : Text), text <:+ back →
      -- By induction on the text: a header starts here, or the search goes on behind the character.
      ∀ site ∈ findsFrom Site.at? skip before text, site.Similar front back shown site := by
    intro skip before text
    induction text generalizing skip before with
    | nil => cases skip <;> simp [findsFrom]
    | cons c rest ih =>
      intro ends site member
      have later : ∀ skip, site ∈ findsFrom Site.at? skip (c :: before) rest →
          site.Similar front back shown site :=
        fun skip => ih skip (c :: before) ((List.suffix_cons c rest).trans ends) site
      cases skip with
      | succ skip => exact later skip member
      | zero =>
        rw [findsFrom] at member
        split at member
        case h_2 => exact later 0 member
        case h_1 taken find found =>
          -- A header that starts here lies in the text up to its rest.
          rcases List.mem_cons.mp member with rfl | further
          · rw [Site.at?] at found
            split at found
            · cases found
            · obtain ⟨⟨returnType, tail⟩, read, same⟩ := Option.map_eq_some_iff.mp found
              cases same
              obtain ⟨header, split, -, -, starts⟩ := shape_of_read? read
              exact ⟨rfl, .behind ends, .behind (List.IsSuffix.trans ⟨header, split.symm⟩ ends),
                starts⟩
          · exact later _ further
  exact List.forall₂_same.mpr (inside 0 other part ends)

/-- At the end of a line neither side has a header. -/
theorem sites_next (gap : Gap front back shown) (before other : Text)
    (ends : back = [] ∨ ∃ more, back = '\n' :: more) :
    List.Forall₂ (Site.Similar front back shown) (findsFrom Site.at? 0 before back)
      (findsFrom Site.at? 0 other (shown :: back)) := by
  have unread : read? (shown :: back) = none := read?_eq_none gap.ne_letters back
  rw [findsFrom_of_none (.inr unread)]
  rcases ends with rfl | ⟨more, rfl⟩
  · exact .nil
  · -- No header starts with a line break either.
    have broken : read? ('\n' :: more) = none := read?_eq_none (by decide) more
    rw [findsFrom_of_none (.inr broken), findsFrom_of_none (.inr broken)]
    exact sites_behind (List.suffix_cons _ _) rfl

/-- Where the character stands, neither side has a header. -/
theorem sites_gap (gap : Gap front back shown) :
    List.Forall₂ (Site.Similar front back shown) (findsFrom Site.at? 0 front.reverse back)
      (findsFrom Site.at? 0 front.reverse (shown :: back)) := by
  rcases gap.sides with ends | ⟨space, starts⟩
  · exact sites_next gap _ _ ends
  · -- No header starts with the character.
    have unread : read? (shown :: back) = none := read?_eq_none gap.ne_letters back
    rw [findsFrom_of_none (.inr unread)]
    -- The search on both sides starts behind a character that is no part of a word.
    refine sites_behind List.suffix_rfl ?_
    have broken : isWord '\n' = false := by decide
    have spaced : isWord shown = false := isWord_of_isSpace space
    rcases starts with rfl | ⟨more, rfl⟩ <;> simp [broken, spaced]

/-- A header that both sides have is followed by the headers behind it. -/
theorem sites_found (gap : Gap front back shown) {before part returnType rest tail : Text}
    (outside : before.reverse.head?.any isWord = false)
    (here : Rest front back shown (part ++ back) (part ++ shown :: back))
    (left : read? (part ++ back) = some (returnType, rest))
    (right : read? (part ++ shown :: back) = some (returnType, tail))
    (behind : Rest front back shown rest tail)
    (later : ∀ passed more, part = passed ++ more → passed ≠ [] →
      List.Forall₂ (Site.Similar front back shown)
        (findsFrom Site.at? 0 (before ++ passed).reverse (more ++ back))
        (findsFrom Site.at? 0 (before ++ passed).reverse (more ++ shown :: back))) :
    List.Forall₂ (Site.Similar front back shown)
      (findsFrom Site.at? 0 before.reverse (part ++ back))
      (findsFrom Site.at? 0 before.reverse (part ++ shown :: back)) := by
  -- The headers on both sides are cut off, and the search goes on behind each of them.
  obtain ⟨header, split, some, last, starts⟩ := shape_of_read? left
  obtain ⟨matching, parts, other, final, -⟩ := shape_of_read? right
  rw [findsFrom_of_read? outside left split some, findsFrom_of_read? outside right parts other]
  refine .cons ⟨rfl, here, behind, starts⟩ ?_
  cases behind with
  | @inside _ more =>
    -- In front of the character the header is the same text on both sides.
    have passed : part = header ++ more :=
      List.append_cancel_right (split.trans (List.append_assoc header more back).symm)
    have same : header = matching := by
      rw [passed, List.append_assoc] at parts
      exact List.append_cancel_right parts
    have next := later header more passed some
    rw [List.reverse_append] at next
    exact same ▸ next
  | next space ends => exact sites_next gap _ _ ends
  | behind ends =>
    -- Both headers end with a parenthesis, so no word continues behind them.
    refine sites_behind ends ?_
    simp [List.head?_append, last, final]

/-- In front of the character the search goes on in step, from one header to the next. -/
theorem sites_cons (gap : Gap front back shown) {before part : Text} {c : Char}
    (whole : front = before ++ c :: part)
    (later : ∀ passed more, c :: part = passed ++ more → passed ≠ [] →
      List.Forall₂ (Site.Similar front back shown)
        (findsFrom Site.at? 0 (before ++ passed).reverse (more ++ back))
        (findsFrom Site.at? 0 (before ++ passed).reverse (more ++ shown :: back))) :
    List.Forall₂ (Site.Similar front back shown)
      (findsFrom Site.at? 0 before.reverse (c :: part ++ back))
      (findsFrom Site.at? 0 before.reverse (c :: part ++ shown :: back)) := by
  have step := later [c] part rfl (by simp)
  rw [List.reverse_append, List.reverse_singleton, List.singleton_append] at step
  -- Inside a word there is no header on either side, and the search moves on by one.
  by_cases follows : before.reverse.head?.any isWord = true
  · rw [List.cons_append, findsFrom_of_none (.inl follows), List.cons_append,
      findsFrom_of_none (.inl follows)]
    exact step
  · have here : Rest front back shown (c :: part ++ back) (c :: part ++ shown :: back) :=
      .inside whole (by simp)
    have read := read?_rest gap here
    generalize left : read? (c :: part ++ back) = first at read
    generalize right : read? (c :: part ++ shown :: back) = second at read
    -- A header is read on both sides or on neither.
    cases read with
    | none =>
      rw [List.cons_append] at left right
      rw [List.cons_append, findsFrom_of_none (.inr left), List.cons_append,
        findsFrom_of_none (.inr right)]
      exact step
    | @some first second same =>
      obtain ⟨returnType, rest⟩ := first
      obtain ⟨_, tail⟩ := second
      obtain ⟨rfl, behind⟩ := same
      exact sites_found gap (Bool.not_eq_true _ |>.mp follows) here left right behind later

/-- From any place in front of the character both sides have the same headers. -/
theorem sites_from (gap : Gap front back shown) {before part : Text}
    (whole : front = before ++ part) :
    List.Forall₂ (Site.Similar front back shown)
      (findsFrom Site.at? 0 before.reverse (part ++ back))
      (findsFrom Site.at? 0 before.reverse (part ++ shown :: back)) := by
  -- By induction on the length of what is left, since the search jumps behind each header.
  induction size : part.length using Nat.strongRecOn generalizing before part with
  | ind size ih =>
    subst size
    cases part with
    | nil =>
      rw [List.append_nil] at whole
      exact whole ▸ sites_gap gap
    | cons c part =>
      refine sites_cons gap whole fun passed more split some => ?_
      -- Behind anything that is passed over, the rest is shorter.
      have lengths := congrArg List.length split
      have positive := List.length_pos_iff.mpr some
      rw [List.length_append] at lengths
      exact ih more.length (by omega) (by simp [whole, split]) rfl

/-- A character at the edge of a line neither adds a header nor takes one away. -/
theorem sites_insert (gap : Gap front back shown) :
    List.Forall₂ (Site.Similar front back shown) (sites (front ++ back))
      (sites (front ++ shown :: back)) :=
  @sites_from _ _ _ gap [] front rfl

end MainHeader

end SourceLint
