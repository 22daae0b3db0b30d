import SourceLint.Proofs.Lookahead.Header

/-!
The only header of a main function in a masked source.

Headers are looked for from left to right, and the search goes on behind each one that it finds. So
exactly one is found when there is one of which no other stands to the left or behind it.
-/

namespace SourceLint

open Text

namespace MainHeader

/-- A complete header stands at its place in a masked source, and no word goes on there. -/
def Occurs (masked : Text) (header : MainHeader) : Prop :=
  ∃ front text back, masked = front ++ (text ++ back) ∧ front.getLast?.any isWord = false ∧
    header.returnType ∈ returnTypes ∧ IsHeader header.returnType text ∧
    header.start = front.length ∧ header.stop = front.length + text.length

/-- A header is the only one of a masked source, but for such as start inside it. -/
structure IsOnly (masked : Text) (header : MainHeader) : Prop where
  occurs : header.Occurs masked
  within : ∀ other, Occurs masked other → header.start ≤ other.start ∧ other.start < header.stop

/-- A header stands where it can be read and no word goes on. -/
theorem occurs_iff {masked : Text} {header : MainHeader} :
    header.Occurs masked ↔ ∃ front text rest, masked = front ++ text ∧
      front.getLast?.any isWord = false ∧ read? text = some (header.returnType, rest) ∧
      header.start = front.length ∧ header.stop = masked.length - rest.length := by
  -- A header is what is read at its place, and the place where it stops is given by what follows.
  constructor
  · rintro ⟨front, text, back, rfl, outside, listed, complete, start, stop⟩
    refine ⟨front, text ++ back, back, rfl, outside,
      read?_eq_some_iff.mpr ⟨listed, text, complete, rfl⟩, start, ?_⟩
    simp only [List.length_append]
    omega
  · -- What is read is a complete header in front of a rest.
    rintro ⟨front, text, rest, rfl, outside, read, start, stop⟩
    obtain ⟨listed, part, complete, rfl⟩ := read?_eq_some_iff.mp read
    refine ⟨front, part, rest, rfl, outside, listed, complete, start, ?_⟩
    simp only [List.length_append] at stop
    omega

/-- No header is found behind a text when at no place one can be read, or a word goes on there. -/
theorem findsFrom_eq_nil_iff {before text : Text} :
    findsFrom Site.at? 0 before text = [] ↔ ∀ front back, text = front ++ back →
      (front.reverse ++ before).head?.any isWord = true ∨ read? back = none := by
  -- By induction on the text, whose first place is tested before the others.
  induction text generalizing before with
  | nil =>
    refine iff_of_true rfl fun front back split => .inr ?_
    obtain ⟨rfl, rfl⟩ := List.append_eq_nil_iff.mp split.symm
    rfl
  | cons c rest ih =>
    by_cases here : before.head?.any isWord = true ∨ read? (c :: rest) = none
    · -- Nothing is found at the front, so the other places decide.
      rw [findsFrom_of_none here, ih]
      constructor
      · intro later front back split
        cases front with
        | nil =>
          rw [List.nil_append] at split
          simpa [← split] using here
        | cons d front =>
          obtain ⟨rfl, inner⟩ := List.cons_eq_cons.mp split
          simpa using later front back inner
      · intro all front back split
        simpa using all (c :: front) back (by rw [split, List.cons_append])
    · -- A header that can be read at the first place is found there.
      refine iff_of_false (fun nothing => ?_) fun all => here (by simpa using all [] _ rfl)
      rw [not_or, Bool.not_eq_true] at here
      obtain ⟨⟨returnType, tail⟩, read⟩ := Option.ne_none_iff_exists'.mp here.2
      obtain ⟨header, split, nonempty, -⟩ := shape_of_read? read
      rw [findsFrom_of_read? here.1 read split nonempty] at nothing
      cases nothing

/-- No header is found in exactly those masked sources in which none stands. -/
theorem sites_eq_nil_iff {masked : Text} :
    sites masked = [] ↔ ∀ header, ¬ Occurs masked header := by
  unfold sites finds
  rw [findsFrom_eq_nil_iff]
  constructor
  · -- A place with a header would be one at which it can be read.
    rintro none header occurs
    obtain ⟨front, text, rest, split, outside, read, -⟩ := occurs_iff.mp occurs
    have here := none front text split
    rw [List.append_nil, List.head?_reverse, outside, read] at here
    simp at here
  · -- A place at which a header is read is a place at which it stands.
    intro absent front back split
    by_contra here
    rw [not_or, List.append_nil, List.head?_reverse, Bool.not_eq_true] at here
    obtain ⟨outside, readable⟩ := here
    obtain ⟨⟨returnType, rest⟩, read⟩ := Option.ne_none_iff_exists'.mp readable
    exact absent ⟨returnType, front.length, masked.length - rest.length⟩
      (occurs_iff.mpr ⟨front, back, rest, split, outside, read, rfl, rfl⟩)

/-- Two headers at the same place are the same. -/
theorem Occurs.eq_of_start {masked : Text} {first second : MainHeader}
    (left : first.Occurs masked) (right : second.Occurs masked)
    (same : first.start = second.start) : first = second := by
  obtain ⟨front, text, rest, split, -, read, start, stop⟩ := occurs_iff.mp left
  obtain ⟨other, inner, tail, whole, -, again, begins, ends⟩ := occurs_iff.mp right
  -- The same text is read at both places.
  obtain ⟨rfl, rfl⟩ := List.append_inj (split.symm.trans whole) (by omega)
  rw [read] at again
  obtain ⟨type, rfl⟩ := Prod.mk.inj (Option.some.inj again)
  -- The places where the headers stop are given by the same rest.
  cases first
  cases second
  simp only [MainHeader.mk.injEq] at type start stop begins ends ⊢
  exact ⟨type, by omega, by omega⟩

/-- A header behind a front stands in what follows the front. -/
theorem Occurs.exists_rest {front rest : Text} {header : MainHeader}
    (occurs : header.Occurs (front ++ rest)) (behind : front.length ≤ header.start) :
    ∃ inner, Occurs rest inner := by
  obtain ⟨before, text, back, whole, outside, listed, complete, start, -⟩ := occurs
  -- The text in front of the header goes on behind the front.
  obtain ⟨more, rfl⟩ : front <+: before :=
    List.prefix_of_prefix_length_le ⟨rest, rfl⟩ ⟨_, whole.symm⟩ (start ▸ behind)
  rw [List.append_assoc] at whole
  refine ⟨⟨header.returnType, more.length, more.length + text.length⟩, more, text, back,
    List.append_cancel_left whole, ?_, listed, complete, rfl, rfl⟩
  -- The character in front is the same one, or the header now starts the text.
  cases ending : more.getLast? with
  | none => rfl
  | some c =>
    rw [List.getLast?_append, ending, Option.some_or] at outside
    exact outside

/-- Behind a parenthesis, where no word goes on, a header of the rest is one of the whole. -/
theorem Occurs.exists_whole {front rest : Text} (last : front.getLast? = some ')')
    {header : MainHeader} (occurs : header.Occurs rest) :
    ∃ moved, Occurs (front ++ rest) moved ∧ front.length ≤ moved.start := by
  -- The header keeps its text, and its place moves by the front.
  obtain ⟨more, text, back, rfl, outside, listed, complete, -, -⟩ := occurs
  refine ⟨⟨header.returnType, (front ++ more).length, (front ++ more).length + text.length⟩,
    ⟨front ++ more, text, back, by simp, ?_, listed, complete, rfl, rfl⟩, by simp⟩
  -- At the start of the rest the parenthesis stands in front, which is part of no word.
  have closing : isWord ')' = false := by decide
  cases ending : more.getLast? with
  | none => simp [List.getLast?_append, ending, last, closing]
  | some c =>
    rw [ending] at outside
    simpa [List.getLast?_append, ending] using outside

/-- The first header that is found stands in the source, and no other stands to the left of it. -/
theorem leftmost_of_sites {masked : Text} {site : Site} {others : List Site}
    (found : sites masked = site :: others) :
    (site.header masked.length).Occurs masked ∧
      ∀ other, Occurs masked other → (site.header masked.length).start ≤ other.start := by
  obtain ⟨start, split, outside, read, first, -⟩ := exists_first_site found
  rw [List.head?_reverse] at outside
  have place : (site.header masked.length).start = start.length := by
    simp only [Site.header, split, List.length_append]
    omega
  -- The site gives the header, and it is read where the site is.
  refine ⟨occurs_iff.mpr ⟨start, site.text, site.rest, split, outside, read, place, rfl⟩, ?_⟩
  intro other occurs
  obtain ⟨front, text, rest, whole, free, reads, begins, -⟩ := occurs_iff.mp occurs
  -- In front of the first header none can be read.
  by_contra further
  have earlier := first front text whole (by omega)
  rw [List.head?_reverse, free, reads] at earlier
  simp at earlier

/-- The other headers are those of the text behind the first one. -/
theorem rest_of_sites {masked : Text} {site : Site} {others : List Site}
    (found : sites masked = site :: others) :
    ∃ front, masked = front ++ site.rest ∧ front.getLast? = some ')' ∧
      (site.header masked.length).stop = front.length ∧ others = sites site.rest := by
  obtain ⟨start, split, -, read, -, behind⟩ := exists_first_site found
  -- A header ends with its closing parenthesis, and the search goes on right behind it.
  obtain ⟨text, parts, -, last, -⟩ := shape_of_read? read
  rw [parts, ← List.append_assoc] at split
  refine ⟨start ++ text, split, by simp [List.getLast?_append, last], ?_, behind⟩
  simp only [Site.header, split, List.length_append]
  omega

/-- Exactly one header is found when there is an only one, and then it is that one. -/
theorem all_eq_singleton_iff {masked : Text} {header : MainHeader} :
    MainHeader.all masked = [header] ↔ header.IsOnly masked := by
  rw [all_eq]
  constructor
  · -- What is found is a single site, which stands further to the left than any other header.
    intro all
    obtain ⟨site, found, rfl⟩ := List.map_eq_singleton_iff.mp all
    obtain ⟨occurs, leftmost⟩ := leftmost_of_sites found
    obtain ⟨front, whole, -, stop, behind⟩ := rest_of_sites found
    refine ⟨occurs, fun other there => ⟨leftmost other there, ?_⟩⟩
    -- One that starts behind the header would have been found as well.
    by_contra further
    rw [stop] at further
    rw [whole] at there
    obtain ⟨inner, again⟩ := there.exists_rest (by omega)
    exact sites_eq_nil_iff.mp behind.symm inner again
  · intro only
    -- There is an only header, so something is found.
    cases found : sites masked with
    | nil => exact absurd only.occurs (sites_eq_nil_iff.mp found header)
    | cons site others =>
      obtain ⟨occurs, leftmost⟩ := leftmost_of_sites found
      obtain ⟨front, whole, last, stop, behind⟩ := rest_of_sites found
      -- Of two headers that both stand furthest to the left, each is the other one.
      have same : site.header masked.length = header :=
        occurs.eq_of_start only.occurs
          (Nat.le_antisymm (leftmost header only.occurs) (only.within _ occurs).1)
      -- A further one would start inside the only one, but the search has left that behind.
      have none : others = [] := by
        rw [behind, sites_eq_nil_iff]
        intro other again
        obtain ⟨moved, there, high⟩ := again.exists_whole last
        have low := (only.within moved (whole ▸ there)).2
        rw [← same, stop] at low
        omega
      rw [none, List.map_cons, List.map_nil, same]

end MainHeader

end SourceLint
