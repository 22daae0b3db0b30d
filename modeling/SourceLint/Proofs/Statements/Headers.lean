import Mathlib.Data.List.Basic
import SourceLint.Proofs.Text.Enclosing
import SourceLint.Proofs.Text.Lines

/-!
Statements behind control headers.

Headers are taken off the front of a statement one after another, however many there are, and what
is left starts with none. Where they are written out properly, that is the text behind the last one.
-/

namespace SourceLint

open Text

namespace Statement

/-- A keyword, optional white space and an opening parenthesis stand in front of a rest. -/
def OpensTo (text rest : Text) : Prop :=
  ∃ keyword ∈ controlKeywords, ∃ gap, (∀ c ∈ gap, isSpace c = true) ∧
    text = keyword ++ (gap ++ '(' :: rest)

/-- A control header stands at the front of a text: a keyword that opens or the word `else`. -/
def Headed (text : Text) : Prop :=
  (∃ rest, OpensTo text rest) ∨ ∃ rest, text = "else".toList ++ rest ∧ rest.head?.any isWord = false

variable {text rest inside after : Text}

/-- What follows an opening is read if a keyword opens at the front. -/
theorem afterOpening?_eq_some_iff :
    afterOpening? controlKeywords text = some rest ↔ OpensTo text rest := by
  constructor
  · -- What is read by the word, the gap and the parenthesis stands there.
    exact exists_of_afterOpening?
  · rintro ⟨keyword, listed, gap, blank, rfl⟩
    have opened : skipSpace (gap ++ '(' :: rest) = '(' :: rest := skipSpace_append blank _
    -- No keyword starts with another one, so those in front of this one are not read.
    have apart : ∀ word ∈ controlKeywords, ∀ other ∈ controlKeywords,
        word ≠ other → after? word other = none := by decide
    obtain ⟨earlier, later, split⟩ := List.append_of_mem listed
    refine List.findSome?_eq_some_iff.mpr
      ⟨earlier, keyword, later, split, ?_, fun word before => ?_⟩
    · rw [after?_append, Option.bind_some, opened]
      rfl
    · -- The keywords are listed once each, so one that comes earlier is a different one.
      have known : word ∈ controlKeywords := split ▸ List.mem_append_left _ before
      have different : word ≠ keyword := by
        have distinct : controlKeywords.Nodup := by decide
        rw [split, List.nodup_append] at distinct
        exact distinct.2.2 word before keyword List.mem_cons_self
      rw [after?_append_eq_none (apart word known keyword listed different)
        (apart keyword listed word known different.symm)]
      rfl

/-- A word starts a text if it stands there and does not go on. -/
theorem startsWithWord_iff {word : Text} : startsWithWord word text = true ↔
    ∃ rest, text = word ++ rest ∧ rest.head?.any isWord = false := by
  constructor
  · intro starts
    -- What follows the word is read with it, and the test is about its first character.
    unfold startsWithWord at starts
    split at starts
    · rename_i rest read
      exact ⟨rest, eq_append_of_after? read, by simpa using starts⟩
    · cases starts
  · -- The word is read where it stands, and the character behind it ends it.
    rintro ⟨rest, rfl, ends⟩
    rw [startsWithWord, after?_append]
    simp [ends]

/-- A header is read where one stands at the front, and nowhere else. -/
theorem isSome_header?_iff : (header? text).isSome = true ↔ Headed text := by
  -- Each of the three ways to have a header is a test of the reader.
  simp only [Headed, ← startsWithWord_iff, ← afterOpening?_eq_some_iff, header?]
  cases read : afterBranch? controlKeywords text with
  | none =>
    -- Then no keyword opens at the front.
    have unopened := (Option.or_eq_none_iff.mp read).2
    rw [unopened]
    cases startsWithWord "else".toList text <;> simp
  | some rest =>
    refine iff_of_true rfl ?_
    rcases Option.or_eq_some_iff.mp read with first | ⟨-, second⟩
    · -- White space ends the `else` in front of the keyword.
      obtain ⟨tail, word, -⟩ := Option.bind_eq_some_iff.mp first
      obtain ⟨space, spaced, spaces, whole, -⟩ := afterSpaced?_eq_some_iff.mp word
      obtain ⟨c, more, rfl⟩ := List.exists_cons_of_ne_nil spaced
      refine .inr (startsWithWord_iff.mpr ⟨_, whole, ?_⟩)
      exact isWord_of_isSpace (spaces c List.mem_cons_self)
    · exact .inl ⟨rest, second⟩

/-- A statement without a header is left as it is. -/
theorem body_of_not_headed (headless : ¬Headed text) : body text = text := by
  -- Without a header there is nothing to take off.
  rw [← isSome_header?_iff, Option.not_isSome_iff_eq_none] at headless
  exact body_of_header?_eq_none headless

/-- No header is left in front of a statement. -/
theorem header?_body (text : Text) : header? (body text) = none := by
  induction text using induction_on_headers with
  | headless text absent => rwa [body_of_header?_eq_none absent]
  | bare text rest found ih => rwa [body_of_header?_bare found]
  | paren text rest inside after found closed ih => rwa [body_of_header?_paren found closed]
  | unclosed text rest found unread =>
    -- Nothing is left, and nothing starts with no header.
    rw [body_of_header?_unclosed found unread]
    rfl

/-- The end of a trimmed text is the trimmed end of the text. -/
theorem exists_suffix_of_trim {part : Text} (ends : part <:+ trim text) :
    ∃ rest, rest <:+ text ∧ trim rest = trim part := by
  -- The white space that was trimmed behind the text is put back behind its part.
  obtain ⟨lead, gap, whole, -, blank⟩ := exists_eq_trim text
  obtain ⟨front, split⟩ := ends
  refine ⟨part ++ gap, ⟨lead ++ front, ?_⟩, trim_append_right blank part⟩
  rw [whole, ← split]
  simp

/-- What follows a bare header is the end of the statement. -/
theorem suffix_of_header?_bare (read : header? text = some (.bare rest)) : rest <:+ text := by
  -- A bare header is read as the word alone.
  unfold header? at read
  split at read
  · cases read
  · split at read
    · cases read
      exact List.drop_suffix 4 text
    · cases read

/-- What follows the closing of a header is the end of the statement. -/
theorem suffix_of_header?_paren (read : header? text = some (.paren rest))
    (closed : closeParen? rest = some (inside, after)) : after <:+ text := by
  -- The rest behind the opening ends the text, and what follows the closing ends that rest.
  have opened : rest <:+ text := by
    unfold header? at read
    split at read
    · rename_i branch
      cases read
      exact (behind_of_afterBranch? (p := fun _ => True) (fun _ _ => trivial)
        (fun _ _ _ _ => trivial) trivial branch).suffix
    · split at read <;> cases read
  have behind : after <:+ rest := ⟨inside ++ [')'], by simp [(closed_of_closeParen? closed).1]⟩
  exact behind.trans opened

/-- What is left of a statement is the statement, or the end of it, trimmed. -/
theorem body_eq_or (text : Text) :
    body text = text ∨ ∃ rest, rest <:+ text ∧ body text = trim rest := by
  -- What is trimmed once is not trimmed again, so a later end is an end of the whole.
  have later : ∀ {text rest : Text}, rest <:+ text →
      (body (trim rest) = trim rest ∨
        ∃ part, part <:+ trim rest ∧ body (trim rest) = trim part) →
      ∃ part, part <:+ text ∧ body (trim rest) = trim part := by
    rintro text rest ends (same | ⟨part, inner, left⟩)
    · exact ⟨rest, ends, same⟩
    · obtain ⟨whole, outer, trimmed⟩ := exists_suffix_of_trim inner
      exact ⟨whole, outer.trans ends, by rw [left, trimmed]⟩
  -- By induction on the headers, each of which leaves an end of the text.
  induction text using induction_on_headers with
  | headless text absent => exact .inl (body_of_header?_eq_none absent)
  | bare text rest found ih =>
    rw [body_of_header?_bare found]
    exact .inr (later (suffix_of_header?_bare found) ih)
  | paren text rest inside after found closed ih =>
    rw [body_of_header?_paren found closed]
    exact .inr (later (suffix_of_header?_paren found closed) ih)
  | unclosed text rest found unread =>
    exact .inr ⟨[], List.nil_suffix, body_of_header?_unclosed found unread⟩

/-- A character in front of added white space is one of the text in front of it. -/
theorem split_of_append_blank {space front : Text} (blank : ∀ c ∈ space, isSpace c = true)
    {c : Char} (solid : isSpace c = false) (split : text ++ space = front ++ c :: rest) :
    ∃ part, text = front ++ c :: part ∧ rest = part ++ space := by
  -- The character stands in the white space, behind the text, or in the text.
  rcases List.append_eq_append_iff.mp split with ⟨more, rfl, behind⟩ | ⟨more, rfl, behind⟩
  · -- Then the character would be white space.
    have member : c ∈ space := by simp [behind]
    exact absurd (blank c member) (by simp [solid])
  · cases more with
    | nil =>
      have same : c :: rest = space := by simpa using behind
      exact absurd (blank c (by simp [← same])) (by simp [solid])
    | cons d part =>
      obtain ⟨rfl, rfl⟩ := List.cons_eq_cons.mp behind
      exact ⟨part, rfl, rfl⟩

/-- White space behind a text stays behind what closes. -/
theorem closeParen?_append_blank {space : Text} (blank : ∀ c ∈ space, isSpace c = true)
    (text : Text) : closeParen? (text ++ space) =
      (closeParen? text).map fun (inside, after) => (inside, after ++ space) := by
  ext ⟨inside, after⟩
  simp only [closeParen?_eq_some_iff, Option.map_eq_some_iff, Prod.exists, Prod.mk.injEq]
  -- The parenthesis is no white space, so it stands in front of what was added.
  constructor
  · rintro ⟨whole, closed, balanced⟩
    obtain ⟨part, split, rfl⟩ := split_of_append_blank blank (by decide) whole
    exact ⟨inside, part, ⟨split, closed, balanced⟩, rfl, rfl⟩
  · rintro ⟨inside, part, ⟨rfl, closed, balanced⟩, rfl, rfl⟩
    exact ⟨by simp, closed, balanced⟩

/-- White space behind a text stays behind what opens. -/
theorem afterOpening?_append_blank {space : Text} (blank : ∀ c ∈ space, isSpace c = true)
    (text : Text) : afterOpening? controlKeywords (text ++ space) =
      (afterOpening? controlKeywords text).map (· ++ space) := by
  -- An opening ends with a parenthesis, so the white space is behind it.
  ext rest
  simp only [afterOpening?_eq_some_iff, Option.map_eq_some_iff]
  constructor
  · rintro ⟨keyword, listed, gap, white, whole⟩
    rw [← List.append_assoc] at whole
    obtain ⟨part, split, rfl⟩ := split_of_append_blank blank (by decide) whole
    exact ⟨part, ⟨keyword, listed, gap, white, by rw [split, List.append_assoc]⟩, rfl⟩
  · rintro ⟨part, ⟨keyword, listed, gap, white, rfl⟩, rfl⟩
    exact ⟨keyword, listed, gap, white, by simp⟩

/-- No keyword that takes a parenthesis starts like an `else`. -/
theorem after?_otherwise_keyword {keyword : Text} (listed : keyword ∈ controlKeywords)
    (more : Text) : after? "else".toList (keyword ++ more) = none := by
  -- The keywords can be tested one by one.
  simp only [controlKeywords, List.map_cons, List.map_nil, List.mem_cons, List.not_mem_nil,
    or_false] at listed
  rcases listed with rfl | rfl | rfl <;> rfl

/-- A keyword that opens is a header with a parenthesis. -/
theorem header?_of_opensTo (opens : OpensTo text rest) : header? text = some (.paren rest) := by
  -- The keyword is no `else`, so it is read as the first word.
  have read := afterOpening?_eq_some_iff.mpr opens
  obtain ⟨keyword, listed, gap, -, rfl⟩ := opens
  have other := after?_otherwise_keyword listed (gap ++ '(' :: rest)
  rw [header?, afterBranch?, afterSpaced?_eq_none other, Option.bind_none, Option.none_or, read]

/-- An `else` leaves what is behind it, trimmed. -/
theorem body_otherwise (ends : rest.head?.any isWord = false) :
    body ("else".toList ++ rest) = body (trim rest) := by
  -- The reader finds the bare word, or a keyword that opens behind it.
  have starts : startsWithWord "else".toList ("else".toList ++ rest) = true :=
    startsWithWord_iff.mpr ⟨rest, rfl, ends⟩
  cases branch : afterBranch? controlKeywords ("else".toList ++ rest) with
  | none =>
    refine body_of_header?_bare ?_
    rw [header?, branch, starts]
    rfl
  | some inner =>
    have read : header? ("else".toList ++ rest) = some (.paren inner) := by rw [header?, branch]
    -- White space and a keyword that opens follow, and the keyword is the next header.
    have opened : afterOpening? controlKeywords (skipSpace rest) = some inner := by
      rcases Option.or_eq_some_iff.mp branch with first | ⟨-, second⟩
      · obtain ⟨tail, spaced, opening⟩ := Option.bind_eq_some_iff.mp first
        obtain ⟨space, -, spaces, whole, skipped⟩ := afterSpaced?_eq_some_iff.mp spaced
        obtain rfl := List.append_cancel_left whole
        rw [skipSpace_append spaces, skipSpace_of_head skipped]
        exact opening
      · -- No keyword stands in front, because the word does.
        obtain ⟨keyword, listed, gap, -, whole⟩ := afterOpening?_eq_some_iff.mp second
        have word := after?_append "else".toList rest
        rw [whole, after?_otherwise_keyword listed] at word
        cases word
    -- What opens is in front of the white space that trimming takes off.
    obtain ⟨gap, split, blank⟩ := exists_gap_of_trimRight (skipSpace rest)
    rw [← trim] at split
    rw [split, afterOpening?_append_blank blank] at opened
    obtain ⟨tail, opening, rfl⟩ := Option.map_eq_some_iff.mp opened
    have next := header?_of_opensTo (afterOpening?_eq_some_iff.mp opening)
    have closes := closeParen?_append_blank blank tail
    -- The parenthesis is closed with the white space behind it and without it.
    cases closing : closeParen? tail with
    | none =>
      rw [body_of_header?_unclosed read (by rw [closes, closing]; rfl),
        body_of_header?_unclosed next closing]
    | some parts =>
      obtain ⟨inside, after⟩ := parts
      rw [closing] at closes
      rw [body_of_header?_paren read closes, body_of_header?_paren next closing,
        trim_append_right blank]

end Statement

/-- What stands between the parentheses of a header: its literals and parentheses are closed. -/
structure Clause where
  text : Text
  closed : Closed text
  balanced : Balances '(' ')' 0 (mask text)

/-- A control header as it is written out. -/
inductive ControlHeader where
  | otherwise
  /-- An `if`, a `for` or a `while`. -/
  | control (keyword : Text) (listed : keyword ∈ Statement.controlKeywords) (clause : Clause)
  | elseIf (clause : Clause)

namespace ControlHeader

/-- A parenthesis behind a keyword. -/
def parenthesis (clause : Clause) : Text :=
  [' ', '('] ++ (clause.text ++ [')'])

/-- The text of a header. -/
def text : ControlHeader → Text
  | otherwise => ['e', 'l', 's', 'e']
  | control keyword _ clause => keyword ++ parenthesis clause
  | elseIf clause => ['e', 'l', 's', 'e'] ++ ([' '] ++ (['i', 'f'] ++ parenthesis clause))

/-- The text of a statement behind headers, with a space between any two. -/
def behind (headers : List ControlHeader) (body : Text) : Text :=
  join [' '] (headers.map text ++ [body])

/-- A keyword that opens a clause leaves what is behind it, trimmed. -/
theorem body_parenthesis {keyword : Text} (listed : keyword ∈ Statement.controlKeywords)
    (clause : Clause) (rest : Text) :
    Statement.body (keyword ++ (parenthesis clause ++ rest)) = Statement.body (trim rest) := by
  have opens : Statement.OpensTo (keyword ++ (parenthesis clause ++ rest))
      (clause.text ++ ')' :: rest) :=
    ⟨keyword, listed, [' '], by decide, by simp [parenthesis]⟩
  -- The clause is closed, so the parenthesis behind it is the one that closes.
  exact Statement.body_of_header?_paren (Statement.header?_of_opensTo opens)
    (closeParen?_eq_some_iff.mpr ⟨rfl, clause.closed, clause.balanced⟩)

/-- White space neither starts nor ends a text that is there. -/
structure Tight (front : Text) : Prop where
  filled : front ≠ []
  starts : front.head?.any isSpace = false
  ends : front.getLast?.any isSpace = false

/-- What is tight stays in front of what is trimmed. -/
theorem Tight.trim_append {front : Text} (tight : Tight front) (rest : Text) :
    trim (front ++ rest) = front ++ trimRight rest := by
  -- The front starts with no white space, so only the end is trimmed.
  have starts : (front ++ rest).head?.any isSpace = false := by
    rw [List.head?_append_of_ne_nil front tight.filled]
    exact tight.starts
  rw [trim, skipSpace_of_head starts, trimRight_append_stop tight.ends]

/-- A keyword with a clause is tight. -/
theorem tight_parenthesis {keyword : Text} (listed : keyword ∈ Statement.controlKeywords)
    (clause : Clause) : Tight (keyword ++ parenthesis clause) := by
  -- No keyword is blank in front.
  have keywords : ∀ word ∈ Statement.controlKeywords,
      word ≠ [] ∧ word.head?.any isSpace = false := by decide
  obtain ⟨filled, starts⟩ := keywords keyword listed
  refine ⟨by simp [filled], ?_, ?_⟩
  · rw [List.head?_append_of_ne_nil keyword filled]
    exact starts
  · -- The parenthesis is the last character.
    rw [parenthesis, ← List.append_assoc, ← List.append_assoc, List.getLast?_concat]
    decide

/-- A header leaves what is behind it, trimmed, unless a word goes on there. -/
theorem body_append (header : ControlHeader) {rest : Text} (ends : rest.head?.any isWord = false) :
    Statement.body (header.text ++ rest) = Statement.body (trim rest) := by
  -- Each kind of header leaves what follows it.
  cases header with
  | otherwise => exact Statement.body_otherwise ends
  | control keyword listed clause =>
    rw [text, List.append_assoc]
    exact body_parenthesis listed clause rest
  | elseIf clause =>
    have listed : ['i', 'f'] ∈ Statement.controlKeywords := List.mem_cons_self
    -- The `else` leaves the header behind it, and that one leaves the rest.
    calc Statement.body ((elseIf clause).text ++ rest)
        = Statement.body
            ("else".toList ++ ([' '] ++ (['i', 'f'] ++ parenthesis clause ++ rest))) := by
          simp only [text, List.append_assoc]
          rfl
      _ = Statement.body (trim ([' '] ++ (['i', 'f'] ++ parenthesis clause ++ rest))) :=
          Statement.body_otherwise rfl
      _ = Statement.body (['i', 'f'] ++ (parenthesis clause ++ trimRight rest)) := by
          rw [trim_append_left (by decide), (tight_parenthesis listed clause).trim_append,
            List.append_assoc]
      _ = Statement.body (trim rest) := by rw [body_parenthesis listed, trim_trimRight]

/-- A header is tight. -/
theorem tight_text (header : ControlHeader) : Tight header.text := by
  -- Each kind of header has its first word and its last character.
  cases header with
  | otherwise => exact ⟨by decide, by decide, by decide⟩
  | control keyword listed clause => exact tight_parenthesis listed clause
  | elseIf clause =>
    have inner : Tight (['i', 'f'] ++ parenthesis clause) :=
      tight_parenthesis List.mem_cons_self clause
    -- What follows the `else` ends the header.
    have last := List.getLast?_eq_some_getLast inner.filled
    refine ⟨by simp [text], rfl, ?_⟩
    rw [text, List.getLast?_append, List.getLast?_append, last, Option.some_or, Option.some_or,
      ← last]
    exact inner.ends

/-- The first header stands in front of a space and the others. -/
theorem behind_cons (header : ControlHeader) (headers : List ControlHeader) (body : Text) :
    behind (header :: headers) body = header.text ++ ([' '] ++ behind headers body) := by
  rw [behind, List.map_cons, List.cons_append, join_cons _ _ (by simp), List.append_assoc, behind]

/-- Headers whose end is trimmed leave the text behind them if it has no header itself. -/
theorem body_trim_behind (headers : List ControlHeader) {body : Text} (trimmed : trim body = body)
    (headless : ¬Statement.Headed body) : Statement.body (trim (behind headers body)) = body := by
  -- Each header leaves the others with their end trimmed, so the induction is about such texts.
  induction headers with
  | nil => exact (congrArg Statement.body trimmed).trans (Statement.body_of_not_headed headless)
  | cons header headers ih =>
    calc Statement.body (trim (behind (header :: headers) body))
        = Statement.body (header.text ++ trimRight ([' '] ++ behind headers body)) := by
          rw [behind_cons, header.tight_text.trim_append]
      _ = Statement.body (trim (behind headers body)) := by
          rw [header.body_append (head?_trimRight rfl), trim_trimRight,
            trim_append_left (by decide)]
      _ = body := ih

/-- The first header leaves the others trimmed, and the last one leaves the text behind it. -/
theorem body_behind (headers : List ControlHeader) {body : Text} (trimmed : trim body = body)
    (headless : ¬Statement.Headed body) : Statement.body (behind headers body) = body := by
  -- Without headers the text is left as it is.
  cases headers with
  | nil => exact Statement.body_of_not_headed headless
  | cons header headers =>
    calc Statement.body (behind (header :: headers) body)
        = Statement.body (trim (behind headers body)) := by
          rw [behind_cons, header.body_append rfl, trim_append_left (by decide)]
      _ = body := body_trim_behind headers trimmed headless

end ControlHeader

namespace Statement

/--
Headers that are written out are taken off completely.

Of every text the text itself is left or a trimmed end of it. No header stands in front of what is
left, and nothing more is taken off it.
-/
theorem body_peels :
    (∀ (headers : List ControlHeader) (rest : Text), trim rest = rest → ¬Headed rest →
      body (ControlHeader.behind headers rest) = rest) ∧
    ∀ text : Text,
      (body text = text ∨ ∃ rest, rest <:+ text ∧ body text = trim rest) ∧
        ¬Headed (body text) ∧ body (body text) = body text := by
  refine ⟨fun headers _ => ControlHeader.body_behind headers, fun text => ?_⟩
  -- What has no header is left as it is, so taking headers off once is enough.
  have headless : ¬Headed (body text) := by
    rw [← isSome_header?_iff, header?_body]
    exact Bool.false_ne_true
  exact ⟨body_eq_or text, headless, body_of_not_headed headless⟩

/-- A parenthesis in a literal closes no header, and an `else` may stand in front of an `else`. -/
theorem body_peels_literal :
    body "else else if (s == \")\") for (f(); x;) y = 1".toList = "y = 1".toList := by
  -- What is read up to the closing is a clause.
  have clause : ∀ text : Text, closeParen? (text ++ [')']) = some (text, []) →
      ∃ clause : Clause, clause.text = text := fun _ read =>
    have ⟨_, closed, balanced⟩ := closeParen?_eq_some_iff.mp read
    ⟨⟨_, closed, balanced⟩, rfl⟩
  -- The two clauses and the text behind the headers are written out.
  obtain ⟨first, shown⟩ := clause "s == \")\"".toList (by decide +kernel)
  obtain ⟨second, listed⟩ := clause "f(); x;".toList (by decide +kernel)
  have headless : ¬Headed "y = 1".toList := by
    rw [← isSome_header?_iff]
    decide +kernel
  -- The three headers are peeled one after the other.
  have peeled := body_peels.1
    [.otherwise, .elseIf first, .control "for".toList (by decide +kernel) second] "y = 1".toList
    (by decide +kernel) headless
  simpa [ControlHeader.behind, ControlHeader.text, ControlHeader.parenthesis, join, shown, listed]
    using peeled

end Statement

end SourceLint
