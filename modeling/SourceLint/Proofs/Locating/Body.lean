import SourceLint.Proofs.Locating.Header
import SourceLint.Proofs.Text.Enclosing

/-!
Where the main function of a source is found.

Its body opens behind the only header, with nothing but white space in between, and ends at the
brace that matches the opening one. The places are found in the masked view, which has the length
and the line breaks of the source, so they are places of the source as well.
-/

namespace SourceLint

open Text

namespace Text

/-- A text from a place on starts with the character there. -/
theorem drop_eq_cons {text : Text} {index : Nat} {c : Char} (there : text[index]? = some c) :
    text.drop index = c :: text.drop (index + 1) := by
  -- There is a character, so the place is inside the text.
  obtain ⟨inside, rfl⟩ := List.getElem?_eq_some_iff.mp there
  exact List.drop_eq_getElem_cons inside

/-- A slice of a text and what follows it are what the text goes on with. -/
theorem slice_append_drop (text : Text) {start stop : Nat} (ordered : start ≤ stop) :
    (text.drop start).take (stop - start) ++ text.drop stop = text.drop start := by
  -- What is behind the slice is what the text goes on with behind it.
  have last : text.drop stop = (text.drop start).drop (stop - start) := by
    rw [List.drop_drop, Nat.add_sub_cancel' ordered]
  rw [last, List.take_append_drop]

end Text

namespace MainFunction

/-- The brace that is found is the one behind a text that closes what is open in front of it. -/
theorem close?_eq_some_iff {depth : Nat} {masked inside after : Text} :
    close? depth masked = some (inside, after) ↔
      masked = inside ++ '}' :: after ∧ Balances '{' '}' depth inside := by
  -- The search is stated for pairs of characters, of which those of a text are both the same.
  rw [close?, closeFrom?_eq_some_iff (by decide)]
  constructor
  · rintro ⟨own, mark, rest, split, rfl, rfl, closes, balances⟩
    -- Every character of a masked source is paired with itself.
    have paired : ∀ pair ∈ own ++ mark :: rest, pair.1 = pair.2 := by
      rw [← split]
      simp
    have shown : own.map Prod.fst = own.map Prod.snd :=
      List.map_congr_left fun pair member => paired pair (by simp [member])
    have whole : masked = own.map Prod.fst ++ mark.1 :: rest.map Prod.fst := by
      rw [← List.map_cons, ← List.map_append, ← split, List.map_map]
      exact (List.map_id masked).symm
    refine ⟨by rw [whole, paired mark (by simp), closes], ?_⟩
    rwa [shown]
  · -- Conversely the text is paired with itself, and the pairs are cut where it is cut.
    rintro ⟨rfl, balances⟩
    have same : ∀ f : Char × Char → Char, (∀ c, f (c, c) = c) → ∀ text : Text,
        (text.map fun c => (c, c)).map f = text := by
      intro f own text
      rw [List.map_map]
      exact (List.map_congr_left fun c _ => own c).trans (List.map_id text)
    refine ⟨inside.map fun c => (c, c), ('}', '}'), after.map fun c => (c, c),
      by rw [List.map_append, List.map_cons], (same Prod.fst (fun _ => rfl) inside).symm,
      (same Prod.fst (fun _ => rfl) after).symm, rfl, ?_⟩
    rwa [same Prod.snd fun _ => rfl]

/-- The main function whose body stands behind a header and a gap. -/
def behind (masked : Text) (header : MainHeader) (gap inside : Text) : MainFunction :=
  let opening := header.stop + gap.length
  ⟨header.returnType, lineOf masked header.start, opening + 1, opening + 1 + inside.length,
    lineOf masked opening⟩

/-- A main function is found when a matched brace follows its header behind white space. -/
theorem ofHeader_eq_found_iff {masked : Text} {header : MainHeader} {main : MainFunction} :
    ofHeader masked header = .found main ↔
      ∃ gap inside tail, masked.drop header.stop = gap ++ '{' :: (inside ++ '}' :: tail) ∧
        (∀ c ∈ gap, isSpace c = true) ∧ Balances '{' '}' 0 inside ∧
        main = behind masked header gap inside := by
  generalize rest : masked.drop header.stop = after
  -- The gap is the white space that is skipped.
  have skipped : after.drop (after.takeWhile isSpace).length = skipSpace after :=
    drop_length_takeWhile isSpace after
  have parts : after.takeWhile isSpace ++ skipSpace after = after :=
    List.takeWhile_append_dropWhile
  unfold ofHeader
  simp only [rest, skipped]
  -- The brace behind the gap and the brace that matches it are both found, or one is missing.
  constructor
  · intro found
    split at found
    case h_2 => cases found
    case h_1 body opened =>
      split at found
      case h_2 => cases found
      case h_1 inside tail closed =>
        cases found
        obtain ⟨rfl, closes⟩ := close?_eq_some_iff.mp closed
        refine ⟨after.takeWhile isSpace, inside, tail, ?_, fun c => List.mem_takeWhile_imp, closes,
          rfl⟩
        rw [← opened, parts]
  · -- The parts are given, so each of the two searches ends where it should.
    rintro ⟨gap, inside, tail, rfl, blank, closes, rfl⟩
    have first : (gap ++ '{' :: (inside ++ '}' :: tail)).takeWhile isSpace = gap := by
      rw [List.takeWhile_append_of_pos blank]
      exact List.append_nil gap
    have opened : skipSpace (gap ++ '{' :: (inside ++ '}' :: tail)) =
        '{' :: (inside ++ '}' :: tail) := skipSpace_append blank _
    have closed : closeFrom? '{' '}' 0 ((inside ++ '}' :: tail).map fun c => (c, c)) =
        some (inside, tail) := close?_eq_some_iff.mpr ⟨rfl, closes⟩
    simp only [first, opened, closed]
    rfl

/--
A main function that the two braces delimit behind the only header of a source.

The braces are looked for in the masked view, and the lines are those of the source itself.
-/
structure Delimited (source : Text) (header : MainHeader) (main : MainFunction) : Prop where
  only : header.IsOnly (maskSource source)
  returnType : main.returnType = header.returnType
  follows : header.stop < main.bodyStart
  blank : ∀ c ∈ ((maskSource source).drop header.stop).take (main.bodyStart - 1 - header.stop),
    isSpace c = true
  opened : (maskSource source)[main.bodyStart - 1]? = some '{'
  ordered : main.bodyStart ≤ main.bodyEnd
  closed : (maskSource source)[main.bodyEnd]? = some '}'
  /-- No front of the body closes more braces than it opens. -/
  nested : ∀ front, front <+: main.body (maskSource source) → front.count '}' ≤ front.count '{'
  balanced : (main.body (maskSource source)).count '}' = (main.body (maskSource source)).count '{'
  headerLine : main.headerLine = lineOf source header.start
  bodyLine : main.bodyLine = lineOf source ((main.bodyStart - 1 : Nat) : Int)

/-- A place of the masked view is on the same line of the source. -/
theorem lineOf_maskSource (source : Text) (index : Int) :
    lineOf (maskSource source) index = lineOf source index := by
  -- Masking keeps the breaks of every beginning of the source.
  have counted : ∀ count, breaks ((maskSource source).take count) = breaks (source.take count) :=
    fun count => breaks_congr (by rw [List.map_take, List.map_take, map_maskSource])
  simp only [lineOf, length_maskSource, counted]

namespace Delimited

variable {source : Text} {header : MainHeader} {main : MainFunction}

/-- The two braces cut the masked view behind the header. -/
theorem parts (delimited : Delimited source header main) :
    ∃ gap tail, (maskSource source).drop header.stop =
        gap ++ '{' :: (main.body (maskSource source) ++ '}' :: tail) ∧
      (∀ c ∈ gap, isSpace c = true) ∧ Balances '{' '}' 0 (main.body (maskSource source)) ∧
      main = behind (maskSource source) header gap (main.body (maskSource source)) := by
  have follows := delimited.follows
  have ordered := delimited.ordered
  -- The body ends inside the view, since the closing brace shows behind it.
  have bound := (List.getElem?_eq_some_iff.mp delimited.closed).1
  have start : main.bodyStart - 1 + 1 = main.bodyStart := by omega
  have gap := slice_append_drop (maskSource source) (show header.stop ≤ main.bodyStart - 1 by omega)
  have body := slice_append_drop (maskSource source) ordered
  rw [drop_eq_cons delimited.opened, start] at gap
  rw [drop_eq_cons delimited.closed] at body
  refine ⟨_, (maskSource source).drop (main.bodyEnd + 1), ?_, delimited.blank,
    ⟨by simpa using delimited.nested, by simpa using delimited.balanced⟩, ?_⟩
  · -- The gap and the opening brace are in front of the body, and the closing one is behind it.
    rw [← body] at gap
    exact gap.symm
  · -- The main function is rebuilt from the lengths of the gap and of the body.
    have gapSize : (((maskSource source).drop header.stop).take
        (main.bodyStart - 1 - header.stop)).length = main.bodyStart - 1 - header.stop := by
      rw [List.length_take, List.length_drop]
      omega
    have bodySize : (main.body (maskSource source)).length = main.bodyEnd - main.bodyStart := by
      rw [MainFunction.body, List.length_take, List.length_drop]
      omega
    have opening : header.stop + (main.bodyStart - 1 - header.stop) = main.bodyStart - 1 := by omega
    have returnType := delimited.returnType
    have headerLine := delimited.headerLine
    have bodyLine := delimited.bodyLine
    cases main
    simp only [behind, gapSize, bodySize, opening, lineOf_maskSource, start,
      Nat.add_sub_cancel' ordered] at returnType headerLine bodyLine ⊢
    rw [returnType, headerLine, bodyLine]

/-- What follows the only header is cut by the two braces of a main function. -/
theorem of_parts (only : header.IsOnly (maskSource source)) {gap inside tail : Text}
    (split : (maskSource source).drop header.stop = gap ++ '{' :: (inside ++ '}' :: tail))
    (blank : ∀ c ∈ gap, isSpace c = true) (matched : Balances '{' '}' 0 inside) :
    Delimited source header (behind (maskSource source) header gap inside) := by
  -- The places behind the header are those of the three parts.
  have place : ∀ index, (maskSource source)[header.stop + index]? =
      (gap ++ '{' :: (inside ++ '}' :: tail))[index]? := by
    intro index
    rw [← split, List.getElem?_drop]
  have opening : (behind (maskSource source) header gap inside).bodyStart - 1 =
      header.stop + gap.length := rfl
  -- The body lies behind the header, the gap and the brace.
  have body : (behind (maskSource source) header gap inside).body (maskSource source) = inside := by
    have rest : (maskSource source).drop (header.stop + gap.length + 1) =
        inside ++ '}' :: tail := by
      rw [Nat.add_assoc, ← List.drop_drop, split, List.drop_length_add_append]
      rfl
    simp only [MainFunction.body, behind, rest, Nat.add_sub_cancel_left, List.take_left]
  constructor
  case only => exact only
  case returnType => rfl
  case follows =>
    simp only [behind]
    omega
  case blank =>
    rw [opening, Nat.add_sub_cancel_left, split, List.take_left]
    exact blank
  case opened => simp [opening, place]
  case ordered => exact Nat.le_add_right _ _
  -- The closing brace lies behind the body as well.
  case closed =>
    have closing : (behind (maskSource source) header gap inside).bodyEnd =
        header.stop + (gap ++ '{' :: inside).length := by
      simp only [behind, List.length_append, List.length_cons]
      omega
    have regroup : gap ++ '{' :: (inside ++ '}' :: tail) = gap ++ '{' :: inside ++ '}' :: tail := by
      simp
    rw [closing, place, regroup, List.getElem?_append_right (Nat.le_refl _), Nat.sub_self]
    rfl
  case nested => simpa [body] using matched.nested
  case balanced => simpa [body] using matched.balanced
  case headerLine => exact lineOf_maskSource source _
  case bodyLine => exact lineOf_maskSource source _

end Delimited

/-- The main function of a source is found exactly when two braces delimit it. -/
theorem locate_eq_found_iff {required : Bool} {source : Text} {main : MainFunction} :
    locate required source = .found main ↔ ∃ header, Delimited source header main := by
  constructor
  · intro found
    -- One site was met, so its header is the only one.
    obtain ⟨site, sites, headed⟩ := exists_site_of_locate found
    have only : (site.header (maskSource source).length).IsOnly (maskSource source) := by
      rw [← MainHeader.all_eq_singleton_iff, MainHeader.all_eq, sites]
      rfl
    obtain ⟨gap, inside, tail, split, blank, matched, rfl⟩ := ofHeader_eq_found_iff.mp headed
    exact ⟨_, .of_parts only split blank matched⟩
  · -- A main function that two braces delimit is the one that its header leads to.
    rintro ⟨header, delimited⟩
    obtain ⟨gap, tail, split, blank, matched, same⟩ := delimited.parts
    have found := ofHeader_eq_found_iff.mpr ⟨gap, _, tail, split, blank, matched, same⟩
    unfold locate
    simp only [MainHeader.all_eq_singleton_iff.mpr delimited.only]
    exact found

/--
The main function of a source is the one that two braces delimit behind the only header.

When there is such a main function, nothing is reported before the second look at its body.
Otherwise there is no second look, and one message is reported at most.
-/
theorem examine_delimited (scan : Scan) (required : Bool) (source : Text) (globals : SymbolTable)
    (log : Log) :
    (∀ main, locate required source = .found main ↔ ∃ header, Delimited source header main) ∧
      (∀ header main, Delimited source header main →
        examine scan required source globals log = scan.run source main globals log) ∧
      ((¬ ∃ header main, Delimited source header main) → ∃ reports : List Diagnostic,
        reports.length ≤ 1 ∧
          examine scan required source globals log = (log.extend reports, [])) := by
  -- The search decides, and it finds exactly what is delimited.
  refine ⟨fun main => locate_eq_found_iff, fun header main delimited => ?_, fun absent => ?_⟩
  · rw [examine, locate_eq_found_iff.mpr ⟨header, delimited⟩]
  · -- The search ends with a fault, which is the message, or with nothing to report.
    unfold examine
    cases located : locate required source with
    | found main =>
      obtain ⟨header, delimited⟩ := locate_eq_found_iff.mp located
      exact absurd ⟨header, main, delimited⟩ absent
    | faulty reason => exact ⟨[reason.inProgram], Nat.le_refl 1, rfl⟩
    | absent => exact ⟨[], Nat.zero_le 1, rfl⟩

/-- Braces in a literal do not match, and a body that never closes is no body. -/
theorem examine_delimited_nested :
    let source := "int g;\nint main()\n\x7b if (g) \x7b char c = '\x7d'; \x7d\n\x7d".toList
    let main : MainFunction := ⟨"int".toList, 2, 19, 45, 3⟩
    (∃ header, Delimited source header main) ∧
      examine {} true source {} {} = Scan.run {} source main {} {} ∧
      ∃ reports : List Diagnostic, reports.length ≤ 1 ∧
        examine {} true "int main() \x7b \x7b \x7d".toList {} {} =
          (({} : Log).extend reports, []) := by
  -- The search is evaluated, and the theorem is read in both directions.
  intro source main
  obtain ⟨located, examined, -⟩ := examine_delimited {} true source {} {}
  obtain ⟨header, delimited⟩ := (located main).mp (by decide)
  obtain ⟨relocated, -, silent⟩ :=
    examine_delimited {} true "int main() \x7b \x7b \x7d".toList {} {}
  refine ⟨⟨header, delimited⟩, examined header main delimited, silent ?_⟩
  rintro ⟨other, unclosed, found⟩
  -- Two braces are opened and one is closed.
  have faulty : locate true "int main() \x7b \x7b \x7d".toList = .faulty .mainWithoutClosing := by
    decide
  have located := (relocated unclosed).mpr ⟨other, found⟩
  rw [faulty] at located
  cases located

end MainFunction

end SourceLint
