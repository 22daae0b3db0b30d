import SourceLint.Proofs.Lookahead.Front
import SourceLint.Proofs.Lookahead.Rule

/-!
Two runs over sources that start with the same lines, up to the middle of the main function.

The first look reads line by line, and so does the second one. But the second look starts with the
table that the first one left at the end of the source. So what is written later reaches the earlier
lines through the values of the variables above the main function, and in no other way.
-/

namespace SourceLint

open Text

/-- A body gets at least the same messages when it is entered with fewer values. -/
theorem Validator.validate_trails {table other : SymbolTable} (trails : table.Trails other)
    {first : Int} (positive : 0 < first) (text : Text) :
    ((standard true false other).validate text first).2 ⊆
      ((standard true false table).validate text first).2 := by
  -- Both looks start without a branch, so only the tables differ.
  have fresh : ElseTracker.Deeper {} {} :=
    ⟨0, Nat.zero_le 1, rfl, rfl, rfl, rfl, ⟨by simp, .nil⟩⟩
  exact @validateLines_trails (standard true false table).reset (standard true false other).reset
    rfl rfl ⟨trails, fresh⟩ _ (numbered_prepareLines text positive)

/-- Variables with distinct names are all declared. -/
theorem SymbolTable.ofSymbols_eq {symbols : List Symbol}
    (distinct : (symbols.map Symbol.name).Nodup) : ofSymbols symbols = ⟨symbols, []⟩ := by
  -- What has been declared so far is kept in the statement.
  have general : ∀ (declared : Scope) (symbols : List Symbol),
      ((declared ++ symbols).map Symbol.name).Nodup →
      symbols.foldl declare ⟨declared, []⟩ = ⟨declared ++ symbols, []⟩ := by
    intro declared symbols
    -- By induction on the variables, each of which has a name that is still free.
    induction symbols generalizing declared with
    | nil =>
      intro _
      simp
    | cons symbol others ih =>
      intro distinct
      have free : declared.lookup symbol.name = none := by
        unfold Scope.lookup
        rw [List.find?_eq_none]
        intro other member named
        rw [List.map_append, List.nodup_append] at distinct
        exact distinct.2.2 other.name (List.mem_map_of_mem member) symbol.name (by simp)
          (beq_iff_eq.mp named)
      have added : declare ⟨declared, []⟩ symbol = ⟨declared ++ [symbol], []⟩ := by
        unfold declare lookupCurrent
        rw [free]
        rfl
      -- The name is free, so the variable is declared at the end.
      rw [List.foldl_cons, added, ih (declared ++ [symbol]) (by simpa using distinct)]
      simp
  exact general [] symbols distinct

/-- The body is entered with the variables above the main function around it. -/
theorem MainFunction.Scan.startTable_default (main : MainFunction) {table : SymbolTable}
    (distinct : (table.globals.map Symbol.name).Nodup) :
    Scan.startTable {} main table =
      ⟨[], [table.globals.filter fun symbol => symbol.line < main.headerLine]⟩ := by
  -- What is above the main function is a part of the globals, so its names are distinct too.
  have fewer : ((table.globals.filter fun symbol => symbol.line < main.headerLine).map
      Symbol.name).Nodup := distinct.sublist (List.filter_sublist.map Symbol.name)
  unfold startTable
  simp only [Bool.not_true, Bool.false_or, if_true]
  rw [SymbolTable.ofSymbols_eq fewer]
  rfl

/-- Variables that two runs keep in their places are behind each other as far as values go. -/
theorem Scope.filter_behind {base left right whole : Scope} {marks wider : Text → Prop}
    (kept : Scope.Kept marks base left) (keptAgain : Scope.Kept wider base right)
    (inside : right ⊆ whole) (distinct : (whole.map Symbol.name).Nodup) {bound : Int}
    (valued : ∀ symbol ∈ left, symbol.line < bound → symbol.initialized = true →
      ∃ other ∈ whole, other.name = symbol.name ∧ other.initialized = true) :
    List.Forall₂ Symbol.Behind (left.filter fun symbol => symbol.line < bound)
      (right.filter fun symbol => symbol.line < bound) := by
  -- Both scopes keep the variables of the base, so they agree on everything but values.
  have same : List.Forall₂ (fun symbol other : Symbol => other.name = symbol.name ∧
      other.type = symbol.type ∧ other.line = symbol.line) left right := by
    clear valued inside
    induction kept generalizing right with
    | nil =>
      cases keptAgain
      exact .nil
    | cons here _ ih =>
      cases keptAgain with
      | cons there later =>
        refine .cons ⟨?_, ?_, ?_⟩ (ih later)
        · rw [there.name, here.name]
        · rw [there.type, here.type]
        · rw [there.line, here.line]
  -- The lines are the same, so the same variables are above the bound.
  have above := List.rel_filter (p := fun symbol : Symbol => decide (symbol.line < bound))
    (q := fun symbol : Symbol => decide (symbol.line < bound))
    (fun _ _ related => by simp [related.2.2]) same
  rw [List.forall₂_iff_zip] at above ⊢
  refine ⟨above.1, fun {symbol other} paired => ?_⟩
  obtain ⟨name, type, -⟩ := above.2 paired
  obtain ⟨first, second⟩ := List.of_mem_zip paired
  obtain ⟨listed, low⟩ := List.mem_filter.mp first
  -- The variable that has the value is found among those of the whole.
  refine ⟨name, type, fun set => ?_⟩
  obtain ⟨variant, member, called, known⟩ := valued symbol listed (by simpa using low) set
  -- Only one variable has the name.
  have only : other = variant := List.inj_on_of_nodup_map distinct
    (inside (List.mem_filter.mp second).1) member (name.trans called.symm)
  rw [only]
  exact known

namespace Analysis

/-- The variables of one run above a line with a value have a value in another run. -/
def ValuedIn (bound : Int) (first second : Analysis) : Prop :=
  ∀ symbol ∈ first.symbols.globals, symbol.line < bound → symbol.initialized = true →
    ∃ other ∈ second.symbols.globals, other.name = symbol.name ∧ other.initialized = true

instance (bound : Int) (first second : Analysis) : Decidable (ValuedIn bound first second) :=
  inferInstanceAs (Decidable (∀ symbol ∈ first.symbols.globals, symbol.line < bound →
    symbol.initialized = true → ∃ other ∈ second.symbols.globals,
      other.name = symbol.name ∧ other.initialized = true))

namespace Split

variable {source kept more : Text} {nested late : List Int} {count : Nat} {main : MainFunction}

/-- The header of the main function is above its body. -/
theorem headerLine_le (split : Split source count main) : main.headerLine ≤ count := by
  -- The opening brace is on one of the first lines, and the header does not end below it.
  obtain ⟨start, header, gap, inside, tail, outlined⟩ := MainFunction.exists_outlined split.found
  have opened := split.opened
  rw [outlined.bodyLine, breaks_append] at opened
  rw [outlined.headerLine]
  omega

/-- The variables of a run are those of the first lines in their places, and then those behind. -/
theorem exists_globals (split : Split source count main)
    (cut : Comment.Cut source kept more nested late) (counted : breaks kept + 1 = count) :
    ((analyze {} source).symbols.globals.map Symbol.name).Nodup ∧
      ∃ marks values added, (analyze {} source).symbols.globals = values ++ added ∧
        Scope.Kept marks ((Validator.standard false false {}).validate kept 1).1.table.current
          values ∧
        ∀ symbol ∈ added, (count : Int) < symbol.line := by
  -- The globals are what the first look leaves, and that is cut where the text is.
  refine ⟨distinct_globals {} source, ?_⟩
  rw [symbols_analyze {} split.unclosed, Validator.validate_globals, cut.text,
    ((Validator.standard false false {}).validate_append_break kept more 1).1]
  -- The lines behind the cut may give values to variables and add others at the end.
  obtain ⟨values, added, parts, same, entered⟩ := (Validator.validateLines_grows
    ((Validator.standard false false {}).validate kept 1).1
    (prepareLines more (1 + (breaks kept + 1)))).current
  refine ⟨_, values, added, parts, same, fun symbol member => ?_⟩
  -- An added variable stems from a line behind the cut.
  obtain ⟨origin, ⟨line, listed, declared⟩, stays⟩ := entered symbol member
  obtain ⟨index, -, -, -, number⟩ := exists_of_mem_prepareLines listed
  rw [stays.line, declared.line]
  omega

variable {second : Text} {back : Text} {behind : List Int} {other : MainFunction}

/-- Two sources that are cut behind the same lines have the same main function in front of it. -/
theorem agree (split : Split source count main) (again : Split second count other)
    (cut : Comment.Cut source kept more nested late)
    (cutAgain : Comment.Cut second kept back nested behind) (counted : breaks kept + 1 = count) :
    main.headerLine = other.headerLine ∧ main.bodyLine = other.bodyLine ∧
      main.bodyStart = other.bodyStart := by
  obtain ⟨start, header, gap, part, within, tail, outlined, shared⟩ :=
    split.exists_outlined cut counted
  obtain ⟨_, _, _, _, _, _, outlinedAgain, sharedAgain⟩ := again.exists_outlined cutAgain counted
  -- Both outlines are read off the same masked front.
  obtain ⟨starts, leads, -⟩ := outlined.agree outlinedAgain shared sharedAgain
  refine ⟨?_, ?_, ?_⟩
  · rw [outlined.headerLine, outlinedAgain.headerLine, starts]
  · rw [outlined.bodyLine, outlinedAgain.bodyLine, leads]
  · rw [outlined.bodyStart, outlinedAgain.bodyStart, leads]

/-- The second look at the source that gives fewer values starts with a table that trails. -/
theorem trails_startTable (split : Split source count main) (again : Split second count other)
    (cut : Comment.Cut source kept more nested late)
    (cutAgain : Comment.Cut second kept back nested behind) (counted : breaks kept + 1 = count)
    (valued : ValuedIn main.headerLine (analyze {} source) (analyze {} second)) :
    (MainFunction.Scan.startTable {} main (analyze {} source).symbols).Trails
      (MainFunction.Scan.startTable {} other (analyze {} second).symbols) := by
  -- Both main functions start at the same header, so the same variables are above it.
  obtain ⟨headers, -⟩ := split.agree again cut cutAgain counted
  obtain ⟨distinct, marks, values, added, globals, same, later⟩ := split.exists_globals cut counted
  obtain ⟨distinctAgain, wider, valuesAgain, addedAgain, globalsAgain, sameAgain, laterAgain⟩ :=
    again.exists_globals cutAgain counted
  have low := split.headerLine_le
  -- What is declared behind the cut is not above the main function.
  have unseen : ∀ {added : Scope}, (∀ symbol ∈ added, (count : Int) < symbol.line) →
      (added.filter fun symbol => symbol.line < main.headerLine) = [] := by
    intro added later
    rw [List.filter_eq_nil_iff]
    intro symbol member
    have high := later symbol member
    rw [decide_eq_true_eq]
    omega
  -- What both tables keep from the shared lines is compared place by place.
  have visible : List.Forall₂ Symbol.Behind
      ((analyze {} source).symbols.globals.filter fun symbol => symbol.line < main.headerLine)
      ((analyze {} second).symbols.globals.filter fun symbol => symbol.line < main.headerLine) := by
    rw [globals, globalsAgain, List.filter_append, List.filter_append, unseen later,
      unseen laterAgain, List.append_nil, List.append_nil]
    refine Scope.filter_behind same sameAgain (List.subset_append_left _ addedAgain)
      (globalsAgain ▸ distinctAgain) fun symbol member above set => ?_
    rw [← globalsAgain]
    exact valued symbol (globals ▸ List.mem_append_left _ member) above set
  rw [MainFunction.Scan.startTable_default main distinct,
    MainFunction.Scan.startTable_default other distinctAgain, ← headers]
  -- The body starts with an empty scope, and the variables above main are around it.
  refine ⟨.cons .nil (.cons visible .nil), fun scope member => ?_⟩
  rcases List.mem_cons.mp member with rfl | outer
  · exact .nil
  · rw [List.mem_singleton.mp outer]
    exact distinctAgain.sublist (List.filter_sublist.map Symbol.name)

/-- The run that gives values to more variables above the main function says no more. -/
theorem mem_of_valuedIn (split : Split source count main) (again : Split second count other)
    (cut : Comment.Cut source kept more nested late)
    (cutAgain : Comment.Cut second kept back nested behind) (counted : breaks kept + 1 = count)
    (valued : ValuedIn main.headerLine (analyze {} source) (analyze {} second))
    {diagnostic : Diagnostic} (near : diagnostic.UpTo count)
    (told : diagnostic ∈ (analyze {} second).diagnostics) :
    diagnostic ∈ (analyze {} source).diagnostics := by
  -- What a run says about the first lines depends on the shared text and the start table only.
  rw [again.mem_diagnostics_iff cutAgain counted near] at told
  rw [split.mem_diagnostics_iff cut counted near]
  obtain ⟨-, line, start⟩ := split.agree again cut cutAgain counted
  have trails := split.trails_startTable again cut cutAgain counted valued
  have positive : 0 < main.bodyLine := by
    obtain ⟨_, _, _, _, _, outlined⟩ := MainFunction.exists_outlined split.found
    have bounds := outlined.bodyLine_bounds
    omega
  unfold frontMessages at told ⊢
  rw [← line, ← start] at told
  -- Comments and the first look say the same, and the second look says less where more is known.
  rcases List.mem_append.mp told with early | again
  · exact List.mem_append_left _ early
  · exact List.mem_append_right _ (Validator.validate_trails trails positive _ again)

end Split

/--
What is written behind a line reaches the lines above it through values alone.

Two sources agree on their first lines, and at the end of these their only main function is open.
If every variable above the main function that gets a value in the first source gets one in the
second, then the first run repeats whatever the second one says about these lines. If the same
variables get values, the two runs say the same about them.
-/
theorem diagnostics_upTo_of_valuedIn {first second : Text} {count : Nat} {main other : MainFunction}
    (agree : (lines first).take count = (lines second).take count)
    (split : Split first count main) (again : Split second count other) :
    main.headerLine = other.headerLine ∧ main.bodyLine = other.bodyLine ∧
      (ValuedIn main.headerLine (analyze {} first) (analyze {} second) →
        ∀ diagnostic : Diagnostic, diagnostic.UpTo count →
          diagnostic ∈ (analyze {} second).diagnostics →
            diagnostic ∈ (analyze {} first).diagnostics) ∧
      (ValuedIn main.headerLine (analyze {} first) (analyze {} second) →
        ValuedIn main.headerLine (analyze {} second) (analyze {} first) →
        ∀ diagnostic : Diagnostic, diagnostic.UpTo count →
          (diagnostic ∈ (analyze {} first).diagnostics ↔
            diagnostic ∈ (analyze {} second).diagnostics)) := by
  -- Both sources go on behind the shared lines, so both are cut there.
  obtain ⟨positive, long⟩ := split.count_bounds
  obtain ⟨-, longAgain⟩ := again.count_bounds
  obtain ⟨rest, whole, counted⟩ := exists_cut_of_lt positive long
  obtain ⟨restAgain, wholeAgain, -⟩ := exists_cut_of_lt positive longAgain
  rw [← agree] at wholeAgain
  -- The comments are removed from the shared lines once for both sources.
  obtain ⟨kept, nested, same, cuts⟩ := Comment.exists_cut (join ['\n'] ((lines first).take count))
  obtain ⟨more, late, cut⟩ := cuts rest
  obtain ⟨back, behind, cutAgain⟩ := cuts restAgain
  rw [← whole] at cut
  rw [← wholeAgain] at cutAgain
  rw [← same] at counted
  obtain ⟨headers, bodies, -⟩ := split.agree again cut cutAgain counted
  refine ⟨headers, bodies, fun valued diagnostic near told => ?_,
    fun valued valuedBack diagnostic near => ?_⟩
  · -- Each inclusion is the lemma for one direction.
    exact split.mem_of_valuedIn again cut cutAgain counted valued near told
  · constructor
    · intro told
      exact again.mem_of_valuedIn split cutAgain cut counted (headers ▸ valuedBack) near told
    · intro told
      exact split.mem_of_valuedIn again cut cutAgain counted valued near told

/-- Whether a value is given at once or in a branch, a use before it is reported. -/
theorem diagnostics_upTo_of_valuedIn_branch :
    let first := "int g;\nint main() \x7b\ng += 1;\ng = 1;\n\x7d".toList
    let second := "int g;\nint main() \x7b\ng += 1;\nif (g) g = 2;\n\x7d".toList
    (lines first).take 3 = (lines second).take 3 ∧
      Split first 3 ⟨"int".toList, 2, 19, 35, 2⟩ ∧ Split second 3 ⟨"int".toList, 2, 19, 42, 2⟩ ∧
      (Finding.assignedUninitialized "g".toList "+=".toList).onLine 3 ∈
        (analyze {} first).diagnostics ∧
      ∀ diagnostic : Diagnostic, diagnostic.UpTo 3 →
        (diagnostic ∈ (analyze {} first).diagnostics ↔
          diagnostic ∈ (analyze {} second).diagnostics) := by
  -- The two sources differ behind the third line alone.
  intro first second
  have agree : (lines first).take 3 = (lines second).take 3 := by decide
  have split : Split first 3 ⟨"int".toList, 2, 19, 35, 2⟩ :=
    ⟨by rw [aborted_analyze]; decide, by decide +kernel, by decide, by decide +kernel⟩
  have again : Split second 3 ⟨"int".toList, 2, 19, 42, 2⟩ :=
    ⟨by rw [aborted_analyze]; decide, by decide +kernel, by decide, by decide +kernel⟩
  -- In both of them the only global gets a value, so the theorem applies in both directions.
  refine ⟨agree, split, again, by decide +kernel, ?_⟩
  exact (diagnostics_upTo_of_valuedIn agree split again).2.2.2 (by decide +kernel)
    (by decide +kernel)

/-- A step before its variable has a value is not reported when the value is given later. -/
theorem step_hidden_by_later_value :
    let first := "int g;\nint main() \x7b\ng++;\n\n\x7d".toList
    let second := "int g;\nint main() \x7b\ng++;\ng = 1;\n\x7d".toList
    let step := (Finding.steppedUninitialized "g".toList).onLine 3
    (lines first).take 3 = (lines second).take 3 ∧
      Split first 3 ⟨"int".toList, 2, 19, 26, 2⟩ ∧ Split second 3 ⟨"int".toList, 2, 19, 32, 2⟩ ∧
      step.UpTo 3 ∧ step ∈ (analyze {} first).diagnostics ∧
      step ∉ (analyze {} second).diagnostics := by
  -- Both sources can be evaluated.
  intro first second step
  have split : Split first 3 ⟨"int".toList, 2, 19, 26, 2⟩ :=
    ⟨by rw [aborted_analyze]; decide, by decide +kernel, by decide, by decide +kernel⟩
  have again : Split second 3 ⟨"int".toList, 2, 19, 32, 2⟩ :=
    ⟨by rw [aborted_analyze]; decide, by decide +kernel, by decide, by decide +kernel⟩
  exact ⟨by decide, split, again, ⟨rfl, 3, rfl, Int.le_refl 3⟩, by decide +kernel,
    by decide +kernel⟩

end Analysis

end SourceLint
