import SourceLint.Proofs.Insertion.MainBody
import SourceLint.Proofs.Lines
import SourceLint.Proofs.Log
import SourceLint.Proofs.Rescan.Attribution
import SourceLint.Proofs.Rule
import SourceLint.Proofs.Unset.Message

/-!
The second look at the body of a main function agrees with the first look at the program.

The program is the main function alone. Whatever a rule for every line says about the body, it has
said before, so what the second look adds comes from the rules for the body alone.
-/

namespace SourceLint

open Text

/-- The first line of a program that is a main function alone. -/
def mainLine : Text :=
  "int main() ".toList ++ ['{']

/-- A program that is a main function alone. -/
def framed (body : Text) : Text :=
  mainLine ++ '\n' :: (body ++ '\n' :: ['}'])

/-- A line that mixes no types is read by the tracker and entered into the table. -/
theorem Validator.runRules_everywhere {line : Text} (unmixed : MixedTypes.check line = [])
    (registration : Registration) (state : Rule.State) :
    (runRules registration line state (selectRules false Rule.all)).1 =
      ⟨(registration.enterLine state.table line).1, (state.tracker.check line).1⟩ := by
  -- Of these rules only two change the state.
  have selected : selectRules false Rule.all =
      [.mixedTypes, .stringArithmetic, .danglingElse, .keywordCase, .missingSemicolon,
        .emptyInitializer, .undeclaredIdentifier, .declarations] := rfl
  simp only [selected, runRules, Rule.check, Rule.breaksCircuit, unmixed, List.isEmpty_nil,
    Bool.not_true, Bool.and_false, Bool.false_and, Bool.false_eq_true, if_false]

/-- The lines of the program are its first line, those of the body and the closing brace. -/
theorem prepareLines_framed (body : Text) :
    prepareLines (framed body) 1 = ⟨1, mainLine⟩ ::
      (prepareLines body 2 ++ prepareLines ['}'] (2 + (breaks body + 1))) := by
  -- The first line has no break, and the body goes up to the last one.
  have first : prepareLines mainLine 1 = [⟨1, mainLine⟩] := by decide
  have single : breaks mainLine = 0 := by decide
  rw [framed, prepareLines_append_break, first, single, prepareLines_append_break]
  rfl

/-- The first line is the signature of a function, so its types are not looked at. -/
theorem mixedTypes_mainLine : MixedTypes.check mainLine = [] := by
  have front : skipSpace mainLine = mainLine := by decide
  have bare : Vocabulary.skipQualifiers mainLine = mainLine :=
    skipQualifiers_eq_self (by decide)
  have typed : LineShape.afterAny? Vocabulary.typeWords mainLine =
      some ("main() ".toList ++ ['{']) := by decide
  have called : startsWithCall ("main() ".toList ++ ['{']) = true := by decide
  -- A return type, a name and a parenthesis are read.
  have signature : LineShape.isSignature Vocabulary.typeWords Vocabulary.typeWords mainLine =
      true := by
    rw [LineShape.isSignature, front, bare, typed, Option.any_some, LineShape.callFollows, called]
    rfl
  rw [MixedTypes.check, signature, Bool.or_true, if_pos rfl]

/-- The first line holds no finished statement. -/
theorem effective_mainLine : Statement.effective mainLine false = [] := by
  -- What the line has is cut at semicolons, and there is none.
  have loop : Statement.loopStart? mainLine = none := by decide
  have unfinished : ∀ statement ∈ Statement.split mainLine, statement.terminated = false := by
    decide
  rw [Statement.effective, loop, Option.toList_none, List.nil_append, List.filterMap_eq_nil_iff]
  intro statement member
  rw [unfinished statement member]
  simp

/-- After its first line the program is one block deep and declares nothing. -/
theorem validateLine_mainLine (reportRedeclarations : Bool) :
    ((Validator.standard false reportRedeclarations {}).validateLine ⟨1, mainLine⟩).1.toState =
      ⟨{}, { depth := 1 }⟩ := by
  -- The line opens a block, and no rule enters or finds anything.
  have opened : (ElseTracker.check {} mainLine).1 = { depth := 1 } := by decide
  have state := Validator.runRules_everywhere mixedTypes_mainLine ⟨reportRedeclarations, 1⟩ ⟨{}, {}⟩
  rw [opened, Registration.enterLine, effective_mainLine] at state
  exact state

/-- The frame shows as it is, around the masked body. -/
theorem maskSource_framed (body : Text) :
    maskSource (framed body) = mainLine ++ '\n' :: (maskSource body ++ '\n' :: ['}']) := by
  -- The frame is masked line by line, and so is the body between.
  have first : maskSource mainLine = mainLine := by decide
  have final : maskSource ['}'] = ['}'] := by decide
  rw [framed, maskSource_append_break, maskSource_append_break, first, final]

/-- Behind the opening brace stand the lines of the body and the closing brace. -/
theorem drop_framed (body : Text) :
    (framed body).drop ("int main() ".toList.length + 1) =
      ('\n' :: (body ++ '\n' :: [])) ++ ['}'] := by
  -- The opening brace is the last character of the first line.
  have split : framed body = mainLine ++ (('\n' :: (body ++ '\n' :: [])) ++ ['}']) := by
    simp [framed]
  rw [split]
  rfl

/-- The header of the main function is found at the front of the program. -/
theorem sites_framed (more : Text) :
    ∃ others, MainHeader.sites (mainLine ++ more) =
      ⟨"int".toList, mainLine ++ more, " ".toList ++ '{' :: more⟩ :: others := by
  -- The first header is read at the front of the text.
  have read : MainHeader.read? (mainLine ++ more) =
      some ("int".toList, " ".toList ++ '{' :: more) := rfl
  exact ⟨_, @MainHeader.findsFrom_of_read? [] _ _ _ "int main()".toList rfl read rfl (by decide)⟩

namespace MainFunction

/-- The body of a main function that is all there is goes from its first brace to its last one. -/
theorem body_framed {body : Text} {required : Bool} {main : MainFunction}
    (found : locate required (framed body) = .found main)
    (last : main.bodyEnd + 1 = (framed body).length) :
    main.headerLine = 1 ∧ main.bodyLine = 1 ∧
      main.body (framed body) = '\n' :: (body ++ '\n' :: []) := by
  have masked := maskSource_framed body
  have length : (maskSource (framed body)).length = (framed body).length :=
    length_maskSource (framed body)
  -- The search sees one header, which is the one of the frame.
  simp only [locate, MainHeader.all_eq] at found
  generalize maskSource (framed body) = view at masked length found
  generalize more : '\n' :: (maskSource body ++ '\n' :: ['}']) = inner at masked
  obtain ⟨others, sites⟩ := sites_framed inner
  rw [← masked] at sites
  cases others with
  | cons other others =>
    -- A second header would have been a fault.
    rw [sites] at found
    cases found
  | nil =>
    have ends : " ".toList ++ '{' :: inner <:+ view := ⟨"int main()".toList, masked.symm⟩
    have opened : after? ['{'] (skipSpace (" ".toList ++ '{' :: inner)) = some inner := rfl
    rw [sites, List.map_singleton, MainHeader.Site.header] at found
    simp only [ofHeader_eq ends, opened] at found
    cases closed : close? 0 inner with
    | none =>
      rw [closed] at found
      cases found
    | some answer =>
      rw [closed] at found
      cases found
      obtain ⟨headerLine, bodyLine, text⟩ := @lines_placed view view "int main() ".toList inner
        "int".toList answer.1 [] rfl masked (framed body)
      refine ⟨headerLine, bodyLine, text.trans ?_⟩
      -- The closing brace is the last character, so nothing but it is left out of the body.
      have size : answer.1.length = ('\n' :: (body ++ '\n' :: [])).length := by
        have inside : (placed view "int".toList view inner answer.1).bodyEnd =
            view.length - inner.length + answer.1.length := rfl
        have behind : inner.length = body.length + 3 := by simp [← more]
        have front : view.length = 12 + inner.length := by
          rw [masked, List.length_append]
          rfl
        rw [inside, ← length] at last
        simp only [List.length_cons, List.length_append, List.length_nil]
        omega
      -- The body is what is left between the two braces of the frame.
      rw [drop_framed, size, List.take_left]

/-- The lines of the body are the lines between the first one and the last one. -/
theorem prepareLines_body (body : Text) :
    prepareLines ('\n' :: (body ++ '\n' :: [])) 1 = prepareLines body 2 := by
  -- The body has an empty line in front and behind.
  have front : prepareLines ('\n' :: (body ++ '\n' :: [])) 1 =
      prepareLines (body ++ '\n' :: []) 2 := preparedLines.read_cons_break _ 1
  have blank : ∀ first, prepareLines [] first = [] := fun _ => rfl
  rw [front, prepareLines_append_break, blank, List.append_nil]

/-- A body of its own scope is entered without variables when none is declared before it. -/
theorem startTable_eq {scan : Scan} (own : scan.ownScope = true) {main : MainFunction}
    (header : main.headerLine = 1) {globals : SymbolTable} (flat : globals.Flat)
    (lines : ∀ symbol ∈ globals.current, 0 < symbol.line) :
    scan.startTable main globals = { current := [], enclosing := [[]] } := by
  -- Every variable is on the line of the header or below, so that none is visible.
  have numbered : ∀ symbol ∈ globals.globals, 0 < symbol.line := by
    intro symbol member
    rw [SymbolTable.globals] at member
    cases outer : globals.enclosing.getLast? with
    | none =>
      rw [outer] at member
      exact lines symbol member
    | some scope =>
      rw [outer, Option.getD_some, flat scope (List.mem_of_getLast? outer)] at member
      cases member
  have hidden : globals.globals.filter (fun symbol =>
      !scan.ownScope || symbol.line < main.headerLine) = [] := by
    rw [List.filter_eq_nil_iff]
    intro symbol member
    have := numbered symbol member
    rw [own, header]
    simp only [Bool.not_true, Bool.false_or, decide_eq_true_eq]
    omega
  -- So nothing is copied, and the body gets a scope of its own.
  simp only [Scan.startTable]
  rw [hidden, own]
  rfl

/-- The first look at a program, with the rules for every line. -/
def Scan.firstLook (scan : Scan) (source : Text) : Validator × List Diagnostic :=
  (Validator.standard false scan.reportRedeclarations {}).validate source 1

/-- The validator for the second look, which knows what the first one has declared. -/
def Scan.secondLook (scan : Scan) (source : Text) (main : MainFunction) : Validator :=
  Validator.standard true scan.reportRedeclarations
    (scan.startTable main (scan.firstLook source).1.table)

/-- The messages of the second look at the body, with the rules they come from. -/
def Scan.raised (scan : Scan) (source : Text) (main : MainFunction) : List (Rule × Diagnostic) :=
  ((scan.secondLook source main).validateBy (main.body source) main.bodyLine).2

/-- The second look adds messages of its rules and warnings about variables without a value. -/
theorem entries_run (scan : Scan) (source : Text) (main : MainFunction) (log : Log) :
    ∃ added warnings, (scan.run source main (scan.firstLook source).1.table log).1.entries =
        log.entries ++ added ++ warnings ∧
      (∀ diagnostic ∈ added, diagnostic ∉ log.entries ∧
        ∃ rule, (rule, diagnostic) ∈ scan.raised source main) ∧
      ∀ diagnostic ∈ warnings,
        ∃ symbol ∈ (scan.run source main (scan.firstLook source).1.table log).2,
          diagnostic = (Finding.neverInitializedInMain symbol.name).inMain symbol.line := by
  -- The messages are collapsed into the log, and the warnings are reported after that.
  obtain ⟨added, first, raised, -, sound⟩ := log.collapse.exists_entries_extend
    ((scan.secondLook source main).validate (main.body source) main.bodyLine).2
  obtain ⟨warnings, second, listed, -⟩ := Log.exists_entries_extend
    (log.collapse.extend
      ((scan.secondLook source main).validate (main.body source) main.bodyLine).2).uncollapse
    (warnUnset
      ((scan.secondLook source main).validate (main.body source)
        main.bodyLine).1.table.uninitialized
      (scan.run source main (scan.firstLook source).1.table log).2)
  refine ⟨added, warnings, ?_, fun diagnostic member => ?_, fun diagnostic member => ?_⟩
  · exact second.trans (congrArg (· ++ warnings) first)
  · -- A message that is recorded is one that a rule has raised.
    have found := raised.subset member
    rw [Validator.validate_eq] at found
    obtain ⟨⟨rule, message⟩, own, rfl⟩ := List.mem_map.mp found
    exact ⟨(sound rfl).2 _ member, rule, own⟩
  · exact exists_of_mem_warnUnset (listed.subset member)

end MainFunction

/-- Lines that are numbered from a positive number on have positive numbers. -/
theorem numbered_prepareLines (text : Text) {first : Int} (positive : 0 < first) :
    ∀ line ∈ prepareLines text first, 0 < line.number := by
  -- A number is counted up from the first one.
  intro line member
  obtain ⟨index, -, -, -, number⟩ := exists_of_mem_prepareLines member
  omega

/-- The program behind its first line and the body at its start are in step. -/
theorem behind_mainLine (reportRedeclarations : Bool) :
    ((Validator.standard false reportRedeclarations {}).validateLine ⟨1, mainLine⟩).1.Behind
      (Validator.standard true reportRedeclarations { current := [], enclosing := [[]] }) := by
  have state := validateLine_mainLine reportRedeclarations
  refine ⟨?_, rfl, rfl⟩
  rw [state]
  -- No variables are declared yet, and the tracker is one block deeper.
  refine ⟨⟨by simp [SymbolTable.Flat], by simp [SymbolTable.Flat, Validator.standard], .nil,
    by simp⟩, 1, Nat.le_refl 1, ⟨rfl, rfl, rfl, rfl, ⟨by simp [Validator.standard], ?_⟩⟩⟩
  exact .nil

namespace MainFunction

variable {body : Text} {required : Bool} {main : MainFunction} {scan : Scan}

/-- The second look starts without variables and reads the lines of the body. -/
theorem raised_framed (found : locate required (framed body) = .found main)
    (last : main.bodyEnd + 1 = (framed body).length) (own : scan.ownScope = true) :
    scan.raised (framed body) main =
      ((Validator.standard true scan.reportRedeclarations
        { current := [], enclosing := [[]] }).validateLinesBy (prepareLines body 2)).2 := by
  obtain ⟨header, line, text⟩ := body_framed found last
  -- Nothing that the first look declares stands in front of the main function.
  have numbered : ∀ line ∈ prepareLines body 2 ++ prepareLines ['}'] (2 + (breaks body + 1)),
      0 < line.number := by
    intro line member
    rcases List.mem_append.mp member with inside | behind
    · exact numbered_prepareLines body (by omega) line inside
    · exact numbered_prepareLines ['}'] (by omega) line behind
  have looked := (Validator.validateLinesBy_behind
    (behind_mainLine scan.reportRedeclarations) numbered).1.state.table
  have table : (scan.firstLook (framed body)).1.table =
      (((Validator.standard false scan.reportRedeclarations {}).validateLine
        ⟨1, mainLine⟩).1.validateLines (prepareLines body 2 ++
          prepareLines ['}'] (2 + (breaks body + 1)))).1.table := by
    rw [Scan.firstLook, Validator.validate, prepareLines_framed]
    rfl
  rw [← table] at looked
  -- With the start table and the body both looks are at the same lines.
  rw [Scan.raised, Scan.secondLook, startTable_eq own header looked.flat looked.lines, line, text,
    Validator.validateBy, prepareLines_body]
  rfl

/-- What a rule for every line says about the body, it has said about the program. -/
theorem mem_firstLook_of_mem_raised (found : locate required (framed body) = .found main)
    (last : main.bodyEnd + 1 = (framed body).length) (own : scan.ownScope = true)
    {raised : Rule × Diagnostic} (member : raised ∈ scan.raised (framed body) main)
    (everywhere : raised.1.isMainOnly = false) : raised.2 ∈ (scan.firstLook (framed body)).2 := by
  -- The second look runs over the lines of the body alone.
  rw [raised_framed found last own] at member
  have said := (Validator.validateLinesBy_behind (behind_mainLine scan.reportRedeclarations)
    (numbered_prepareLines body (by omega))).2 raised member everywhere
  -- The lines of the body stand between the first line and the closing brace.
  rw [Scan.firstLook, Validator.validate, prepareLines_framed]
  refine List.mem_append_right _ ?_
  change raised.2 ∈ (((Validator.standard false scan.reportRedeclarations {}).validateLine
    ⟨1, mainLine⟩).1.validateLines _).2
  rw [Validator.validateLines_append]
  exact List.mem_append_left _ said

/--
The second look at the body of a main function that is the whole program agrees with the first.

Whatever a rule for every line says about the body, it has said about the program. So a log that
holds what was said about the program gets nothing new but the messages of the rules for the body
alone, and in the end the warnings about variables of the body that never got a value.
-/
theorem secondLook_agrees (found : locate required (framed body) = .found main)
    (last : main.bodyEnd + 1 = (framed body).length) (own : scan.ownScope = true) :
    ((scan.secondLook (framed body) main).validate (main.body (framed body)) main.bodyLine).2 =
        (scan.raised (framed body) main).map Prod.snd ∧
      (∀ raised ∈ scan.raised (framed body) main, raised.1.isMainOnly = false →
        raised.2 ∈ (scan.firstLook (framed body)).2) ∧
      ∀ log : Log, (scan.firstLook (framed body)).2 ⊆ log.entries →
        ∃ added warnings,
          (scan.run (framed body) main (scan.firstLook (framed body)).1.table log).1.entries =
            log.entries ++ added ++ warnings ∧
          (∀ diagnostic ∈ added, ∃ rule, rule.isMainOnly = true ∧
            (rule, diagnostic) ∈ scan.raised (framed body) main) ∧
          ∀ diagnostic ∈ warnings, ∃ symbol ∈
            (scan.run (framed body) main (scan.firstLook (framed body)).1.table log).2,
              diagnostic = (Finding.neverInitializedInMain symbol.name).inMain symbol.line := by
  -- The three parts are the attributed run, the rules for every line, and what the log gains.
  refine ⟨?_, fun raised member everywhere =>
    mem_firstLook_of_mem_raised found last own member everywhere, fun log said => ?_⟩
  · rw [Validator.validate_eq]
    rfl
  · obtain ⟨added, warnings, entries, sound, listed⟩ := entries_run scan (framed body) main log
    refine ⟨added, warnings, entries, fun diagnostic member => ?_, listed⟩
    obtain ⟨new, rule, raised⟩ := sound diagnostic member
    cases kind : rule.isMainOnly with
    | true => exact ⟨rule, kind, raised⟩
    | false =>
      -- A message of a rule for every line is in the log already.
      exact absurd (said (mem_firstLook_of_mem_raised found last own raised kind)) new

/-- A step gives a value that only the second look knows, and it says nothing new for that. -/
theorem secondLook_agrees_stepped :
    locate true (framed "int a;\na++;\nint b = a;".toList) =
        .found ⟨"int".toList, 1, 12, 36, 1⟩ ∧
      ∀ raised ∈ Scan.raised {} (framed "int a;\na++;\nint b = a;".toList)
          ⟨"int".toList, 1, 12, 36, 1⟩, raised.1.isMainOnly = false →
        raised.2 ∈ (Scan.firstLook {} (framed "int a;\na++;\nint b = a;".toList)).2 := by
  -- Everything about the program is evaluated but the agreement itself.
  have found : locate true (framed "int a;\na++;\nint b = a;".toList) =
      .found ⟨"int".toList, 1, 12, 36, 1⟩ := by decide
  exact ⟨found, (secondLook_agrees found (by decide) rfl).2.1⟩

end MainFunction

end SourceLint
