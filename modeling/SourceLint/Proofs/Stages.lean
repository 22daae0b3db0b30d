import SourceLint.Proofs.Growth.Program
import SourceLint.Proofs.Log
import SourceLint.Proofs.MainOutline
import SourceLint.Proofs.Rule
import SourceLint.Proofs.Unset.Message

/-!
The messages of a run, stage by stage.

Every stage adds its messages behind those of the stages before it. The numbers that they carry are
numbers of lines of the source, since neither the removal of comments nor the second look at the
body of the main function moves a line.
-/

namespace SourceLint

open Text

/-- A message with the number of one of the first lines, or none if it is about the program. -/
def Diagnostic.Within (count : Nat) (diagnostic : Diagnostic) : Prop :=
  match diagnostic.origin with
  | .program => diagnostic.line = none
  | _ => ∃ line, diagnostic.line = some line ∧ 1 ≤ line ∧ line ≤ count

/-- Messages in the order of the lines that they carry. -/
def Diagnostic.Ordered (diagnostics : List Diagnostic) : Prop :=
  (diagnostics.filterMap Diagnostic.line).Pairwise (· ≤ ·)

/-- Fewer messages are still in order. -/
theorem Diagnostic.Ordered.sublist {diagnostics fewer : List Diagnostic}
    (ordered : Ordered diagnostics) (part : fewer.Sublist diagnostics) : Ordered fewer :=
  List.Pairwise.sublist (part.filterMap Diagnostic.line) ordered

namespace Validator

/-- The messages about a text carry numbers of its lines. -/
theorem within_of_mem_validate {validator : Validator} {text : Text} {first : Int}
    {diagnostic : Diagnostic} (found : diagnostic ∈ (validator.validate text first).2) :
    diagnostic.origin = .line ∧
      ∃ line, diagnostic.line = some line ∧ first ≤ line ∧ line ≤ first + breaks text := by
  obtain ⟨finding, -, -, -, line, listed, rfl⟩ := exists_finding_of_mem_validateLines found
  -- The line is one of the lines that the text was cut into.
  obtain ⟨index, raw, inside, -, number⟩ := exists_of_mem_prepareLines listed
  have bound := (List.getElem?_eq_some_iff.mp inside).1
  rw [length_lines] at bound
  exact ⟨rfl, line.number, rfl, by omega, by omega⟩

/-- Lines that are numbered upwards get their messages in the order of lines. -/
theorem ordered_validateLines (validator : Validator) {lines : List NumberedLine}
    (ascending : lines.Pairwise fun line later => line.number < later.number) :
    Diagnostic.Ordered (validator.validateLines lines).2 := by
  -- By induction on the lines.
  induction lines generalizing validator with
  | nil => exact .nil
  | cons line others ih =>
    obtain ⟨later, rest⟩ := List.pairwise_cons.mp ascending
    -- All messages about one line carry its number.
    have here : ∀ number ∈ (validator.validateLine line).2.filterMap Diagnostic.line,
        number = line.number := by
      intro number member
      obtain ⟨diagnostic, found, carried⟩ := List.mem_filterMap.mp member
      obtain ⟨finding, -, rfl⟩ := List.mem_map.mp found
      exact (Option.some.inj carried).symm
    unfold validateLines
    dsimp only
    unfold Diagnostic.Ordered
    rw [List.filterMap_append, List.pairwise_append]
    -- Messages about the same line are not out of order, and later lines have larger numbers.
    refine ⟨List.pairwise_of_forall_mem_list fun number left other right => ?_, ih _ rest, ?_⟩
    · exact Int.le_of_eq ((here number left).trans (here other right).symm)
    · intro number left other right
      obtain ⟨diagnostic, found, carried⟩ := List.mem_filterMap.mp right
      obtain ⟨finding, -, -, -, next, listed, rfl⟩ := exists_finding_of_mem_validateLines found
      obtain rfl := Option.some.inj carried
      rw [here number left]
      exact Int.le_of_lt (later next listed)

/-- The variables of a table stay on lines up to a bound that the text does not pass. -/
theorem line_le_of_mem_validate {validator : Validator} {text : Text} {first bound : Int}
    (earlier : ∀ symbol ∈ validator.table.current, symbol.line ≤ bound)
    (inside : first + breaks text ≤ bound) {symbol : Symbol}
    (member : symbol ∈ (validator.validate text first).1.table.current) : symbol.line ≤ bound := by
  -- A variable of the result was in the table before, or a line has declared it.
  obtain ⟨kept, added, parts, same, entered⟩ :=
    (validator.reset.validateLines_grows (prepareLines text first)).current
  unfold validate at member
  rw [parts] at member
  rcases List.mem_append.mp member with old | new
  · obtain ⟨origin, listed, stays⟩ := same.exists_of_mem old
    rw [stays.line]
    exact earlier origin listed
  · -- A new variable is on one of the lines of the text.
    obtain ⟨origin, ⟨line, listed, declared⟩, stays⟩ := entered symbol new
    obtain ⟨index, raw, found, -, number⟩ := exists_of_mem_prepareLines listed
    have place := (List.getElem?_eq_some_iff.mp found).1
    rw [length_lines] at place
    rw [stays.line, declared.line]
    omega

end Validator

/-- Declared one after another, variables add only themselves to a table. -/
theorem SymbolTable.mem_foldl_declare {symbols : List Symbol} {table : SymbolTable}
    {symbol : Symbol} (member : symbol ∈ (symbols.foldl declare table).current) :
    symbol ∈ table.current ∨ symbol ∈ symbols := by
  -- By induction on the variables that are declared.
  induction symbols generalizing table with
  | nil => exact .inl member
  | cons first others ih =>
    -- It was there behind the first declaration, or a later one adds it.
    rcases ih member with old | later
    · unfold declare at old
      split at old
      · exact .inl old
      · rcases List.mem_append.mp old with before | new
        · exact .inl before
        · exact .inr (List.mem_singleton.mp new ▸ List.mem_cons_self)
    · exact .inr (List.mem_cons_of_mem first later)

namespace MainFunction

/-- The body is entered with variables of the program, if with any. -/
theorem Scan.mem_current_startTable {scan : Scan} {main : MainFunction} {globals : SymbolTable}
    {symbol : Symbol} (member : symbol ∈ (scan.startTable main globals).current) :
    symbol ∈ globals.globals := by
  unfold startTable at member
  dsimp only at member
  -- A scope of its own is empty at first.
  split at member
  · cases member
  · rcases SymbolTable.mem_foldl_declare member with none | visible
    · cases none
    · exact (List.mem_filter.mp visible).1

/-- What may keep a main function from being used. -/
def faults : List Finding :=
  [.malformedMain, .mainNoFunction, .noMain, .mainWithoutClosing, .mainWithoutOpening,
    .severalMains]

/-- Whatever keeps a main function from being used is about its outline. -/
theorem mem_faults_of_locate {required : Bool} {source : Text} {reason : Finding}
    (faulty : locate required source = .faulty reason) : reason ∈ faults := by
  unfold locate at faulty
  dsimp only at faulty
  -- Without a header something is missing, behind one a brace is, and several are too many.
  split at faulty
  · unfold missing at faulty
    split at faulty
    · cases faulty
      simp [faults]
    · split at faulty
      · cases faulty
        simp [faults]
      · split at faulty <;> cases faulty
        simp [faults]
  · -- Behind the header there is no brace, or the one that is there does not close.
    unfold ofHeader at faulty
    dsimp only at faulty
    split at faulty
    · split at faulty <;> cases faulty
      simp [faults]
    · cases faulty
      simp [faults]
  · cases faulty
    simp [faults]

/-- Whatever keeps a main function from being used is an error. -/
theorem level_of_locate {required : Bool} {source : Text} {reason : Finding}
    (faulty : locate required source = .faulty reason) : reason.level = .error := by
  -- The faults can be listed.
  have each : ∀ fault ∈ faults, fault.level = .error := by decide
  exact each reason (mem_faults_of_locate faulty)

/-- What the search for the main function and the second look at its body report. -/
structure Examined (scan : Scan) (required : Bool) (text : Text) (globals : SymbolTable)
    (earlier outline second unset : List Diagnostic) : Prop where
  fault : outline = [] ∨
    ∃ reason, locate required text = .faulty reason ∧ outline = [reason.inProgram]
  /-- Only a main function that can be used is looked at again. -/
  alone : outline ≠ [] → second = [] ∧ unset = []
  raised : second = [] ∨ ∃ main, locate required text = .found main ∧
    second.Sublist ((Validator.standard true scan.reportRedeclarations
      (scan.startTable main globals)).validate (main.body text) main.bodyLine).2
  /-- What the second look does not report has been reported. -/
  told : ∀ main, locate required text = .found main →
    ((Validator.standard true scan.reportRedeclarations
      (scan.startTable main globals)).validate (main.body text) main.bodyLine).2 ⊆ earlier ++ second
  warned : ∀ diagnostic ∈ unset, ∃ name line,
    diagnostic = (Finding.neverInitializedInMain name).inMain line ∧
      1 ≤ line ∧ line ≤ breaks text + 1
  distinct : second.Nodup
  fresh : ∀ diagnostic ∈ second, diagnostic ∉ earlier

/-- The second look adds what it finds, as far as that is new, and then its warnings. -/
theorem Scan.exists_second (scan : Scan) (source : Text) (main : MainFunction)
    (globals : SymbolTable) {log : Log} (plain : log.collapsing = false) :
    let looked := (Validator.standard true scan.reportRedeclarations
      (scan.startTable main globals)).validate (main.body source) main.bodyLine
    (scan.run source main globals log).1.collapsing = false ∧
      ∃ second, (scan.run source main globals log).1.entries = log.entries ++ second ++
          warnUnset looked.1.table.uninitialized (main.declaredIn looked.1.table) ∧
        second.Sublist looked.2 ∧ looked.2 ⊆ log.entries ++ second ∧ second.Nodup ∧
        ∀ diagnostic ∈ second, diagnostic ∉ log.entries := by
  intro looked
  obtain ⟨second, entries, listed, complete, sound⟩ :=
    log.collapse.exists_entries_extend looked.2
  -- The section that collapses messages is closed before the warnings.
  have closed : (log.collapse.extend looked.2).uncollapse.collapsing = false :=
    (log.collapsing_section looked.2).trans plain
  refine ⟨(Log.collapsing_extend _ _).trans closed, second, ?_, listed, complete, sound rfl⟩
  exact (Log.entries_extend closed _).trans (congrArg (· ++ _) entries)

/-- The second look at the body adds new messages and then its warnings. -/
theorem Scan.run_examined (scan : Scan) {required : Bool} {text : Text} {main : MainFunction}
    (found : locate required text = .found main) {globals : SymbolTable} {log : Log}
    (plain : log.collapsing = false)
    (bounded : ∀ symbol ∈ globals.globals, symbol.line ≤ breaks text + 1) :
    (scan.run text main globals log).1.collapsing = false ∧
      ∃ second unset, (scan.run text main globals log).1.entries = log.entries ++ second ++ unset ∧
        Examined scan required text globals log.entries [] second unset := by
  -- The outline tells the lines of the body, and the log tells what the second look adds.
  obtain ⟨start, header, gap, inside, tail, outlined⟩ := exists_outlined found
  obtain ⟨first, last⟩ := outlined.bodyLine_bounds
  obtain ⟨closed, second, entries, listed, complete, distinct, fresh⟩ :=
    scan.exists_second text main globals plain
  refine ⟨closed, second, _, entries, .inl rfl, by simp, .inr ⟨main, found, listed⟩, ?_, ?_,
    distinct, fresh⟩
  · -- There is only one main function.
    intro other again
    obtain rfl : main = other := Search.found.inj (found.symm.trans again)
    exact complete
  · -- A warning is about a variable that the body declares, so its line is in the body.
    intro diagnostic member
    obtain ⟨symbol, own, rfl⟩ := exists_of_mem_warnUnset member
    have declared := List.mem_filter.mp own
    have behind : main.bodyLine ≤ symbol.line := by simpa using declared.2
    have bound : symbol.line ≤ breaks text + 1 :=
      Validator.line_le_of_mem_validate
        (fun symbol member => bounded symbol (mem_current_startTable member)) last declared.1
    exact ⟨symbol.name, symbol.line, rfl, by omega, bound⟩

/-- The main function is looked for, and its body is looked at again if it can be. -/
theorem examine_examined (scan : Scan) (required : Bool) {text : Text} {globals : SymbolTable}
    {log : Log} (plain : log.collapsing = false)
    (bounded : ∀ symbol ∈ globals.globals, symbol.line ≤ breaks text + 1) :
    (examine scan required text globals log).1.collapsing = false ∧
      ∃ outline second unset, (examine scan required text globals log).1.entries =
          log.entries ++ outline ++ second ++ unset ∧
        Examined scan required text globals log.entries outline second unset := by
  unfold examine
  -- The three outcomes of the search leave out different stages.
  cases found : locate required text with
  | found main =>
    obtain ⟨closed, second, unset, entries, examined⟩ := scan.run_examined found plain bounded
    exact ⟨closed, [], second, unset, by simpa using entries, examined⟩
  | faulty reason =>
    refine ⟨by simpa using plain, [reason.inProgram], [], [], ?_, .inr ⟨reason, found, rfl⟩,
      by simp, .inl rfl, by simp [found], by simp, .nil, by simp⟩
    -- Outside of collapsing sections the fault is recorded.
    have recorded := Log.entries_extend plain [reason.inProgram]
    simpa [Log.extend] using recorded
  -- Without a main function nothing is reported that the other stages would add.
  | absent =>
    exact ⟨plain, [], [], [], by simp, .inl rfl, by simp, .inl rfl, by simp [found], by simp, .nil,
      by simp⟩

end MainFunction

namespace Analysis

/-- The messages of a run, stage by stage. -/
structure Stages where
  /-- About comments that are opened inside comments. -/
  comments : List Diagnostic
  /-- Of the first look at all lines. -/
  first : List Diagnostic
  /-- About a main function that cannot be used. -/
  outline : List Diagnostic
  /-- Of the second look at the body of the main function, as far as they are new. -/
  second : List Diagnostic
  /-- About variables of the main function without a value. -/
  unset : List Diagnostic
  /-- About variables of the program without a value. -/
  swept : List Diagnostic

/-- All messages in their order. -/
def Stages.all (stages : Stages) : List Diagnostic :=
  stages.comments ++ stages.first ++ stages.outline ++ stages.second ++ stages.unset ++ stages.swept

/-- The stages of a run that goes to its end. -/
structure Stages.Of (config : Config) (source : Text) (stages : Stages) : Prop
    extends MainFunction.Examined ⟨config.scopedMain, config.reportRedeclarations⟩
      config.requireMain (Comment.strip source).text (analyze config source).symbols
      (stages.comments ++ stages.first) stages.outline stages.second stages.unset where
  comments : stages.comments = (Comment.strip source).nested.map Finding.nestedComment.onLine
  first : stages.first = ((Validator.standard false config.reportRedeclarations {}).validate
    (Comment.strip source).text 1).2
  swept : ∀ diagnostic ∈ stages.swept,
    ∃ name, diagnostic = (Finding.neverInitialized name).inProgram

/-- Up to the end of the first look every message is recorded. -/
theorem entries_startLog (config : Config) (comments first : List Diagnostic) :
    (((startLog config).extend comments).extend first).collapsing = false ∧
      (((startLog config).extend comments).extend first).entries = comments ++ first := by
  -- No section is open before the second look.
  have plain : ((startLog config).extend comments).collapsing = false := by
    rw [Log.collapsing_extend]
    rfl
  refine ⟨by rw [Log.collapsing_extend, plain], ?_⟩
  rw [Log.entries_extend plain,
    Log.entries_extend (show (startLog config).collapsing = false from rfl)]
  rfl

/-- A run that goes to its end reports stage by stage. -/
theorem exists_stages (config : Config) {source : Text}
    (closed : (Comment.strip source).unclosed = none) :
    ∃ stages : Stages, (analyze config source).diagnostics = stages.all ∧
      stages.Of config source := by
  -- The result is that of the stripped source, and its symbols are those of the first look.
  have result := analyze_of_closed config closed
  have symbols := symbols_analyze config closed
  have globals := Validator.validate_globals false config.reportRedeclarations
    (Comment.strip source).text 1
  generalize looked : (Validator.standard false config.reportRedeclarations {}).validate
    (Comment.strip source).text 1 = outcome at symbols globals
  -- The first look leaves its variables on lines of the source.
  have bounded : ∀ symbol ∈ outcome.1.table.globals,
      symbol.line ≤ breaks (Comment.strip source).text + 1 := by
    intro symbol member
    rw [globals, ← looked] at member
    exact Validator.line_le_of_mem_validate (by simp [Validator.standard]) (by omega) member
  generalize spoken : (Comment.strip source).nested.map Finding.nestedComment.onLine = comments
  -- The log starts with the comments and the first look.
  obtain ⟨plain, entries⟩ := entries_startLog config comments outcome.2
  obtain ⟨still, outline, second, unset, examined, facts⟩ := MainFunction.examine_examined
    ⟨config.scopedMain, config.reportRedeclarations⟩ config.requireMain plain bounded
  rw [entries] at examined facts
  generalize searched : MainFunction.examine ⟨config.scopedMain, config.reportRedeclarations⟩
    config.requireMain (Comment.strip source).text outcome.1.table
      (((startLog config).extend comments).extend outcome.2) = answer at still examined
  -- The stages are put together from these parts, and the sweep comes last.
  refine ⟨⟨comments, outcome.2, outline, second, unset, sweep outcome.1.table answer.2⟩, ?_,
    ⟨symbols ▸ facts, spoken.symm, (congrArg Prod.snd looked).symm, ?_⟩⟩
  · rw [result]
    unfold runStripped
    simp only [looked, spoken, searched]
    rw [Log.entries_extend still, examined]
    rfl
  · -- Every message of the sweep is about one variable.
    intro diagnostic member
    obtain ⟨symbol, -, rfl⟩ := List.mem_map.mp member
    exact ⟨symbol.name, rfl⟩

namespace Stages.Of

variable {config : Config} {source : Text} {stages : Stages}

/-- Removing the comments keeps the number of lines. -/
theorem length_lines_strip (source : Text) :
    breaks (Comment.strip source).text + 1 = (lines source).length := by
  rw [length_lines, (Comment.thinned_strip source).breaks_eq]

/-- What the second look reports is about lines of the body, in their order. -/
theorem second (of : stages.Of config source) :
    Diagnostic.Ordered stages.second ∧ ∀ diagnostic ∈ stages.second,
      diagnostic.origin = .line ∧ diagnostic.Within (lines source).length := by
  -- There is a second look if the outline had no fault.
  rcases of.raised with none | ⟨main, found, listed⟩
  · rw [none]
    exact ⟨.nil, by simp⟩
  · refine ⟨(Validator.ordered_validateLines _ (ascending_prepareLines _ _)).sublist listed, ?_⟩
    intro diagnostic member
    obtain ⟨origin, line, carried, low, high⟩ :=
      Validator.within_of_mem_validate (listed.subset member)
    -- The body lies between two lines of the source.
    obtain ⟨start, header, gap, inside, tail, outlined⟩ := MainFunction.exists_outlined found
    have bounds := outlined.bodyLine_bounds
    have count := length_lines_strip source
    unfold Diagnostic.Within
    rw [origin]
    exact ⟨rfl, line, carried, by omega, by omega⟩

/-- What is reported about comments and by the first look is about lines, in their order. -/
theorem early (of : stages.Of config source) :
    Diagnostic.Ordered stages.comments ∧ Diagnostic.Ordered stages.first ∧
      ∀ diagnostic ∈ stages.comments ++ stages.first,
        diagnostic.origin = .line ∧ diagnostic.Within (lines source).length := by
  obtain ⟨ascending, bounds⟩ := Comment.nested_stripFrom .code 1 source
  -- Removing comments keeps the line breaks, so the bounds are those of the source.
  have count := length_lines_strip source
  have kept := (Comment.thinned_strip source).breaks_eq
  refine ⟨?_, ?_, fun diagnostic member => ?_⟩
  · -- The messages about comments have the lines of the comments, which are in order.
    rw [of.comments]
    unfold Diagnostic.Ordered
    rw [List.filterMap_map]
    have carried : Diagnostic.line ∘ Finding.nestedComment.onLine = some := rfl
    rw [carried, List.filterMap_some]
    exact ascending
  · rw [of.first]
    exact Validator.ordered_validateLines _ (ascending_prepareLines _ _)
  · -- What the first look reports has the number of a line that it has checked.
    rcases List.mem_append.mp member with spoken | looked
    · rw [of.comments] at spoken
      obtain ⟨line, nested, rfl⟩ := List.mem_map.mp spoken
      have place := bounds line nested
      exact ⟨rfl, line, rfl, by omega, by omega⟩
    · rw [of.first] at looked
      obtain ⟨origin, line, carried, low, high⟩ := Validator.within_of_mem_validate looked
      unfold Diagnostic.Within
      rw [origin]
      exact ⟨rfl, line, carried, low, by omega⟩

/-- What is wrong with the main function is told once, as an error about the program. -/
theorem outline (of : stages.Of config source) : ∀ diagnostic ∈ stages.outline,
    diagnostic.level = .error ∧ diagnostic.Within (lines source).length := by
  intro diagnostic member
  -- There is one such message at most.
  rcases of.fault with none | ⟨reason, faulty, single⟩
  · rw [none] at member
    cases member
  · rw [single, List.mem_singleton] at member
    rw [member]
    exact ⟨MainFunction.level_of_locate faulty, rfl⟩

/-- Variables without a value are told as warnings. -/
theorem late (of : stages.Of config source) : ∀ diagnostic ∈ stages.unset ++ stages.swept,
    diagnostic.level = .warning ∧ diagnostic.Within (lines source).length := by
  intro diagnostic member
  have count := length_lines_strip source
  -- The ones in the body carry a line of it, and those of the program carry none.
  rcases List.mem_append.mp member with unset | swept
  · obtain ⟨name, line, rfl, low, high⟩ := of.warned diagnostic unset
    exact ⟨rfl, line, rfl, low, by omega⟩
  · obtain ⟨name, rfl⟩ := of.swept diagnostic swept
    exact ⟨rfl, rfl⟩

/-- The messages about lines are those about comments and those of both looks. -/
theorem mem_all_iff (of : stages.Of config source) {diagnostic : Diagnostic}
    (origin : diagnostic.origin = .line) : diagnostic ∈ stages.all ↔
      diagnostic ∈ stages.comments ∨ diagnostic ∈ stages.first ∨ diagnostic ∈ stages.second := by
  unfold Stages.all
  simp only [List.mem_append]
  constructor
  · intro member
    rcases member with ((((spoken | looked) | faulty) | again) | unset) | swept
    · exact .inl spoken
    · exact .inr (.inl looked)
    · -- What is wrong with a main function is about the program.
      rcases of.fault with none | ⟨reason, -, single⟩
      · rw [none] at faulty
        cases faulty
      · rw [single, List.mem_singleton] at faulty
        rw [faulty] at origin
        cases origin
    · exact .inr (.inr again)
    · obtain ⟨name, line, rfl, -⟩ := of.warned diagnostic unset
      cases origin
    · obtain ⟨name, rfl⟩ := of.swept diagnostic swept
      cases origin
  · -- Conversely each of the three lists is a part of all messages.
    intro member
    rcases member with spoken | looked | again
    · simp [spoken]
    · simp [looked]
    · simp [again]

end Stages.Of

/--
The messages of a run have a fixed shape.

They come stage by stage: comments, the first look, the outline of the main function, the second
look at its body, its variables without a value and those of the program. Each look keeps the order
of lines, what is wrong with the outline leaves out the stages about the body, and the second look
repeats nothing. Every message carries the number of a line of the source, unless it is about the
program. A run that ends early has one message and nothing else.
-/
theorem analyze_diagnostics (config : Config) (source : Text) :
    ((analyze config source).aborted = false ∧
      ∃ stages : Stages, (analyze config source).diagnostics = stages.all ∧
        stages.Of config source ∧
        (∀ diagnostic ∈ stages.comments ++ stages.first ++ stages.second,
          diagnostic.origin = .line) ∧
        (∀ diagnostic ∈ stages.comments ++ stages.outline, diagnostic.level = .error) ∧
        (∀ diagnostic ∈ stages.unset ++ stages.swept, diagnostic.level = .warning) ∧
        Diagnostic.Ordered stages.comments ∧ Diagnostic.Ordered stages.first ∧
        Diagnostic.Ordered stages.second ∧
        ∀ diagnostic ∈ stages.all, diagnostic.Within (lines source).length) ∨
    ((analyze config source).aborted = true ∧
      (∃ diagnostic, (analyze config source).diagnostics = [diagnostic] ∧
        diagnostic.origin = .program ∧ diagnostic.level = .error ∧ diagnostic.line = none) ∧
      (analyze config source).tokens = [] ∧ (analyze config source).symbols = {}) := by
  -- A comment without an end is the only thing that ends a run early.
  cases closed : (Comment.strip source).unclosed with
  | some start =>
    right
    rw [analyze_of_unclosed config closed]
    exact ⟨rfl, ⟨_, rfl, rfl, rfl, rfl⟩, rfl, rfl⟩
  | none =>
    left
    obtain ⟨stages, diagnostics, of⟩ := exists_stages config closed
    obtain ⟨commentsOrdered, firstOrdered, early⟩ := of.early
    obtain ⟨secondOrdered, second⟩ := of.second
    refine ⟨by rw [aborted_analyze, closed]; rfl, stages, diagnostics, of, ?_, ?_, ?_,
      commentsOrdered, firstOrdered, secondOrdered, ?_⟩
    · -- Both looks and the comments speak of lines.
      intro diagnostic member
      rcases List.mem_append.mp member with first | later
      · exact (early diagnostic first).1
      · exact (second diagnostic later).1
    · -- A message about a comment or about the outline is an error.
      intro diagnostic member
      rcases List.mem_append.mp member with spoken | faulty
      · rw [of.comments] at spoken
        obtain ⟨line, -, rfl⟩ := List.mem_map.mp spoken
        rfl
      · exact (of.outline diagnostic faulty).1
    · exact fun diagnostic member => (of.late diagnostic member).1
    · -- A message is within the source whichever stage it comes from.
      intro diagnostic member
      unfold Stages.all at member
      rw [List.append_assoc (_ ++ _), List.mem_append] at member
      rcases member with member | later
      · rcases List.mem_append.mp member with member | again
        · rcases List.mem_append.mp member with first | faulty
          · exact (early diagnostic first).2
          · exact (of.outline diagnostic faulty).2
        · exact (second diagnostic again).2
      · exact (of.late diagnostic later).2

end Analysis

end SourceLint
