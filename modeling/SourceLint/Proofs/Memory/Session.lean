import SourceLint.Memory.Session
import SourceLint.Proofs.Memory.Rule

/-!
A session in memory does what a run does.

The second look at the main function works on a table of its own, with copies of the variables of
the program. So memory has all objects that were there before it as they were, and what is read of
the table of the program afterwards is what was read of it when the symbols were shown.
-/

namespace SourceLint

variable {base memory later : Memory} {address globals : Address} {table program : SymbolTable}

namespace Memory

/-- The global scope that a table has kept has the same names in a memory with more objects. -/
theorem Holds.globalBindings_eq (holds : base.Holds address memory table)
    (extension : memory.Extends later) :
    later.globalBindings address = memory.globalBindings address := by
  -- The table was there before, and so were the names of its global scope.
  obtain ⟨object, found, backs⟩ := holds.object
  obtain ⟨there, rfl⟩ := List.getElem?_eq_some_iff.mp found
  have kept := List.prefix_iff_getElem?.mp extension.tables address there
  rw [globalBindings, globalBindings, found, kept, Option.map_some, Option.map_some,
    extension.bindings backs.shows_globals.inside]

end Memory

namespace MainFunction

open Memory

/-- Whether the body of the main function may see a variable of the program. -/
def Scan.sees (scan : Scan) (main : MainFunction) (symbol : Symbol) : Bool :=
  !scan.ownScope || symbol.line < main.headerLine

/-- A variable that the body may see is declared in its table, and all others are passed over. -/
theorem Scan.copyVariable_holds (scan : Scan) (main : MainFunction)
    (holds : memory.Holds address later table) {binding : Binding} {symbol : Symbol}
    (leads : base.Leads memory binding symbol) :
    memory.Holds address (scan.copyVariable main address later binding)
      (if scan.sees main symbol then table.declare symbol else table) := by
  obtain ⟨-, cell, found, rfl⟩ := leads
  -- The variable is as it was before the table of the body was made.
  have kept : later.cells[binding.cell]? = some cell := by
    obtain ⟨inside, rfl⟩ := List.getElem?_eq_some_iff.mp found
    exact List.prefix_iff_getElem?.mp holds.extension.cells binding.cell inside
  rw [copyVariable, kept]
  have seen : scan.sees main (cell.named binding.name) =
      (!scan.ownScope || cell.line < main.headerLine) := rfl
  rw [seen]
  dsimp only
  split
  · -- The copy is made in a new cell, so the variable of the program is left alone.
    exact holds.bind_newCell cell binding.name
  · exact holds

/-- The variables that the body may see are declared in its table, in their order. -/
theorem Scan.copyVariables_hold (scan : Scan) (main : MainFunction)
    (holds : memory.Holds address later table) {bindings : List Binding} {scope : Scope}
    (leads : List.Forall₂ (base.Leads memory) bindings scope) :
    memory.Holds address (bindings.foldl (scan.copyVariable main address) later)
      ((scope.filter (scan.sees main)).foldl SymbolTable.declare table) := by
  -- By induction on the names of the global scope.
  induction leads generalizing later table with
  | nil => exact holds
  | @cons binding symbol _ _ here _ ih =>
    have copied := scan.copyVariable_holds main holds here
    rw [List.foldl_cons, List.filter_cons]
    -- Whether it is copied or not, the others are copied behind it.
    split
    · rename_i seen
      rw [if_pos seen] at copied
      exact ih copied
    · rename_i unseen
      rw [if_neg unseen] at copied
      exact ih copied

/-- The body is entered with a table that was made for it. -/
theorem Scan.openTable_holds (scan : Scan) (main : MainFunction)
    (holds : base.Holds globals memory program) :
    memory.Holds (scan.openTable main globals memory).2 (scan.openTable main globals memory).1
      (scan.startTable main program) := by
  -- A new table is made first, and then the variables are copied into it.
  have made := holds_newTable memory
  have names := holds.globalBindings_eq made.extension
  have copied := scan.copyVariables_hold main made holds.leads_globalBindings
  rw [← names] at copied
  simp only [openTable, startTable]
  -- A scope of its own is opened on top of the copies.
  split
  · exact copied.enter
  · exact copied

/-- The second look changes nothing that was there, and reports what it does without memory. -/
theorem Scan.runAt_follows (scan : Scan) (source : Text) (main : MainFunction)
    (holds : base.Holds globals memory program) (log : Log) :
    memory.Extends (scan.runAt source main globals memory log).1 ∧
      (scan.runAt source main globals memory log).2 = scan.run source main program log := by
  -- The rules run with the table that was opened for the body.
  have opened := scan.openTable_holds main holds
  obtain ⟨⟨looked, -⟩, -, -, -, reported⟩ := Pass.validate_follows opened true
    scan.reportRedeclarations log.collapse (main.body source) main.bodyLine
  constructor
  · simp only [runAt]
    -- The scope that was opened is closed again.
    split
    · exact looked.exit.extension
    · exact looked.extension
  · -- What is reported is read from that table, which shows the symbol table.
    simp only [runAt, run, looked.items_eq, looked.uninitialized_eq, reported]
    rfl

/-- The examination changes nothing that was there, and reports what it does without memory. -/
theorem examineAt_follows (scan : Scan) (required : Bool) (source : Text)
    (holds : base.Holds globals memory program) (log : Log) :
    memory.Extends (examineAt scan required source globals memory log).1 ∧
      (examineAt scan required source globals memory log).2 =
        examine scan required source program log := by
  rw [examineAt, examine]
  -- Only a main function that is found has a body to look at.
  cases locate required source with
  | found main => exact scan.runAt_follows source main holds log
  | faulty reason => exact ⟨.refl memory, rfl⟩
  | absent => exact ⟨.refl memory, rfl⟩

end MainFunction

namespace Session

/-- A later state in which nothing has changed that was there, apart from the log. -/
structure Keeps (session later : Session) : Prop where
  memory : session.memory.Extends later.memory
  symbols : later.symbols = session.symbols
  tokens : later.tokens = session.tokens
  tokenSink : later.tokenSink = session.tokenSink
  symbolSink : later.symbolSink = session.symbolSink
  aborted : later.aborted = session.aborted

variable {session : Session}

/-- Tokens are kept in their order, and the listener is told of them in their order. -/
theorem foldl_addToken (session : Session) (tokens : List Token) :
    tokens.foldl addToken session =
      { session with
        tokens := session.tokens ++ tokens
        tokenSink := session.tokenSink ++ tokens.map Token.text } := by
  -- By induction on the tokens.
  induction tokens generalizing session with
  | nil => simp
  | cons token others ih => simp [ih, addToken]

/-- The table of the program is read as before when nothing has changed that was there. -/
theorem Keeps.symbolLines_eq {final : Session} (keeps : session.Keeps final)
    (holds : base.Holds session.symbols session.memory program) :
    final.symbolLines = session.symbolLines := by
  -- The table of the program has its names, and these lead where they led.
  have still := holds.extend keeps.memory
  rw [symbolLines, symbolLines, keeps.symbols, still.globals_eq, holds.globals_eq]

/-- The examination of the main function and the sweep leave the table of the program alone. -/
theorem finish_keeps (holds : base.Holds session.symbols session.memory program) (config : Config)
    (text : Text) : session.Keeps (session.finish config text) := by
  -- The sweep only reports, so the examination is all that touches memory.
  have examined := MainFunction.examineAt_follows ⟨config.scopedMain, config.reportRedeclarations⟩
    config.requireMain text holds session.log
  exact ⟨examined.1, rfl, rfl, rfl, rfl, rfl⟩

/-- The examination and the sweep report what they do without memory. -/
theorem log_finish (holds : base.Holds session.symbols session.memory program) (config : Config)
    (text : Text) :
    let examined := MainFunction.examine ⟨config.scopedMain, config.reportRedeclarations⟩
      config.requireMain text program session.log
    (session.finish config text).log = examined.1.extend (Analysis.sweep program examined.2) := by
  -- What is swept is read from the table that the examination has left alone.
  obtain ⟨extension, same⟩ := MainFunction.examineAt_follows
    ⟨config.scopedMain, config.reportRedeclarations⟩ config.requireMain text holds session.log
  have still := holds.extend extension
  simp only [finish, examine, sweep, same, still.globals_eq]
  rfl

/-- The table of the program is made by the lines of the text, and the listener is shown it. -/
theorem prepare_follows (config : Config) (nested : List Int) (text : Text) :
    let session := prepare config nested text
    let validated := (Validator.standard false config.reportRedeclarations {}).validate text 1
    ({} : Memory).Holds session.symbols session.memory validated.1.table ∧
      session.log = ((Analysis.startLog config).extend
        (nested.map Finding.nestedComment.onLine)).extend validated.2 ∧
      session.tokens = Token.tokenize text ∧
      session.tokenSink = (Token.tokenize text).map Token.text ∧
      session.symbolSink = session.symbolLines ∧ session.aborted = false := by
  -- The first look starts with a new table, and the tokens are kept before it.
  have checked := Pass.validate_follows (Memory.holds_newTable {}) false
    config.reportRedeclarations
    ((Analysis.startLog config).extend (nested.map Finding.nestedComment.onLine)) text 1
  simp only [prepare, readTokens, foldl_addToken]
  refine ⟨checked.stored.holds, checked.log, rfl, rfl, rfl, rfl⟩

/-- A session on a source without open comments leaves what a run on it leaves. -/
theorem outcome_finish (config : Config) (nested : List Int) (text : Text) :
    ((prepare config nested text).finish config text).outcome =
      Analysis.runStripped config nested text := by
  -- The session goes through the two stages, and each of them follows the run.
  obtain ⟨holds, log, tokens, tokenSink, symbolSink, aborted⟩ :=
    prepare_follows config nested text
  have keeps := finish_keeps holds config text
  have final := log_finish holds config text
  -- The result has the table of the program as memory has it in the end.
  have symbols := (holds.extend keeps.memory).read_eq
  have shown := congrArg Report.scopeLines holds.globals_eq
  rw [← symbolLines, ← symbolSink] at shown
  -- The log is the one that the examination and the sweep have left.
  rw [log] at final
  simp only [outcome, Analysis.runStripped, final, keeps.symbols, symbols, keeps.tokens, tokens,
    keeps.tokenSink, tokenSink, keeps.symbolSink, shown, keeps.aborted, aborted, Report.symbolLines]

/-- A session leaves what a run leaves. -/
theorem outcome_run (config : Config) (source : Text) :
    (run config source).outcome = Analysis.run config source := by
  -- A comment that is not closed aborts both.
  rw [run, Analysis.run]
  cases (Comment.strip source).unclosed with
  | some line => rfl
  | none => exact outcome_finish config _ _

end Session

end SourceLint
