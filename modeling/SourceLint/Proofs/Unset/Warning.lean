import Mathlib.Data.List.Nodup
import SourceLint.Proofs.Stages
import SourceLint.Proofs.Wording

/-!
The warnings about variables that never got a value.

The second look at the body of the main function warns about the variables that the body declares,
and the end of a run warns about those of the program. The end of the run leaves out every name that
the body declares, so no name is warned about twice.
-/

namespace SourceLint

open Text

/-- Variables that are declared one after another have distinct names. -/
theorem SymbolTable.distinct_ofSymbols (symbols : List Symbol) :
    ((ofSymbols symbols).current.map Symbol.name).Nodup := by
  -- A name that is taken is not declared again, whatever has been declared before.
  have general : ∀ table : SymbolTable, (table.current.map Symbol.name).Nodup →
      ((symbols.foldl declare table).current.map Symbol.name).Nodup := by
    induction symbols with
    | nil => exact fun _ distinct => distinct
    | cons symbol others ih =>
      intro table distinct
      have grows : table.Grows (fun _ => False) (fun _ => True) (table.declare symbol) :=
        .declare table trivial
      exact ih (table.declare symbol) (grows.distinct distinct)
  -- The empty table has no names.
  exact general {} .nil

/-- Whether a message is a warning that a variable with the given name never got a value. -/
def Diagnostic.isUnsetWarning (name : Text) (diagnostic : Diagnostic) : Bool :=
  diagnostic == (Finding.neverInitialized name).inProgram ||
    diagnostic.line.any fun line =>
      diagnostic == (Finding.neverInitializedInMain name).inMain line

namespace Diagnostic

/-- A warning about the program is about the name that it holds. -/
theorem isUnsetWarning_inProgram (name other : Text) :
    (Finding.neverInitialized other).inProgram.isUnsetWarning name = (other == name) := by
  rw [Bool.eq_iff_iff]
  -- It carries no line, so it is no warning about the main function.
  simp only [isUnsetWarning, Finding.inProgram, Option.any_none, Bool.or_false, beq_iff_eq]
  constructor
  · intro same
    exact Finding.quoted_between_inj (congrArg Diagnostic.message same)
  · rintro rfl
    rfl

/-- A warning about the main function is about the name that it holds. -/
theorem isUnsetWarning_inMain (name other : Text) (line : Int) :
    ((Finding.neverInitializedInMain other).inMain line).isUnsetWarning name = (other == name) := by
  rw [Bool.eq_iff_iff]
  simp only [isUnsetWarning, Finding.inMain, Finding.inProgram, Option.any_some, Bool.or_eq_true,
    -- The message is one of two, and only the one about the body fits.
    beq_iff_eq, mk.injEq]
  constructor
  · rintro (⟨-, program, -⟩ | ⟨-, -, -, same⟩)
    -- It does not arise from the program.
    · cases program
    · exact Finding.quoted_between_inj same
  · -- In the other direction it is the message itself.
    rintro rfl
    exact .inr ⟨rfl, trivial, trivial, rfl⟩

/-- A message that tells of a line, or of an error in the program. -/
def IsOther (diagnostic : Diagnostic) : Prop :=
  diagnostic.origin = .line ∨ diagnostic.origin = .program ∧ diagnostic.level = .error

/-- Such a message is no warning about a variable without a value. -/
theorem IsOther.isUnsetWarning_eq_false {diagnostic : Diagnostic} (other : diagnostic.IsOther)
    (name : Text) : diagnostic.isUnsetWarning name = false := by
  rw [← Bool.not_eq_true]
  intro warns
  simp only [isUnsetWarning, Bool.or_eq_true, beq_iff_eq, Option.any_eq_true] at warns
  -- Either warning has an origin and a level that the message lacks.
  rcases warns with rfl | ⟨line, -, rfl⟩
  · rcases other with onLine | ⟨-, error⟩
    · cases onLine
    · cases error
  · rcases other with onLine | ⟨program, -⟩
    · cases onLine
    · cases program

end Diagnostic

namespace MainFunction

/-- The table at the end of the second look at the body. -/
def Scan.endTable (scan : Scan) (source : Text) (main : MainFunction) (globals : SymbolTable) :
    SymbolTable :=
  ((Validator.standard true scan.reportRedeclarations (scan.startTable main globals)).validate
    (main.body source) main.bodyLine).1.table

/-- The variables that the body of the main function declares, if one can be looked at. -/
def Scan.settled (scan : Scan) (required : Bool) (source : Text) (globals : SymbolTable) : Scope :=
  match locate required source with
  | .found main => main.declaredIn (scan.endTable source main globals)
  | _ => []

/-- The warnings about the variables of the main function that never got a value. -/
def unsetWarnings (declared : Scope) : List Diagnostic :=
  (declared.filter fun symbol => !symbol.initialized).map fun symbol =>
    (Finding.neverInitializedInMain symbol.name).inMain symbol.line

/-- Variables that the body declares are settled when the body can be looked at. -/
theorem Scan.settled_of_found (scan : Scan) {required : Bool} {source : Text} {main : MainFunction}
    (found : locate required source = .found main) (globals : SymbolTable) :
    scan.settled required source globals = main.declaredIn (scan.endTable source main globals) := by
  -- With the main function found the search contributes nothing else.
  unfold settled
  rw [found]

/-- The body is entered with variables of distinct names. -/
theorem Scan.distinct_startTable (scan : Scan) (main : MainFunction) (globals : SymbolTable) :
    ((scan.startTable main globals).current.map Symbol.name).Nodup := by
  unfold startTable
  dsimp only
  -- A scope of its own is empty at first.
  split
  · exact .nil
  · exact SymbolTable.distinct_ofSymbols _

/-- The body is left with variables of distinct names. -/
theorem Scan.distinct_endTable (scan : Scan) (source : Text) (main : MainFunction)
    (globals : SymbolTable) :
    ((scan.endTable source main globals).current.map Symbol.name).Nodup :=
  -- The lines of the body declare no name twice in one scope.
  (Validator.validateLines_grows
    (Validator.standard true scan.reportRedeclarations (scan.startTable main globals)).reset
    (prepareLines (main.body source) main.bodyLine)).distinct
      (scan.distinct_startTable main globals)

/-- The variables that the body declares have distinct names. -/
theorem Scan.distinct_settled (scan : Scan) (required : Bool) (source : Text)
    (globals : SymbolTable) :
    ((scan.settled required source globals).map Symbol.name).Nodup := by
  -- The names are distinct in the table, and so they are in any part of it.
  unfold settled
  split
  · rename_i main _
    exact (scan.distinct_endTable source main globals).sublist
      (List.filter_sublist.map Symbol.name)
  · exact .nil

/-- The second look adds messages about lines, and then its warnings. -/
theorem Scan.exists_entries_run (scan : Scan) (source : Text) (main : MainFunction)
    (globals : SymbolTable) {log : Log} (plain : log.collapsing = false) :
    (scan.run source main globals log).1.collapsing = false ∧
      ∃ told, (scan.run source main globals log).1.entries = log.entries ++ told ++
          unsetWarnings (main.declaredIn (scan.endTable source main globals)) ∧
        ∀ diagnostic ∈ told, diagnostic.IsOther := by
  obtain ⟨closed, told, entries, listed, -⟩ := scan.exists_second source main globals plain
  have warned := warnUnset_declaredIn (scan.distinct_endTable source main globals) main
  refine ⟨closed, told, entries.trans (congrArg _ warned), fun diagnostic member => ?_⟩
  -- What the second look finds is about lines.
  left
  exact (Validator.within_of_mem_validate (listed.subset member)).1

/-- The search for the main function tells of lines and errors, and then come the warnings. -/
theorem exists_entries_examine (scan : Scan) (required : Bool) (source : Text)
    (globals : SymbolTable) {log : Log} (plain : log.collapsing = false) :
    (examine scan required source globals log).2 = scan.settled required source globals ∧
      (examine scan required source globals log).1.collapsing = false ∧
      ∃ told, (examine scan required source globals log).1.entries = log.entries ++ told ++
          unsetWarnings (scan.settled required source globals) ∧
        ∀ diagnostic ∈ told, diagnostic.IsOther := by
  unfold examine Scan.settled
  cases found : locate required source with
  -- If the main function is found, its warnings follow what the second look tells.
  | found main => exact ⟨rfl, scan.exists_entries_run source main globals plain⟩
  | faulty reason =>
    -- A fault of the header is one error, and no warnings follow.
    refine ⟨rfl, by simpa using plain, [reason.inProgram], ?_, fun diagnostic member => ?_⟩
    · -- Outside of collapsing sections the fault is recorded.
      have recorded := Log.entries_extend plain [reason.inProgram]
      simpa [Log.extend, unsetWarnings] using recorded
    · rw [List.mem_singleton.mp member]
      exact .inr ⟨rfl, level_of_locate found⟩
  | absent => exact ⟨rfl, plain, [], by simp [unsetWarnings], by simp⟩

end MainFunction

namespace Analysis

/-- How the settings of a run have the body of the main function looked at again. -/
def scanOf (config : Config) : MainFunction.Scan :=
  ⟨config.scopedMain, config.reportRedeclarations⟩

/-- The variables of a run that the body of its main function declares. -/
def settledIn (config : Config) (source : Text) : Scope :=
  (scanOf config).settled config.requireMain (Comment.strip source).text
    (analyze config source).symbols

/-- A run that goes to its end tells of lines and errors first, and its warnings come last. -/
theorem exists_diagnostics_eq (config : Config) {source : Text}
    (closed : (Comment.strip source).unclosed = none) :
    ∃ told, (analyze config source).diagnostics =
        told ++ MainFunction.unsetWarnings (settledIn config source) ++
          sweep (analyze config source).symbols (settledIn config source) ∧
      ∀ diagnostic ∈ told, diagnostic.IsOther := by
  have result := analyze_of_closed config closed
  have symbols := symbols_analyze config closed
  unfold settledIn
  generalize looked : (Validator.standard false config.reportRedeclarations {}).validate
    (Comment.strip source).text 1 = outcome at symbols
  -- The log holds what was told before the main function is looked for.
  generalize spoken : (Comment.strip source).nested.map Finding.nestedComment.onLine = comments
  obtain ⟨plain, entries⟩ := entries_startLog config comments outcome.2
  obtain ⟨settled, still, told, examined, others⟩ := MainFunction.exists_entries_examine
    (scanOf config) config.requireMain (Comment.strip source).text outcome.1.table plain
  rw [symbols]
  refine ⟨comments ++ outcome.2 ++ told, ?_, fun diagnostic member => ?_⟩
  · -- The three parts are put into the log one behind the other.
    rw [result]
    unfold runStripped
    simp only [looked, spoken]
    rw [Log.entries_extend (by exact still)]
    exact congrArg₂ (· ++ ·) (entries ▸ examined) (congrArg (sweep outcome.1.table) settled)
  · -- The messages about comments and those of the first look carry a line.
    rcases List.mem_append.mp member with early | late
    · left
      rcases List.mem_append.mp early with comment | first
      · rw [← spoken] at comment
        obtain ⟨line, -, rfl⟩ := List.mem_map.mp comment
        rfl
      · exact (Validator.within_of_mem_validate (looked ▸ first)).1
    · exact others diagnostic late

/-- The names of the variables that a run warns about. -/
def unsetNames (config : Config) (source : Text) : List Text :=
  ((settledIn config source).filter fun symbol => !symbol.initialized).map Symbol.name ++
    ((analyze config source).symbols.globals.filter fun symbol => !symbol.initialized &&
      ((settledIn config source).lookup symbol.name).isNone).map Symbol.name

/-- A run that goes to its end has as many warnings about a name as it lists the name. -/
theorem countP_isUnsetWarning (config : Config) {source : Text}
    (closed : (Comment.strip source).unclosed = none) (name : Text) :
    (analyze config source).diagnostics.countP (Diagnostic.isUnsetWarning name) =
      (unsetNames config source).count name := by
  obtain ⟨told, diagnostics, others⟩ := exists_diagnostics_eq config closed
  -- Nothing that is told before the warnings counts.
  have none : told.countP (Diagnostic.isUnsetWarning name) = 0 := by
    rw [List.countP_eq_zero]
    intro diagnostic member
    rw [(others diagnostic member).isUnsetWarning_eq_false name]
    exact Bool.false_ne_true
  unfold unsetNames
  rw [diagnostics, List.countP_append, List.countP_append, none, Nat.zero_add, List.count_append]
  unfold MainFunction.unsetWarnings sweep
  -- Both kinds of warnings are counted by the names that they are about.
  simp only [List.count, List.countP_map, Function.comp_def, Diagnostic.isUnsetWarning_inMain,
    Diagnostic.isUnsetWarning_inProgram]

/-- No name is listed twice: those of the program leave out those of the main function. -/
theorem nodup_unsetNames (config : Config) (source : Text) :
    (unsetNames config source).Nodup := by
  have globals := distinct_globals config source
  have settled : ((settledIn config source).map Symbol.name).Nodup :=
    (scanOf config).distinct_settled _ _ _
  unfold unsetNames
  rw [List.nodup_append]
  -- Within each of the two lists the names are distinct.
  refine ⟨settled.sublist (List.filter_sublist.map Symbol.name),
    globals.sublist (List.filter_sublist.map Symbol.name), ?_⟩
  intro name inMain other inProgram equal
  obtain ⟨own, unset, rfl⟩ := List.mem_map.mp inMain
  obtain ⟨symbol, swept, rfl⟩ := List.mem_map.mp inProgram
  -- The name of the variable is found among those that the body declares.
  have free := (List.mem_filter.mp swept).2
  rw [Bool.and_eq_true, Option.isNone_iff_eq_none, ← equal] at free
  exact List.find?_eq_none.mp free.2 own (List.mem_filter.mp unset).1 (by simp)

/--
No name is warned about twice for want of a value.

The warnings about variables of the main function and those about variables of the program are
counted together. This holds under all settings, whether or not the body has a scope of its own.
-/
theorem unset_warned_once (config : Config) (source name : Text) :
    (analyze config source).diagnostics.countP (Diagnostic.isUnsetWarning name) ≤ 1 := by
  cases closed : (Comment.strip source).unclosed with
  | some start =>
    -- A run that ends early has one message in all.
    rw [analyze_of_unclosed config closed]
    exact List.countP_le_length
  | none =>
    rw [countP_isUnsetWarning config closed name]
    exact List.nodup_iff_count_le_one.mp (nodup_unsetNames config source) name

end Analysis

end SourceLint
