import SourceLint.Analysis
import SourceLint.Proofs.Comment.Lines
import SourceLint.Proofs.Growth.Line
import SourceLint.Proofs.Lines

/-!
The variables that a run reports.

They are entered line by line into a table that is empty at first, so they stand in the order of
their lines, and each of them is declared on its line.
-/

namespace SourceLint

open Text

namespace Validator

/-- A line enters its variables behind those of earlier lines. -/
theorem validateLine_ordered {validator : Validator} {line : NumberedLine}
    (ordered : (validator.table.current.map Symbol.line).Pairwise (· ≤ ·))
    (earlier : ∀ symbol ∈ validator.table.current, symbol.line ≤ line.number) :
    ((validator.validateLine line).1.table.current.map Symbol.line).Pairwise (· ≤ ·) ∧
      ∀ symbol ∈ (validator.validateLine line).1.table.current, symbol.line ≤ line.number := by
  -- The line keeps what is there and puts its own variables behind it.
  obtain ⟨kept, added, parts, same, entered⟩ := (validator.validateLine_grows line).current
  have here : ∀ symbol ∈ added, symbol.line = line.number := by
    intro symbol member
    obtain ⟨source, declared, started⟩ := entered symbol member
    exact (declared.kept started).line
  have before : ∀ symbol ∈ kept, symbol.line ≤ line.number := by
    intro symbol member
    obtain ⟨old, listed, stays⟩ := same.exists_of_mem member
    rw [stays.line]
    exact earlier old listed
  rw [parts]
  refine ⟨?_, fun symbol member => ?_⟩
  · rw [List.map_append, List.pairwise_append, same.map_line]
    refine ⟨ordered, ?_, ?_⟩
    · -- All new variables are on the same line.
      rw [List.pairwise_map]
      refine List.pairwise_of_forall_mem_list fun symbol first other second => ?_
      exact Int.le_of_eq ((here symbol first).trans (here other second).symm)
    · -- An old variable stands on an earlier line, or on this one.
      intro number old other new
      rw [← same.map_line] at old
      obtain ⟨symbol, listed, rfl⟩ := List.mem_map.mp old
      obtain ⟨fresh, member, rfl⟩ := List.mem_map.mp new
      rw [here fresh member]
      exact before symbol listed
  · rcases List.mem_append.mp member with old | new
    · exact before symbol old
    · exact Int.le_of_eq (here symbol new)

/-- Lines that are numbered upwards enter their variables in the order of lines. -/
theorem validateLines_ordered {validator : Validator} {lines : List NumberedLine}
    (ascending : lines.Pairwise fun line later => line.number < later.number)
    (ordered : (validator.table.current.map Symbol.line).Pairwise (· ≤ ·))
    (earlier : ∀ symbol ∈ validator.table.current, ∀ line ∈ lines, symbol.line ≤ line.number) :
    ((validator.validateLines lines).1.table.current.map Symbol.line).Pairwise (· ≤ ·) := by
  -- By induction on the lines, of which each has a larger number than those before.
  induction lines generalizing validator with
  | nil => exact ordered
  | cons line others ih =>
    obtain ⟨later, rest⟩ := List.pairwise_cons.mp ascending
    obtain ⟨stays, bounded⟩ := validateLine_ordered ordered fun symbol member =>
      earlier symbol member line (by simp)
    unfold validateLines
    -- What a line declares is on this line, and all later lines have larger numbers.
    refine ih rest stays fun symbol member other listed => ?_
    exact Int.le_trans (bounded symbol member) (Int.le_of_lt (later other listed))

/-- A text whose lines are checked from an empty table declares its variables on these lines. -/
theorem exists_declaredOn_of_mem_validate {mainBody reportRedeclarations : Bool} {text : Text}
    {first : Int} {symbol : Symbol} (member : symbol ∈
      ((standard mainBody reportRedeclarations {}).validate text first).1.table.current) :
    ∃ line ∈ prepareLines text first, symbol.DeclaredOn line := by
  -- Nothing was known before, so the variable has been entered on one of the lines.
  obtain ⟨kept, added, parts, same, entered⟩ := (validateLines_grows
    (standard mainBody reportRedeclarations {}).reset (prepareLines text first)).current
  rw [List.forall₂_nil_left_iff.mp same, List.nil_append] at parts
  obtain ⟨origin, ⟨line, listed, declared⟩, started⟩ := entered symbol (parts ▸ member)
  exact ⟨line, listed, declared.kept started⟩

/-- A text whose lines are checked from an empty table declares every name once. -/
theorem validate_distinct (mainBody reportRedeclarations : Bool) (text : Text) (first : Int) :
    (((standard mainBody reportRedeclarations {}).validate text first).1.table.current.map
      Symbol.name).Nodup :=
  (validateLines_grows _ _).distinct .nil

/-- A text whose lines are checked from an empty table leaves the global scope alone. -/
theorem validate_globals (mainBody reportRedeclarations : Bool) (text : Text) (first : Int) :
    ((standard mainBody reportRedeclarations {}).validate text first).1.table.globals =
      ((standard mainBody reportRedeclarations {}).validate text first).1.table.current := by
  have grows := validateLines_grows (standard mainBody reportRedeclarations {}).reset
    (prepareLines text first)
  -- No scope is opened, so the current one is the global one.
  have none := List.forall₂_nil_left_iff.mp grows.enclosing
  unfold SymbolTable.globals validate
  rw [none]
  rfl

end Validator

namespace Analysis

/-- A source whose comments all end is analysed without them. -/
theorem analyze_of_closed (config : Config) {source : Text}
    (closed : (Comment.strip source).unclosed = none) :
    analyze config source =
      (runStripped config (Comment.strip source).nested (Comment.strip source).text).result := by
  -- Without an open comment the run goes on with what is left.
  unfold analyze run
  simp only [closed]

/-- A source with a comment that never ends is not analysed. -/
theorem analyze_of_unclosed (config : Config) {source : Text} {start : Int}
    (unclosed : (Comment.strip source).unclosed = some start) :
    analyze config source = (runAborted config start).result := by
  -- The run ends where the comment is found.
  unfold analyze run
  simp only [unclosed]

/-- The variables of a run are those of the first look at its source. -/
theorem symbols_analyze (config : Config) {source : Text}
    (closed : (Comment.strip source).unclosed = none) :
    (analyze config source).symbols =
      ((Validator.standard false config.reportRedeclarations {}).validate
        (Comment.strip source).text 1).1.table := by
  -- Nothing that follows the first look changes its table.
  rw [analyze_of_closed config closed]
  rfl

/-- The variables that a run lists have distinct names. -/
theorem distinct_globals (config : Config) (source : Text) :
    ((analyze config source).symbols.globals.map Symbol.name).Nodup := by
  -- A run that ends early lists nothing.
  cases closed : (Comment.strip source).unclosed with
  | some start =>
    rw [analyze_of_unclosed config closed]
    exact .nil
  | none =>
    rw [symbols_analyze config closed, Validator.validate_globals]
    exact Validator.validate_distinct _ _ _ _

/-- A run ends early when a comment never ends. -/
theorem aborted_analyze (config : Config) (source : Text) :
    (analyze config source).aborted = (Comment.strip source).unclosed.isSome := by
  -- The two ways to run are told apart by the open comment alone.
  cases closed : (Comment.strip source).unclosed with
  | some start =>
    rw [analyze_of_unclosed config closed]
    rfl
  | none =>
    rw [analyze_of_closed config closed]
    rfl

/--
The variables that a run reports are well formed.

Their names are distinct identifiers and not reserved, and their types belong to the vocabulary.
They stand in the order of their lines, and the line of the source with that number, trimmed and
without comments, declares the name.
-/
theorem analyze_symbols (config : Config) (source : Text) :
    ((analyze config source).symbols.globals.map Symbol.name).Nodup ∧
      ((analyze config source).symbols.globals.map Symbol.line).Pairwise (· ≤ ·) ∧
      ∀ symbol ∈ (analyze config source).symbols.globals,
        Token.isIdentifier symbol.name = true ∧ Vocabulary.isReserved symbol.name = false ∧
        (∃ type ∈ DataType.all, symbol.type = .known type) ∧
        1 ≤ symbol.line ∧ symbol.line ≤ (lines source).length ∧
        ∃ raw, (lines (Comment.strip source).text)[(symbol.line - 1).toNat]? = some raw ∧
          symbol.name ∈ Declaration.namesOn (trim raw) := by
  cases closed : (Comment.strip source).unclosed with
  | some start =>
    -- A run that ends early reports no variable.
    have nothing : (analyze config source).symbols.globals = [] := by
      rw [analyze_of_unclosed config closed]
      rfl
    rw [nothing]
    simp
  | none =>
    rw [symbols_analyze config closed, Validator.validate_globals]
    refine ⟨Validator.validate_distinct _ _ _ _, Validator.validateLines_ordered
      (ascending_prepareLines _ 1) .nil (by simp [Validator.reset, Validator.standard,
        Rule.State.reset]), fun symbol member => ?_⟩
    -- Each variable was declared on a line that was checked, and this is a line of the source.
    obtain ⟨line, listed, here⟩ := Validator.exists_declaredOn_of_mem_validate member
    obtain ⟨index, raw, found, trimmed, number⟩ := exists_of_mem_prepareLines listed
    obtain ⟨type, known⟩ := here.type
    have place : (symbol.line - 1).toNat = index := by
      have := here.line
      omega
    -- Removing the comments has left the number of lines as it was.
    have bound : index < (lines source).length := by
      have inside := (List.getElem?_eq_some_iff.mp found).1
      rw [length_lines, (Comment.thinned_strip source).breaks_eq, ← length_lines] at inside
      exact inside
    refine ⟨here.identifier, here.unreserved, ⟨type, ?_, known⟩, ?_, ?_, raw, ?_, ?_⟩
    · -- The types of declarations are those of the vocabulary.
      cases type <;> decide
    · rw [here.line, number]
      omega
    · rw [here.line, number]
      omega
    · rw [place]
      exact found
    · rw [← trimmed]
      exact here.listed

end Analysis

end SourceLint
