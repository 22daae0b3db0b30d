import Mathlib.Data.List.Nodup
import SourceLint.MainFunction

/-!
The warnings about variables of the main function that never get a value.

The second look asks the table for the names without a value and then tells them by the variables
that the body declares. In a scope whose names are distinct these are the same variables.
-/

namespace SourceLint

/-- In a scope of distinct names, a variable is found by its name among those that pass a test. -/
theorem Scope.lookup_filter {scope : Scope} (distinct : (scope.map Symbol.name).Nodup)
    {symbol : Symbol} (member : symbol ∈ scope) (test : Symbol → Bool) :
    Scope.lookup (scope.filter test) symbol.name = Option.guard test symbol := by
  -- Whatever is found has the name of the variable, and no other variable has it.
  have only : ∀ other ∈ scope, other.name = symbol.name → other = symbol :=
    fun other listed same => List.inj_on_of_nodup_map distinct listed member same
  unfold Scope.lookup Option.guard
  split
  · -- A variable that passes is found, since it is the only one of its name.
    rename_i passes
    cases found : (scope.filter test).find? fun other => other.name == symbol.name with
    | none =>
      have absent := List.find?_eq_none.mp found symbol (List.mem_filter.mpr ⟨member, passes⟩)
      simp at absent
    | some other =>
      have listed := List.mem_of_mem_filter (List.mem_of_find?_eq_some found)
      rw [only other listed (by simpa using List.find?_some found)]
  · -- One that fails is not found, and nothing else has its name.
    rename_i fails
    rw [List.find?_eq_none]
    intro other listed same
    obtain ⟨inside, passes⟩ := List.mem_filter.mp listed
    rw [only other inside (by simpa using same)] at passes
    exact fails passes

namespace MainFunction

/-- Every warning is about a variable that the body declares. -/
theorem exists_of_mem_warnUnset {unset declared : Scope} {diagnostic : Diagnostic}
    (member : diagnostic ∈ warnUnset unset declared) :
    ∃ symbol ∈ declared,
      diagnostic = (Finding.neverInitializedInMain symbol.name).inMain symbol.line := by
  -- The variable that the name was looked up for may be another one of the same name.
  obtain ⟨symbol, -, told⟩ := List.mem_filterMap.mp member
  obtain ⟨own, found, rfl⟩ := Option.map_eq_some_iff.mp told
  exact ⟨own, List.mem_of_find?_eq_some found, rfl⟩

/-- Where names are distinct, the variables without a value that the body declares are told. -/
theorem warnUnset_declaredIn {table : SymbolTable}
    (distinct : (table.current.map Symbol.name).Nodup) (main : MainFunction) :
    warnUnset table.uninitialized (main.declaredIn table) =
      ((main.declaredIn table).filter fun symbol => !symbol.initialized).map fun symbol =>
        (Finding.neverInitializedInMain symbol.name).inMain symbol.line := by
  -- Asked for its name, the body answers with the variable itself, if it declares it.
  have answered : ∀ symbol ∈ table.uninitialized, (main.declaredIn table).lookup symbol.name =
      Option.guard (fun own => decide (main.bodyLine ≤ own.line)) symbol :=
    fun symbol unset => Scope.lookup_filter distinct (List.mem_of_mem_filter unset) _
  rw [warnUnset, ← List.map_filterMap, List.filterMap_congr answered, List.filterMap_eq_filter,
    SymbolTable.uninitialized, declaredIn, List.filter_filter, List.filter_filter]
  simp only [Bool.and_comm]

end MainFunction

end SourceLint
