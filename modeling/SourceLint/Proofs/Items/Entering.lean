import Mathlib.Data.List.Forall2
import SourceLint.Proofs.Items.Reading

/-!
Declarations of several variables, entered together and one by one.

Each item sees the variables that the items in front of it have declared, wherever these stand. So
the only thing that a shared declaration changes is how a value that does not fit is reported.
-/

namespace SourceLint

open Text

/--
The messages about the same variable in a declaration of several and in one of its own.

They only differ when its value does not fit, since the first of them then names the variable.
-/
def Diagnostic.Rephrases (several single : Diagnostic) : Prop :=
  several.level = single.level ∧ several.origin = single.origin ∧ several.line = single.line ∧
    (several.message = single.message ∨ ∃ name type,
      several.message = (Finding.badInitializerOf name type).message ∧
        single.message = (Finding.badInitializer type).message)

/-- A finding is reported in its own words. -/
theorem Diagnostic.Rephrases.refl (diagnostic : Diagnostic) : diagnostic.Rephrases diagnostic :=
  ⟨rfl, rfl, rfl, .inl rfl⟩

/-- Steps that agree on the table and have related findings do so one after another. -/
theorem SymbolTable.runAll_forall₂ {α β γ δ : Type} {related : γ → δ → Prop} {image : α → β}
    {step : SymbolTable → α → SymbolTable × List γ} {other : SymbolTable → β → SymbolTable × List δ}
    {entries : List α}
    (each : ∀ entry ∈ entries, ∀ table, (step table entry).1 = (other table (image entry)).1 ∧
      List.Forall₂ related (step table entry).2 (other table (image entry)).2)
    (table : SymbolTable) :
    (table.runAll step entries).1 = (table.runAll other (entries.map image)).1 ∧
      List.Forall₂ related (table.runAll step entries).2
        (table.runAll other (entries.map image)).2 := by
  -- By induction on the entries, each of which finds the same table on both sides.
  induction entries generalizing table with
  | nil => exact ⟨rfl, .nil⟩
  | cons entry entries ih =>
    obtain ⟨reached, found⟩ := each entry (by simp) table
    obtain ⟨left, later⟩ := ih (fun entry member => each entry (by simp [member]))
      (step table entry).1
    -- The other steps go on from the same table.
    simp only [runAll, List.map_cons, ← reached]
    exact ⟨left, List.rel_append found later⟩

namespace Registration

variable (registration : Registration) (table : SymbolTable)

/-- The items of a declaration are declared one after another. -/
theorem enterLine_written (type : DataType) {first : Item} {others : List Item}
    (writable : ∀ item ∈ first :: others, item.IsWritable)
    (unfinished : ∀ item ∈ first :: others, ∀ value ∈ item.value,
      splitTop (· == ';') value = [value]) :
    registration.enterLine table (Declaration.written ⟨type, first :: others⟩ ++ [';']) =
      table.runAll (registration.declare type (1 < (first :: others).length))
        (first :: others) := by
  -- Neither the type nor the gaps between the items have a semicolon at their top level.
  obtain ⟨declares, -⟩ := Item.IsWritable.declares writable
  have typed : Flat (· == ';') (type.spelling ++ [' ']) :=
    type.flat_spelling (by decide) (by decide)
  have gap : Flat (· == ';') [',', ' '] := ⟨closed_of_plain (by decide), by decide⟩
  have listed : Settled (· == ';') (join [',', ' '] ((first :: others).map Item.written)) :=
    gap.settled.join (List.forall_mem_map.mpr fun item member =>
      (writable item member).settled (by decide) (by decide) (unfinished item member))
  -- The line is one statement, and the statement is read as the declaration.
  have settled : Settled (· == ';') (Declaration.written ⟨type, first :: others⟩) := by
    simpa [Declaration.written] using typed.settled.append listed
  have effective : Statement.effective (Declaration.written ⟨type, first :: others⟩ ++ [';'])
      false = [Declaration.written ⟨type, first :: others⟩] :=
    declares.effective_typed type settled false
  have named : Declaration.nameless? (Declaration.written ⟨type, first :: others⟩) = none :=
    declares.nameless?_typed type
  -- Nothing is read in front of the items, so they are declared in their order.
  rw [enterLine, effective]
  simp [SymbolTable.runAll, enter, named, Declaration.parse?_typed type writable]

/-- An item does the same to the table whether it is declared alone or with others. -/
theorem declare_rephrases (type : DataType) (item : Item) :
    (registration.declare type true table item).1 =
        (registration.declare type false table item).1 ∧
      List.Forall₂ (fun several single : Finding =>
          (several.onLine registration.line).Rephrases (single.onLine registration.line))
        (registration.declare type true table item).2
        (registration.declare type false table item).2 := by
  -- Only a value that does not fit is reported in other words.
  unfold declare
  split
  · exact ⟨rfl, List.forall₂_same.mpr fun _ _ => .refl _⟩
  · split
    · exact ⟨rfl, .nil⟩
    · split
      · exact ⟨rfl, List.forall₂_same.mpr fun _ _ => .refl _⟩
      · -- The texts of the finding differ, and its place and level do not.
        refine ⟨rfl, ?_⟩
        simp only [if_true, Bool.false_eq_true, if_false]
        split
        · exact .nil
        · exact .cons ⟨rfl, rfl, rfl, .inr ⟨_, _, rfl, rfl⟩⟩ .nil

/-- A declaration of several variables does what a declaration for each of them does. -/
theorem enterLine_together {declaration : Declaration} (several : 1 < declaration.items.length)
    (writable : ∀ item ∈ declaration.items, item.IsWritable)
    (unfinished : ∀ item ∈ declaration.items, ∀ value ∈ item.value,
      splitTop (· == ';') value = [value]) :
    let together := registration.enterLine table (declaration.written ++ [';'])
    let apart := table.runAll registration.enterLine
      (declaration.items.map fun item => Declaration.written ⟨declaration.type, [item]⟩ ++ [';'])
    together.1 = apart.1 ∧
      List.Forall₂ Diagnostic.Rephrases
        (together.2.map fun finding => finding.onLine registration.line)
        (apart.2.map fun finding => finding.onLine registration.line) := by
  obtain ⟨type, items⟩ := declaration
  dsimp only at several writable unfinished ⊢
  -- Every item has a line that declares it alone.
  have each : ∀ item ∈ items, ∀ table,
      registration.enterLine table (Declaration.written ⟨type, [item]⟩ ++ [';']) =
        registration.declare type false table item := by
    intro item member table
    have alone := registration.enterLine_written table type
      (List.forall_mem_singleton.mpr (writable item member))
      (List.forall_mem_singleton.mpr (unfinished item member))
    simpa [SymbolTable.runAll] using alone
  have whole : registration.enterLine table (Declaration.written ⟨type, items⟩ ++ [';']) =
      table.runAll (registration.declare type true) items := by
    obtain ⟨first, others, rfl⟩ := List.exists_cons_of_length_pos (by omega : 0 < items.length)
    have joined := registration.enterLine_written table type writable unfinished
    rwa [decide_eq_true several] at joined
  rw [whole, List.forall₂_map_left_iff, List.forall₂_map_right_iff]
  refine SymbolTable.runAll_forall₂ (fun item member reached => ?_) table
  -- The items are declared with the same table, so they can be compared one by one.
  rw [each item member reached]
  exact registration.declare_rephrases reached type item

/-- A variable that is declared twice, with separators in a value that does not fit. -/
theorem enterLine_together_twice :
    let registration : Registration := ⟨true, 7⟩
    let together := registration.enterLine {} "int a = \"x;,\", a, b = a;".toList
    let apart := SymbolTable.runAll {} registration.enterLine
      (["int a = \"x;,\";", "int a;", "int b = a;"].map String.toList)
    together.2 = [.badInitializerOf "a".toList .int, .alreadyDeclared "a".toList] ∧
      together.1 = apart.1 ∧
      List.Forall₂ Diagnostic.Rephrases (together.2.map fun finding => finding.onLine 7)
        (apart.2.map fun finding => finding.onLine 7) := by
  -- The first value does not fit, and the second declaration of the name is reported in both.
  refine ⟨by decide +kernel, ?_⟩
  exact @enterLine_together ⟨true, 7⟩ {} ⟨.int, [⟨"a".toList, some "\"x;,\"".toList⟩,
    ⟨"a".toList, none⟩, ⟨"b".toList, some "a".toList⟩]⟩ (by decide) (by decide) (by decide)

end Registration

end SourceLint
