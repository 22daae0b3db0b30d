import Mathlib.Data.List.Forall2
import SourceLint.Proofs.Table

/-!
Tables with the same variables, of which one knows more values than the other.

A rule that reports a variable without a value has less to say about the table that knows more.
-/

namespace SourceLint

/-- A variable that has a value wherever the same variable of another table has one. -/
structure Symbol.Behind (symbol other : Symbol) : Prop where
  name : other.name = symbol.name
  type : other.type = symbol.type
  initialized : symbol.initialized = true → other.initialized = true

/-- A variable is not behind itself. -/
theorem Symbol.Behind.refl (symbol : Symbol) : symbol.Behind symbol :=
  ⟨rfl, rfl, id⟩

/-- A variable with the same name is found in both scopes or in neither. -/
theorem Scope.lookup_behind {scope other : Scope} (same : List.Forall₂ Symbol.Behind scope other)
    (name : Text) : Option.Rel Symbol.Behind (scope.lookup name) (other.lookup name) := by
  -- The scopes hold the same names in the same order.
  induction same with
  | nil => exact .none
  | @cons symbol variant scope other here others ih =>
    rw [Scope.lookup, Scope.lookup, List.find?_cons, List.find?_cons, here.name]
    split
    · exact .some here
    · exact ih

/-- A name is taken in both scopes or in neither. -/
theorem Scope.isSome_lookup_behind {scope other : Scope}
    (same : List.Forall₂ Symbol.Behind scope other) (name : Text) :
    (scope.lookup name).isSome = (other.lookup name).isSome := by
  -- What is found in both scopes is related, so there is something in both or in neither.
  have found := Scope.lookup_behind same name
  generalize scope.lookup name = left at found
  generalize other.lookup name = right at found
  cases found <;> rfl

/-- Marking a name that a scope does not hold changes nothing. -/
theorem Scope.markInitialized_of_lookup {scope : Scope} {name : Text}
    (absent : scope.lookup name = none) : scope.markInitialized name = scope := by
  -- No variable of the scope has the name.
  rw [lookup, List.find?_eq_none] at absent
  calc scope.markInitialized name
      = scope.map id := List.map_congr_left fun symbol member => if_neg (absent symbol member)
    _ = scope := List.map_id _

/-- Giving a value in both scopes keeps them in step. -/
theorem Scope.markInitialized_behind {scope other : Scope}
    (same : List.Forall₂ Symbol.Behind scope other) (name : Text) :
    List.Forall₂ Symbol.Behind (scope.markInitialized name) (other.markInitialized name) := by
  -- Place by place the variable has the name in both scopes or in neither.
  induction same with
  | nil => exact .nil
  | @cons symbol variant scope other here others ih =>
    refine .cons ?_ ih
    simp only [here.name]
    -- The names are the same, so the same variable gets the value.
    split
    · exact ⟨rfl, here.type, fun _ => rfl⟩
    · exact here

/-- Giving a value in the scope that knows more keeps it ahead. -/
theorem Scope.markInitialized_ahead {scope other : Scope}
    (same : List.Forall₂ Symbol.Behind scope other) (name : Text) :
    List.Forall₂ Symbol.Behind scope (other.markInitialized name) := by
  -- By induction on the variables of both scopes.
  induction same with
  | nil => exact .nil
  | @cons symbol variant scope other here others ih =>
    refine .cons ?_ ih
    simp only
    -- A variable that has its value is ahead of any other one.
    split
    · exact ⟨here.name, here.type, fun _ => rfl⟩
    · exact here

namespace SymbolTable

/-- A table with variables in its current scope only. -/
def Flat (table : SymbolTable) : Prop :=
  ∀ scope ∈ table.enclosing, scope = []

/-- The variables of a flat table are those of its current scope. -/
theorem Flat.lookup {table : SymbolTable} (flat : table.Flat) (name : Text) :
    table.lookup name = table.lookupCurrent name := by
  -- The enclosing scopes are empty.
  have outer : (table.enclosing.findSome? fun scope => scope.lookup name) = none := by
    rw [List.findSome?_eq_none_iff]
    intro scope member
    rw [flat scope member]
    rfl
  rw [SymbolTable.lookup, stack, List.findSome?_cons, outer, lookupCurrent]
  split <;> simp_all

/-- A value is given to a variable of the current scope of a flat table, if at all. -/
theorem Flat.markInitialized {table : SymbolTable} (flat : table.Flat) (name : Text) :
    table.markInitialized name = { table with current := table.current.markInitialized name } := by
  -- The other scopes are empty, so nothing in them can be marked.
  have outer : ∀ scopes : List Scope, (∀ scope ∈ scopes, scope = []) →
      markIn name scopes = scopes := by
    intro scopes empty
    induction scopes with
    | nil => rfl
    | cons scope scopes ih =>
      obtain rfl := empty scope (by simp)
      rw [markIn, ih fun other member => empty other (by simp [member])]
      rfl
  rw [SymbolTable.markInitialized]
  split
  · rfl
  · -- A name that the scope does not hold marks nothing there either.
    rename_i absent
    rw [lookupCurrent, Option.not_isSome_iff_eq_none] at absent
    rw [outer table.enclosing flat, Scope.markInitialized_of_lookup absent]

/-- A table that knows a value wherever another one does, both flat and with numbered lines. -/
structure Behind (table other : SymbolTable) : Prop where
  flat : table.Flat
  otherFlat : other.Flat
  variables_ : List.Forall₂ Symbol.Behind table.current other.current
  lines : ∀ symbol ∈ table.current, 0 < symbol.line

variable {table other : SymbolTable}

namespace Behind

/-- A name stands for the same variable in both tables. -/
theorem lookup (same : table.Behind other) (name : Text) :
    Option.Rel Symbol.Behind (table.lookup name) (other.lookup name) := by
  -- Everything that is declared is in the current scope.
  rw [same.flat.lookup, same.otherFlat.lookup]
  exact Scope.lookup_behind same.variables_ name

/-- A name is taken in both current scopes or in neither. -/
theorem isSome_lookupCurrent (same : table.Behind other) (name : Text) :
    (table.lookupCurrent name).isSome = (other.lookupCurrent name).isSome :=
  Scope.isSome_lookup_behind same.variables_ name

/-- The same variable is declared in both tables. -/
theorem declare (same : table.Behind other) {symbol : Symbol} (numbered : 0 < symbol.line) :
    (table.declare symbol).Behind (other.declare symbol) := by
  rw [SymbolTable.declare, SymbolTable.declare, same.isSome_lookupCurrent]
  -- The variable is known to both tables or new to both.
  split
  · exact same
  · refine ⟨same.flat, same.otherFlat, ?_, ?_⟩
    · exact List.rel_append same.variables_ (.cons (.refl symbol) .nil)
    · intro entry member
      rcases List.mem_append.mp member with old | new
      · exact same.lines entry old
      · rw [List.mem_singleton.mp new]
        exact numbered

/-- A value is given in both tables. -/
theorem markInitialized (same : table.Behind other) (name : Text) :
    (table.markInitialized name).Behind (other.markInitialized name) := by
  rw [same.flat.markInitialized, same.otherFlat.markInitialized]
  refine ⟨same.flat, same.otherFlat, Scope.markInitialized_behind same.variables_ name, ?_⟩
  -- A variable keeps its line when it gets a value.
  intro entry member
  obtain ⟨symbol, old, rfl⟩ := List.mem_map.mp member
  have numbered := same.lines symbol old
  split
  · exact numbered
  · exact numbered

/-- A value is given in the table that knows more. -/
theorem markOther (same : table.Behind other) (name : Text) :
    table.Behind (other.markInitialized name) := by
  -- The value is written to the current scope alone.
  rw [same.otherFlat.markInitialized]
  exact ⟨same.flat, same.otherFlat, Scope.markInitialized_ahead same.variables_ name, same.lines⟩

end Behind

/--
A relation between tables with the same names, of which the second knows at least as many values.

It is kept by whatever a line does to both of them.
-/
structure Following (related : SymbolTable → SymbolTable → Prop) : Prop where
  lookup {table other : SymbolTable} (same : related table other) (name : Text) :
    Option.Rel Symbol.Behind (table.lookup name) (other.lookup name)
  isSome_lookupCurrent {table other : SymbolTable} (same : related table other) (name : Text) :
    (table.lookupCurrent name).isSome = (other.lookupCurrent name).isSome
  declare {table other : SymbolTable} (same : related table other) {symbol : Symbol}
    (numbered : 0 < symbol.line) : related (table.declare symbol) (other.declare symbol)
  markInitialized {table other : SymbolTable} (same : related table other) (name : Text) :
    related (table.markInitialized name) (other.markInitialized name)

/-- A name stands for a variable of the same type in both tables. -/
theorem Following.typeOf? {related : SymbolTable → SymbolTable → Prop} (follows : Following related)
    (same : related table other) (name : Text) : table.typeOf? name = other.typeOf? name := by
  have found := follows.lookup same name
  rw [SymbolTable.typeOf?, SymbolTable.typeOf?]
  generalize table.lookup name = left at found
  generalize other.lookup name = right at found
  -- Either name stands for nothing, or both variables have one type.
  cases found with
  | none => rfl
  | some related => exact congrArg some related.type.symm

/-- Flat tables stay in step. -/
theorem following_behind : Following Behind :=
  ⟨Behind.lookup, Behind.isSome_lookupCurrent, Behind.declare, Behind.markInitialized⟩

end SymbolTable

end SourceLint
