import Mathlib.Data.List.Forall2
import SourceLint.Proofs.Rescan.Table

/-!
Tables that only grow.

A step leaves every variable where it is. It may give a value to variables with certain names, and
it may put new variables behind those of the current scope.
-/

namespace SourceLint

/-- Lists that are related entry by entry through a third one are related. -/
theorem forall₂_trans {α : Type} {related : α → α → Prop}
    (step : ∀ {first second third : α}, related first second → related second third →
      related first third) {first second third : List α}
    (left : List.Forall₂ related first second) (right : List.Forall₂ related second third) :
    List.Forall₂ related first third := by
  -- The two relations are followed entry by entry.
  induction left generalizing third with
  | nil => exact right
  | cons here _ ih =>
    cases right with
    | cons next later => exact .cons (step here next) (ih later)

/-- An entry of a list is related to an entry of a list that it is related to. -/
theorem exists_of_forall₂ {α β : Type} {related : α → β → Prop} {first : List α} {second : List β}
    (same : List.Forall₂ related first second) {entry : α} (member : entry ∈ first) :
    ∃ other ∈ second, related entry other := by
  -- The partner stands at the same place of the other list.
  induction same with
  | nil => cases member
  | @cons _ partner _ _ here _ ih =>
    rcases List.mem_cons.mp member with rfl | behind
    · exact ⟨partner, by simp, here⟩
    · obtain ⟨other, inside, found⟩ := ih behind
      exact ⟨other, by simp [inside], found⟩

/-- The same variable after a step that may give values to variables with the given names. -/
structure Symbol.Kept (marks : Text → Prop) (symbol other : Symbol) : Prop
    extends symbol.Behind other where
  line : other.line = symbol.line
  /-- A value that is new has been given to one of the names. -/
  marked : symbol.initialized = false → other.initialized = true → marks symbol.name

namespace Symbol.Kept

variable {marks wider : Text → Prop} {symbol other last : Symbol}

/-- A step may leave a variable as it is. -/
theorem refl (symbol : Symbol) : symbol.Kept marks symbol := by
  refine ⟨.refl symbol, rfl, fun unset set => ?_⟩
  -- Without a value before there is none after.
  rw [unset] at set
  cases set

/-- Two steps keep what each of them keeps. -/
theorem trans (first : symbol.Kept marks other) (second : other.Kept marks last) :
    symbol.Kept marks last := by
  -- Name, type, line and value are passed on by both steps.
  refine ⟨⟨?_, ?_, ?_⟩, ?_, ?_⟩
  · rw [second.name, first.name]
  · rw [second.type, first.type]
  · intro set
    exact second.initialized (first.initialized set)
  · rw [second.line, first.line]
  · intro unset set
    -- The value was given by the first step, or it was still missing before the second one.
    cases between : other.initialized with
    | true => exact first.marked unset between
    | false => exact first.name ▸ second.marked between set

/-- More names may be marked than are. -/
theorem mono (more : ∀ name, marks name → wider name) (kept : symbol.Kept marks other) :
    symbol.Kept wider other :=
  ⟨kept.toBehind, kept.line, fun unset set => more _ (kept.marked unset set)⟩

end Symbol.Kept

/-- A name is found in a scope when one of its variables has it. -/
theorem Scope.isSome_lookup_iff {scope : Scope} {name : Text} :
    (scope.lookup name).isSome = true ↔ name ∈ scope.map Symbol.name := by
  -- A search by name succeeds if some variable has the name.
  unfold Scope.lookup
  rw [List.find?_isSome, List.mem_map]
  simp only [beq_iff_eq]

/-- A variable whose name is free keeps the names of a scope distinct. -/
theorem Scope.nodup_concat {scope : Scope} (distinct : (scope.map Symbol.name).Nodup)
    {symbol : Symbol} (unknown : scope.lookup symbol.name = none) :
    ((scope ++ [symbol]).map Symbol.name).Nodup := by
  -- No variable of the scope has the name that is added.
  have absent : symbol.name ∉ scope.map Symbol.name := by
    rw [← isSome_lookup_iff, unknown]
    simp
  rw [List.map_append, List.map_singleton, List.nodup_append]
  -- The new name is none of those that are there.
  refine ⟨distinct, by simp, ?_⟩
  intro name listed other single equal
  rw [List.mem_singleton.mp single] at equal
  exact absent (equal ▸ listed)

/-- The same scope after a step that may give values to variables with the given names. -/
abbrev Scope.Kept (marks : Text → Prop) (scope other : Scope) : Prop :=
  List.Forall₂ (Symbol.Kept marks) scope other

namespace Scope.Kept

variable {marks wider : Text → Prop} {scope other last : Scope}

/-- A step may leave a scope as it is. -/
theorem refl (scope : Scope) : Scope.Kept marks scope scope :=
  List.forall₂_same.mpr fun symbol _ => .refl symbol

/-- Two steps keep the variables of a scope in their places. -/
theorem trans (first : Scope.Kept marks scope other) (second : Scope.Kept marks other last) :
    Scope.Kept marks scope last :=
  forall₂_trans .trans first second

/-- More names may be marked than are. -/
theorem mono (more : ∀ name, marks name → wider name) (kept : Scope.Kept marks scope other) :
    Scope.Kept wider scope other :=
  kept.imp fun _ _ same => same.mono more

/-- Every variable after a step was there before it. -/
theorem exists_of_mem (kept : Scope.Kept marks scope other) {symbol : Symbol}
    (member : symbol ∈ other) : ∃ old ∈ scope, old.Kept marks symbol :=
  -- The scopes are gone through the other way around.
  exists_of_forall₂ kept.flip member

/-- Every variable before a step is there after it. -/
theorem exists_kept (kept : Scope.Kept marks scope other) {symbol : Symbol}
    (member : symbol ∈ scope) : ∃ later ∈ other, symbol.Kept marks later :=
  exists_of_forall₂ kept member

/-- A step keeps the names of a scope in their order. -/
theorem map_name (kept : Scope.Kept marks scope other) :
    other.map Symbol.name = scope.map Symbol.name := by
  -- No variable changes its name.
  induction kept with
  | nil => rfl
  | cons here _ ih => rw [List.map_cons, List.map_cons, here.name, ih]

/-- A step keeps the lines of a scope in their order. -/
theorem map_line (kept : Scope.Kept marks scope other) :
    other.map Symbol.line = scope.map Symbol.line := by
  -- No variable changes its line.
  induction kept with
  | nil => rfl
  | cons here _ ih => rw [List.map_cons, List.map_cons, here.line, ih]

/-- What a step makes of two parts of a scope are two parts as well. -/
theorem exists_append {first second : Scope} (kept : Scope.Kept marks (first ++ second) other) :
    ∃ left right, other = left ++ right ∧ Scope.Kept marks first left ∧
      Scope.Kept marks second right := by
  -- The result is cut where the scope is.
  refine ⟨other.take first.length, other.drop first.length, by simp, ?_, ?_⟩
  · simpa using List.forall₂_take first.length kept
  · simpa using List.forall₂_drop first.length kept

/-- Giving a value to a name keeps a scope otherwise. -/
theorem markInitialized (scope : Scope) {name : Text} (allowed : marks name) :
    Scope.Kept marks scope (scope.markInitialized name) := by
  unfold Scope.markInitialized
  -- By induction on the scope, one variable at a time.
  induction scope with
  | nil => exact .nil
  | cons symbol others ih =>
    rw [List.map_cons]
    refine .cons ?_ ih
    -- Only a variable with that name changes, and only its value.
    split
    · rename_i same
      refine ⟨⟨rfl, rfl, fun _ => rfl⟩, rfl, fun _ _ => ?_⟩
      rw [beq_iff_eq.mp same]
      exact allowed
    · exact .refl symbol

end Scope.Kept

/--
A table after steps that give values to certain names and enter certain variables.

The scopes and their variables stay in place, and what is new stands at the end of the current
scope. A variable that was entered may have been given a value since.
-/
structure SymbolTable.Grows (marks : Text → Prop) (adds : Symbol → Prop)
    (before after : SymbolTable) : Prop where
  enclosing : List.Forall₂ (Scope.Kept marks) before.enclosing after.enclosing
  current : ∃ kept added, after.current = kept ++ added ∧ Scope.Kept marks before.current kept ∧
    ∀ symbol ∈ added, ∃ entered, adds entered ∧ entered.Kept marks symbol
  /-- No name is entered a second time. -/
  distinct : (before.current.map Symbol.name).Nodup → (after.current.map Symbol.name).Nodup

namespace SymbolTable.Grows

variable {marks wider : Text → Prop} {adds more : Symbol → Prop}
variable {before between after : SymbolTable}

/-- A table may stay as it is. -/
theorem refl (table : SymbolTable) : table.Grows marks adds table :=
  ⟨List.forall₂_same.mpr fun scope _ => .refl scope,
    -- Nothing is added, and the names stay as distinct as they were.
    ⟨table.current, [], by simp, .refl _, by simp⟩, id⟩

/-- Two steps let a table grow like one. -/
theorem trans (first : before.Grows marks adds between) (second : between.Grows marks adds after) :
    before.Grows marks adds after := by
  refine ⟨forall₂_trans .trans first.enclosing second.enclosing, ?_,
    fun distinct => second.distinct (first.distinct distinct)⟩
  obtain ⟨kept, added, parts, same, entered⟩ := first.current
  obtain ⟨still, later, whole, moved, fresh⟩ := second.current
  -- The second step keeps what the first one kept, and what the first one entered.
  rw [parts] at moved
  obtain ⟨left, right, rfl, old, new⟩ := Scope.Kept.exists_append moved
  refine ⟨left, right ++ later, by rw [whole, List.append_assoc], same.trans old, ?_⟩
  intro symbol member
  -- What the first step has entered may have got its value in the second one.
  rcases List.mem_append.mp member with here | there
  · obtain ⟨origin, listed, keeps⟩ := new.exists_of_mem here
    obtain ⟨source, allowed, started⟩ := entered origin listed
    exact ⟨source, allowed, started.trans keeps⟩
  · exact fresh symbol there

/-- More may be marked and entered than is. -/
theorem mono (marked : ∀ name, marks name → wider name)
    (added : ∀ symbol, adds symbol → more symbol)
    (grows : before.Grows marks adds after) : before.Grows wider more after := by
  -- The growth is the same, and it is only allowed more.
  obtain ⟨kept, fresh, parts, same, entered⟩ := grows.current
  refine ⟨grows.enclosing.imp fun _ _ scope => scope.mono marked,
    ⟨kept, fresh, parts, same.mono marked, ?_⟩, grows.distinct⟩
  intro symbol member
  obtain ⟨source, allowed, started⟩ := entered symbol member
  exact ⟨source, added source allowed, started.mono marked⟩

/-- A declaration puts one variable at the end of the current scope, if its name is new there. -/
theorem declare (table : SymbolTable) {symbol : Symbol} (allowed : adds symbol) :
    table.Grows marks adds (table.declare symbol) := by
  unfold SymbolTable.declare
  -- A name that the scope has already changes nothing.
  split
  · exact .refl table
  · rename_i unknown
    -- The scopes around the current one stay, and so do the variables of the current one.
    refine ⟨List.forall₂_same.mpr fun scope _ => .refl scope, ?_, fun distinct => ?_⟩
    · refine ⟨table.current, [symbol], rfl, .refl _, fun other member => ?_⟩
      rw [List.mem_singleton.mp member]
      exact ⟨symbol, allowed, .refl symbol⟩
    · exact Scope.nodup_concat distinct (Option.not_isSome_iff_eq_none.mp unknown)

/-- The scopes around the current one keep their variables when a name gets a value. -/
theorem markIn {name : Text} (allowed : marks name) (scopes : List Scope) :
    List.Forall₂ (Scope.Kept marks) scopes (SymbolTable.markIn name scopes) := by
  -- By induction on the scopes, from the innermost one.
  induction scopes with
  | nil => exact .nil
  | cons scope outers ih =>
    unfold SymbolTable.markIn
    -- The first scope with the name is the only one that changes.
    split
    · exact .cons (.markInitialized scope allowed)
        (List.forall₂_same.mpr fun outer _ => .refl outer)
    · exact .cons (.refl scope) ih

/-- A table grows when a name gets a value. -/
theorem markInitialized (table : SymbolTable) {name : Text} (allowed : marks name) :
    table.Grows marks adds (table.markInitialized name) := by
  unfold SymbolTable.markInitialized
  split
  · -- The current scope has the name, so that the enclosing ones stay as they are.
    have kept := Scope.Kept.markInitialized table.current allowed
    refine ⟨List.forall₂_same.mpr fun scope _ => .refl scope,
      ⟨_, [], by simp, kept, by simp⟩, fun distinct => ?_⟩
    rw [kept.map_name]
    exact distinct
  · -- Otherwise a scope further out may have it.
    exact ⟨markIn allowed table.enclosing, ⟨table.current, [], by simp, .refl _, by simp⟩, id⟩

/-- Steps that let a table grow one by one let it grow together. -/
theorem runAll {α β : Type} {step : SymbolTable → α → SymbolTable × List β} {entries : List α}
    (each : ∀ (table : SymbolTable), ∀ entry ∈ entries, table.Grows marks adds (step table entry).1)
    (table : SymbolTable) : table.Grows marks adds (table.runAll step entries).1 := by
  -- By induction on the steps, each of which starts where the one before has ended.
  induction entries generalizing table with
  | nil => exact .refl table
  | cons first others ih =>
    have here := each table first (by simp)
    exact here.trans (ih (fun table entry member => each table entry (by simp [member])) _)

/-- A table that grows keeps its names. -/
theorem mem_names {name : Text} (grows : before.Grows marks adds after)
    (known : name ∈ before.current.map Symbol.name) : name ∈ after.current.map Symbol.name := by
  -- What is kept has the old names, and what is added comes behind.
  obtain ⟨kept, added, parts, same, -⟩ := grows.current
  rw [parts, List.map_append, same.map_name]
  exact List.mem_append_left _ known

/-- A table that grows has no names in its current scope but old ones and those that are added. -/
theorem mem_names_or_adds {name : Text} (grows : before.Grows marks adds after)
    (known : name ∈ after.current.map Symbol.name) :
    name ∈ before.current.map Symbol.name ∨ ∃ symbol, adds symbol ∧ symbol.name = name := by
  obtain ⟨kept, added, parts, same, entered⟩ := grows.current
  rw [parts, List.map_append, same.map_name, List.mem_append] at known
  -- A name that is not an old one comes with a variable that was added.
  refine known.imp_right fun new => ?_
  obtain ⟨symbol, member, named⟩ := List.mem_map.mp new
  obtain ⟨source, allowed, stays⟩ := entered symbol member
  exact ⟨source, allowed, stays.name.symm.trans named⟩

end SymbolTable.Grows

end SourceLint
