import SourceLint.Proofs.Lookahead.Rule
import SourceLint.Proofs.Sections

/-!
Tables whose scopes are opened and closed.

What happens between the opening of a scope and its closing leaves the scopes around it in place,
with their variables. A variable of theirs may have got its value meanwhile, if its name was given
one while no scope further in held it.
-/

namespace SourceLint

/-- The same variable, with a value if it had one or is given one. -/
structure Symbol.Settles (given : Prop) (symbol other : Symbol) : Prop where
  name : other.name = symbol.name
  type : other.type = symbol.type
  line : other.line = symbol.line
  initialized : other.initialized = true ↔ symbol.initialized = true ∨ given

/-- The same variables in the same order, where those with certain names are given a value. -/
def Scope.Settles (given : Text → Prop) (scope other : Scope) : Prop :=
  List.Forall₂ (fun symbol other => symbol.Settles (given symbol.name) other) scope other

namespace Scope.Settles

variable {given more : Text → Prop} {scope other last : Scope}

/-- A scope is the same where no name is given a value. -/
theorem refl (none : ∀ name, ¬ given name) (scope : Scope) : scope.Settles given scope :=
  List.forall₂_same.mpr fun symbol _ => ⟨rfl, rfl, rfl, by simp [none]⟩

/-- Two steps give values to the names of either. -/
theorem trans (first : scope.Settles given other) (second : other.Settles more last) :
    scope.Settles (fun name => given name ∨ more name) last := by
  -- The two steps are followed variable by variable.
  induction first generalizing last with
  | nil => cases second; exact .nil
  | @cons symbol between _ _ here _ ih =>
    -- Nothing but the values may change in either step.
    cases second with
    | @cons _ final _ _ next later =>
      refine .cons ⟨?_, ?_, ?_, ?_⟩ (ih later)
      · rw [next.name, here.name]
      · rw [next.type, here.type]
      · rw [next.line, here.line]
      · rw [next.initialized, here.initialized, here.name, or_assoc]

/-- It does not matter how the names are told that are given a value. -/
theorem congr (same : ∀ name, given name ↔ more name) (settles : scope.Settles given other) :
    scope.Settles more other :=
  -- Only the condition for a value is put in other words.
  settles.imp fun symbol _ here =>
    ⟨here.name, here.type, here.line, by rw [here.initialized, same]⟩

/-- Marking a name gives a value to the variable that has it. -/
theorem markInitialized (scope : Scope) (name : Text) :
    scope.Settles (fun other => other = name) (scope.markInitialized name) := by
  unfold Scope.markInitialized
  -- By induction on the variables of the scope.
  induction scope with
  | nil => exact .nil
  | cons symbol others ih =>
    rw [List.map_cons]
    refine .cons ?_ ih
    -- A variable with another name keeps the value it has or lacks.
    split
    · rename_i same
      exact ⟨rfl, rfl, rfl, by simpa using Or.inr (beq_iff_eq.mp same)⟩
    · rename_i different
      rw [beq_iff_eq] at different
      exact ⟨rfl, rfl, rfl, by simp [different]⟩

end Scope.Settles

namespace SymbolTable

/-- What can be done to a table. -/
inductive Step where
  /-- A scope is opened. -/
  | enter
  /-- The current scope is closed. -/
  | exit
  | declare (symbol : Symbol)
  | mark (name : Text)
deriving DecidableEq

/-- The table after a step. -/
def apply (table : SymbolTable) : Step → SymbolTable
  | .enter => table.enter
  | .exit => table.exit
  | .declare symbol => table.declare symbol
  | .mark name => table.markInitialized name

/-- The table after several steps. -/
def run (table : SymbolTable) (steps : List Step) : SymbolTable :=
  steps.foldl apply table

/-- No scope further in than the one at an index holds a name. The global scope has index zero. -/
def Uncovers (table : SymbolTable) (index : Nat) (name : Text) : Prop :=
  ∀ inner ∈ table.scopes.drop (index + 1), inner.lookup name = none

/-- A name is marked in the course of some steps while no scope further in holds it. -/
def Reaches (table : SymbolTable) (index : Nat) (steps : List Step) (name : Text) : Prop :=
  ∃ front back, steps = front ++ .mark name :: back ∧ (table.run front).Uncovers index name

/-- There is one more scope than the level says. -/
theorem length_scopes (table : SymbolTable) : table.scopes.length = table.level + 1 := by
  rw [scopes, List.length_reverse, stack, List.length_cons, level]

/-- The global scope is at the bottom. -/
theorem head?_scopes (table : SymbolTable) : table.scopes.head? = some table.globals := by
  -- The scopes are listed from the bottom up, and the stack from the top down.
  rw [scopes, List.head?_reverse, stack, globals]
  cases table.enclosing <;> rfl

/-- A new scope is put on top of the others. -/
theorem scopes_enter (table : SymbolTable) : table.enter.scopes = table.scopes ++ [[]] := by
  simp [scopes, stack, enter]

/-- The scope on top is taken away, unless it is the only one. -/
theorem scopes_exit (table : SymbolTable) :
    table.exit.scopes = if table.level = 0 then table.scopes else table.scopes.dropLast := by
  -- Without a scope around it the current one stays.
  obtain ⟨current, enclosing⟩ := table
  cases enclosing <;> simp [scopes, stack, exit, level]

/-- Closing a scope goes down one level, as long as there is one. -/
theorem level_exit (table : SymbolTable) : table.exit.level = table.level - 1 := by
  obtain ⟨current, enclosing⟩ := table
  -- The global scope stays open.
  cases enclosing <;> rfl

/-- A declaration changes the scope on top only. -/
theorem scopes_declare (table : SymbolTable) (symbol : Symbol) :
    ∃ top, (table.declare symbol).scopes = table.scopes.dropLast ++ [top] := by
  -- A name that is taken leaves even that scope as it is.
  unfold declare
  split
  · exact ⟨table.current, by simp [scopes, stack]⟩
  · exact ⟨table.current ++ [symbol], by simp [scopes, stack]⟩

/-- Marking a name adds no scope and takes none away. -/
theorem length_markIn (name : Text) (scopes : List Scope) :
    (markIn name scopes).length = scopes.length := by
  -- By induction on the scopes.
  induction scopes with
  | nil => rfl
  | cons scope outers ih =>
    rw [markIn]
    split
    · rfl
    · rw [List.length_cons, ih, List.length_cons]

/-- The scope at an index has as many scopes around it, and those further in are above it. -/
theorem exists_of_getElem?_scopes {table : SymbolTable} {index : Nat} {scope : Scope}
    (there : table.scopes[index]? = some scope) :
    ∃ inner outers, table.stack = inner ++ scope :: outers ∧ outers.length = index ∧
      table.scopes.drop (index + 1) = inner.reverse := by
  obtain ⟨inside, rfl⟩ := List.getElem?_eq_some_iff.mp there
  -- The stack lists the scopes the other way around.
  refine ⟨(table.scopes.drop (index + 1)).reverse, (table.scopes.take index).reverse, ?_, ?_, ?_⟩
  · have whole : table.scopes.take index ++ table.scopes[index] :: table.scopes.drop (index + 1) =
        table.scopes := by
      rw [List.getElem_cons_drop, List.take_append_drop]
    calc table.stack
        = table.scopes.reverse := by rw [scopes, List.reverse_reverse]
      _ = (table.scopes.take index ++ table.scopes[index] ::
            table.scopes.drop (index + 1)).reverse := by rw [whole]
      _ = _ := by simp
  · rw [List.length_reverse, List.length_take, Nat.min_eq_left (Nat.le_of_lt inside)]
  · rw [List.reverse_reverse]

/-- Marking goes past scopes that do not hold the name. -/
theorem markIn_append_of_free {name : Text} {inner : List Scope}
    (free : ∀ scope ∈ inner, scope.lookup name = none) (outers : List Scope) :
    markIn name (inner ++ outers) = inner ++ markIn name outers := by
  -- By induction on the scopes that are passed.
  induction inner with
  | nil => rfl
  | cons scope inner ih =>
    rw [List.cons_append, markIn, free scope (by simp), Option.isSome_none, if_neg (by simp),
      ih fun other member => free other (by simp [member]), List.cons_append]

/-- Marking stops at the first scope that holds the name. -/
theorem markIn_append_of_held {name : Text} {inner : List Scope}
    (held : ¬ ∀ scope ∈ inner, scope.lookup name = none) (outers : List Scope) :
    markIn name (inner ++ outers) = markIn name inner ++ outers := by
  -- By induction on the scopes, up to the first one with the name.
  induction inner with
  | nil => simp at held
  | cons scope inner ih =>
    rw [List.cons_append, markIn, markIn]
    -- If this scope does not hold the name, one further on does.
    split
    · rfl
    · rename_i absent
      rw [ih fun free => held ?_, List.cons_append]
      simpa [Option.not_isSome_iff_eq_none.mp absent] using free

/-- Marking a name that stands for nothing changes nothing. -/
theorem markInitialized_of_lookup {table : SymbolTable} {name : Text}
    (absent : table.lookup name = none) : table.markInitialized name = table := by
  have free : ∀ scope ∈ table.stack, scope.lookup name = none :=
    List.findSome?_eq_none_iff.mp absent
  -- The search for the name goes past all scopes.
  have same : (table.markInitialized name).stack = table.stack := by
    have passed := markIn_append_of_free free []
    rw [List.append_nil, markIn, List.append_nil] at passed
    rw [stack_markInitialized, passed]
  -- A table is its stack.
  obtain ⟨current, enclosing⟩ := table
  rw [stack, stack, List.cons.injEq] at same
  rw [SymbolTable.mk.injEq]
  exact same

/-- The first of some scopes is marked if it holds the name, and stays what it is otherwise. -/
theorem exists_markIn_cons (name : Text) (scope : Scope) (outers : List Scope) :
    ∃ others, markIn name (scope :: outers) = scope.markInitialized name :: others ∧
      others.length = outers.length := by
  rw [markIn]
  -- Marking goes on to the outer scopes only if this one does not have the name.
  split
  · exact ⟨outers, rfl, rfl⟩
  · rename_i absent
    rw [Scope.markInitialized_of_lookup (Option.not_isSome_iff_eq_none.mp absent)]
    exact ⟨_, rfl, length_markIn name outers⟩

/-- A name is marked in a scope if no scope further in keeps it from there. -/
theorem settles_markInitialized {table : SymbolTable} {index : Nat} {scope : Scope}
    (there : table.scopes[index]? = some scope) (name : Text) :
    ∃ other, (table.markInitialized name).scopes[index]? = some other ∧
      scope.Settles (fun called => called = name ∧ table.Uncovers index name) other := by
  -- The scopes further in are those above the given one.
  obtain ⟨inner, outers, split, rfl, above⟩ := exists_of_getElem?_scopes there
  have uncovers : table.Uncovers outers.length name ↔
      ∀ other ∈ inner, other.lookup name = none := by
    rw [Uncovers, above]
    simp only [List.mem_reverse]
  -- The given scope stays at its index, whatever is done to those around it.
  have found : ∀ (above : List Scope) (here : Scope) (around : List Scope),
      around.length = outers.length →
        (above ++ here :: around).reverse[outers.length]? = some here := by
    rintro above here around size
    simp [← size]
  -- Marking stops at the innermost scope that has the name, which may be further in.
  rw [scopes, stack_markInitialized, split]
  by_cases free : ∀ other ∈ inner, other.lookup name = none
  · obtain ⟨others, marked, size⟩ := exists_markIn_cons name scope outers
    rw [markIn_append_of_free free, marked]
    refine ⟨_, found inner _ others size, ?_⟩
    exact (Scope.Settles.markInitialized scope name).congr fun called =>
      (and_iff_left (uncovers.mpr free)).symm
  · rw [markIn_append_of_held free]
    exact ⟨scope, found _ scope outers rfl, .refl (by simp [uncovers, free]) scope⟩

/-- A scope with another one further in changes by marks that reach it, and by nothing else. -/
theorem settles_apply {table : SymbolTable} {index : Nat} {scope : Scope}
    (there : table.scopes[index]? = some scope) (inner : index < table.level) (step : Step) :
    ∃ other, (table.apply step).scopes[index]? = some other ∧
      scope.Settles (fun name => step = .mark name ∧ table.Uncovers index name) other := by
  have size := length_scopes table
  -- Below the scope on top nothing moves.
  have below : table.scopes.dropLast[index]? = some scope := by
    rw [List.getElem?_dropLast, if_pos (by omega), there]
  -- Each step says what it does to the scopes.
  cases step with
  | enter =>
    refine ⟨scope, ?_, .refl (by simp) scope⟩
    rw [apply, scopes_enter, List.getElem?_append_left (by omega), there]
  | exit =>
    refine ⟨scope, ?_, .refl (by simp) scope⟩
    rw [apply, scopes_exit, if_neg (by omega), below]
  | declare symbol =>
    obtain ⟨top, declared⟩ := scopes_declare table symbol
    refine ⟨scope, ?_, .refl (by simp) scope⟩
    rw [apply, declared, List.getElem?_append_left (by rw [List.length_dropLast]; omega), below]
  | mark name =>
    obtain ⟨other, here, settles⟩ := settles_markInitialized there name
    refine ⟨other, here, settles.congr fun called => ?_⟩
    rw [Step.mark.injEq, eq_comm]
    exact and_congr_right fun same => by rw [same]

/-- A name reaches a scope by one of several steps when it does so before the last one or by it. -/
theorem reaches_concat {table : SymbolTable} {index : Nat} {steps : List Step} {last : Step}
    {name : Text} : table.Reaches index (steps ++ [last]) name ↔
      table.Reaches index steps name ∨
        last = .mark name ∧ (table.run steps).Uncovers index name := by
  constructor
  · rintro ⟨front, back, split, free⟩
    -- The mark is the last step, or there is one behind it.
    rcases List.eq_nil_or_concat back with rfl | ⟨middle, final, rfl⟩
    · obtain ⟨rfl, same⟩ := List.append_inj' split rfl
      exact .inr ⟨List.singleton_inj.mp same, free⟩
    · rw [List.concat_eq_append, ← List.cons_append, ← List.append_assoc] at split
      exact .inl ⟨front, middle, (List.append_inj' split rfl).1, free⟩
  · -- Conversely the mark is one of the steps before, or it is the last one.
    rintro (⟨front, back, rfl, free⟩ | ⟨rfl, free⟩)
    · exact ⟨front, back ++ [last], by simp, free⟩
    · exact ⟨steps, [], rfl, free⟩

/-- As long as there are scopes further in, a scope changes by marks that reach it only. -/
theorem settles_run {table : SymbolTable} {index : Nat} {scope : Scope}
    (there : table.scopes[index]? = some scope) {steps : List Step}
    (inner : ∀ front, front <+: steps → index < (table.run front).level) :
    ∃ other, (table.run steps).scopes[index]? = some other ∧
      scope.Settles (table.Reaches index steps) other := by
  -- The last step changes what the steps before it have left of the scope.
  induction steps using List.reverseRecOn with
  | nil =>
    -- Without steps nothing is marked.
    refine ⟨scope, there, .refl ?_ scope⟩
    rintro name ⟨front, back, none, -⟩
    simp at none
  | append_singleton steps last ih =>
    obtain ⟨between, found, before⟩ := ih fun front start =>
      inner front (start.trans (List.prefix_append steps [last]))
    obtain ⟨other, here, after⟩ :=
      settles_apply found (inner steps (List.prefix_append steps [last])) last
    refine ⟨other, by rw [run, List.foldl_concat, ← run, here], (before.trans after).congr ?_⟩
    exact fun name => reaches_concat.symm

/-- The level goes up and down with the scopes that the steps open and close. -/
theorem level_run (table : SymbolTable) (steps : List Step) :
    (table.run steps).level = Sections.depth .enter .exit table.level steps := by
  rw [run, Sections.depth]
  -- By induction on the steps, one of which moves the level as the two bracketing steps say.
  induction steps generalizing table with
  | nil => rfl
  | cons first others ih =>
    -- Declarations and marks keep the number of scopes.
    have moved : (table.apply first).level = Sections.move .enter .exit table.level first := by
      cases first with
      | enter => rfl
      | exit => exact table.level_exit
      | declare symbol =>
        rw [apply, declare]
        split <;> rfl
      -- A mark goes over the scopes and keeps their number.
      | mark name =>
        rw [apply, SymbolTable.markInitialized]
        split
        · rfl
        · exact length_markIn name table.enclosing
    rw [List.foldl_cons, List.foldl_cons, ih, moved]

/-- No step makes two variables of a scope share a name. -/
theorem nodup_run {table : SymbolTable}
    (distinct : ∀ scope ∈ table.stack, (scope.map Symbol.name).Nodup) (steps : List Step) :
    ∀ scope ∈ (table.run steps).stack, (scope.map Symbol.name).Nodup := by
  rw [run]
  -- By induction on the steps.
  induction steps generalizing table with
  | nil => exact distinct
  | cons first others ih =>
    refine ih ?_
    -- Only a declaration adds a name, and it adds one that its scope does not have.
    cases first with
    | enter => exact List.forall_mem_cons.mpr ⟨List.nodup_nil, distinct⟩
    | exit =>
      obtain ⟨current, enclosing⟩ := table
      cases enclosing with
      | nil => exact distinct
      | cons outer outers => exact (List.forall_mem_cons.mp distinct).2
    | declare symbol =>
      obtain ⟨here, around⟩ := List.forall_mem_cons.mp distinct
      rw [apply, declare]
      split
      · exact distinct
      · rename_i unknown
        exact List.forall_mem_cons.mpr
          ⟨Scope.nodup_concat here (Option.not_isSome_iff_eq_none.mp unknown), around⟩
    -- A mark changes values only, so the names are those that were there.
    | mark name =>
      rw [apply, stack_markInitialized]
      exact nodup_markIn distinct name

/-- Steps from the opening of a scope to its closing are those inside it, in a new scope. -/
theorem run_enclosed (table : SymbolTable) (inside : List Step) :
    table.run (.enter :: (inside ++ [.exit])) = (table.enter.run inside).exit := by
  -- The last step closes the scope that the first one opens.
  rw [run, List.foldl_cons, List.foldl_concat]
  rfl

section Closing

variable {inside : List Step} (bracketed : Sections.Bracketed .enter .exit inside)
include bracketed

/-- A scope that is opened and closed again leaves as many scopes as there were. -/
theorem length_scopes_closed (table : SymbolTable) :
    (table.enter.run inside).exit.scopes.length = table.scopes.length := by
  -- The steps inside leave one scope more than there was, and closing takes it away.
  obtain ⟨nested, closed⟩ := bracketed
  have level : (table.enter.run inside).level = table.level + 1 := by
    rw [level_run, nested.depth_eq (by decide), closed, Nat.add_sub_cancel]
    rfl
  rw [scopes_exit, if_neg (by omega), List.length_dropLast, length_scopes, length_scopes, level,
    Nat.add_sub_cancel]

/-- As long as the scope that was opened is not closed, there is one more than before. -/
theorem level_lt_of_prefix {front : List Step} (start : front <+: inside) (table : SymbolTable) :
    table.level < (table.enter.run front).level := by
  obtain ⟨nested, -⟩ := bracketed
  -- No more scopes are closed than have been opened since.
  have inner := nested.of_prefix start
  have closes := inner.count_le
  have level : table.enter.level = table.level + 1 := rfl
  rw [level_run, inner.depth_eq (by decide), level]
  omega

/-- A scope that is opened and closed again leaves the others as its marks have reached them. -/
theorem settles_closed {table : SymbolTable} {index : Nat} {scope : Scope}
    (there : table.scopes[index]? = some scope) :
    ∃ other, (table.enter.run inside).exit.scopes[index]? = some other ∧
      scope.Settles (table.enter.Reaches index inside) other := by
  have within : index < table.level + 1 := by
    rw [← length_scopes]
    exact (List.getElem?_eq_some_iff.mp there).1
  have opened : table.enter.scopes[index]? = some scope := by
    rw [scopes_enter, List.getElem?_append_left (by rwa [length_scopes]), there]
  -- Behind every front of the steps the scopes of the table are further out than the current one.
  have above : ∀ front, front <+: inside → index < (table.enter.run front).level := by
    intro front start
    have inner := level_lt_of_prefix bracketed start table
    omega
  obtain ⟨other, found, settles⟩ := settles_run opened above
  -- So the scope that is closed is another one.
  have last := above inside List.prefix_rfl
  refine ⟨other, ?_, settles⟩
  rw [scopes_exit, if_neg (by omega), List.getElem?_dropLast, length_scopes, if_pos (by omega),
    found]

end Closing

end SymbolTable

end SourceLint
