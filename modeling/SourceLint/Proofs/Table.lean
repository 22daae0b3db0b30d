import SourceLint.Rule

/-! What the rules read of a table: the types of its variables and whether they have a value. -/

namespace SourceLint

/-- The type of the variable that a name stands for. -/
def SymbolTable.typeOf? (table : SymbolTable) (name : Text) : Option VarType :=
  (table.lookup name).map Symbol.type

/-- A name stands for a variable when it has a type. -/
theorem SymbolTable.isSome_typeOf? (table : SymbolTable) (name : Text) :
    (table.typeOf? name).isSome = table.declares name := by
  simp [typeOf?, declares]

variable {first second : SymbolTable}

/-- Arithmetic is judged by the types of its operands. -/
theorem StringArithmetic.check_congr (types : ∀ name, first.typeOf? name = second.typeOf? name)
    (line : Text) : StringArithmetic.check first line = StringArithmetic.check second line := by
  -- A test on the variable that looks at its type only is a test on its type.
  have typed : ∀ (test : VarType → Bool) (name : Text),
      ((first.lookup name).any fun symbol => test symbol.type) =
        (second.lookup name).any fun symbol => test symbol.type := by
    intro test name
    have same := congrArg (Option.any test) (types name)
    simpa [SymbolTable.typeOf?, Option.any_map] using same
  have strings : ∀ operand, isString first operand = isString second operand :=
    typed (· == .known .string)
  have numbers : ∀ operand, isNumeric first operand = isNumeric second operand := by
    intro operand
    rw [isNumeric, isNumeric, typed VarType.isNumeric]
  -- Pairs of operands are judged by these two tests.
  have pairs : pairFindings first = pairFindings second := by
    funext pair
    simp only [pairFindings, strings, numbers]
  rw [check, check, pairs]

/-- Undeclared names are judged by the names that are declared. -/
theorem Undeclared.check_congr (declared : ∀ name, first.declares name = second.declares name)
    (line : Text) : Undeclared.check first line = Undeclared.check second line := by
  simp only [Undeclared.check, declared]

end SourceLint
