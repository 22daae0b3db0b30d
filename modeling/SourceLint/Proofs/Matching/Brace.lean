import SourceLint.Text.Basic

/-!
Braces that match.

A brace is closed by the nearest one behind it that leaves a balanced text in between. What a text
leaves open is found from its front, one character after another.
-/

namespace SourceLint.Text

/-- A text in which every brace is matched by another one. -/
inductive Balanced : Text → Prop
  | nil : Balanced []
  /-- Any character that is no brace. -/
  | plain {c : Char} {rest : Text} (unopened : c ≠ '{') (unclosed : c ≠ '}')
      (others : Balanced rest) : Balanced (c :: rest)
  /-- Two braces with a balanced text between them. -/
  | block {inside rest : Text} (inner : Balanced inside) (others : Balanced rest) :
      Balanced ('{' :: (inside ++ '}' :: rest))

/-- Balanced texts stay balanced when they are put together. -/
theorem Balanced.append {first second : Text} (left : Balanced first) (right : Balanced second) :
    Balanced (first ++ second) := by
  -- The second text goes behind the last part of the first one.
  induction left with
  | nil => exact right
  | plain unopened unclosed _ ih => exact ih.plain unopened unclosed
  | block inner _ _ ih =>
    rw [List.cons_append, List.append_assoc]
    exact .block inner ih

/-- A text without braces is balanced. -/
theorem balanced_of_braceless {text : Text} (braceless : ∀ c ∈ text, c ≠ '{' ∧ c ≠ '}') :
    Balanced text := by
  -- By induction on the text.
  induction text with
  | nil => exact .nil
  | cons c text ih =>
    obtain ⟨⟨unopened, unclosed⟩, others⟩ := List.forall_mem_cons.mp braceless
    exact (ih others).plain unopened unclosed

/--
The texts in front of the braces that a text leaves open, innermost first.

A closing brace that matches no other one is passed over.
-/
inductive LeavesOpen : (text : Text) → (outers : List Text) → Prop
  | balanced {text : Text} (inner : Balanced text) : LeavesOpen text []
  /-- A closing brace with nothing open. -/
  | stray {text inside : Text} (around : LeavesOpen text []) (inner : Balanced inside) :
      LeavesOpen (text ++ '}' :: inside) []
  /-- A brace that is still open. -/
  | opened {outer inside : Text} {outers : List Text} (around : LeavesOpen outer outers)
      (inner : Balanced inside) : LeavesOpen (outer ++ '{' :: inside) (outer :: outers)

namespace LeavesOpen

variable {text : Text} {outers : List Text}

/-- A balanced text opens nothing and closes nothing. -/
theorem append {more : Text} (leaves : LeavesOpen text outers) (balanced : Balanced more) :
    LeavesOpen (text ++ more) outers := by
  -- Whatever comes last, a balanced text goes on behind it.
  cases leaves with
  | balanced inner => exact .balanced (inner.append balanced)
  | stray around inner =>
    rw [List.append_assoc]
    exact around.stray (inner.append balanced)
  | opened around inner =>
    rw [List.append_assoc]
    exact around.opened (inner.append balanced)

/-- A closing brace closes the innermost block. -/
theorem close (leaves : LeavesOpen text outers) : LeavesOpen (text ++ ['}']) outers.tail := by
  cases leaves with
  -- With nothing open the brace is a stray one.
  | balanced inner => exact .stray (.balanced inner) .nil
  | stray around inner => exact .stray (around.stray inner) .nil
  | opened around inner =>
    -- The block as a whole is balanced, behind what stands in front of it.
    rw [List.append_assoc]
    exact around.append (.block inner .nil)

/-- The innermost open brace has a balanced text behind it. -/
theorem exists_inside {outer : Text} (leaves : LeavesOpen text (outer :: outers)) :
    ∃ inside, text = outer ++ '{' :: inside ∧ Balanced inside := by
  -- Only an opening brace adds an open one.
  cases leaves with
  | opened _ inner => exact ⟨_, rfl, inner⟩

end LeavesOpen

/-- A text has one last closing brace. -/
theorem eq_of_last_brace {first second gap other : Text}
    (same : first ++ '}' :: gap = second ++ '}' :: other) (last : '}' ∉ gap)
    (lastOther : '}' ∉ other) : first = second := by
  have passed : ∀ {inner gap other : Text}, '}' :: other = inner ++ '}' :: gap → '}' ∉ other →
      inner = [] := by
    intro inner gap other split absent
    cases inner with
    | nil => rfl
    | cons c inner =>
      -- The brace would be found once more behind the first one.
      rw [List.cons_append, List.cons.injEq] at split
      exact absurd (split.2 ▸ by simp) absent
  -- The two texts are compared up to their last braces.
  rcases List.append_eq_append_iff.mp same with ⟨between, shift, behind⟩ | ⟨between, shift, behind⟩
  · rw [shift, passed behind last, List.append_nil]
  · rw [shift, passed behind lastOther, List.append_nil]

end SourceLint.Text
