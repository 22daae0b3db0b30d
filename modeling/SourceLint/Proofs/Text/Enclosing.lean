import SourceLint.Proofs.Standing

/-!
Where a bracket closes.

What lies between a bracket and the one that closes it opens as many as it closes, and no front of
it closes more than it opens. This decides the place, and only what shows outside literals counts.
-/

namespace SourceLint.Text

/-- A text that closes its own brackets and those that are open in front of it, and no others. -/
structure Balances (opening closing : Char) (depth : Nat) (shown : Text) : Prop where
  nested : ∀ front, front <+: shown → front.count closing ≤ depth + front.count opening
  balanced : shown.count closing = depth + shown.count opening

variable {opening closing : Char}

/-- The empty text closes nothing. -/
theorem balances_nil {depth : Nat} : Balances opening closing depth [] ↔ depth = 0 := by
  -- Both counts are zero, so the depth has to be zero as well.
  constructor
  · rintro ⟨-, balanced⟩
    simpa [eq_comm] using balanced
  · rintro rfl
    exact ⟨by simp, rfl⟩

/-- A character in front changes what is left to close by what it opens or closes itself. -/
theorem balances_cons {c : Char} {depth inner : Nat}
    (moved : [c].count closing + inner = depth + [c].count opening) {shown : Text} :
    Balances opening closing depth (c :: shown) ↔ Balances opening closing inner shown := by
  -- A front of the whole is empty, or it is the character and a front of the rest.
  have counted : ∀ (bracket : Char) (text : Text),
      (c :: text).count bracket = [c].count bracket + text.count bracket := by
    intro bracket text
    rw [← List.count_append, List.singleton_append]
  constructor
  · rintro ⟨nested, balanced⟩
    -- The character moves one bracket from the depth to the text, and the counts follow it.
    refine ⟨fun front starts => ?_, ?_⟩
    · have bound := nested (c :: front) (List.cons_prefix_cons.mpr ⟨rfl, starts⟩)
      rw [counted opening front, counted closing front] at bound
      omega
    · rw [counted opening shown, counted closing shown] at balanced
      omega
  · rintro ⟨nested, balanced⟩
    refine ⟨fun front starts => ?_, by rw [counted opening shown, counted closing shown]; omega⟩
    -- The empty front closes nothing.
    rcases List.prefix_cons_iff.mp starts with rfl | ⟨rest, rfl, within⟩
    · exact Nat.zero_le _
    · have bound := nested rest within
      rw [counted opening rest, counted closing rest]
      omega

/-- The bracket that is found is the one behind a part that closes what is open in front of it. -/
theorem closeFrom?_eq_some_iff (different : opening ≠ closing) {depth : Nat}
    {pairs : List (Char × Char)} {inside after : Text} :
    closeFrom? opening closing depth pairs = some (inside, after) ↔
      ∃ own mark rest, pairs = own ++ mark :: rest ∧ inside = own.map Prod.fst ∧
        after = rest.map Prod.fst ∧ mark.2 = closing ∧
          Balances opening closing depth (own.map Prod.snd) := by
  induction pairs generalizing depth inside with
  | nil => simp [closeFrom?]
  | cons pair pairs ih =>
    obtain ⟨c, shown⟩ := pair
    -- A character that does not close what was open in front goes to the inside.
    have step : ∀ {inner : Nat}, [shown].count closing + inner = depth + [shown].count opening →
        (shown = closing → depth ≠ 0) →
        ((closeFrom? opening closing inner pairs).map (Prod.map (c :: ·) id) =
            some (inside, after) ↔
          ∃ own mark rest, (c, shown) :: pairs = own ++ mark :: rest ∧ inside = own.map Prod.fst ∧
            after = rest.map Prod.fst ∧ mark.2 = closing ∧
              Balances opening closing depth (own.map Prod.snd)) := by
      intro inner moved open_
      rw [Option.map_eq_some_iff]
      constructor
      · rintro ⟨⟨part, tail⟩, read, same⟩
        cases same
        obtain ⟨own, mark, rest, split, rfl, rfl, closes, balances⟩ := ih.mp read
        exact ⟨(c, shown) :: own, mark, rest, by rw [split, List.cons_append], rfl, rfl, closes,
          (balances_cons moved).mpr balances⟩
      · rintro ⟨own, mark, rest, split, rfl, rfl, closes, balances⟩
        cases own with
        | nil =>
          obtain ⟨rfl, -⟩ := List.cons_eq_cons.mp split
          exact absurd (balances_nil.mp balances) (open_ closes)
        | cons first own =>
          obtain ⟨rfl, behind⟩ := List.cons_eq_cons.mp split
          exact ⟨_, ih.mpr ⟨own, mark, rest, behind, rfl, rfl, closes,
            (balances_cons moved).mp balances⟩, rfl⟩
    -- The search knows three cases: an opening bracket, a closing one and any other character.
    simp only [closeFrom?]
    split
    · rename_i opens
      subst opens
      exact step (by simp [different]) fun same => absurd same different
    · split
      · rename_i other closes
        subst closes
        cases depth with
        | zero =>
          -- This is the bracket.
          constructor
          · intro found
            cases found
            exact ⟨[], _, _, rfl, rfl, rfl, rfl, balances_nil.mpr rfl⟩
          · rintro ⟨own, mark, rest, split, rfl, rfl, -, balances⟩
            cases own with
            | nil =>
              obtain ⟨-, rfl⟩ := List.cons_eq_cons.mp split
              rfl
            -- The character would close more than is open.
            | cons first own =>
              obtain ⟨rfl, -⟩ := List.cons_eq_cons.mp split
              have bound := balances.nested [shown] ⟨own.map Prod.snd, rfl⟩
              simp [different.symm] at bound
        | succ depth =>
          exact step (by simp [different.symm, Nat.add_comm]) fun _ => Nat.succ_ne_zero depth
      · rename_i other differs
        exact step (by simp [other, differs]) fun same => absurd same differs

/-- A parenthesis closes behind a part that closes its literals and its own parentheses. -/
theorem closeParen?_eq_some_iff {text inside after : Text} :
    closeParen? text = some (inside, after) ↔
      text = inside ++ ')' :: after ∧ Closed inside ∧ Balances '(' ')' 0 (mask inside) := by
  constructor
  · -- What closes the parenthesis leaves the literals in front of it closed.
    intro found
    obtain ⟨whole, closed⟩ := closed_of_closeParen? found
    refine ⟨whole, closed, ?_⟩
    obtain ⟨own, mark, rest, split, rfl, -, -, balances⟩ :=
      (closeFrom?_eq_some_iff (by decide)).mp found
    -- The marks of the inside are those that the whole text starts with.
    rw [whole, marked_append closed] at split
    have same := (List.append_inj split (by simp [marked])).1
    rwa [← marked_snd, same]
  · -- The marks of the whole text are those of the inside, the parenthesis and those behind it.
    rintro ⟨rfl, closed, balances⟩
    refine (closeFrom?_eq_some_iff (by decide)).mpr
      ⟨marked inside, (')', ')'), marked after, ?_, (marked_fst inside).symm,
        (marked_fst after).symm, rfl, ?_⟩
    · rw [marked_append closed, marked_cons (by decide)]
    · rwa [marked_snd]

end SourceLint.Text
