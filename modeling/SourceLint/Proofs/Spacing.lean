import SourceLint.Analysis
import SourceLint.Proofs.Growth.Program
import SourceLint.Proofs.Insertion.Comment
import SourceLint.Proofs.Insertion.MainBody

/-!
White space at the edges of lines does not matter to a run.

Indentation changes nothing, and an empty line only moves the lines behind it.
-/

namespace SourceLint

open Text

namespace Analysis

/-- Lines that keep their numbers leave a result as it is. -/
theorem renumber_id (analysis : Analysis) : analysis.renumber id = analysis := by
  -- Keeping the numbers changes no token, no variable and no message.
  have tokens : Token.renumber id = id := rfl
  have variables_ : Scope.renumber id = id := by
    funext scope
    exact List.map_id _
  have messages : Diagnostic.renumber id = id := by
    funext diagnostic
    simp [Diagnostic.renumber]
  -- Each part of the result is left as it is.
  have table : analysis.symbols.renumber id = analysis.symbols := by
    simp [SymbolTable.renumber, variables_]
  rw [renumber, tokens, messages, table, List.map_id, List.map_id]

/--
White space at the edge of a line moves the lines behind it and changes nothing else.

The message about a comment that never ends holds a line number, so a line break may not move it.
-/
theorem analyze_insert {before after : Text} {kept : Nat} (edge : Edge before after kept)
    {c : Char} (space : isSpace c = true) (config : Config)
    (still : (analyze config (before ++ after)).aborted = false ∨ c ≠ '\n') :
    analyze config (before ++ c :: after) =
      (analyze config (before ++ after)).renumber (shiftBy c kept) := by
  obtain ⟨nested, unclosed, text⟩ := Comment.strip_insert edge space
  rw [aborted_analyze] at still
  rw [analyze, analyze, run, run, nested, unclosed]
  generalize Comment.strip (before ++ after) = stripped at *
  generalize Comment.strip (before ++ c :: after) = longer at *
  -- A run ends early before and after, or it goes to its end before and after.
  cases found : stripped.unclosed with
  | some start =>
    have unbroken : c ≠ '\n' := still.resolve_left (by simp [found])
    rw [shiftBy_of_ne unbroken, renumber_id]
    rfl
  | none =>
    rcases text with ⟨front, back, inner, plain, longer⟩ | ⟨same, unbroken⟩
    · -- What is left of the source gains the character at the edge of a line as well.
      have tokens := Token.tokenized.read_insert inner space 1
      have lines := preparedLines.read_insert inner space 1
      have search := MainFunction.locate_insert inner space config.requireMain
      simp only [Int.sub_self, Int.zero_add] at tokens lines
      rw [← plain, ← longer] at tokens lines search
      -- All stages see the same with the numbers moved, and so does the result.
      exact runStripped_renumber (keepsOrder_shiftBy c kept) config _ tokens lines search
    · rw [shiftBy_of_ne unbroken, renumber_id, List.map_id, same]
      rfl

end Analysis

/-- A line to which white space without line breaks is added on either side. -/
def PaddedLine (line padded : Text) : Prop :=
  ∃ before after : Text, (∀ c ∈ before ++ after, isSpace c = true ∧ c ≠ '\n') ∧
    padded = before ++ line ++ after

/-- A source to whose lines white space is added on either side. -/
def Indented (source padded : Text) : Prop :=
  List.Forall₂ PaddedLine (lines source) (lines padded)

namespace Analysis

variable {pad : Text}

/-- White space other than line breaks changes nothing at the edge of a line. -/
theorem analyze_insert_space {before after : Text} {kept : Nat} (edge : Edge before after kept)
    {c : Char} (space : isSpace c = true) (unbroken : c ≠ '\n') (config : Config) :
    analyze config (before ++ c :: after) = analyze config (before ++ after) := by
  rw [analyze_insert edge space config (.inr unbroken), shiftBy_of_ne unbroken, renumber_id]

/-- White space in front of a line changes nothing. -/
theorem analyze_padded_front (blank : ∀ c ∈ pad, isSpace c = true ∧ c ≠ '\n') {lead : Text}
    (starts : lead = [] ∨ ∃ more, lead = more ++ ['\n']) (rest : Text) (config : Config) :
    analyze config (lead ++ (pad ++ rest)) = analyze config (lead ++ rest) := by
  -- The place stays at the start of a line whatever follows.
  have edge : ∀ rest : Text, ∃ kept, Edge lead rest kept := by
    intro rest
    rcases starts with rfl | ⟨more, rfl⟩
    · exact ⟨0, .front rest⟩
    · exact ⟨_, .start more rest⟩
  -- By induction on the padding, taken off from its front.
  induction pad with
  | nil => rfl
  | cons c pad ih =>
    obtain ⟨space, unbroken⟩ := blank c (by simp)
    obtain ⟨kept, inner⟩ := edge (pad ++ rest)
    rw [List.cons_append, analyze_insert_space inner space unbroken,
      ih fun d member => blank d (by simp [member])]

/-- White space behind a line changes nothing. -/
theorem analyze_padded_back (blank : ∀ c ∈ pad, isSpace c = true ∧ c ≠ '\n') {rest : Text}
    (ends : rest = [] ∨ ∃ more, rest = '\n' :: more) (lead : Text) (config : Config) :
    analyze config (lead ++ (pad ++ rest)) = analyze config (lead ++ rest) := by
  have edge : ∀ lead : Text, ∃ kept, Edge lead rest kept := by
    intro lead
    -- The place stays at the end of a line whatever stands in front.
    rcases ends with rfl | ⟨more, rfl⟩
    · exact ⟨_, .last lead⟩
    · exact ⟨_, .stop lead more⟩
  induction pad generalizing lead with
  | nil => rfl
  | cons c pad ih =>
    obtain ⟨space, unbroken⟩ := blank c (by simp)
    obtain ⟨kept, inner⟩ := edge lead
    -- The white space closest to the end of the line goes first.
    have shorter := ih (fun d member => blank d (by simp [member])) (lead ++ [c])
    rw [List.append_assoc, List.append_assoc] at shorter
    exact shorter.trans (analyze_insert_space inner space unbroken config)

/-- White space around a line changes nothing. -/
theorem analyze_padded {line padded : Text} (same : PaddedLine line padded) {lead rest : Text}
    (starts : lead = [] ∨ ∃ more, lead = more ++ ['\n'])
    (ends : rest = [] ∨ ∃ more, rest = '\n' :: more) (config : Config) :
    analyze config (lead ++ (padded ++ rest)) = analyze config (lead ++ (line ++ rest)) := by
  obtain ⟨before, after, blank, rfl⟩ := same
  -- The white space in front goes first, and then the one behind.
  have front := @analyze_padded_front before (fun c member => blank c (by simp [member])) lead
    starts (line ++ after ++ rest) config
  have back := @analyze_padded_back after (fun c member => blank c (by simp [member])) rest ends
    (lead ++ line) config
  simp only [List.append_assoc] at front back ⊢
  rw [front, back]

/-- Indentation changes nothing, and neither does white space at the ends of lines. -/
theorem analyze_indented {source padded : Text} (same : Indented source padded)
    (config : Config) : analyze config padded = analyze config source := by
  have joined : ∀ (line next : Text) (others : List Text), join ['\n'] (line :: next :: others) =
      line ++ '\n' :: join ['\n'] (next :: others) := by
    intro line next others
    rw [join_cons _ _ (by simp), List.append_assoc, List.singleton_append]
  -- Line after line is freed of its padding, behind the lines that are done.
  have general : ∀ {first second : List Text}, List.Forall₂ PaddedLine first second →
      ∀ lead : Text, (lead = [] ∨ ∃ more, lead = more ++ ['\n']) →
      analyze config (lead ++ join ['\n'] second) = analyze config (lead ++ join ['\n'] first) := by
    intro first second paired
    induction paired with
    | nil => exact fun _ _ => rfl
    | @cons line padded first second here others ih =>
      intro lead starts
      cases others with
      | nil => simpa [join] using @analyze_padded _ _ here lead [] starts (.inl rfl) config
      | @cons next later more rest paired others =>
        have behind := ih (lead ++ line ++ ['\n']) (.inr ⟨_, rfl⟩)
        have front := @analyze_padded _ _ here lead ('\n' :: join ['\n'] (later :: rest)) starts
          (.inr ⟨_, rfl⟩) config
        simp only [List.append_assoc, List.singleton_append] at behind
        rw [joined, joined, front, behind]
  -- The whole text has nothing in front that is done already.
  have whole := general same [] (.inl rfl)
  rwa [List.nil_append, List.nil_append, join_lines, join_lines] at whole

/-- Spaces and a tab around two declarations change nothing. -/
theorem analyze_indented_declarations :
    Indented "int a;\nint b;".toList "  int a;\t\n int b; ".toList ∧
      analyze {} "  int a;\t\n int b; ".toList = analyze {} "int a;\nint b;".toList := by
  -- The padding of both lines is given line by line.
  have padded : Indented "int a;\nint b;".toList "  int a;\t\n int b; ".toList :=
    .cons ⟨"  ".toList, "\t".toList, by decide, by decide⟩
      (.cons ⟨" ".toList, " ".toList, by decide, by decide⟩ .nil)
  exact ⟨padded, analyze_indented padded {}⟩

end Analysis

/-- The source with an empty line behind the given number of lines. -/
def insertBlank (count : Nat) (source : Text) : Text :=
  join ['\n'] ((lines source).take count ++ [] :: (lines source).drop count)

/-- An empty line is a line break at the edge of a line. -/
theorem exists_edge_of_insertBlank {count : Nat} {source : Text}
    (inside : count ≤ (lines source).length) :
    ∃ before after, Edge before after count ∧ source = before ++ after ∧
      insertBlank count source = before ++ '\n' :: after := by
  -- The lines are cut at the count, in front of or behind some of them.
  have whole := join_lines source
  have parts := List.take_append_drop count (lines source)
  have unbroken : ∀ line ∈ (lines source).take count, '\n' ∉ line :=
    fun line member => unbroken_of_mem_lines (List.mem_of_mem_take member)
  have length : ((lines source).take count).length = count := List.length_take_of_le inside
  have some := lines_ne_nil source
  rw [insertBlank]
  rw [← parts] at whole some
  generalize (lines source).take count = first at *
  generalize (lines source).drop count = second at *
  rcases Decidable.em (first = []) with rfl | front
  · -- In front of the first line.
    rw [List.nil_append] at whole some
    refine ⟨[], source, length ▸ .front source, rfl, ?_⟩
    rw [List.nil_append, join_cons _ _ some, whole]
    rfl
  · have counted : breaks (join ['\n'] first) + 1 = count := by
      rw [← length_lines, lines_join front unbroken, length]
    refine ⟨join ['\n'] first, ?_⟩
    rw [join_append _ front (by simp)]
    -- Between two lines the break ends the one in front.
    rcases Decidable.em (second = []) with rfl | back
    · -- Behind the last line.
      refine ⟨[], counted ▸ .last _, by simpa using whole.symm, by simp [join]⟩
    · rw [join_append _ front back] at whole
      refine ⟨'\n' :: join ['\n'] second, counted ▸ .stop _ _, by simpa using whole.symm, ?_⟩
      rw [join_cons _ _ back]
      simp

namespace Analysis

/-- An empty line moves the lines behind it by one and changes nothing else. -/
theorem analyze_insertBlank {source : Text} {count : Nat} (inside : count ≤ (lines source).length)
    (config : Config) (complete : (analyze config source).aborted = false) :
    (analyze config (insertBlank count source)).aborted = false ∧
      analyze config (insertBlank count source) =
        (analyze config source).renumber fun line => if (count : Int) < line then line + 1 else line := by
  obtain ⟨before, after, edge, split, longer⟩ := exists_edge_of_insertBlank inside
  -- An empty line is a line break at the edge of a line.
  have moved : (fun line : Int => if count < line then line + 1 else line) =
      shiftBy '\n' count := by
    funext line
    simp [shiftBy]
  rw [split] at complete
  have same := analyze_insert edge (c := '\n') (by decide) config (.inl complete)
  rw [longer, split, moved, same]
  exact ⟨complete, rfl⟩

/-- An empty line between two declarations moves the second one. -/
theorem analyze_insertBlank_declarations :
    insertBlank 1 "int a;\nint b;".toList = "int a;\n\nint b;".toList ∧
      (analyze {} "int a;\nint b;".toList).aborted = false ∧
      analyze {} (insertBlank 1 "int a;\nint b;".toList) =
        (analyze {} "int a;\nint b;".toList).renumber
          fun line => if 1 < line then line + 1 else line := by
  -- The source has no comment, and there are two lines.
  have complete : (analyze {} "int a;\nint b;".toList).aborted = false := by
    rw [aborted_analyze]
    decide
  have inside : 1 ≤ (lines "int a;\nint b;".toList).length := by decide
  exact ⟨by decide, complete, (analyze_insertBlank inside {} complete).2⟩

end Analysis

end SourceLint
