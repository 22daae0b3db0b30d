import SourceLint.Proofs.Masked.Places
import SourceLint.Proofs.Text.Enclosing
import SourceLint.Rule.BranchShape

/-!
The shape of branches beside literals.

Headers, conditions and what follows them are read alike off a line and off its masked view. Only
braces and the end of a single statement are looked for in the line itself, so a literal reaches the
verdict by what it holds of the one or the other, and by nothing else.
-/

namespace SourceLint

open Text

namespace Text

/-- A parenthesis that closes in a line closes at the same place of its view. -/
theorem closeParen?_mask (text : Text) : closeParen? (mask text) =
    (closeParen? text).map fun (inside, after) => (mask inside, mask after) := by
  ext ⟨inside, after⟩
  simp only [closeParen?_eq_some_iff, Option.map_eq_some_iff, Prod.exists, Prod.mk.injEq]
  constructor
  · rintro ⟨view, -, balanced⟩
    -- The parenthesis that closes in the view stands in the line, outside all literals.
    obtain ⟨front, back, rfl, closed, rfl, rfl⟩ := exists_of_mask (by decide) (by decide) view
    rw [mask_mask] at balanced
    exact ⟨front, back, ⟨rfl, closed, balanced⟩, rfl, rfl⟩
  · rintro ⟨front, back, ⟨rfl, closed, balanced⟩, rfl, rfl⟩
    have view := closed.mask_append_cons (by decide : isQuote ')' = false) back
    refine ⟨view, ?_, by rwa [mask_mask]⟩
    -- The view is its own view, so the parenthesis shows in it.
    refine @closed_of_shown ')' (by decide) (by decide) (mask front) [] (')' :: mask back)
      (by simp) ?_
    rw [List.nil_append, ← view, mask_mask, view, List.getElem?_append_right (Nat.le_add_right _ _)]
    simp

/-- The end of a text ends outside a class when the text does. -/
theorem any_getLast?_of_suffix {p : Char → Bool} {text part : Text} (suffix : part <:+ text)
    (ends : text.getLast?.any p = false) : part.getLast?.any p = false := by
  -- A part that has a character ends with the last one of the text.
  obtain ⟨front, rfl⟩ := suffix
  cases part with
  | nil => rfl
  | cons c rest =>
    rw [List.getLast?_append, List.getLast?_cons, Option.some_or] at ends
    rwa [List.getLast?_cons]

/-- Nothing is trimmed behind a text that ends with something else than white space. -/
theorem trim_eq_skipSpace {text : Text} (ends : text.getLast?.any isSpace = false) :
    trim text = skipSpace text :=
  trimRight_of_last (any_getLast?_of_suffix (List.dropWhile_suffix isSpace) ends)

end Text

namespace Statement

variable {line rest inside after : Text}

/-- No literal is open behind the condition of a header. -/
theorem exists_front_of_closeParen? (branch : afterBranch? ["if".toList] line = some rest)
    (closing : closeParen? rest = some (inside, after)) :
    ∃ front, line = front ++ after ∧ Closed front := by
  -- Neither the words in front of the condition nor its closed inside leave a literal open.
  obtain ⟨front, whole, plain⟩ : Behind (isQuote · = false) line rest :=
    behind_of_afterBranch? (fun _ => isQuote_of_isSpace) (by decide) (by decide) branch
  obtain ⟨split, closed, -⟩ := closeParen?_eq_some_iff.mp closing
  exact ⟨front ++ (inside ++ [')']), by rw [whole, split]; simp,
    (closed_of_plain plain).append (closed.append (closed_of_plain (by decide)))⟩

/-- What follows the condition of a trimmed line is trimmed in front only, as its view is. -/
theorem trim_of_closeParen? (trimmed : trim line = line)
    (branch : afterBranch? ["if".toList] line = some rest)
    (closing : closeParen? rest = some (inside, after)) :
    trim after = skipSpace after ∧ trim (mask after) = mask (skipSpace after) := by
  obtain ⟨front, whole, -⟩ := exists_front_of_closeParen? branch closing
  have ends := getLast?_trim line
  rw [trimmed] at ends
  -- It ends like the line, and so does its view.
  have last := any_getLast?_of_suffix ⟨front, whole.symm⟩ ends
  exact ⟨trim_eq_skipSpace last, by
    rw [trim_eq_skipSpace (any_getLast?_mask (by decide) last), skipSpace_mask]⟩

/-- The condition of a trimmed line shows, and so does what follows it. -/
theorem condition?_mask (trimmed : trim line = line) :
    condition? (mask line) =
      (condition? line).map fun (condition, after) => (mask condition, mask after) := by
  -- The header and the parenthesis that closes it show, so the condition is cut out of the view.
  rw [condition?, condition?, afterBranch?_mask (by decide)]
  cases branch : afterBranch? ["if".toList] line with
  | none => rfl
  | some rest =>
    rw [Option.map_some, Option.bind_some, Option.bind_some, closeParen?_mask]
    cases closing : closeParen? rest with
    | none => rfl
    | some parts =>
      -- Behind the parenthesis the line is trimmed already.
      obtain ⟨own, view⟩ := trim_of_closeParen? trimmed branch closing
      simp only [Option.map_some, own, view]

/-- What is hidden behind the condition of a trimmed line is hidden in the line. -/
theorem hides_of_condition? (trimmed : trim line = line)
    (read : condition? line = some (inside, after)) {c : Char} (shown : hides line c = false) :
    hides after c = false := by
  obtain ⟨rest, branch, closed⟩ := Option.bind_eq_some_iff.mp read
  obtain ⟨⟨condition, behind⟩, closing, same⟩ := Option.map_eq_some_iff.mp closed
  cases same
  -- No literal reaches from the condition into what follows it.
  obtain ⟨front, whole, outside⟩ := exists_front_of_closeParen? branch closing
  obtain ⟨gap, split, blank⟩ := exists_gap_of_skipSpace behind
  rw [(trim_of_closeParen? trimmed branch closing).1]
  rw [whole, split, hides_append outside,
    hides_append (closed_of_plain fun d member => isQuote_of_isSpace (blank d member)),
    Bool.or_eq_false_iff, Bool.or_eq_false_iff] at shown
  exact shown.2.2

end Statement

namespace BranchShape

variable {line : Text}

/-- A single statement is followed by what stands behind its semicolon. -/
theorem afterStatement?_eq_some_iff {least : Nat} {text rest : Text} :
    afterStatement? least text = some rest ↔ ∃ front, text = front ++ ';' :: rest ∧
      least ≤ front.length ∧ front.any (fun c => c == ';' || c == '{') = false := by
  -- Both directions come down to where the first semicolon or brace stands.
  constructor
  · intro found
    dsimp only [afterStatement?] at found
    split at found
    · cases found
    · rename_i long
      -- The reading stops at the first semicolon or brace, which has to be a semicolon.
      have behind := eq_append_of_after? found
      refine ⟨_, ?_, Nat.le_of_not_lt long, ?_⟩
      · rw [← List.singleton_append, ← behind, List.takeWhile_append_dropWhile]
      · rw [List.any_eq_false]
        intro c member
        simpa [bne] using List.mem_takeWhile_imp member
  · -- Conversely the front is passed over, and the reading stops at the semicolon.
    rintro ⟨front, rfl, long, outside⟩
    have inside : ∀ c ∈ front, (c != ';' && c != '{') = true := by
      intro c member
      simpa [bne] using List.any_eq_false.mp outside c member
    rw [afterStatement?, List.takeWhile_append_of_pos inside, List.dropWhile_append_of_pos inside]
    simp [after?, long]

/-- A single statement shows where no semicolon and no brace is hidden. -/
theorem afterStatement?_mask {text : Text} (ended : hides text ';' = false)
    (braceless : hides text '{' = false) (least : Nat) :
    afterStatement? least (mask text) = (afterStatement? least text).map mask := by
  -- What stands in front of a semicolon hides none of the characters either.
  have fronts : ∀ {front back : Text}, Closed front → text = front ++ ';' :: back →
      (mask front).any (fun c => c == ';' || c == '{') =
        front.any (fun c => c == ';' || c == '{') := by
    rintro front back closed rfl
    rw [hides_append closed, Bool.or_eq_false_iff] at ended braceless
    refine any_mask (by decide) fun c member => ?_
    rw [Bool.or_eq_true, beq_iff_eq, beq_iff_eq] at member
    rcases member with rfl | rfl
    · exact ended.1
    · exact braceless.1
  -- The view is cut at a semicolon where the line is, so the same text is left.
  ext rest
  simp only [afterStatement?_eq_some_iff, Option.map_eq_some_iff]
  constructor
  · rintro ⟨shown, view, long, outside⟩
    obtain ⟨front, back, whole, closed, rfl, rfl⟩ := exists_of_mask (by decide) (by decide) view
    rw [fronts closed whole] at outside
    exact ⟨back, ⟨front, whole, by simpa using long, outside⟩, rfl⟩
  · rintro ⟨back, ⟨front, whole, long, outside⟩, rfl⟩
    obtain ⟨closed, view⟩ := @mask_of_shown ';' (by decide) (by decide) front [] back (by simp)
      (by rw [List.nil_append, ← whole]; exact ended)
    rw [List.nil_append, ← whole] at view
    exact ⟨mask front, view, by simpa using long, by rw [fronts closed whole, outside]⟩

/-- Whether a text is a single statement shows. -/
theorem isSingleStatement_mask {text : Text} (ended : hides text ';' = false)
    (braceless : hides text '{' = false) :
    isSingleStatement (mask text) = isSingleStatement text := by
  -- What is left behind the statement is blank in both or in neither.
  rw [isSingleStatement, isSingleStatement, afterStatement?_mask ended braceless, Option.any_map]
  congr 1
  exact funext isBlank_mask

/-- Whether an `else` stands in front of a single statement shows. -/
theorem isSingleLineElse_mask {line : Text} (ended : hides line ';' = false)
    (braceless : hides line '{' = false) :
    isSingleLineElse (mask line) = isSingleLineElse line := by
  -- The word shows, and the test goes on with what follows it.
  rw [isSingleLineElse, isSingleLineElse, after?_mask (by decide)]
  cases read : after? "else".toList line with
  | none => rfl
  | some rest =>
    rw [eq_append_of_after? read, hides_append (closed_of_plain (by decide)),
      Bool.or_eq_false_iff] at ended braceless
    simp only [Option.map_some, Option.any_some, head?_mask,
      afterStatement?_mask ended.2 braceless.2, Option.any_map, isBlank_mask]

/-- An `else` with nothing but an optional brace shows. -/
theorem isBareElse_mask (line : Text) : isBareElse (mask line) = isBareElse line := by
  -- The word shows, and so does the white space behind it, up to the brace.
  rw [isBareElse, isBareElse, after?_mask (by decide)]
  cases after? "else".toList line with
  | none => rfl
  | some rest =>
    simp only [Option.map_some, Option.any_some, skipSpace_mask]
    rw [after?_mask (by decide)]
    cases after? ['{'] (skipSpace rest) <;> exact isBlank_mask _

/-- Such an `else` is made of its word, white space and a brace at most. -/
theorem forall_mem_of_isBareElse {p : Char → Prop} (word : ∀ c ∈ "else".toList, p c)
    (space : ∀ c, isSpace c = true → p c) (brace : p '{') {line : Text}
    (bare : isBareElse line = true) : ∀ c ∈ line, p c := by
  -- Behind the word and the brace there is nothing but white space.
  obtain ⟨tail, ⟨front, rfl, all⟩, blank⟩ :
      ∃ tail, Behind p line tail ∧ isBlank tail = true := by
    rw [isBareElse, Option.any_eq_true] at bare
    obtain ⟨rest, read, blank⟩ := bare
    have behind : Behind p line (skipSpace rest) :=
      (behind_of_after? word read).trans (behind_skipSpace space rest)
    dsimp only at blank
    cases braced : after? ['{'] (skipSpace rest) with
    | none =>
      rw [braced] at blank
      exact ⟨_, behind, blank⟩
    | some tail =>
      rw [braced] at blank
      exact ⟨tail, behind.trans (behind_of_after? (by simpa using brace) braced), blank⟩
  -- A character is in the part that has been read or in the blank tail.
  intro c member
  rcases List.mem_append.mp member with first | later
  · exact all c first
  · exact space c (List.all_eq_true.mp blank c later)

/-- So it holds no literal. -/
theorem mask_of_isBareElse {line : Text} (bare : isBareElse line = true) : mask line = line :=
  -- None of its characters is a quote.
  maskWith_plain ['s'] <| forall_mem_of_isBareElse (p := (isQuote · = false)) (by decide)
    (fun _ => isQuote_of_isSpace) (by decide) bare

/-- The branch of a line shows. -/
theorem branchOf_mask (line : Text) : branchOf (mask line) = branchOf line := by
  rw [branchOf, branchOf, afterSpaced?_mask (by decide), Option.isSome_map]

/-- An `if` without a parenthesis shows. -/
theorem isOpenIf_mask (line : Text) : isOpenIf (mask line) = isOpenIf line := by
  -- The word shows, and so does the first character behind it.
  rw [isOpenIf, isOpenIf, afterSpaced?_mask (by decide), Option.any_map]
  congr 1
  exact funext fun rest => congrArg (Option.any (· != '(')) (head?_mask rest)

/-- The names that a condition reads stand outside its literals. -/
theorem conditionFindings_mask (table : SymbolTable) (condition : Text) :
    conditionFindings table (mask condition) = conditionFindings table condition := by
  rw [conditionFindings, conditionFindings, blank_mask]

/-- Whether a branch lacks its brace: nothing but a single statement may follow without one. -/
def lacksBrace (line : Text) : Bool :=
  if LineShape.isBranchHeader line then
    (Statement.condition? line).any fun (_, after) =>
      !line.contains '{' && !isSingleStatement after
  else isSingleLineElse line

/-- The findings for a trimmed line with a masked view, given whether its branch lacks its brace. -/
def findings (table : SymbolTable) (view : Text) (lacking : Bool) : List Finding :=
  if LineShape.isBranchHeader view then
    match Statement.condition? view with
    | none => [.unclosedCondition (branchOf view)]
    | some (condition, _) =>
      conditionFindings table condition ++
        (if isBlank condition then [.emptyCondition (branchOf view)] else []) ++
        (if lacking then [.missingBrace (branchOf view)] else [])
  else if isBareElse view then if view.contains '{' then [] else [.missingBrace .elseBranch]
  else if lacking then [.singleLineElse]
  else if isOpenIf view then [.ifWithoutParentheses]
  else []

/-- Apart from the brace that a branch lacks the check reads the masked view. -/
theorem check_eq {line : Text} (trimmed : trim line = line) (table : SymbolTable) :
    check table line = findings table (mask line) (lacksBrace line) := by
  rw [check, trimmed, findings, lacksBrace, LineShape.isBranchHeader_mask, isBareElse_mask,
    isOpenIf_mask, Statement.condition?_mask trimmed, branchOf_mask]
  -- Only a header is followed by a brace, and an `else` alone has no literal to hide one in.
  cases LineShape.isBranchHeader line with
  | true =>
    simp only [if_true, headerFindings]
    cases Statement.condition? line with
    | none => rfl
    | some parts =>
      simp only [Option.map_some, Option.any_some, conditionFindings_mask, isBlank_mask]
  | false =>
    simp only [Bool.false_eq_true, if_false]
    cases bare : isBareElse line with
    | true => rw [if_pos rfl, if_pos rfl, mask_of_isBareElse bare]
    | false => rfl

/-- An `else` in front of a single statement is no `else` alone, and no `if`. -/
theorem of_isSingleLineElse {line : Text} (single : isSingleLineElse line = true) :
    isBareElse line = false ∧ isOpenIf line = false := by
  -- The statement ends with a semicolon, which stands behind the word.
  rw [isSingleLineElse, Option.any_eq_true] at single
  obtain ⟨rest, read, inner⟩ := single
  have statement := (Bool.and_eq_true_iff.mp inner).2
  rw [Option.any_eq_true] at statement
  obtain ⟨tail, found, -⟩ := statement
  obtain ⟨front, split, -⟩ := afterStatement?_eq_some_iff.mp found
  have whole := eq_append_of_after? read
  constructor
  · -- There is a semicolon in it.
    rw [← Bool.not_eq_true]
    intro bare
    have member : ';' ∈ line := by simp [whole, split]
    exact forall_mem_of_isBareElse (p := (· ≠ ';')) (by decide)
      (by rintro c space rfl; exact absurd space (by decide)) (by decide) bare ';' member rfl
  · -- The line starts with another word than `if`.
    rw [whole]
    rfl

/-- A brace that a branch lacks is one finding more. -/
theorem length_findings {line : Text} (trimmed : trim line = line)
    (lacking : lacksBrace line = true) (table : SymbolTable) :
    (findings table (mask line) true).length = (findings table (mask line) false).length + 1 := by
  unfold lacksBrace at lacking
  rw [findings, findings, LineShape.isBranchHeader_mask, isBareElse_mask, isOpenIf_mask,
    Statement.condition?_mask trimmed]
  cases header : LineShape.isBranchHeader line with
  | true =>
    -- The condition is closed, since something follows it.
    rw [header, if_pos rfl, Option.any_eq_true] at lacking
    obtain ⟨parts, closed, -⟩ := lacking
    rw [closed]
    simp only [if_true, Option.map_some, List.length_append, Bool.false_eq_true, if_false,
      List.length_cons, List.length_nil, Nat.add_zero]
  -- An `else` of this kind has no other finding.
  | false =>
    rw [header, if_neg Bool.false_ne_true] at lacking
    obtain ⟨unbare, closed⟩ := of_isSingleLineElse lacking
    rw [unbare, closed]
    rfl

/--
Trimmed lines that differ in the contents of their literals only are reported alike if and only if
the branches of both lack their braces or those of neither do.
-/
theorem check_eq_iff {first second : Text} (same : mask first = mask second)
    (left : trim first = first) (right : trim second = second) (table : SymbolTable)
    (number : Int) :
    (check table first).map (·.onLine number) = (check table second).map (·.onLine number) ↔
      lacksBrace first = lacksBrace second := by
  rw [check_eq left, check_eq right, ← same]
  -- The number of findings tells whether the finding about the brace is among them.
  constructor
  · intro alike
    have lengths := congrArg List.length alike
    rw [List.length_map, List.length_map] at lengths
    -- Otherwise one of them has a finding more.
    cases one : lacksBrace first <;> cases other : lacksBrace second
    · rfl
    · have more := length_findings right other table
      rw [← same] at more
      rw [one, other] at lengths
      omega
    · have more := length_findings left one table
      rw [one, other] at lengths
      omega
    · rfl
  · intro both
    rw [both]

/-- The characters by which a branch is found to lack its brace. -/
def marks : Text :=
  [';', '{']

/-- A line without hidden marks lacks its brace where its view does. -/
theorem lacksBrace_mask {line : Text} (trimmed : trim line = line)
    (shows : ∀ c ∈ marks, hides line c = false) : lacksBrace (mask line) = lacksBrace line := by
  -- The marks are the semicolon and the braces.
  have ended := shows ';' (by decide)
  have braceless := shows '{' (by decide)
  have braces : (mask line).contains '{' = line.contains '{' := by
    rw [List.contains_eq_any_beq, List.contains_eq_any_beq]
    exact any_mask (by decide) fun c same => by rw [← eq_of_beq same]; exact braceless
  rw [lacksBrace, lacksBrace, LineShape.isBranchHeader_mask, Statement.condition?_mask trimmed,
    braces, isSingleLineElse_mask ended braceless]
  cases read : Statement.condition? line with
  | none => rfl
  | some parts =>
    -- What follows the condition hides nothing of the kind either.
    have behind := isSingleStatement_mask (Statement.hides_of_condition? trimmed read ended)
      (Statement.hides_of_condition? trimmed read braceless)
    simp only [Option.map_some, Option.any_some, behind]

end BranchShape

end SourceLint
