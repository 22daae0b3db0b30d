import SourceLint.Finding

/-!
Findings that are known by their wording.

A message shows what was found as a text. The words at the front of it tell most findings apart, and
findings about a variable are told apart by the words behind its name.
-/

namespace SourceLint.Finding

open Text

/-- A text that starts with another one goes on behind it. -/
theorem exists_ofList_eq_append {front text : Text} (starts : front.isPrefixOf text = true) :
    ∃ rest, String.ofList text = String.ofList front ++ rest := by
  -- What is left behind the front is the rest.
  obtain ⟨rest, rfl⟩ := List.isPrefixOf_iff_prefix.mp starts
  exact ⟨String.ofList rest, String.ofList_append⟩

/-- A text that starts with another one does so whatever is put behind it. -/
theorem exists_append_eq_append {front text : Text} (starts : front.isPrefixOf text = true)
    (rest : String) : ∃ more, String.ofList text ++ rest = String.ofList front ++ more := by
  -- The new text is put behind the rest.
  obtain ⟨tail, same⟩ := exists_ofList_eq_append starts
  exact ⟨tail ++ rest, by rw [same, String.append_assoc]⟩

/-- Texts with fronts of which neither goes on with the other are different. -/
theorem append_ne_of_front {front other : Text} (rest more : String)
    (differs : (front.isPrefixOf other || other.isPrefixOf front) = false) :
    String.ofList front ++ rest ≠ String.ofList other ++ more := by
  intro same
  -- The two wholes are compared character by character.
  have parts : front ++ rest.toList = other ++ more.toList := by
    simpa using congrArg String.toList same
  have left : front <+: front ++ rest.toList := List.prefix_append _ _
  have right : other <+: front ++ rest.toList := parts ▸ List.prefix_append _ _
  rw [Bool.or_eq_false_iff] at differs
  -- Of two fronts of one text the shorter one is a front of the longer one.
  rcases List.prefix_or_prefix_of_prefix left right with first | second
  · rw [List.isPrefixOf_iff_prefix.mpr first] at differs
    cases differs.1
  · rw [List.isPrefixOf_iff_prefix.mpr second] at differs
    cases differs.2

/-- Texts with ends of which neither ends with the other are different. -/
theorem append_ne_of_back {back last : Text} (front other : String)
    (differs : (back.isSuffixOf last || last.isSuffixOf back) = false) :
    front ++ String.ofList back ≠ other ++ String.ofList last := by
  intro same
  -- The two wholes are compared character by character.
  have parts : front.toList ++ back = other.toList ++ last := by
    simpa using congrArg String.toList same
  have left : back <:+ front.toList ++ back := List.suffix_append _ _
  have right : last <:+ front.toList ++ back := parts ▸ List.suffix_append _ _
  rw [Bool.or_eq_false_iff] at differs
  -- Of two ends of one text the shorter one ends the longer one.
  rcases List.suffix_or_suffix_of_suffix left right with first | second
  · rw [List.isSuffixOf_iff_suffix.mpr first] at differs
    cases differs.1
  · rw [List.isSuffixOf_iff_suffix.mpr second] at differs
    cases differs.2

/-- A quoted name between two texts is known by the whole. -/
theorem quoted_between_inj {front back : String} {name other : Text}
    (same : front ++ quoted name ++ back = front ++ quoted other ++ back) : name = other := by
  -- What stands around the name has the same length in both.
  have texts := congrArg String.toList same
  simpa [quoted] using texts

/-- The words with which a finding is worded whatever it is about. -/
def opening : Finding → Text
  | nestedComment => "Error - N".toList
  | mixedTypes _ => "Error - Mu".toList
  | missingSemicolon => "Error - Mi".toList
  | stringWithNumber _ | numberWithString _ => "Error - I".toList
  | danglingElse => "Error - '".toList
  | namelessDeclaration _ => "Error - D".toList
  | emptyCondition _ => "Error - E".toList
  | unclosedComment _ => "Unterminated ".toList
  | keywordCase _ _ => "Incorrect ".toList
  | emptyInitializer | tripleStep | unclosedCondition _ | ifWithoutParentheses =>
    "Syntax error - ".toList
  | undeclaredIdentifier _ => "Identifier ".toList
  | reservedName _ => "Cannot ".toList
  | badNameStart _ | badNameCharacters _ | alreadyDeclared _ | assignedUndeclared _
  | assignedUninitialized _ _ | steppedUndeclared _ | steppedUninitialized _
  | neverInitialized _ => "Variable ".toList
  | badInitializer _ | badInitializerOf _ _ => "Invalid initialization ".toList
  | badValue _ => "Invalid value ".toList
  | doubledArithmetic => "Invalid or ".toList
  | repeatedSpecial _ => "Invalid sequence ".toList
  | malformedMain => "Invalid main ".toList
  | nestedAssignment _ => "Complex ".toList
  | mixedStep => "Confusing ".toList
  | minusChain => "Misleading ".toList
  | pointerPair | doubtfulStep => "Potentially ".toList
  | steppedNonNumeric _ | stepWithoutVariable => "Increment/decrement ".toList
  | danglingOperator _ => "Incomplete ".toList
  | unexpectedCharacter _ | strayPunctuation _ => "Unexpected ".toList
  | missingBrace _ | neverInitializedInMain _ => "Warning - ".toList
  | singleLineElse => "Single-line ".toList
  | conditionUndeclared _ _ => "Condition uses undeclared ".toList
  | conditionUninitialized _ _ => "Condition uses uninitialized ".toList
  | severalMains => "Multiple ".toList
  | mainWithoutOpening | mainWithoutClosing => "Missing ".toList
  | mainNoFunction => "'main' ".toList
  | noMain => "No main() ".toList

/-- The message about a character that is out of place starts with the same word each time. -/
theorem exists_unexpectedMessage (c : Char) :
    ∃ rest, unexpectedMessage c = String.ofList "Unexpected ".toList ++ rest := by
  -- The characters with a wording of their own are spelled out in it.
  unfold unexpectedMessage
  split
  · exact exists_ofList_eq_append rfl
  · exact exists_ofList_eq_append rfl
  · exact exists_ofList_eq_append rfl
  · exact ⟨_, String.append_assoc⟩

/-- The wording of a finding starts with its opening. -/
theorem exists_message (finding : Finding) :
    ∃ rest, finding.message = String.ofList finding.opening ++ rest := by
  cases finding with
  | unexpectedCharacter c => exact exists_unexpectedMessage c
  -- The wording is the same each time.
  | nestedComment | danglingElse | missingSemicolon | emptyInitializer | tripleStep | mixedStep
  | minusChain | pointerPair | doubledArithmetic | stepWithoutVariable | doubtfulStep
  | singleLineElse | ifWithoutParentheses | severalMains | mainWithoutOpening
  | mainWithoutClosing | noMain =>
    exact exists_ofList_eq_append rfl
  -- The wording depends on what was found, and the opening stands in front of that.
  | _ =>
    unfold message
    simp only [String.append_assoc]
    exact exists_append_eq_append rfl _

/-- Findings with openings of which neither goes on with the other are worded differently. -/
theorem message_ne_of_opening {finding other : Finding}
    (differs : (finding.opening.isPrefixOf other.opening ||
      other.opening.isPrefixOf finding.opening) = false) : finding.message ≠ other.message := by
  -- Each message starts with the opening of its kind.
  obtain ⟨rest, own⟩ := finding.exists_message
  obtain ⟨more, second⟩ := other.exists_message
  rw [own, second]
  exact append_ne_of_front rest more differs

/-- How a condition uses a name that stands for nothing is part of the wording. -/
theorem usage_eq_of_message_eq {usage other : Usage} {name word : Text}
    (same : (conditionUndeclared usage name).message = (conditionUndeclared other word).message) :
    usage = other := by
  have texts : "Condition uses undeclared " ++ usage.label ++ " " ++ quoted name ++ "." =
      "Condition uses undeclared " ++ other.label ++ " " ++ quoted word ++ "." := same
  -- What is left behind the common words tells the usages apart.
  simp only [String.append_assoc, String.append_right_inj] at texts
  -- The words for the two usages start with different letters.
  cases usage with
  | object =>
    cases other with
    | object => rfl
    | plain =>
      exact absurd texts (append_ne_of_front _ _ rfl)
  | plain =>
    cases other with
    | object =>
      exact absurd texts (append_ne_of_front _ _ rfl)
    | plain => rfl

/-- Findings that can be read off their wording, down to the name that they hold. -/
def hasOwnWording : Finding → Bool
  | danglingElse | undeclaredIdentifier _ | alreadyDeclared _ | assignedUndeclared _
  | steppedUndeclared _ | conditionUndeclared _ _ => true
  | _ => false

/-- A finding with a wording of its own is known by its wording. -/
theorem eq_of_message_eq {finding other : Finding} (own : other.hasOwnWording = true)
    (same : finding.message = other.message) : finding = other := by
  -- Findings with equal messages have openings that fit each other.
  have alike : (finding.opening.isPrefixOf other.opening ||
      other.opening.isPrefixOf finding.opening) = true := by
    rw [← Bool.not_eq_false]
    exact fun differs => message_ne_of_opening differs same
  -- Among the findings with the same opening, the words behind the name decide.
  cases other with
  | danglingElse =>
    cases finding with
    | danglingElse => rfl
    | _ => cases alike
  -- A finding of its own opening is known by its name.
  | undeclaredIdentifier =>
    cases finding with
    | undeclaredIdentifier => rw [quoted_between_inj same]
    | _ => cases alike
  | conditionUndeclared usage =>
    cases finding with
    | conditionUndeclared second =>
      obtain rfl := usage_eq_of_message_eq same
      rw [@quoted_between_inj ("Condition uses undeclared " ++ second.label ++ " ") "." _ _ same]
    | _ => cases alike
  -- The remaining messages share their opening, and they differ in how they end.
  | alreadyDeclared =>
    cases finding with
    | alreadyDeclared => rw [quoted_between_inj same]
    | badNameStart | badNameCharacters | assignedUndeclared | assignedUninitialized
    | steppedUndeclared | steppedUninitialized | neverInitialized =>
      exact absurd same (append_ne_of_back _ _ rfl)
    | _ => cases alike
  | assignedUndeclared =>
    cases finding with
    | assignedUndeclared => rw [quoted_between_inj same]
    | badNameStart | badNameCharacters | alreadyDeclared | assignedUninitialized
    | steppedUndeclared | steppedUninitialized | neverInitialized =>
      exact absurd same (append_ne_of_back _ _ rfl)
    | _ => cases alike
  | steppedUndeclared =>
    cases finding with
    | steppedUndeclared => rw [quoted_between_inj same]
    | badNameStart | badNameCharacters | alreadyDeclared | assignedUninitialized
    | assignedUndeclared | steppedUninitialized | neverInitialized =>
      exact absurd same (append_ne_of_back _ _ rfl)
    | _ => cases alike
  | _ => cases own

/-- A message about a line tells of a finding with a wording of its own, and then of no other. -/
theorem eq_of_onLine_eq {finding other : Finding} {line number : Int}
    (own : other.hasOwnWording = true) (same : finding.onLine line = other.onLine number) :
    finding = other ∧ line = number := by
  -- The message tells the finding, and the line is stored beside it.
  constructor
  · exact eq_of_message_eq own (congrArg Diagnostic.message same)
  · exact Option.some.inj (congrArg Diagnostic.line same)

end SourceLint.Finding
