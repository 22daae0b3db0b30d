import SourceLint.Text.Class

/-! How the character classes overlap. -/

namespace SourceLint.Text

/--
A property of the characters of a text is decided by going through the text.

Characters are finitely many, and going through all of them must not be tried first.
-/
instance (priority := 2000) decidableForallMem {p : Char → Prop} [DecidablePred p] (text : Text) :
    Decidable (∀ c ∈ text, p c) :=
  List.decidableBAll p text

/-- A character of a class differs from every character outside the class. -/
theorem ne_of_class {p : Char → Bool} {c other : Char} (inside : p c = true)
    (outside : p other = false) : c ≠ other := by
  -- Equal characters would be inside and outside at once.
  rintro rfl
  rw [inside] at outside
  cases outside

/-- A character of an ASCII name lies in one of four ranges of code points. -/
theorem toNat_of_isNameChar {c : Char} (named : isNameChar c = true) :
    (48 ≤ c.toNat ∧ c.toNat ≤ 57) ∨ (65 ≤ c.toNat ∧ c.toNat ≤ 90) ∨
      (97 ≤ c.toNat ∧ c.toNat ≤ 122) ∨ c.toNat = 95 := by
  -- The class is put together from three ranges and one single character.
  simp only [isNameChar, Char.isAlphanum] at named
  delta Char.isAlpha Char.isUpper Char.isLower Char.isDigit at named
  simp only [Bool.or_eq_true, Bool.and_eq_true, decide_eq_true_eq, ge_iff_le,
    UInt32.le_iff_toNat_le, beq_iff_eq] at named
  -- Upper case comes first in the definition, and the underscore comes last.
  rcases named with ((upper | lower) | digit) | rfl
  · exact .inr (.inl upper)
  · exact .inr (.inr (.inl lower))
  · exact .inl digit
  · decide

/-- A character of an ASCII name is a word character. -/
theorem isWord_of_isNameChar {c : Char} (named : isNameChar c = true) : isWord c = true := by
  -- All names are within the first 128 code points, where the two classes are compared directly.
  have small : c.toNat < 0x80 := by have := toNat_of_isNameChar named; omega
  simpa [isWord, isAlphanumeric, small, isNameChar] using named

/-- A character of an ASCII name is no white space. -/
theorem isSpace_of_isNameChar {c : Char} (named : isNameChar c = true) : isSpace c = false := by
  -- No range of white space meets a range of names.
  have range := toNat_of_isNameChar named
  simp only [isSpace, inRanges, spaceRanges, List.any_cons, List.any_nil, Bool.or_false,
    Bool.or_eq_false_iff, Bool.and_eq_false_imp, decide_eq_true_eq, decide_eq_false_iff_not,
    Nat.not_le]
  omega

/-- A name starts with one of the characters it goes on with. -/
theorem isNameChar_of_isNameStart {c : Char} (start : isNameStart c = true) :
    isNameChar c = true := by
  simp only [isNameStart, Bool.or_eq_true] at start
  simp only [isNameChar, Char.isAlphanum, Bool.or_eq_true]
  -- Letters and the underscore are characters of names as well.
  rcases start with letter | underscore
  · exact .inl (.inl letter)
  · exact .inr underscore

/-- An ASCII digit may stand in a name. -/
theorem isNameChar_of_isDigit {c : Char} (digit : c.isDigit = true) : isNameChar c = true := by
  simp [isNameChar, Char.isAlphanum, digit]

/-- An ASCII digit is a decimal digit. -/
theorem isDecimal_of_isDigit {c : Char} (digit : c.isDigit = true) : isDecimal c = true := by
  -- The digits are within the first 128 code points.
  have small : c.toNat < 0x80 := by
    have := toNat_of_isNameChar (isNameChar_of_isDigit digit)
    omega
  simp [isDecimal, small, digit]

/-- No name starts with an ASCII digit. -/
theorem isNameStart_of_isDigit {c : Char} (digit : c.isDigit = true) : isNameStart c = false := by
  simp only [Char.isDigit, Bool.and_eq_true, decide_eq_true_eq, ge_iff_le,
    UInt32.le_iff_toNat_le] at digit
  obtain ⟨low, high⟩ := digit
  -- The digits end below the letters and the underscore.
  have top : c.val.toNat ≤ 57 := high
  rw [isNameStart]
  delta Char.isAlpha Char.isUpper Char.isLower
  simp only [Bool.or_eq_false_iff, Bool.and_eq_false_iff, decide_eq_false_iff_not, ge_iff_le,
    UInt32.le_iff_toNat_le, beq_eq_false_iff_ne]
  -- Upper case, lower case and the underscore are refused one by one.
  refine ⟨⟨fun upper => ?_, .inl fun lower => ?_⟩, ?_⟩
  · have : 65 ≤ c.val.toNat := upper.1
    omega
  · have : 97 ≤ c.val.toNat := lower
    omega
  · rintro rfl
    exact absurd top (by decide)

/-- The code points of white space, one by one. -/
def spaceCodes : List Nat :=
  spaceRanges.flatMap fun (low, high) => List.range' low (high + 1 - low)

/-- What holds at every code point of white space holds of every white space character. -/
theorem forall_isSpace (test : Char → Bool)
    (tested : spaceCodes.all (fun code => test (Char.ofNat code)) = true) {c : Char}
    (space : isSpace c = true) : test c = true := by
  -- The code point of the character lies in one of the ranges.
  have listed : c.toNat ∈ spaceCodes := by
    simp only [isSpace, inRanges, List.any_eq_true, Bool.and_eq_true, decide_eq_true_eq] at space
    obtain ⟨⟨low, high⟩, member, above, below⟩ := space
    refine List.mem_flatMap.mpr ⟨(low, high), member, ?_⟩
    simp only [List.mem_range'_1]
    omega
  simpa using List.all_eq_true.mp tested _ listed

/-- White space is part of no word. -/
theorem isWord_of_isSpace {c : Char} (space : isSpace c = true) : isWord c = false := by
  -- There are finitely many white characters, and each of them is looked at.
  have all : (!isWord c) = true :=
    forall_isSpace (fun c => !isWord c) (by decide +kernel) space
  simpa using all

/-- A character of a word is no white space. -/
theorem isSpace_of_isWord {c : Char} (word : isWord c = true) : isSpace c = false := by
  -- A character of both classes is impossible by the fact above.
  rw [← Bool.not_eq_true]
  intro space
  rw [isWord_of_isSpace space] at word
  cases word

/-- White space delimits no literal. -/
theorem isQuote_of_isSpace {c : Char} (space : isSpace c = true) : isQuote c = false := by
  -- There are finitely many white characters, and each of them is looked at.
  have all : (!isQuote c) = true :=
    forall_isSpace (fun c => !isQuote c) (by decide +kernel) space
  simpa using all

end SourceLint.Text
