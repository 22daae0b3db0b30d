import SourceLint.Proofs.Text.Class
import SourceLint.Proofs.Text.Span
import SourceLint.Text.Number

/-! Reading back numbers that are written with ASCII digits. -/

namespace SourceLint.Text

/-- One or more digits. -/
def IsDigits (text : Text) : Prop :=
  text ≠ [] ∧ ∀ c ∈ text, c.isDigit = true

/-- A point and the digits after it, or nothing. -/
def IsFraction (text : Text) : Prop :=
  text = [] ∨ ∃ digits, IsDigits digits ∧ text = '.' :: digits

/-- Digits are decimal digits. -/
theorem IsDigits.decimal {text : Text} (digits : IsDigits text) :
    ∀ c ∈ text, isDecimal c = true :=
  fun c member => isDecimal_of_isDigit (digits.2 c member)

/-- Digits are read up to the first character that is none. -/
theorem afterDigits?_append {digits rest : Text} (number : IsDigits digits)
    (stops : rest.head?.any isDecimal = false) : afterDigits? (digits ++ rest) = some rest := by
  obtain ⟨c, more, rfl⟩ := List.exists_cons_of_ne_nil number.1
  have decimal := number.decimal
  -- Behind the first digit the run goes on to the end of the digits.
  have others : more.dropWhile isDecimal = [] :=
    List.dropWhile_eq_nil_iff.mpr fun d member => decimal d (by simp [member])
  simp [afterDigits?, decimal c (by simp), dropWhile_append_stop stops, others]

/-- A number is read up to the end of its fraction. -/
theorem number?_append {digits fraction rest : Text} (number : IsDigits digits)
    (fractional : IsFraction fraction) (stops : rest.head?.any isDecimal = false)
    (pointless : rest.head? ≠ some '.') :
    number? (digits ++ (fraction ++ rest)) = some (digits ++ fraction, rest) := by
  obtain ⟨c, more, rfl⟩ := List.exists_cons_of_ne_nil number.1
  have decimal : ∀ d ∈ more, isDecimal d = true :=
    fun d member => number.decimal d (by simp [member])
  have first : isDecimal c = true := number.decimal c (by simp)
  have ended : more.takeWhile isDecimal = more := List.takeWhile_eq_self_iff.mpr decimal
  have left : more.dropWhile isDecimal = [] := List.dropWhile_eq_nil_iff.mpr decimal
  -- The digits after the first one end where the fraction or the rest starts.
  have tail : numberTail (more ++ (fraction ++ rest)) = more ++ fraction := by
    rcases fractional with rfl | ⟨places, parts, rfl⟩
    · -- Without a fraction the next character is no point.
      simp only [numberTail, List.nil_append, takeWhile_append_stop stops, ended,
        dropWhile_append_stop stops, left]
      split
      · simp_all
      · simp
    · -- A point and digits behind it belong to the number.
      have point : ('.' :: (places ++ rest)).head?.any isDecimal = false := by simp; decide
      have taken : places.takeWhile isDecimal = places :=
        List.takeWhile_eq_self_iff.mpr parts.decimal
      simp only [numberTail, List.cons_append, takeWhile_append_stop point, ended,
        dropWhile_append_stop point, left, List.nil_append, takeWhile_append_stop stops, taken]
      simp [parts.1]
  simp [number?, first, tail]

/-- A minus sign in front of digits is skipped. -/
theorem skipMinus_append {minus digits : Text} (sign : minus = [] ∨ minus = ['-'])
    (number : IsDigits digits) (rest : Text) :
    skipMinus (minus ++ (digits ++ rest)) = digits ++ rest := by
  -- Either there is no sign, or it is skipped.
  rcases sign with rfl | rfl
  · obtain ⟨c, more, rfl⟩ := List.exists_cons_of_ne_nil number.1
    -- A digit is no sign, so nothing is skipped.
    have digit : c ≠ '-' := by
      rintro rfl
      exact absurd (number.2 '-' (by simp)) (by decide)
    simp only [List.nil_append, List.cons_append, skipMinus]
    split
    · simp_all
    · rfl
  · rfl

end SourceLint.Text
