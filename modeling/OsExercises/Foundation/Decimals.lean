import Mathlib.Algebra.Order.Field.Rat
import Mathlib.Tactic.FieldSimp
import Mathlib.Tactic.Positivity
import OsExercises.Foundation.Text

/-! # Decimal fractions

What a reader makes of a number with a decimal point: each digit behind the point is
worth a tenth of the one before it. So a number of millionths can be printed behind the
point only with six digits. -/

namespace OsExercises

/-- The number that a word with a decimal point denotes. -/
def readDecimal (word : Text) : ℚ :=
  let whole := word.takeWhile (· ≠ '.')
  let fraction := (word.dropWhile (· ≠ '.')).tail
  Nat.ofDigitChars 10 whole 0 + Nat.ofDigitChars 10 fraction 0 / 10 ^ fraction.length

/-- A character that is in no number. -/
def notNumeral (character : Char) : Bool :=
  !(character.isDigit || character = '.')

/-- All numbers in a text. -/
def numbersIn (text : Text) : List ℚ :=
  (words notNumeral text).map readDecimal

theorem readDecimal_point {whole : Text} (isDigit : ∀ character ∈ whole, character.isDigit)
    (fraction : Text) :
    readDecimal (whole ++ '.' :: fraction) =
      Nat.ofDigitChars 10 whole 0 + Nat.ofDigitChars 10 fraction 0 / 10 ^ fraction.length := by
  have inside : ∀ character ∈ whole, decide (character ≠ '.') = true := by
    intro character member
    apply decide_eq_true
    intro point
    have digit := isDigit character member
    rw [point] at digit
    cases digit
  unfold readDecimal
  rw [List.takeWhile_append_of_pos inside, List.dropWhile_append_of_pos inside]
  simp

theorem readDecimal_toDigits (whole fraction : Nat) :
    readDecimal (Nat.toDigits 10 whole ++ '.' :: Nat.toDigits 10 fraction) =
      whole + fraction / 10 ^ (Nat.toDigits 10 fraction).length := by
  rw [readDecimal_point isDigit_toDigits, Nat.ofDigitChars_ten_toDigits,
    Nat.ofDigitChars_ten_toDigits]

/-! ## Millionths -/

/-- The digits of `fraction` behind the point denote `count` millionths. -/
theorem fraction_eq_millionths_iff {fraction count length : Nat} :
    (fraction : ℚ) / 10 ^ length = count / 10 ^ 6 ↔ fraction * 10 ^ 6 = count * 10 ^ length := by
  rw [div_eq_div_iff (by positivity) (by positivity)]
  exact_mod_cast Iff.rfl

theorem pow_length_le {number : Nat} (positive : 0 < number) :
    10 ^ (Nat.toDigits 10 number).length ≤ 10 * number := by
  rcases Nat.eq_or_lt_of_le (Nat.length_toDigits_pos (b := 10) (n := number)) with one | more
  · rw [← one]
    omega
  · have shorter : ¬ (Nat.toDigits 10 number).length ≤ (Nat.toDigits 10 number).length - 1 := by
      omega
    rw [Nat.length_toDigits_le_iff (by decide) (by omega)] at shorter
    have power : (Nat.toDigits 10 number).length = (Nat.toDigits 10 number).length - 1 + 1 := by
      omega
    rw [power, Nat.pow_succ]
    omega

/-- As many millionths are shown right when they have all six digits. -/
theorem millionths_shown_iff {count : Nat} (below : count < 10 ^ 6) :
    count * 10 ^ 6 = count * 10 ^ (Nat.toDigits 10 count).length ↔ count = 0 ∨ 10 ^ 5 ≤ count := by
  have most := (Nat.length_toDigits_le_iff (by decide) (by decide) (k := 6)).mpr below
  have fewer := Nat.length_toDigits_le_iff (b := 10) (n := count) (by decide) (by decide : 0 < 5)
  rw [mul_eq_mul_left_iff, Nat.pow_right_inj (by decide)]
  omega

/-- A number behind the point is not a number of less than a thousand millionths. -/
theorem number_shown_iff {number count : Nat} (few : count < 1000) :
    number * 10 ^ 6 = count * 10 ^ (Nat.toDigits 10 number).length ↔ number = 0 ∧ count = 0 := by
  constructor
  · intro same
    rcases Nat.eq_zero_or_pos number with zero | positive
    · subst zero
      rw [Nat.toDigits_zero, Nat.zero_mul] at same
      exact ⟨rfl, by simpa using same.symm⟩
    · have power := Nat.mul_le_mul_left count (pow_length_le positive)
      have less := Nat.mul_lt_mul_of_pos_right few positive
      rw [← same, ← Nat.mul_assoc, Nat.mul_right_comm] at power
      omega
  · intro zero
    rw [zero.1, zero.2, Nat.zero_mul, Nat.zero_mul]

/-! ## Texts with numbers -/

theorem numbersIn_blanks {text : Text} (blanks : ∀ character ∈ text, notNumeral character) :
    numbersIn text = [] := by
  have nothing := words_blanks blanks []
  rw [List.append_nil, words_nil] at nothing
  rw [numbersIn, nothing]
  rfl

/-- The first number in a text. -/
theorem numbersIn_number {before number rest : Text} {character : Char}
    (blanks : ∀ character ∈ before, notNumeral character) (isWord : IsWord notNumeral number)
    (ends : notNumeral character) :
    numbersIn (before ++ (number ++ character :: rest)) = readDecimal number :: numbersIn rest := by
  rw [numbersIn, words_blanks blanks, words_word isWord (EndsWord.cons ends rest)]
  rfl

end OsExercises
