import OsExercises.Foundation.Scanning
import OsExercises.MessageServer.Lines

/-! # Arithmetic from a line to its answer

A line with two numerals goes through the client's `strtok`, its copy from a fixed
place and its cut of the last character, then through the server's `strtok` and
`stringToInt`. The cut takes the newline off, or the last digit of the second operand
where the input ends without one. -/

namespace OsExercises.MessageServer

open OsExercises

/-! ## Numerals -/

/-- A decimal numeral, possibly with leading zeros. -/
structure IsNumeral (digits : Text) : Prop where
  nonempty : digits ≠ []
  isDigit : ∀ character ∈ digits, character.isDigit

namespace IsNumeral

variable {digits : Text}

theorem isWord (numeral : IsNumeral digits) : IsWord isDelimiter digits where
  nonempty := numeral.nonempty
  solid := by
    intro character member
    have digit := numeral.isDigit character member
    simp only [isDelimiter, decide_eq_false_iff_not, not_or]
    constructor
    · intro same
      subst same
      exact absurd digit (by decide)
    · intro same
      subst same
      exact absurd digit (by decide)

theorem dropLast (numeral : IsNumeral digits) (several : 2 ≤ digits.length) :
    IsNumeral digits.dropLast where
  nonempty := by
    apply List.ne_nil_of_length_pos
    rw [List.length_dropLast]
    omega
  isDigit character member := numeral.isDigit character ((digits.dropLast_sublist).subset member)

/-- The last digit is less than ten. -/
theorem value_dropLast (numeral : IsNumeral digits) :
    ∃ digit < 10, numeralValue digits = 10 * numeralValue digits.dropLast + digit := by
  have split := List.dropLast_append_getLast numeral.nonempty
  have bounds := toNat_of_isDigit (numeral.isDigit _ (List.getLast_mem numeral.nonempty))
  have zero : '0'.toNat = 48 := rfl
  refine ⟨(digits.getLast numeral.nonempty).toNat - '0'.toNat, by omega, ?_⟩
  rw [← numeralValue_append, split]

end IsNumeral

/-! ## Requests -/

/-- The operations that work in `int`. -/
inductive Operator
  | add
  | sub
  | mul
  deriving DecidableEq

namespace Operator

def mType : Operator → MessageType
  | .add => .add
  | .sub => .sub
  | .mul => .mul

def apply : Operator → Int → Int → Int
  | .add, a, b => a + b
  | .sub, a, b => a - b
  | .mul, a, b => a * b

theorem hasOperands (operator : Operator) : operator.mType.HasOperands := by
  cases operator <;> rfl

theorem operation_keyword (operator : Operator) :
    operation (keyword operator.mType) = some operator.mType := by
  cases operator <;> rfl

theorem answer_eq (operator : Operator) (library : CLibrary) (seconds : Nat) (msg : Text) :
    answer library seconds operator.mType msg =
      (operands msg).map fun (a, b) => decimal (int32 (operator.apply a b)) := by
  cases operator <;> rfl

theorem keyword_isWord (operator : Operator) : IsWord isDelimiter (keyword operator.mType) := by
  cases operator <;> exact ⟨by decide, by decide⟩

theorem nul_not_mem_keyword (operator : Operator) : nul ∉ keyword operator.mType := by
  cases operator <;> decide

/-- When a second operand that has lost its last digit gives the right result. -/
theorem apply_shortened {operator : Operator} {a b shortened digit : Nat} (small : digit < 10)
    (split : b = 10 * shortened + digit) (lower : -(2 ^ 31) ≤ operator.apply a b)
    (upper : operator.apply a b < 2 ^ 31) (fits : a < 2 ^ 31) :
    int32 (operator.apply a shortened) = operator.apply a b ↔
      b = 0 ∨ operator = .mul ∧ a = 0 := by
  cases operator with
  | add =>
      simp only [apply] at lower upper ⊢
      rw [int32_of_bounds (by omega) (by omega)]
      simp
      omega
  | sub =>
      simp only [apply] at lower upper ⊢
      rw [int32_of_bounds (by omega) (by omega)]
      simp
      omega
  | mul =>
      simp only [apply] at lower upper ⊢
      have less : (a : Int) * shortened ≤ a * b :=
        Int.mul_le_mul_of_nonneg_left (by omega) (by omega)
      have nonneg : 0 ≤ (a : Int) * shortened := Int.mul_nonneg (by omega) (by omega)
      rw [int32_of_bounds (by omega) (by omega)]
      by_cases zero : a = 0
      · simp [zero]
      · rw [mul_eq_mul_left_iff]
        simp only [zero, and_false, or_false, Int.natCast_eq_zero, Int.natCast_inj]
        omega

end Operator

/-- Blanks, the keyword and the operands, up to a newline or the end of the input. -/
def requestLine (spaces : Nat) (operator : Operator) (a b : Text) (newline : Bool) : Text :=
  List.replicate spaces ' ' ++ (keyword operator.mType ++
    ' ' :: (a ++ ' ' :: (b ++ if newline then ['\n'] else [])))

/-- What comes back for a line: the client's request, if there is one, reaches the
server unless it is too long, and is answered. -/
def exchange (library : CLibrary) (seconds : Nat) (buffer line : Text) : Option Text :=
  match parse (getline buffer line) with
  | .request mType msg =>
      if sizeofPid + msg.length + 1 ≤ maxMsgSize then answer library seconds mType msg else none
  | .crash | .wrongOperation => none

/-- The part of a request line that the server gets. -/
def receivedText (a b : Text) (newline : Bool) : Text :=
  a ++ ' ' :: if newline then b else b.dropLast

section Requests

variable {operator : Operator} {a b : Text}

theorem nul_not_mem_numeral {digits : Text} (numeral : IsNumeral digits) : nul ∉ digits :=
  nul_not_mem_digits numeral.isDigit

theorem requestLine_typed (operator : Operator) (isA : IsNumeral a) (isB : IsNumeral b)
    (buffer : Text) (spaces : Nat) (newline : Bool) :
    ∃ behind, Typed (getline buffer (requestLine spaces operator a b newline))
      (List.replicate spaces ' ') (keyword operator.mType)
      (' ' :: (a ++ ' ' :: (b ++ if newline then ['\n'] else []))) behind := by
  have noNulEnd : nul ∉ (if newline then ['\n'] else [] : Text) := by
    cases newline <;> decide
  have noNulSpaces : nul ∉ List.replicate spaces ' ' := by
    intro member
    exact absurd (List.eq_of_mem_replicate member) (by decide)
  have noNul : nul ∉ List.replicate spaces ' ' ++ (keyword operator.mType ++
      ' ' :: (a ++ ' ' :: (b ++ if newline then ['\n'] else []))) := by
    simp only [List.mem_append, List.mem_cons, not_or]
    exact ⟨noNulSpaces, operator.nul_not_mem_keyword, by decide, nul_not_mem_numeral isA,
      by decide, nul_not_mem_numeral isB, noNulEnd⟩
  have blanks : ∀ character ∈ List.replicate spaces ' ', isDelimiter character := by
    intro character member
    rw [List.eq_of_mem_replicate member]
    decide
  exact ⟨_,
    { array := rfl
      noNul := noNul
      blanks := blanks
      isWord := operator.keyword_isWord
      ends := EndsWord.cons (by decide) _ }⟩

theorem operands_two (isA : IsNumeral a) {second : Text}
    (isSecond : second = [] ∨ IsNumeral second) :
    operands (a ++ ' ' :: second) =
      if second = [] then none else some (stringToInt a, stringToInt second) := by
  have separated : EndsWord isDelimiter (' ' :: second) := EndsWord.cons (by decide) second
  have first := operands_word (List.forall_mem_nil _) isA.isWord separated
  rw [List.nil_append] at first
  rw [first, List.tail_cons]
  rcases isSecond with rfl | isSecond
  · rfl
  · have found := strtok_word (List.forall_mem_nil _) isSecond.isWord EndsWord.nil
    rw [List.nil_append, List.append_nil] at found
    rw [found, if_neg isSecond.nonempty]
    rfl

theorem length_receivedText (isB : IsNumeral b) (newline : Bool) :
    (receivedText a b newline).length = a.length + b.length + if newline then 1 else 0 := by
  have some := List.length_pos_iff.mpr isB.nonempty
  cases newline with
  | true => simp [receivedText, Nat.add_assoc]
  | false =>
      simp [receivedText]
      omega

/-- The operands that the server finds in what it gets. -/
theorem operands_receivedText (isA : IsNumeral a) (isB : IsNumeral b) (newline : Bool)
    (smallA : numeralValue a < 2 ^ 31) (smallB : numeralValue b < 2 ^ 31) :
    operands (receivedText a b newline) =
      if newline then some ((numeralValue a : Int), (numeralValue b : Int))
      else if 2 ≤ b.length then some ((numeralValue a : Int), (numeralValue b.dropLast : Int))
      else none := by
  rcases isB.value_dropLast with ⟨digit, _, split⟩
  have first := stringToInt_numeral isA.isDigit smallA
  cases newline with
  | true =>
      rw [receivedText, if_pos rfl, if_pos rfl, operands_two isA (.inr isB), if_neg isB.nonempty,
        first, stringToInt_numeral isB.isDigit smallB]
  | false =>
      rw [receivedText, if_neg (by decide), if_neg (by decide)]
      by_cases several : 2 ≤ b.length
      · have shorter := isB.dropLast several
        rw [if_pos several, operands_two isA (.inr shorter), if_neg shorter.nonempty, first,
          stringToInt_numeral shorter.isDigit (by omega)]
      · have nothing : b.dropLast = [] := by
          apply List.eq_nil_of_length_eq_zero
          rw [List.length_dropLast]
          omega
        rw [if_neg several, nothing, operands_two isA (.inl rfl), if_pos rfl]

/-- The cut takes the newline, or else a digit. -/
theorem dropLast_copied (isB : IsNumeral b) (newline : Bool) :
    (a ++ ' ' :: (b ++ if newline then ['\n'] else [])).dropLast = receivedText a b newline := by
  cases newline with
  | true =>
      have same : a ++ ' ' :: (b ++ ['\n']) = (a ++ ' ' :: b) ++ ['\n'] := by simp
      simp only [receivedText, if_true, same, List.dropLast_concat]
  | false =>
      have nonempty : ' ' :: b ≠ [] := List.cons_ne_nil _ _
      simp [receivedText, List.dropLast_append_of_ne_nil nonempty,
        List.dropLast_cons_of_ne_nil isB.nonempty]

theorem exchange_of_blanks (library : CLibrary) (seconds : Nat) (isA : IsNumeral a)
    (isB : IsNumeral b) (buffer : Text) {spaces : Nat} (some : spaces ≠ 0) (newline : Bool) :
    exchange library seconds buffer (requestLine spaces operator a b newline) = none := by
  rcases requestLine_typed operator isA isB buffer spaces newline with
    ⟨behind, typed⟩
  have notStart : List.replicate spaces ' ' ≠ [] := by simpa using some
  have missing : operands
      ((List.replicate spaces ' ' ++ keyword operator.mType).drop 4).dropLast = none := by
    by_contra found
    refine not_hasTwoWords typed.blanks typed.isWord ?_ ((operands_ne_none_iff _).mp found)
    exact (List.dropLast_sublist _).trans (List.drop_sublist _ _)
  rw [exchange, typed.parse_eq operator.operation_keyword,
    typed.payload_operands operator.hasOperands rfl, if_neg notStart]
  split
  · next mType msg request =>
      split at request
      · cases request
        rw [operator.answer_eq, missing]
        split <;> rfl
      · cases request
  · rfl
  · rfl

theorem exchange_of_start (library : CLibrary) (seconds : Nat) (isA : IsNumeral a)
    (isB : IsNumeral b) (buffer : Text) (newline : Bool) :
    exchange library seconds buffer (requestLine 0 operator a b newline) =
      if (receivedText a b newline).length ≤ 251 then
        (operands (receivedText a b newline)).map fun (first, second) =>
          decimal (int32 (operator.apply first second))
      else
        none := by
  rcases requestLine_typed operator isA isB buffer 0 newline with ⟨behind, typed⟩
  have length : (a ++ ' ' :: (b ++ if newline then ['\n'] else [])).length =
      (receivedText a b newline).length + 1 := by
    rw [← dropLast_copied isB newline, List.length_dropLast, Nat.sub_add_cancel]
    simp only [List.length_append, List.length_cons]
    omega
  have atStart : List.replicate 0 ' ' = [] := rfl
  rw [exchange, typed.parse_eq operator.operation_keyword,
    typed.payload_operands operator.hasOperands rfl, if_pos atStart, typed.arguments_cons,
    dropLast_copied isB newline, length]
  by_cases short : (receivedText a b newline).length ≤ 251
  · have copied : (receivedText a b newline).length + 1 < maxMsgSize := by
      simp only [maxMsgSize]
      omega
    have received : sizeofPid + (receivedText a b newline).length + 1 ≤ maxMsgSize := by
      simp only [sizeofPid, maxMsgSize]
      omega
    simp only [if_pos short, if_pos copied, if_pos received, operator.answer_eq]
  · have refused : ¬ sizeofPid + (receivedText a b newline).length + 1 ≤ maxMsgSize := by
      simp only [sizeofPid, maxMsgSize]
      omega
    rw [if_neg short]
    split
    · next mType msg request =>
        split at request
        · cases request
          rw [if_neg refused]
        · cases request
    · rfl
    · rfl

/-- The request lines that are answered with the right number. -/
structure Served (spaces : Nat) (operator : Operator) (a b : Text) (newline : Bool) : Prop where
  noBlanks : spaces = 0
  short : a.length + b.length + (if newline then 1 else 0) ≤ 251
  ended : newline = false → 2 ≤ b.length ∧
    (numeralValue b = 0 ∨ operator = .mul ∧ numeralValue a = 0)

theorem exchange_iff (library : CLibrary) (seconds : Nat) (buffer : Text) (spaces : Nat)
    (operator : Operator) {a b : Text} (isA : IsNumeral a) (isB : IsNumeral b) (newline : Bool)
    (smallA : numeralValue a < 2 ^ 31) (smallB : numeralValue b < 2 ^ 31)
    (lower : -(2 ^ 31) ≤ operator.apply (numeralValue a) (numeralValue b))
    (upper : operator.apply (numeralValue a) (numeralValue b) < 2 ^ 31) :
    exchange library seconds buffer (requestLine spaces operator a b newline) =
        some (decimal (operator.apply (numeralValue a) (numeralValue b))) ↔
      Served spaces operator a b newline := by
  rcases isB.value_dropLast with ⟨digit, small, split⟩
  have shortened := Operator.apply_shortened small split lower upper smallA
  by_cases atStart : spaces = 0
  · subst atStart
    rw [exchange_of_start library seconds isA isB buffer newline,
      length_receivedText isB newline, operands_receivedText isA isB newline smallA smallB]
    by_cases short : a.length + b.length + (if newline then 1 else 0) ≤ 251
    · rw [if_pos short]
      cases newline with
      | true =>
          simp only [if_true, Option.map_some, int32_of_bounds lower upper]
          exact ⟨fun _ => ⟨rfl, short, (nomatch ·)⟩, fun _ => trivial⟩
      | false =>
          rw [if_neg (by decide)]
          by_cases several : 2 ≤ b.length
          · rw [if_pos several, Option.map_some, Option.some_inj, decimal_injective.eq_iff,
              shortened]
            exact ⟨fun right => ⟨rfl, short, fun _ => ⟨several, right⟩⟩,
              fun served => (served.ended rfl).2⟩
          · rw [if_neg several]
            exact ⟨(nomatch ·),
              fun served => absurd (served.ended rfl).1 several⟩
    · rw [if_neg short]
      exact ⟨(nomatch ·), fun served => absurd served.short short⟩
  · rw [exchange_of_blanks library seconds isA isB buffer atStart newline]
    exact ⟨(nomatch ·), fun served => absurd served.noBlanks atStart⟩

end Requests

/-- Any library will do where no quotient and no time is asked for. -/
def someLibrary : CLibrary where
  quotient _ _ := []
  ctime _ := []
  length_quotient _ _ := Nat.zero_lt_succ 99
  length_ctime _ := Nat.zero_lt_succ 99

/-- `ADD 20 30`, ended by a newline -/
theorem exchange_iff_newline :
    exchange someLibrary 0 clearedArray (requestLine 0 .add ['2', '0'] ['3', '0'] true) =
        some (decimal 50) ↔
      Served 0 .add ['2', '0'] ['3', '0'] true :=
  exchange_iff someLibrary 0 clearedArray 0 .add ⟨by decide, by decide⟩ ⟨by decide, by decide⟩
    true (by decide) (by decide) (by decide) (by decide)

/-- `ADD 20 30` at the end of the input is answered with 23, and behind a blank not at all. -/
theorem exchange_wrong :
    exchange someLibrary 0 clearedArray (requestLine 0 .add ['2', '0'] ['3', '0'] false) =
        some (decimal 23) ∧
      exchange someLibrary 0 clearedArray (requestLine 1 .add ['2', '0'] ['3', '0'] true) =
        none ∧
      decimal 23 ≠ decimal 50 := by
  refine ⟨rfl, rfl, ?_⟩
  decide

end OsExercises.MessageServer
