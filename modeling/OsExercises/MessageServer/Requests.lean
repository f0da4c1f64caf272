import Mathlib.Data.List.Basic
import Mathlib.Data.List.Induction
import OsExercises.Foundation.Text

/-! # Requests of the message server

What the programs of cw06/zad1 and cw06/zad2 compute on strings: the client
turns a line into a request, the server turns the request into its answer. -/

namespace OsExercises.MessageServer

open OsExercises

def maxMsgSize : Nat := 256

def maxNoOfClients : Nat := 10

/-- `sizeof(getpid())` -/
def sizeofPid : Nat := 4

/-- `serverEnd` is the END of ipcutil.h. -/
inductive MessageType
  | start
  | mirror
  | add
  | mul
  | sub
  | div
  | time
  | serverEnd
  | stop
  deriving DecidableEq

/-! ## The server's side -/

def stringToInt (s : Text) : Int :=
  s.foldl (fun result character =>
    int32 (int32 (result * 10) + (charValue character - charValue '0'))) 0

/-- One iteration of the loop of MIRROR. -/
def swapEnds (msg : Text) (j : Nat) : Text :=
  let tmp := msg.getD j nul
  let msg := msg.set j (msg.getD (msg.length - j - 1) nul)
  msg.set (msg.length - j - 1) tmp

def mirror (msg : Text) : Text :=
  (List.range (msg.length / 2)).foldl swapEnds msg

/-- The operands of ADD, MUL, SUB and DIV. A missing one is a null pointer. -/
def operands (msg : Text) : Option (Int × Int) :=
  (strtok msg).bind fun (first, rest) =>
    (strtok rest).map fun (second, _) => (stringToInt first, stringToInt second)

/-- What the C library prints, where the model leaves it open. Neither text
comes near the size of a message. -/
structure CLibrary where
  /-- `"%f"` of the quotient of two `float` values -/
  quotient : Int → Int → Text
  /-- `ctime` of a number of seconds -/
  ctime : Nat → Text
  length_quotient : ∀ dividend divisor, (quotient dividend divisor).length < 100
  length_ctime : ∀ seconds, (ctime seconds).length < 100

/-- `"Division by zero!"` -/
def divisionByZero : Text :=
  ['D', 'i', 'v', 'i', 's', 'i', 'o', 'n', ' ', 'b', 'y', ' ', 'z', 'e', 'r', 'o', '!']

/-- The text that the matching case of the switch answers with. `none` where the
case sends no answer, or reads a missing operand. -/
def answer (library : CLibrary) (seconds : Nat) : MessageType → Text → Option Text
  | .mirror, msg => some (mirror msg)
  | .add, msg => (operands msg).map fun (a, b) => decimal (int32 (a + b))
  | .mul, msg => (operands msg).map fun (a, b) => decimal (int32 (a * b))
  | .sub, msg => (operands msg).map fun (a, b) => decimal (int32 (a - b))
  | .div, msg =>
      (operands msg).map fun (a, b) =>
        if b ≠ 0 then library.quotient a b else divisionByZero
  | .time, _ => some (library.ctime seconds)
  | .start, _ | .serverEnd, _ | .stop, _ => none

/-! ## The client's side -/

/-- The comparisons of the first word of a line. -/
def operation (fWord : Text) : Option MessageType :=
  if fWord = ['M', 'I', 'R', 'R', 'O', 'R'] then some .mirror
  else if fWord = ['A', 'D', 'D'] then some .add
  else if fWord = ['M', 'U', 'L'] then some .mul
  else if fWord = ['S', 'U', 'B'] then some .sub
  else if fWord = ['D', 'I', 'V'] then some .div
  else if fWord = ['T', 'I', 'M', 'E'] then some .time
  else if fWord = ['E', 'N', 'D'] then some .serverEnd
  else none

/-- The string that is copied into the message. It starts at a fixed place of the
buffer, wherever the first word was found. -/
def payload (mType : MessageType) (buffer : Text) : Text :=
  match mType with
  | .mirror => cString (buffer.drop 7)
  | .add | .mul | .sub | .div => cString (buffer.drop 4)
  | _ => [' ']

/-- What a line makes the client do. -/
inductive Parsed
  /-- `strcmp` of a null pointer, or `strcpy` of more than the message holds -/
  | crash
  | wrongOperation
  | request (mType : MessageType) (msg : Text)

/-- The last character of the payload is cut off. In an empty one the NUL goes to
the byte before the message, the highest of the pid, which is 0 anyway. -/
def parse (buffer : Text) : Parsed :=
  match strtok (cString buffer) with
  | none => .crash
  | some (fWord, _) =>
      match operation fWord with
      | none => .wrongOperation
      | some mType =>
          let msg := payload mType (cutFirstWord buffer)
          if msg.length < maxMsgSize then .request mType msg.dropLast else .crash

/-- `getline` overwrites the start of the buffer. -/
def getline (buffer line : Text) : Text :=
  line ++ nul :: buffer.drop (line.length + 1)

/-! ## Numerals -/

def numeralValue (digits : Text) : Nat := Nat.ofDigitChars 10 digits 0

theorem toNat_of_isDigit {character : Char} (digit : character.isDigit) :
    48 ≤ character.toNat ∧ character.toNat ≤ 57 := by
  simpa [Char.isDigit, UInt32.le_iff_toNat_le] using digit

theorem charValue_of_isDigit {character : Char} (digit : character.isDigit) :
    charValue character - charValue '0' = (character.toNat - '0'.toNat : Nat) := by
  have bounds := toNat_of_isDigit digit
  have value : charValue character = character.toNat := by
    apply Int.bmod_eq_of_le <;> omega
  have zero : charValue '0' = 48 := by decide
  have zeroNat : '0'.toNat = 48 := rfl
  rw [value, zero, zeroNat]
  omega

theorem numeralValue_append (digits : Text) (last : Char) :
    numeralValue (digits ++ [last]) = 10 * numeralValue digits + (last.toNat - '0'.toNat) := by
  simp [numeralValue, Nat.ofDigitChars_append, Nat.ofDigitChars_cons]

theorem stringToInt_append (first : Text) (last : Char) :
    stringToInt (first ++ [last]) =
      int32 (int32 (stringToInt first * 10) + (charValue last - charValue '0')) := by
  simp [stringToInt]

/-- One more digit, as long as the number stays an `int`. -/
theorem int32_appendDigit {previous digit : Nat}
    (small : previous * 10 + digit < 2 ^ 31) :
    int32 (int32 ((previous : Int) * 10) + digit) = (previous * 10 + digit : Nat) := by
  have shifted : int32 ((previous : Int) * 10) = previous * 10 :=
    int32_of_lt (by omega) (by omega)
  rw [shifted, int32_of_lt (by omega) (by omega)]
  push_cast
  rfl

/-- The hand-written conversion, as long as the number is an `int`. -/
theorem stringToInt_numeral {digits : Text} (isDigit : ∀ character ∈ digits, character.isDigit)
    (small : numeralValue digits < 2 ^ 31) : stringToInt digits = numeralValue digits := by
  induction digits using List.reverseRecOn with
  | nil => rfl
  | append_singleton digits last induction =>
      rw [numeralValue_append] at small
      rw [List.forall_mem_append] at isDigit
      have digit := charValue_of_isDigit (isDigit.2 last List.mem_cons_self)
      rw [stringToInt_append, induction isDigit.1 (by omega), digit,
        int32_appendDigit (by omega), numeralValue_append, Nat.mul_comm]

/-! ## The identifier of a private queue survives its way as a text -/

theorem stringToInt_toDigits (value : Nat) (small : value < 2 ^ 31) :
    stringToInt (Nat.toDigits 10 value) = value := by
  have number : numeralValue (Nat.toDigits 10 value) = value := Nat.ofDigitChars_ten_toDigits
  rw [stringToInt_numeral isDigit_toDigits (by rwa [number]), number]

theorem stringToInt_decimal {value : Nat} (small : value < 2 ^ 31) :
    stringToInt (decimal value) = value := by
  rw [decimal_natCast]
  exact stringToInt_toDigits value small

/-! ## Conversions without overflow -/

/-- The conversion returns the value, and no operation on the way to it overflows.
`stringToInt front` is `result` before the iteration for the digit behind `front`. -/
structure ConvertsTo (s : Text) (value : Int) : Prop where
  result : stringToInt s = value
  products : ∀ front digit back, s = front ++ digit :: back →
    -(2 ^ 31) ≤ stringToInt front * 10 ∧ stringToInt front * 10 < 2 ^ 31
  sums : ∀ front digit back, s = front ++ digit :: back →
    -(2 ^ 31) ≤ stringToInt front * 10 + (charValue digit - charValue '0') ∧
      stringToInt front * 10 + (charValue digit - charValue '0') < 2 ^ 31

/-- More digits do not make a number smaller. -/
theorem numeralValue_front_le (front back : Text) :
    numeralValue front ≤ numeralValue (front ++ back) :=
  calc numeralValue front
    _ ≤ 10 ^ back.length * numeralValue front :=
      Nat.le_mul_of_pos_left _ (Nat.pow_pos (by decide))
    _ ≤ 10 ^ back.length * numeralValue front + numeralValue back := Nat.le_add_right _ _
    _ = numeralValue (front ++ back) := by
      rw [numeralValue, numeralValue, numeralValue, Nat.ofDigitChars_append]
      exact Nat.ofDigitChars_eq_ofDigitChars_zero.symm

/-- Before each digit there is a shorter numeral, so the largest number comes last. -/
theorem stringToInt_front {front back : Text} {digit : Char}
    (isDigit : ∀ character ∈ front ++ digit :: back, character.isDigit)
    (small : numeralValue (front ++ digit :: back) < 2 ^ 31) :
    ∃ previous next : Nat, stringToInt front = previous ∧
      charValue digit - charValue '0' = next ∧ previous * 10 + next < 2 ^ 31 := by
  rw [List.forall_mem_append, List.forall_mem_cons] at isDigit
  have through := numeralValue_front_le (front ++ [digit]) back
  rw [List.append_assoc, List.singleton_append, numeralValue_append] at through
  exact ⟨numeralValue front, digit.toNat - '0'.toNat,
    stringToInt_numeral isDigit.1 (by omega), charValue_of_isDigit isDigit.2.1, by omega⟩

theorem convertsTo_numeral {digits : Text} (isDigit : ∀ character ∈ digits, character.isDigit)
    (small : numeralValue digits < 2 ^ 31) : ConvertsTo digits (numeralValue digits) where
  result := stringToInt_numeral isDigit small
  products := by
    intro front digit back parts
    subst parts
    rcases stringToInt_front isDigit small with ⟨previous, next, before, _, bound⟩
    omega
  sums := by
    intro front digit back parts
    subst parts
    rcases stringToInt_front isDigit small with ⟨previous, next, before, last, bound⟩
    omega

theorem numeralValue_leadingZeros (zeros : Nat) (digits : Text) :
    numeralValue (List.replicate zeros '0' ++ digits) = numeralValue digits := by
  rw [numeralValue, numeralValue, Nat.ofDigitChars_append, Nat.ofDigitChars_replicate_zero,
    Nat.mul_zero]

/-- What `sprintf` makes of a number is converted back, also with zeros before it. -/
theorem convertsTo_decimal (zeros : Nat) {value : Nat} (small : value < 2 ^ 31) :
    ConvertsTo (List.replicate zeros '0' ++ decimal value) value := by
  have number : numeralValue (List.replicate zeros '0' ++ decimal value) = value := by
    rw [numeralValue_leadingZeros, decimal_natCast]
    exact Nat.ofDigitChars_ten_toDigits
  have isDigit : ∀ character ∈ List.replicate zeros '0' ++ decimal value,
      character.isDigit := by
    rw [List.forall_mem_append, decimal_natCast]
    refine ⟨?_, isDigit_toDigits⟩
    intro character member
    rw [List.eq_of_mem_replicate member]
    decide
  have converted := convertsTo_numeral isDigit (by rwa [number])
  rwa [number] at converted

/-- The largest `int` behind two zeros. -/
theorem convertsTo_decimal_largest :
    ConvertsTo (List.replicate 2 '0' ++ decimal (2147483647 : Nat)) (2147483647 : Nat) :=
  convertsTo_decimal 2 (by decide)

/-! ## MIRROR -/

@[simp] theorem length_swapEnds (msg : Text) (j : Nat) :
    (swapEnds msg j).length = msg.length := by
  simp [swapEnds]

theorem getD_swapEnds (msg : Text) (j index : Nat) (inside : index < msg.length)
    (before : j < msg.length / 2) :
    (swapEnds msg j).getD index nul =
      if index = j ∨ index = msg.length - j - 1 then
        msg.getD (msg.length - index - 1) nul
      else
        msg.getD index nul := by
  have here : msg.length - j - 1 < msg.length := by omega
  have back : msg.length - (msg.length - j - 1) - 1 = j := by omega
  simp only [swapEnds, List.length_set, List.getD_eq_getElem?_getD, List.getElem?_set]
  grind

/-- After `count` iterations the first and the last `count` characters have
changed places. -/
theorem getD_mirrorLoop (msg : Text) (count index : Nat) (inside : index < msg.length)
    (short : count ≤ msg.length / 2) :
    ((List.range count).foldl swapEnds msg).length = msg.length ∧
      ((List.range count).foldl swapEnds msg).getD index nul =
        if index < count ∨ msg.length - count ≤ index then
          msg.getD (msg.length - index - 1) nul
        else
          msg.getD index nul := by
  induction count generalizing index with
  | zero => simp; omega
  | succ count induction =>
      have length := (induction index inside (by omega)).1
      rw [List.range_succ, List.foldl_append, List.foldl_cons, List.foldl_nil]
      refine ⟨by rw [length_swapEnds, length], ?_⟩
      rw [getD_swapEnds _ _ _ (by omega) (by omega), length]
      have here := (induction index inside (by omega)).2
      have opposite := (induction (msg.length - index - 1) (by omega) (by omega)).2
      grind

theorem mirror_eq_reverse (msg : Text) : mirror msg = msg.reverse := by
  cases msg with
  | nil => rfl
  | cons first rest =>
      have length : (mirror (first :: rest)).length = (first :: rest).length :=
        (getD_mirrorLoop (first :: rest) _ 0 (by simp) (Nat.le_refl _)).1
      apply List.ext_getElem
      · rw [length, List.length_reverse]
      · intro index inside _
        have here : index < (first :: rest).length := length ▸ inside
        have swapped := (getD_mirrorLoop (first :: rest) _ index here (Nat.le_refl _)).2
        have same : (mirror (first :: rest)).getD index nul =
            (first :: rest).getD ((first :: rest).length - index - 1) nul := by
          rw [mirror, swapped]
          grind
        rw [List.getElem_reverse]
        grind

/-! ## Sizes -/

/-- An answer is no longer than its request, or short. -/
theorem length_answer {library : CLibrary} {seconds : Nat} {mType : MessageType}
    {msg text : Text} (answered : answer library seconds mType msg = some text) :
    text.length ≤ max msg.length 100 := by
  have int (value : Int) : (decimal (int32 value)).length ≤ 100 :=
    Nat.le_trans (length_decimal (natAbs_int32 value)) (by decide)
  cases mType with
  | mirror =>
      cases answered
      simp [mirror_eq_reverse]
  | time =>
      cases answered
      exact Nat.le_trans (Nat.le_of_lt (library.length_ctime seconds)) (Nat.le_max_right _ _)
  | add | mul | sub =>
      rcases Option.map_eq_some_iff.mp answered with ⟨⟨a, b⟩, _, rfl⟩
      exact Nat.le_trans (int _) (Nat.le_max_right _ _)
  | div =>
      rcases Option.map_eq_some_iff.mp answered with ⟨⟨a, b⟩, _, rfl⟩
      apply Nat.le_trans _ (Nat.le_max_right _ _)
      change (if b ≠ 0 then library.quotient a b else divisionByZero).length ≤ 100
      split
      · exact Nat.le_of_lt (library.length_quotient a b)
      · decide
  | start | serverEnd | stop => cases answered

end OsExercises.MessageServer
