import Mathlib.Data.List.Basic
import Mathlib.Tactic.NormNum
import OsExercises.Foundation.Words

/-! # C strings

Character arrays are lists of characters; what C reads of one as a string ends
before its first NUL. -/

namespace OsExercises

abbrev Text := List Char

def nul : Char := Char.ofNat 0

/-- The string that starts an array. -/
def cString (array : Text) : Text :=
  array.takeWhile (· ≠ nul)

def strlen (array : Text) : Nat :=
  (cString array).length

theorem cString_append {text : Text} (noNul : nul ∉ text) (rest : Text) :
    cString (text ++ rest) = text ++ cString rest := by
  have inside : ∀ character ∈ text, decide (character ≠ nul) = true := by
    intro character member
    have different : character ≠ nul := fun same => noNul (same ▸ member)
    exact decide_eq_true different
  rw [cString, List.takeWhile_append_of_pos inside]
  rfl

theorem cString_append_nul {text : Text} (noNul : nul ∉ text) (rest : Text) :
    cString (text ++ nul :: rest) = text := by
  rw [cString_append noNul]
  simp [cString]

/-- A NUL at the end of an array is not part of the string. -/
theorem cString_append_end (text : Text) : cString (text ++ [nul]) = cString text := by
  induction text with
  | nil => rfl
  | cons character text induction =>
      simp only [cString, List.cons_append, List.takeWhile_cons] at induction ⊢
      split
      · rw [induction]
      · rfl

/-- An array with a NUL is a string, the NUL, and what is behind it. -/
theorem cString_append_behind {array : Text} (member : nul ∈ array) :
    array = cString array ++ nul :: array.drop (strlen array + 1) := by
  induction array with
  | nil => cases member
  | cons character array induction =>
      by_cases first : character = nul
      · subst first
        rfl
      · have later : nul ∈ array := by
          rcases List.mem_cons.mp member with same | later
          · exact absurd same.symm first
          · exact later
        have string : cString (character :: array) = character :: cString array :=
          List.takeWhile_cons_of_pos (by simpa using first)
        rw [strlen, string, List.length_cons, List.drop_succ_cons, List.cons_append]
        exact congrArg (character :: ·) (induction later)

theorem nul_not_mem_cString (array : Text) : nul ∉ cString array := by
  intro member
  have solid := List.mem_takeWhile_imp member
  simp at solid

/-! ## Words -/

/-- A member of the delimiters `" \n"`. -/
def isDelimiter (character : Char) : Bool :=
  character = ' ' ∨ character = '\n'

/-- `strtok(string, " \n")`: the first word, if there is one, and the text in
which `strtok(NULL, " \n")` looks for the next. -/
def strtok (string : Text) : Option (Text × Text) :=
  match string.dropWhile isDelimiter with
  | [] => none
  | text =>
      some (text.takeWhile (!isDelimiter ·), (text.dropWhile (!isDelimiter ·)).tail)

/-- What `strtok` leaves in the array: the first word now ends with a NUL. -/
def cutFirstWord (array : Text) : Text :=
  let string := cString array
  let word := (string.dropWhile isDelimiter).takeWhile (!isDelimiter ·)
  array.set ((string.takeWhile isDelimiter).length + word.length) nul

theorem strtok_eq_none_iff (string : Text) :
    strtok string = none ↔ ∀ character ∈ string, isDelimiter character := by
  rw [← List.dropWhile_eq_nil_iff]
  unfold strtok
  split
  · next nothing => simp [nothing]
  · next something =>
      constructor
      · intro found
        cases found
      · intro nothing
        exact absurd nothing something

theorem strtok_word {before word rest : Text}
    (blanks : ∀ character ∈ before, isDelimiter character) (isWord : IsWord isDelimiter word)
    (ends : EndsWord isDelimiter rest) :
    strtok (before ++ (word ++ rest)) = some (word, rest.tail) := by
  have found := dropWhile_blanks blanks isWord rest
  have split : word ++ rest ≠ [] := by
    simp [isWord.nonempty]
  unfold strtok
  split
  · next nothing => exact absurd (found.symm.trans nothing) split
  · rw [found, takeWhile_word isWord.solid ends, dropWhile_word isWord.solid ends]

/-- All words of a string. -/
def tokens (string : Text) : List Text := words isDelimiter string

/-- `strtok` finds the words one after the other. -/
theorem tokens_of_strtok {string word rest : Text} (found : strtok string = some (word, rest)) :
    tokens string = word :: tokens rest ∧ rest.length < string.length := by
  have solid : ∃ character ∈ string, isDelimiter character = false := by
    by_contra nothing
    have blanks : ∀ character ∈ string, isDelimiter character := by simpa using nothing
    rw [(strtok_eq_none_iff string).mpr blanks] at found
    cases found
  rcases exists_firstWord solid with ⟨before, first, behind, rfl, blanks, isWord, ends⟩
  rw [strtok_word blanks isWord ends] at found
  cases found
  constructor
  · rw [tokens, words_blanks blanks, words_word isWord ends]
    rfl
  · have nonempty := List.length_pos_of_ne_nil isWord.nonempty
    simp only [List.length_append, List.length_tail]
    omega

theorem tokens_of_no_strtok {string : Text} (nothing : strtok string = none) :
    tokens string = [] := by
  have blanks := words_blanks ((strtok_eq_none_iff string).mp nothing) []
  rw [List.append_nil] at blanks
  exact blanks

/-- A word, and a further one after a delimiter. -/
inductive HasTwoWords : Text → Prop
  | intro {before word : Text} {delimiter : Char} {rest : Text}
      (blanks : ∀ character ∈ before, isDelimiter character)
      (isWord : IsWord isDelimiter word) (separated : isDelimiter delimiter)
      (further : ∃ character ∈ rest, isDelimiter character = false) :
      HasTwoWords (before ++ (word ++ delimiter :: rest))

/-- The array after `strtok` has ended the first word with a NUL. -/
theorem cutFirstWord_word {before word rest behind : Text}
    (blanks : ∀ character ∈ before, isDelimiter character) (isWord : IsWord isDelimiter word)
    (ends : EndsWord isDelimiter rest) (noNul : nul ∉ before ++ (word ++ rest)) :
    cutFirstWord (before ++ (word ++ rest) ++ nul :: behind) =
      before ++ (word ++ nul :: (rest ++ nul :: behind).tail) := by
  have string := cString_append_nul noNul behind
  have blanksTaken : (before ++ (word ++ rest)).takeWhile isDelimiter = before := by
    rw [List.takeWhile_append_of_pos blanks]
    cases word with
    | nil => exact absurd rfl isWord.nonempty
    | cons letter word => simp [isWord.solid letter List.mem_cons_self]
  have place : before.length + word.length = (before ++ word).length := List.length_append.symm
  unfold cutFirstWord
  rw [string]
  simp only [blanksTaken, dropWhile_blanks blanks isWord, takeWhile_word isWord.solid ends, place]
  rw [← List.append_assoc before word rest, List.append_assoc (before ++ word),
    List.set_append_right _ _ le_rfl, Nat.sub_self, List.append_assoc]
  cases rest with
  | nil => rfl
  | cons letter rest => rfl

/-! ## Numbers -/

/-- The value of a 32-bit `int` that wraps around. -/
def int32 (value : Int) : Int :=
  Int.bmod value (2 ^ 32)

/-- `sprintf(text, "%d", value)` -/
def decimal (value : Int) : Text :=
  if value < 0 then '-' :: Nat.toDigits 10 value.natAbs else Nat.toDigits 10 value.natAbs

/-- The value of a `char`, which is signed. -/
def charValue (character : Char) : Int :=
  Int.bmod character.toNat (2 ^ 8)

theorem int32_of_bounds {value : Int} (lower : -(2 ^ 31) ≤ value) (upper : value < 2 ^ 31) :
    int32 value = value := by
  apply Int.bmod_eq_of_le
  · omega
  · omega

theorem int32_of_lt {value : Int} (nonneg : 0 ≤ value) (small : value < 2 ^ 31) :
    int32 value = value :=
  int32_of_bounds (by omega) small

/-- An overflow by less than `2 ^ 31` makes the value negative. -/
theorem int32_of_ge {value : Int} (large : 2 ^ 31 ≤ value) (small : value < 2 ^ 32) :
    int32 value = value - 2 ^ 32 := by
  have residue : value % ((2 ^ 32 : Nat) : Int) = value := Int.emod_eq_of_lt (by omega) (by omega)
  rw [int32, Int.bmod_def, residue, if_neg (by omega)]
  rfl

/-- It does not matter when a sum is wrapped. -/
theorem int32_add (left right : Int) : int32 (int32 left + right) = int32 (left + right) :=
  Int.bmod_add_bmod

theorem int32_lt (value : Int) : int32 value < 2 ^ 31 := by
  have upper : int32 value < ((2 ^ 32 : Nat) + 1 : Int) / 2 := Int.bmod_lt (by decide)
  omega

theorem natAbs_int32 (value : Int) : (int32 value).natAbs ≤ 2 ^ 31 := by
  have lower : -((2 ^ 32 : Nat) / 2 : Int) ≤ int32 value := Int.le_bmod (by decide)
  have upper := int32_lt value
  omega

theorem decimal_natCast (value : Nat) : decimal value = Nat.toDigits 10 value := by
  simp [decimal]

/-- An `int` has at most ten digits and a sign. -/
theorem length_decimal {value : Int} (small : value.natAbs ≤ 2 ^ 31) :
    (decimal value).length ≤ 11 := by
  have digits : (Nat.toDigits 10 value.natAbs).length ≤ 10 := by
    apply (Nat.length_toDigits_le_iff (by decide) (by decide)).mpr
    exact Nat.lt_of_le_of_lt small (by norm_num)
  unfold decimal
  split <;> simp <;> omega

theorem isDigit_toDigits {value : Nat} :
    ∀ character ∈ Nat.toDigits 10 value, character.isDigit :=
  fun _ member => Nat.isDigit_of_mem_toDigits (by decide) (by decide) member

end OsExercises
