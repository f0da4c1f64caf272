import Mathlib.Logic.Function.Basic
import OsExercises.Foundation.Text
import OsExercises.Foundation.Words

/-! # Formatted input

`fscanf` of words into an array of fixed size, and `strtol`. A word and a number
that `sprintf` has written are read back as they were. -/

namespace OsExercises

/-- `isspace` -/
def isSpace (character : Char) : Bool :=
  character ∈ [' ', '\t', '\n', '\x0b', '\x0c', '\r']

/-- A program that reads words: its array, and what is left of the input. -/
structure Scanner where
  buffer : Text
  stream : Text

/-- `fscanf(stream, "%s", buffer)` for an array of `capacity` characters. At the end of
the input the array keeps what it has; `none` where the word does not fit, with its
NUL. -/
def Scanner.scanWord (capacity : Nat) (scanner : Scanner) : Option Scanner :=
  match scanner.stream.dropWhile isSpace with
  | [] => some { buffer := scanner.buffer, stream := [] }
  | text =>
      let word := text.takeWhile (!isSpace ·)
      if word.length < capacity then
        some { buffer := word ++ [nul], stream := text.dropWhile (!isSpace ·) }
      else
        none

/-- The limits of a `long`. -/
def clampLong (value : Int) : Int :=
  max (-(2 ^ 63)) (min (2 ^ 63 - 1) value)

/-- The digits that start a text, as a number. -/
def leadingNumber (text : Text) : Nat :=
  Nat.ofDigitChars 10 (text.takeWhile Char.isDigit) 0

/-- `strtol(string, &endptr, 10)` -/
def strtol (string : Text) : Int :=
  match string.dropWhile isSpace with
  | '-' :: digits => clampLong (-(leadingNumber digits : Int))
  | '+' :: digits => clampLong (leadingNumber digits)
  | digits => clampLong (leadingNumber digits)

/-! ## Words -/

variable {before word rest : Text}

theorem Scanner.scanWord_word (capacity : Nat) (buffer : Text)
    (blanks : ∀ character ∈ before, isSpace character) (isWord : IsWord isSpace word)
    (ends : EndsWord isSpace rest) :
    Scanner.scanWord capacity { buffer := buffer, stream := before ++ (word ++ rest) } =
      if word.length < capacity then some { buffer := word ++ [nul], stream := rest }
      else none := by
  have found := dropWhile_blanks blanks isWord rest
  have split : word ++ rest ≠ [] := by
    simp [isWord.nonempty]
  unfold Scanner.scanWord
  split
  · next nothing => exact absurd (found.symm.trans nothing) split
  · rw [found, takeWhile_word isWord.solid ends, dropWhile_word isWord.solid ends]

/-- At the end of the input the array keeps what it has. -/
theorem Scanner.scanWord_end (capacity : Nat) {scanner : Scanner}
    (nothing : words isSpace scanner.stream = []) :
    scanner.scanWord capacity = some { buffer := scanner.buffer, stream := [] } := by
  have blank : ∀ letter ∈ scanner.stream, isSpace letter := by
    by_contra text
    have solid : ∃ letter ∈ scanner.stream, isSpace letter = false := by
      simpa using text
    rcases exists_firstWord solid with ⟨before, word, rest, stream, blanks, isWord, ends⟩
    rw [stream, words_next blanks isWord ends] at nothing
    cases nothing
  have skipped : scanner.stream.dropWhile isSpace = [] := List.dropWhile_eq_nil_iff.mpr blank
  unfold Scanner.scanWord
  rw [skipped]

/-- The first word of the input is read, if it fits. -/
theorem Scanner.scanWord_next (capacity : Nat) {scanner : Scanner} {first : Text}
    {others : List Text} (next : words isSpace scanner.stream = first :: others) :
    ∃ rest, words isSpace rest = others ∧ scanner.scanWord capacity =
      if first.length < capacity then some { buffer := first ++ [nul], stream := rest }
      else none := by
  have solid : ∃ letter ∈ scanner.stream, isSpace letter = false := by
    by_contra blank
    have blanks : ∀ letter ∈ scanner.stream, isSpace letter := by
      simpa using blank
    have nothing := words_blanks blanks []
    rw [List.append_nil, next] at nothing
    cases nothing
  rcases exists_firstWord solid with ⟨before, word, rest, stream, blanks, isWord, ends⟩
  have both := words_next blanks isWord ends
  rw [← stream, next, List.cons.injEq] at both
  refine ⟨rest, both.2.symm, ?_⟩
  have read := Scanner.scanWord_word capacity scanner.buffer blanks isWord ends
  rwa [← stream, ← both.1] at read

/-- What takes `count` words off the input, or all that are left, and fails exactly when
one of them does not fit. -/
def Scans {Local : Type*} (capacity : Nat) (scanner : Local → Scanner) (count : Nat)
    (read : Local → Option Local) : Prop :=
  ∀ state,
    (∀ next, read state = some next →
      (∀ word ∈ (words isSpace (scanner state).stream).take count, word.length < capacity) ∧
        words isSpace (scanner next).stream =
          (words isSpace (scanner state).stream).drop count) ∧
    (read state = none →
      ∃ word ∈ (words isSpace (scanner state).stream).take count, capacity ≤ word.length)

section Scans

variable {Local Item : Type*} {capacity count : Nat} {scanner : Local → Scanner}

theorem Scans.scanWord (capacity : Nat) {after : Local → Scanner → Local}
    (keeps : ∀ state left, scanner (after state left) = left) :
    Scans capacity scanner 1 fun state =>
      ((scanner state).scanWord capacity).map (after state) := by
  intro state
  beta_reduce
  cases next : words isSpace (scanner state).stream with
  | nil =>
      rw [Scanner.scanWord_end capacity next]
      simp [keeps]
  | cons first others =>
      rcases Scanner.scanWord_next capacity next with ⟨rest, others_eq, read⟩
      rw [read]
      by_cases fits : first.length < capacity
      · simp [fits, keeps, others_eq]
      · have long := Nat.le_of_not_lt fits
        simp [fits, long]

/-- A loop takes as many words as its rounds together. -/
theorem Scans.foldlM {read : Local → Item → Option Local}
    (each : ∀ item, Scans capacity scanner count (read · item)) (items : List Item) :
    Scans capacity scanner (items.length * count) (items.foldlM read) := by
  induction items with
  | nil =>
      intro state
      simp
  | cons item items induction =>
      intro state
      have sum : (item :: items).length * count = count + items.length * count := by
        rw [List.length_cons, Nat.succ_mul, Nat.add_comm]
      simp only [sum, List.take_add, List.mem_append, List.foldlM_cons, ← List.drop_drop]
      cases first : read state item with
      | none =>
          refine ⟨nofun, fun _ => ?_⟩
          rcases (each item state).2 first with ⟨word, member, long⟩
          exact ⟨word, .inl member, long⟩
      | some middle =>
          rcases (each item state).1 middle first with ⟨fit, left⟩
          rw [← left]
          constructor
          · intro next taken
            rcases (induction middle).1 next taken with ⟨others, rest⟩
            refine ⟨?_, rest⟩
            intro word member
            rcases member with here | later
            · exact fit word here
            · exact others word later
          · intro fails
            rcases (induction middle).2 fails with ⟨word, member, long⟩
            exact ⟨word, .inr member, long⟩

/-- Two nested loops that take a word in each round. -/
theorem Scans.loops {read : Local → Nat → Nat → Option Local}
    (each : ∀ i j, Scans capacity scanner 1 fun state => read state i j) (rows columns : Nat) :
    Scans capacity scanner (rows * columns) fun state =>
      (List.range rows).foldlM (fun state i =>
        (List.range columns).foldlM (fun state j => read state i j) state) state := by
  have row (i : Nat) : Scans capacity scanner columns fun state =>
      (List.range columns).foldlM (fun state j => read state i j) state := by
    have loop := Scans.foldlM (each i) (List.range columns)
    rwa [List.length_range, Nat.mul_one] at loop
  have loop := Scans.foldlM row (List.range rows)
  rwa [List.length_range] at loop

/-- The reader goes through exactly when the words fit. -/
theorem Scans.isSome_iff {read : Local → Option Local} (scans : Scans capacity scanner count read)
    (state : Local) :
    (∃ next, read state = some next) ↔
      ∀ word ∈ (words isSpace (scanner state).stream).take count, word.length < capacity := by
  constructor
  · intro complete
    rcases complete with ⟨next, taken⟩
    exact ((scans state).1 next taken).1
  · intro fit
    cases taken : read state with
    | some next => exact ⟨next, rfl⟩
    | none =>
        rcases (scans state).2 taken with ⟨word, member, long⟩
        exact absurd (fit word member) (Nat.not_lt.mpr long)

end Scans

/-! ## Numbers -/

theorem isSpace_of_isDigit {character : Char} (digit : character.isDigit) :
    isSpace character = false := by
  simp only [isSpace, List.mem_cons, List.not_mem_nil, or_false, decide_eq_false_iff_not, not_or]
  refine ⟨?_, ?_, ?_, ?_, ?_, ?_⟩ <;>
    · intro same
      subst same
      exact absurd digit (by decide)

theorem isWord_of_digits {digits : Text} (nonempty : digits ≠ [])
    (isDigits : ∀ character ∈ digits, character.isDigit) : IsWord isSpace digits where
  nonempty := nonempty
  solid character member := isSpace_of_isDigit (isDigits character member)

theorem nul_not_mem_digits {digits : Text}
    (isDigits : ∀ character ∈ digits, character.isDigit) : nul ∉ digits :=
  fun member => absurd (isDigits nul member) (by decide)

theorem isWord_decimal (value : Int) : IsWord isSpace (decimal value) := by
  have digits : IsWord isSpace (Nat.toDigits 10 value.natAbs) :=
    isWord_of_digits Nat.toDigits_ne_nil isDigit_toDigits
  unfold decimal
  split
  · constructor
    · simp
    · intro character member
      rcases List.mem_cons.mp member with rfl | member
      · decide
      · exact digits.solid character member
  · exact digits

theorem nul_not_mem_decimal (value : Int) : nul ∉ decimal value := by
  have digits : nul ∉ Nat.toDigits 10 value.natAbs := nul_not_mem_digits isDigit_toDigits
  unfold decimal
  split
  · rw [List.mem_cons, not_or]
    exact ⟨by decide, digits⟩
  · exact digits

theorem toDigits_injective : Function.Injective (Nat.toDigits 10) := by
  intro first second same
  rw [← Nat.ofDigitChars_ten_toDigits (n := first), same, Nat.ofDigitChars_ten_toDigits]

theorem decimal_injective : Function.Injective decimal := by
  have sign (value : Nat) (digits : Text) : '-' :: digits ≠ Nat.toDigits 10 value := by
    intro same
    have digit := @isDigit_toDigits value '-' (same ▸ List.mem_cons_self)
    exact absurd digit (by decide)
  intro first second same
  unfold decimal at same
  split at same
  · split at same
    · have digits := toDigits_injective (List.cons.inj same).2
      omega
    · exact absurd same (sign _ _)
  · split at same
    · exact absurd same.symm (sign _ _)
    · have digits := toDigits_injective same
      omega

theorem leadingNumber_toDigits (value : Nat) : leadingNumber (Nat.toDigits 10 value) = value := by
  have all : (Nat.toDigits 10 value).takeWhile Char.isDigit = Nat.toDigits 10 value :=
    List.takeWhile_eq_self_iff.mpr isDigit_toDigits
  rw [leadingNumber, all, Nat.ofDigitChars_ten_toDigits]

/-- No `long` is clamped, so `strtol` reads back what `"%ld"` has written. -/
theorem strtol_decimal {value : Int} (lower : -(2 ^ 63) ≤ value) (upper : value < 2 ^ 63) :
    strtol (decimal value) = value := by
  have noBlanks : (decimal value).dropWhile isSpace = decimal value := by
    have found := dropWhile_blanks (List.forall_mem_nil _) (isWord_decimal value) []
    simpa using found
  unfold strtol
  rw [noBlanks]
  by_cases negative : value < 0
  · have text : decimal value = '-' :: Nat.toDigits 10 value.natAbs := if_pos negative
    rw [text]
    simp only [leadingNumber_toDigits, clampLong]
    omega
  · have text : decimal value = Nat.toDigits 10 value.natAbs := if_neg negative
    have first : ∀ character ∈ (Nat.toDigits 10 value.natAbs).head?, character.isDigit :=
      fun character member => isDigit_toDigits character (List.mem_of_head? member)
    rw [text]
    split
    · next digits sign =>
        rw [sign] at first
        exact absurd (first '-' rfl) (by decide)
    · next digits sign =>
        rw [sign] at first
        exact absurd (first '+' rfl) (by decide)
    · rw [leadingNumber_toDigits, clampLong]
      omega

end OsExercises
