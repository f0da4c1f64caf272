import Mathlib.Data.List.TakeWhile

/-! # Words between blanks

Cutting the first word off a list. What counts as a blank is left open. -/

namespace OsExercises

/-- Characters are finitely many, but what holds of the letters of a text is decided
by going through the text and not through all characters. -/
instance (priority := 2000) decidableForallLetters {Letter : Type*} (property : Letter → Prop)
    [DecidablePred property] (letters : List Letter) :
    Decidable (∀ letter ∈ letters, property letter) :=
  List.decidableBAll property letters

variable {Letter : Type*} {blank : Letter → Bool} {before word rest : List Letter}

/-- A list that cannot continue a word. -/
def EndsWord (blank : Letter → Bool) (rest : List Letter) : Prop :=
  ∀ letter ∈ rest.head?, blank letter

structure IsWord (blank : Letter → Bool) (word : List Letter) : Prop where
  nonempty : word ≠ []
  solid : ∀ letter ∈ word, blank letter = false

theorem EndsWord.nil : EndsWord blank [] := by
  intro letter member
  cases member

theorem EndsWord.cons {letter : Letter} (isBlank : blank letter) (rest : List Letter) :
    EndsWord blank (letter :: rest) := by
  intro first member
  cases member
  exact isBlank

theorem EndsWord.dropWhile_eq (ends : EndsWord blank rest) :
    rest.dropWhile (!blank ·) = rest := by
  cases rest with
  | nil => rfl
  | cons letter rest => simp [ends letter rfl]

theorem EndsWord.takeWhile_eq (ends : EndsWord blank rest) :
    rest.takeWhile (!blank ·) = [] := by
  cases rest with
  | nil => rfl
  | cons letter rest => simp [ends letter rfl]

theorem dropWhile_blanks (blanks : ∀ letter ∈ before, blank letter) (isWord : IsWord blank word)
    (rest : List Letter) : (before ++ (word ++ rest)).dropWhile blank = word ++ rest := by
  rw [List.dropWhile_append_of_pos blanks]
  cases word with
  | nil => exact absurd rfl isWord.nonempty
  | cons letter word => simp [isWord.solid letter List.mem_cons_self]

theorem takeWhile_word (solid : ∀ letter ∈ word, blank letter = false)
    (ends : EndsWord blank rest) : (word ++ rest).takeWhile (!blank ·) = word := by
  rw [List.takeWhile_append_of_pos (by simpa using solid), ends.takeWhile_eq, List.append_nil]

theorem dropWhile_word (solid : ∀ letter ∈ word, blank letter = false)
    (ends : EndsWord blank rest) : (word ++ rest).dropWhile (!blank ·) = rest := by
  rw [List.dropWhile_append_of_pos (by simpa using solid), ends.dropWhile_eq]

/-- A list that is not blank starts with a word, after some blanks. -/
theorem exists_firstWord {letters : List Letter}
    (solid : ∃ letter ∈ letters, blank letter = false) :
    ∃ before word rest, letters = before ++ (word ++ rest) ∧ (∀ letter ∈ before, blank letter) ∧
      IsWord blank word ∧ EndsWord blank rest := by
  let text := letters.dropWhile blank
  have nonempty : text ≠ [] := by
    intro nothing
    rcases solid with ⟨letter, member, isSolid⟩
    have isBlank := List.dropWhile_eq_nil_iff.mp nothing letter member
    exact absurd (isSolid.symm.trans isBlank) (by decide)
  have first : blank (text.head nonempty) = false := by
    simpa using List.head_dropWhile_not blank nonempty
  refine ⟨letters.takeWhile blank, text.takeWhile (!blank ·), text.dropWhile (!blank ·), ?_, ?_,
    ⟨?_, ?_⟩, ?_⟩
  · rw [List.takeWhile_append_dropWhile, List.takeWhile_append_dropWhile]
  · exact fun letter member => List.mem_takeWhile_imp member
  · intro nothing
    have head : text = text.head nonempty :: text.tail := (List.cons_head_tail nonempty).symm
    rw [head, List.takeWhile_cons_of_pos (by simpa using first)] at nothing
    exact List.cons_ne_nil _ _ nothing
  · intro letter member
    simpa using List.mem_takeWhile_imp member
  · intro letter member
    have after := List.head?_dropWhile_not (!blank ·) text
    rw [Option.mem_def.mp member] at after
    simpa using after

/-! ## All words -/

/-- The maximal runs of letters that are not blank. -/
def words (blank : Letter → Bool) (letters : List Letter) : List (List Letter) :=
  (letters.splitOnP blank).filter (!·.isEmpty)

@[simp] theorem words_nil : words blank [] = [] := rfl

theorem words_blanks (blanks : ∀ letter ∈ before, blank letter) (letters : List Letter) :
    words blank (before ++ letters) = words blank letters := by
  induction before with
  | nil => rfl
  | cons letter before induction =>
      have isBlank := blanks letter List.mem_cons_self
      have later := induction fun other member => blanks other (List.mem_cons_of_mem letter member)
      rw [List.cons_append, words, List.splitOnP_cons_eq_if_modifyHead, if_pos isBlank]
      exact later

/-- The first word is followed by the words behind it. -/
theorem words_word (isWord : IsWord blank word) (ends : EndsWord blank rest) :
    words blank (word ++ rest) = word :: words blank rest.tail := by
  cases rest with
  | nil => simp [words, List.splitOnP_eq_singleton isWord.solid, isWord.nonempty]
  | cons letter rest =>
      rw [words, List.splitOnP_append_cons_of_forall_mem isWord.solid letter (ends letter rfl)]
      simp [isWord.nonempty, words]

/-- A letter that ends a word belongs to no word. -/
theorem words_tail (ends : EndsWord blank rest) : words blank rest.tail = words blank rest := by
  cases rest with
  | nil => rfl
  | cons letter rest =>
      have blanks : ∀ other ∈ [letter], blank other := by
        simpa using ends letter rfl
      exact (words_blanks blanks rest).symm

/-- The first word is found behind the blanks before it. -/
theorem words_next (blanks : ∀ letter ∈ before, blank letter) (isWord : IsWord blank word)
    (ends : EndsWord blank rest) :
    words blank (before ++ (word ++ rest)) = word :: words blank rest := by
  rw [words_blanks blanks, words_word isWord ends, words_tail ends]

/-! ## Segments -/

/-- The runs of items between separators. Behind the last separator there is a segment only
if there are items. -/
def segments {Item : Type*} (separator : Item → Bool) (items : List Item) : List (List Item) :=
  let parts := items.splitOnP separator
  match parts.getLast? with
  | some [] => parts.dropLast
  | _ => parts

section Segments

variable {Item : Type*} {separator : Item → Bool} {segment items : List Item} {item : Item}

@[simp] theorem segments_nil : segments separator [] = [] := rfl

/-- The last segment. -/
theorem segments_last (plain : ∀ item ∈ segment, separator item = false)
    (nonempty : segment ≠ []) : segments separator segment = [segment] := by
  cases segment with
  | nil => exact absurd rfl nonempty
  | cons item segment => simp [segments, List.splitOnP_eq_singleton plain]

/-- A segment that a separator ends. -/
theorem segments_append (plain : ∀ item ∈ segment, separator item = false)
    (separates : separator item) (items : List Item) :
    segments separator (segment ++ item :: items) = segment :: segments separator items := by
  have parts : items.splitOnP separator ≠ [] := List.splitOnP_ne_nil separator items
  unfold segments
  rw [List.splitOnP_append_cons_of_forall_mem plain item separates]
  cases split : items.splitOnP separator with
  | nil => exact absurd split parts
  | cons part others =>
      simp only [List.getLast?_cons_cons, List.dropLast_cons_cons]
      split <;> rfl

theorem segments_eq_singleton {items : List Item} (nonempty : items ≠ [])
    (whole : items.dropWhile (!separator ·) = []) :
    segments separator items = [items.takeWhile (!separator ·)] := by
  have plain : ∀ item ∈ items, (!separator item) = true := List.dropWhile_eq_nil_iff.mp whole
  rw [List.takeWhile_eq_self_iff.mpr plain]
  exact segments_last (by simpa using plain) nonempty

theorem segments_eq_cons {rest : List Item} (ends : items.dropWhile (!separator ·) = item :: rest) :
    segments separator items =
      items.takeWhile (!separator ·) :: segments separator rest := by
  have parts : items = items.takeWhile (!separator ·) ++ item :: rest := by
    rw [← ends, List.takeWhile_append_dropWhile]
  have separates : separator item = true := by
    have first := List.head?_dropWhile_not (!separator ·) items
    rw [ends] at first
    simpa using first
  have plain : ∀ other ∈ items.takeWhile (!separator ·), separator other = false := by
    intro other member
    simpa using List.mem_takeWhile_imp member
  calc segments separator items
    _ = segments separator (items.takeWhile (!separator ·) ++ item :: rest) := by rw [← parts]
    _ = items.takeWhile (!separator ·) :: segments separator rest :=
      segments_append plain separates rest

end Segments

end OsExercises
