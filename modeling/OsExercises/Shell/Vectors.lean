import OsExercises.Shell.Parsing

/-! # What the interpreters execute

Neither the shell of cw05/zad1 nor the one-command interpreter of cw03/zad2 compares the
tokens of a line with the size of its array, and `execvp` reads a row of the array up to
the first null pointer, wherever it is. -/

namespace OsExercises.Shell

open OsExercises

/-! ## The one-command interpreter -/

/-- `arguments[i] = tmp` with `arguments[10]`; `none` outside the bounds. -/
def storeArgument (arguments : Arguments) (i : Nat) (tmp : Text) : Option Arguments :=
  if i < 10 then some (Function.update arguments i (some tmp)) else none

/-- The loop of cw03/zad2, from `arguments[i]` on. -/
def readTokens (i : Nat) (arguments : Arguments) : Cursor → Option Arguments
  | none => some arguments
  | some (tmp, rest) =>
      (storeArgument arguments i tmp).bind fun arguments =>
        readTokens (i + 1) arguments (strtok rest)
termination_by cursor => remaining cursor
decreasing_by exact Nat.lt_succ_of_le (remaining_strtok rest)

def parseCommand (line : Text) : Option Arguments :=
  readTokens 0 (fun _ => none) (strtok (cString line))

section Command

variable {i : Nat} {cursor : Cursor}

theorem readTokens_inside (arguments : Arguments)
    (inside : i + (remainingTokens cursor).length ≤ 10) :
    readTokens i arguments cursor = some (fill arguments i (remainingTokens cursor)) := by
  induction i, arguments, cursor using readTokens.induct with
  | case1 i arguments => rw [readTokens, remainingTokens_none, fill_nil]
  | case2 i arguments tmp rest induction =>
      rw [remainingTokens_some, List.length_cons] at inside
      have next := induction (Function.update arguments i (some tmp))
      rw [remainingTokens_strtok] at next
      rw [readTokens, storeArgument, if_pos (by omega), Option.bind_some, next (by omega),
        fill_cons, remainingTokens_some]

theorem readTokens_outside (arguments : Arguments)
    (outside : 10 < i + (remainingTokens cursor).length) (below : i ≤ 10) :
    readTokens i arguments cursor = none := by
  induction i, arguments, cursor using readTokens.induct with
  | case1 i arguments =>
      rw [remainingTokens_none, List.length_nil] at outside
      omega
  | case2 i arguments tmp rest induction =>
      rw [remainingTokens_some, List.length_cons] at outside
      rw [readTokens, storeArgument]
      split
      · next room =>
          rw [Option.bind_some]
          exact induction _ (by rw [remainingTokens_strtok]; omega) (by omega)
      · rfl

end Command

/-! ## Vectors -/

/-- The strings that `execvp` finds from a place on, up to the null pointer, with `left`
entries of the array to go; `none` when it reads past the array. -/
def readVector (arguments : Arguments) : (left start : Nat) → Option (List Text)
  | 0, _ => none
  | left + 1, start =>
      match arguments start with
      | none => some []
      | some word => (readVector arguments left (start + 1)).map (word :: ·)

/-- The vector at a place of an array with `size` entries. -/
def vector (size : Nat) (arguments : Arguments) (start : Nat) : Option (List Text) :=
  readVector arguments (size - start) start

/-- Where the words are, the vector is these words if a null pointer follows in the array. -/
theorem readVector_eq_iff {arguments : Arguments} {left start : Nat} {words : List Text}
    (here : ∀ j, j < words.length → arguments (start + j) = words[j]?) :
    readVector arguments left start = some words ↔
      words.length < left ∧ arguments (start + words.length) = none := by
  induction words generalizing left start with
  | nil =>
      cases left with
      | zero => simp [readVector]
      | succ left => cases ends : arguments start <;> simp [readVector, ends]
  | cons word words induction =>
      have first : arguments start = some word := here 0 (Nat.succ_pos _)
      have further : ∀ j, j < words.length → arguments (start + 1 + j) = words[j]? := by
        intro j below
        have next := here (j + 1) (Nat.succ_lt_succ below)
        rwa [List.getElem?_cons_succ, Nat.add_comm j 1, ← Nat.add_assoc] at next
      cases left with
      | zero => simp [readVector]
      | succ left =>
          have rest : readVector arguments left (start + 1) = some words ↔
              words.length < left ∧ arguments (start + 1 + words.length) = none :=
            induction further
          rw [Nat.add_right_comm] at rest
          simpa [readVector, first, Nat.add_assoc] using rest

/-! ## Lines -/

inductive Interpreter
  /-- cw03/zad2 -/
  | oneCommand
  /-- cw05/zad1 -/
  | pipelines
  deriving DecidableEq

/-- The vectors handed to `execvp` for a line; `none` when a store is out of bounds. -/
def vectors : Interpreter → Text → Option (List (Option (List Text)))
  | .oneCommand, line => (parseCommand line).map fun arguments => [vector 10 arguments 0]
  | .pipelines, line =>
      (parseLine line).map fun (i, arguments) =>
        (List.range i).map fun s => vector 100 arguments (cell s 0)

/-- The commands of a line. A blank line has none. -/
def commands : Interpreter → Text → List (List Text)
  | .oneCommand, line => if tokens (cString line) = [] then [] else [tokens (cString line)]
  | .pipelines, line => programs line

/-- Every store is inside the bounds, and what is executed are the commands of the line,
each with a program name. -/
structure SafeLine (interpreter : Interpreter) (line : Text) : Prop where
  executed : vectors interpreter line = some ((commands interpreter line).map some)
  named : ∀ command ∈ commands interpreter line, command ≠ []

/-- Up to ten programs with up to nine arguments each, the name counted. The last program
may have ten when a row follows it. -/
structure FitsRows (parts : List (List Text)) : Prop where
  few : parts.length ≤ 10
  named : ∀ command ∈ parts, command ≠ []
  short : ∀ command ∈ parts.dropLast, command.length ≤ 9
  last : ∀ command ∈ parts.getLast?,
    command.length ≤ 9 ∨ command.length = 10 ∧ parts.length < 10

/-- The condition on a line. -/
def FitsLine : Interpreter → Text → Prop
  | .oneCommand, line =>
      1 ≤ (tokens (cString line)).length ∧ (tokens (cString line)).length ≤ 9
  | .pipelines, line => FitsRows (programs line)

/-! ### One command -/

theorem vectors_oneCommand (line : Text) :
    vectors .oneCommand line =
      if (tokens (cString line)).length ≤ 10 then
        some [vector 10 (fill (fun _ => none) 0 (tokens (cString line))) 0]
      else none := by
  rw [vectors, parseCommand, ← remainingTokens_strtok (cString line)]
  split
  · next few => rw [readTokens_inside _ (by omega)]; rfl
  · next many => rw [readTokens_outside _ (by omega) (Nat.zero_le _)]; rfl

/-- The words are followed by a null pointer unless they fill the array. -/
theorem vector_fill (words : List Text) :
    vector 10 (fill (fun _ => none) 0 words) 0 = some words ↔ words.length < 10 := by
  have here : ∀ j, j < words.length → fill (fun _ => none) 0 words (0 + j) = words[j]? := by
    intro j below
    rw [fill, if_pos (by omega), Nat.zero_add, Nat.sub_zero]
  have behind : fill (fun _ => none) 0 words (0 + words.length) = none := by
    rw [fill, if_neg (by omega)]
  rw [vector, readVector_eq_iff here]
  exact and_iff_left behind

theorem safeLine_oneCommand (line : Text) :
    SafeLine .oneCommand line ↔ FitsLine .oneCommand line := by
  have whole := vector_fill (tokens (cString line))
  constructor
  · intro safe
    have executed := safe.executed
    rw [vectors_oneCommand, commands] at executed
    by_cases blank : tokens (cString line) = []
    · simp [blank] at executed
    · rw [if_neg blank] at executed
      split at executed
      · have same : vector 10 (fill (fun _ => none) 0 (tokens (cString line))) 0 =
            some (tokens (cString line)) := by simpa using executed
        exact ⟨List.length_pos_of_ne_nil blank, Nat.le_of_lt_succ (whole.mp same)⟩
      · cases executed
  · intro fits
    have blank : tokens (cString line) ≠ [] := List.length_pos_iff.mp fits.1
    have few : (tokens (cString line)).length ≤ 10 := Nat.le_succ_of_le fits.2
    refine ⟨?_, ?_⟩
    · rw [vectors_oneCommand, commands, if_pos few, if_neg blank,
        whole.mpr (Nat.lt_succ_of_le fits.2)]
      rfl
    · rw [commands, if_neg blank]
      simpa using blank

/-! ### Pipelines -/

section Rows

variable {parts : List (List Text)}

/-- A row is followed by a null pointer, or by the next row. -/
theorem vector_layout {s : Nat} {command : List Text} (found : parts[s]? = some command)
    (short : command.length ≤ 10) :
    vector 100 (layout parts) (cell s 0) = some command ↔
      cell s command.length < 100 ∧ layout parts (cell s command.length) = none := by
  have here : ∀ j, j < command.length → layout parts (cell s 0 + j) = command[j]? := by
    intro j below
    exact rowHolds_layout found j (by omega)
  rw [vector, readVector_eq_iff here]
  simp only [cell, Nat.add_zero]
  constructor
  · intro ends
    exact ⟨by omega, ends.2⟩
  · intro ends
    exact ⟨by omega, ends.2⟩

/-- Behind a full row is the first word of the next one. -/
theorem layout_next (named : ∀ command ∈ parts, command ≠ []) (s : Nat) :
    layout parts (cell s 10) = none ↔ parts.length ≤ s + 1 := by
  have row : cell s 10 / 10 = s + 1 := by
    simp only [cell]
    omega
  have column : cell s 10 % 10 = 0 := by
    simp only [cell]
    omega
  rw [layout, row, column]
  cases found : parts[s + 1]? with
  | none => simpa using found
  | some command =>
      have nonempty := named command (List.mem_of_getElem? found)
      have below := (List.getElem?_eq_some_iff.mp found).1
      cases command with
      | nil => exact absurd rfl nonempty
      | cons word words => simpa using below

/-- A full row is the last one, and is followed by an empty one. -/
theorem FitsRows.row {s : Nat} {command : List Text} (fits : FitsRows parts)
    (found : parts[s]? = some command) :
    command.length ≤ 9 ∨ command.length = 10 ∧ s + 1 = parts.length ∧ parts.length < 10 := by
  have below := (List.getElem?_eq_some_iff.mp found).1
  by_cases last : s + 1 = parts.length
  · have isLast : parts.getLast? = some command := by
      rw [List.getLast?_eq_getElem?, ← last, Nat.add_sub_cancel, found]
    rcases fits.last command isLast with short | ⟨full, few⟩
    · exact .inl short
    · exact .inr ⟨full, last, few⟩
  · have inner : command ∈ parts.dropLast := by
      apply List.mem_of_getElem? (i := s)
      rw [List.getElem?_dropLast, if_pos (by omega), found]
    exact .inl (fits.short command inner)

theorem FitsRows.inside (fits : FitsRows parts) : AllInside 0 parts := by
  intro s command found _
  have below := (List.getElem?_eq_some_iff.mp found).1
  have few := fits.few
  have row := fits.row found
  omega

theorem FitsRows.vector_eq {s : Nat} {command : List Text} (fits : FitsRows parts)
    (found : parts[s]? = some command) :
    vector 100 (layout parts) (cell s 0) = some command := by
  have below := (List.getElem?_eq_some_iff.mp found).1
  have few := fits.few
  rcases fits.row found with short | ⟨full, last, room⟩
  · rw [vector_layout found (by omega), rowHolds_layout found command.length (by omega)]
    refine ⟨?_, List.getElem?_eq_none (Nat.le_refl _)⟩
    simp only [cell]
    omega
  · rw [vector_layout found (by omega), full, layout_next fits.named]
    refine ⟨?_, by omega⟩
    simp only [cell]
    omega

/-- A full row that is executed as it is, is the last one. -/
theorem full_last {s : Nat} {command : List Text} (named : ∀ command ∈ parts, command ≠ [])
    (found : parts[s]? = some command) (full : command.length = 10)
    (executed : vector 100 (layout parts) (cell s 0) = some command) :
    s + 1 = parts.length ∧ parts.length < 10 := by
  have below := (List.getElem?_eq_some_iff.mp found).1
  rw [vector_layout found (by omega), full, layout_next named] at executed
  rcases executed with ⟨room, last⟩
  simp only [cell] at room
  omega

theorem fitsRows_of_executed (named : ∀ command ∈ parts, command ≠ [])
    (inside : AllInside 0 parts)
    (executed : ∀ s command, parts[s]? = some command →
      vector 100 (layout parts) (cell s 0) = some command) : FitsRows parts where
  few := by
    by_contra many
    have found : parts[10]? = some parts[10] := List.getElem?_eq_getElem (by omega)
    have bounds := (inside 10 _ found (named _ (List.getElem_mem _))).1
    omega
  named := named
  short := by
    intro command member
    rcases List.mem_iff_getElem?.mp member with ⟨s, found⟩
    rw [List.getElem?_dropLast] at found
    split at found
    · next inner =>
        have bounds := (inside s command found (named _ (List.mem_of_getElem? found))).2
        by_contra long
        have last := full_last named found (by omega) (executed s command found)
        omega
    · cases found
  last := by
    intro command isLast
    have found : parts[parts.length - 1]? = some command := by
      rw [← List.getLast?_eq_getElem?]
      exact isLast
    have bounds := (inside _ command found (named _ (List.mem_of_getElem? found))).2
    by_cases short : command.length ≤ 9
    · exact .inl short
    · have full : command.length = 10 := by omega
      exact .inr ⟨full, (full_last named found full (executed _ command found)).2⟩

end Rows

theorem vectors_pipelines {line : Text} (inside : AllInside 0 (programs line)) :
    vectors .pipelines line =
      some ((List.range (programs line).length).map fun s =>
        vector 100 (layout (programs line)) (cell s 0)) := by
  rw [vectors, parseLine_inside inside]
  rfl

theorem safeLine_pipelines (line : Text) :
    SafeLine .pipelines line ↔ FitsLine .pipelines line := by
  constructor
  · intro safe
    have executed := safe.executed
    have inside : AllInside 0 (programs line) := by
      by_contra outside
      rw [vectors, parseLine_outside outside] at executed
      cases executed
    rw [vectors_pipelines inside, Option.some.injEq] at executed
    refine fitsRows_of_executed safe.named inside ?_
    intro s command found
    rcases List.getElem?_eq_some_iff.mp found with ⟨below, rfl⟩
    have entry := congrArg (fun list => list[s]?) executed
    simpa [commands, below] using entry
  · intro fits
    refine ⟨?_, fits.named⟩
    rw [vectors_pipelines fits.inside, Option.some.injEq]
    apply List.ext_getElem?
    intro s
    cases found : (programs line)[s]? with
    | none =>
        have beyond := List.getElem?_eq_none_iff.mp found
        simp [commands, Nat.not_lt.mpr beyond]
    | some command =>
        have executed := fits.vector_eq found
        rcases List.getElem?_eq_some_iff.mp found with ⟨below, rfl⟩
        simp [commands, below, executed]

/-- The interpreters execute the commands of a line exactly when they fit. -/
theorem safeLine_iff_fitsLine (interpreter : Interpreter) (line : Text) :
    SafeLine interpreter line ↔ FitsLine interpreter line := by
  cases interpreter with
  | oneCommand => exact safeLine_oneCommand line
  | pipelines => exact safeLine_pipelines line

/-- `"a a a a a a a a a a | b\n"` -/
def fullRow : Text :=
  (List.replicate 10 ['a', ' ']).flatten ++ ['|', ' ', 'b', '\n']

/-- On a blank line a null pointer is executed, and behind a full row `execvp` finds the
next program. -/
theorem unsafe_lines :
    vectors .oneCommand ['\n'] = some [some []] ∧ ¬ SafeLine .oneCommand ['\n'] ∧
      ¬ SafeLine .pipelines fullRow := by
  refine ⟨?_, ?_, ?_⟩
  · rw [vectors_oneCommand]
    decide
  · intro isSafe
    exact absurd ((safeLine_oneCommand _).mp isSafe).1 (by decide)
  · intro isSafe
    have fits : FitsRows (programs fullRow) := (safeLine_pipelines fullRow).mp isSafe
    exact absurd (fits.short (List.replicate 10 ['a']) (by decide)) (by decide)

end OsExercises.Shell
