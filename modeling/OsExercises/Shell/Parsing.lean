import OsExercises.Foundation.Text

/-! # The lines of the shell

Two nested loops of cw05/zad1 take the tokens of a line from one `strtok` cursor and
store them in `arguments`, one row for each program of a pipeline. -/

namespace OsExercises.Shell

open OsExercises

/-- `arguments[10][10]` in memory, row by row; `none` is a null pointer. -/
abbrev Arguments := Nat → Option Text

/-- The place of `arguments[i][j]`. -/
def cell (i j : Nat) : Nat := 10 * i + j

/-- What `strtok` has returned, `tmp` and where it goes on. -/
abbrev Cursor := Option (Text × Text)

/-- How much of the line is left. Every call of `strtok` consumes some of it. -/
def remaining : Cursor → Nat
  | none => 0
  | some (_, rest) => rest.length + 1

theorem remaining_strtok (string : Text) : remaining (strtok string) ≤ string.length := by
  cases found : strtok string with
  | none => exact Nat.zero_le _
  | some next => exact (tokens_of_strtok found).2

/-- `"|"` -/
def pipeSign : Text := ['|']

def isPipeSign (tmp : Text) : Bool :=
  tmp = pipeSign

/-- `arguments[i][j] = tmp`; `none` outside the bounds. -/
def store (arguments : Arguments) (i j : Nat) (tmp : Text) : Option Arguments :=
  if i < 10 ∧ j < 10 then some (Function.update arguments (cell i j) (some tmp)) else none

/-- The inner loop, from `arguments[i][j]` on. -/
def readSegment (i j : Nat) (arguments : Arguments) : Cursor → Option (Arguments × Cursor)
  | none => some (arguments, none)
  | some (tmp, rest) =>
      if isPipeSign tmp then some (arguments, some (tmp, rest))
      else
        (store arguments i j tmp).bind fun arguments =>
          readSegment i (j + 1) arguments (strtok rest)
termination_by cursor => remaining cursor
decreasing_by exact Nat.lt_succ_of_le (remaining_strtok rest)

theorem readSegment_remaining {i j : Nat} {arguments filled : Arguments}
    {cursor behind : Cursor}
    (read : readSegment i j arguments cursor = some (filled, behind)) :
    remaining behind ≤ remaining cursor := by
  induction j, arguments, cursor using readSegment.induct with
  | case1 j arguments =>
      rw [readSegment] at read
      cases read
      exact Nat.le_refl _
  | case2 j arguments tmp rest sign =>
      rw [readSegment, if_pos sign] at read
      cases read
      exact Nat.le_refl _
  | case3 j arguments tmp rest plain induction =>
      rw [readSegment, if_neg plain] at read
      rcases Option.bind_eq_some_iff.mp read with ⟨stored, _, read⟩
      calc remaining behind
        _ ≤ remaining (strtok rest) := induction stored read
        _ ≤ remaining (some (tmp, rest)) := Nat.le_succ_of_le (remaining_strtok rest)

/-- The outer loop, from row `i` on: `i` and `arguments` at its end. -/
def readSegments (i : Nat) (arguments : Arguments) (cursor : Cursor) :
    Option (Nat × Arguments) :=
  if cursor = none then some (i, arguments)
  else
    match read : readSegment i 0 arguments cursor with
    | none => none
    | some (arguments, none) => some (i + 1, arguments)
    | some (arguments, some (_, rest)) => readSegments (i + 1) arguments (strtok rest)
termination_by remaining cursor
decreasing_by
  exact Nat.lt_of_lt_of_le (Nat.lt_succ_of_le (remaining_strtok rest)) (readSegment_remaining read)

section Iteration

variable {i : Nat} {arguments filled : Arguments} {cursor : Cursor}

/-- One iteration of the outer loop. -/
theorem readSegments_more (more : cursor ≠ none) :
    readSegments i arguments cursor =
      (readSegment i 0 arguments cursor).bind fun result =>
        match result with
        | (filled, none) => some (i + 1, filled)
        | (filled, some (_, rest)) => readSegments (i + 1) filled (strtok rest) := by
  rw [readSegments, if_neg more]
  split
  · next stuck => rw [stuck, Option.bind_none]
  · next ends => rw [ends, Option.bind_some]
  · next goesOn => rw [goesOn, Option.bind_some]

theorem readSegments_of_none (more : cursor ≠ none)
    (stuck : readSegment i 0 arguments cursor = none) :
    readSegments i arguments cursor = none := by
  rw [readSegments_more more, stuck, Option.bind_none]

theorem readSegments_of_last (more : cursor ≠ none)
    (read : readSegment i 0 arguments cursor = some (filled, none)) :
    readSegments i arguments cursor = some (i + 1, filled) := by
  rw [readSegments_more more, read, Option.bind_some]

theorem readSegments_of_sign {tmp rest : Text} (more : cursor ≠ none)
    (read : readSegment i 0 arguments cursor = some (filled, some (tmp, rest))) :
    readSegments i arguments cursor = readSegments (i + 1) filled (strtok rest) := by
  rw [readSegments_more more, read, Option.bind_some]

end Iteration

/-- `i` and `arguments` for a line; `none` when a store is out of bounds. -/
def parseLine (line : Text) : Option (Nat × Arguments) :=
  readSegments 0 (fun _ => none) (strtok (cString line))

/-! ## The tokens of a line -/

/-- The programs of a line, each with its arguments. -/
def programs (line : Text) : List (List Text) :=
  segments isPipeSign (tokens (cString line))

def remainingTokens : Cursor → List Text
  | none => []
  | some (tmp, rest) => tmp :: tokens rest

@[simp] theorem remainingTokens_none : remainingTokens none = [] := rfl

@[simp] theorem remainingTokens_some (tmp rest : Text) :
    remainingTokens (some (tmp, rest)) = tmp :: tokens rest := rfl

@[simp] theorem remainingTokens_strtok (string : Text) :
    remainingTokens (strtok string) = tokens string := by
  cases found : strtok string with
  | none => exact (tokens_of_no_strtok found).symm
  | some next => exact (tokens_of_strtok found).1.symm

/-! ## The inner loop -/

/-- The words at consecutive places. -/
def fill (arguments : Arguments) (start : Nat) (segment : List Text) : Arguments := fun place =>
  if start ≤ place ∧ place < start + segment.length then segment[place - start]?
  else arguments place

theorem fill_nil (arguments : Arguments) (start : Nat) : fill arguments start [] = arguments := by
  funext place
  rw [fill, if_neg (by simp)]

theorem fill_cons (arguments : Arguments) (start : Nat) (word : Text) (segment : List Text) :
    fill (Function.update arguments start (some word)) (start + 1) segment =
      fill arguments start (word :: segment) := by
  funext place
  simp only [fill, List.length_cons]
  by_cases first : place = start
  · subst first
    rw [if_neg (by omega), if_pos (by omega), Function.update_self, Nat.sub_self]
    rfl
  · rw [Function.update_of_ne first]
    by_cases within : start + 1 ≤ place ∧ place < start + 1 + segment.length
    · have next : place - start = place - (start + 1) + 1 := by omega
      rw [if_pos within, if_pos (by omega), next, List.getElem?_cons_succ]
    · rw [if_neg within, if_neg (by omega)]

/-- The stores of a segment are inside the bounds. -/
def Inside (i j : Nat) (segment : List Text) : Prop :=
  segment ≠ [] → i < 10 ∧ j + segment.length ≤ 10

theorem Inside.cons {i j : Nat} {word : Text} {segment : List Text} :
    Inside i j (word :: segment) ↔ (i < 10 ∧ j < 10) ∧ Inside i (j + 1) segment := by
  simp only [Inside, ne_eq, reduceCtorEq, not_false_eq_true, true_implies, List.length_cons]
  constructor
  · intro bounds
    exact ⟨by omega, fun _ => by omega⟩
  · intro bounds
    by_cases empty : segment = []
    · subst empty
      simp only [List.length_nil]
      omega
    · have further := bounds.2 empty
      omega

section Segment

variable {i j : Nat} {cursor : Cursor}

/-- The inner loop stores the tokens up to the next `"|"`, and stops there. -/
theorem readSegment_inside (arguments : Arguments)
    (inside : Inside i j ((remainingTokens cursor).takeWhile (!isPipeSign ·))) :
    ∃ behind, readSegment i j arguments cursor =
        some (fill arguments (cell i j) ((remainingTokens cursor).takeWhile (!isPipeSign ·)),
          behind) ∧
      remainingTokens behind = (remainingTokens cursor).dropWhile (!isPipeSign ·) := by
  induction j, arguments, cursor using readSegment.induct with
  | case1 j arguments => exact ⟨none, by rw [readSegment]; simp [fill_nil], rfl⟩
  | case2 j arguments tmp rest sign =>
      refine ⟨some (tmp, rest), ?_, ?_⟩
      · rw [readSegment, if_pos sign]
        simp [sign, fill_nil]
      · simp [sign]
  | case3 j arguments tmp rest plain induction =>
      have plain : isPipeSign tmp = false := by simpa using plain
      simp only [remainingTokens_some, List.takeWhile_cons, List.dropWhile_cons, plain,
        Bool.not_false, if_true] at inside ⊢
      rcases Inside.cons.mp inside with ⟨bounds, further⟩
      rw [← remainingTokens_strtok] at further
      rcases induction _ further with ⟨behind, read, left⟩
      refine ⟨behind, ?_, ?_⟩
      · rw [readSegment, if_neg (by simp [plain]), store, if_pos bounds, Option.bind_some, read,
          remainingTokens_strtok, cell, cell, ← fill_cons]
        rfl
      · rw [left, remainingTokens_strtok]

/-- A segment that is too long makes it store out of bounds. -/
theorem readSegment_outside (arguments : Arguments)
    (outside : ¬ Inside i j ((remainingTokens cursor).takeWhile (!isPipeSign ·))) :
    readSegment i j arguments cursor = none := by
  induction j, arguments, cursor using readSegment.induct with
  | case1 j arguments => exact absurd (fun nonempty => absurd rfl nonempty) outside
  | case2 j arguments tmp rest sign =>
      refine absurd (fun nonempty => absurd ?_ nonempty) outside
      simp [sign]
  | case3 j arguments tmp rest plain induction =>
      rw [readSegment, if_neg plain]
      have plain : isPipeSign tmp = false := by simpa using plain
      simp only [remainingTokens_some, List.takeWhile_cons, plain, Bool.not_false,
        if_true] at outside
      rw [Inside.cons, ← remainingTokens_strtok rest] at outside
      by_cases bounds : i < 10 ∧ j < 10
      · rw [store, if_pos bounds, Option.bind_some]
        exact induction _ fun further => outside ⟨bounds, further⟩
      · rw [store, if_neg bounds]
        rfl

end Segment

/-! ## The outer loop -/

/-- The segments in the rows of an array that is empty otherwise. -/
def layout (parts : List (List Text)) : Arguments := fun place =>
  (parts[place / 10]?).bind fun segment => segment[place % 10]?

/-- The rows before `i` as they are, and the segments from there on. -/
def rows (i : Nat) (arguments : Arguments) (parts : List (List Text)) : Arguments := fun place =>
  if place < cell i 0 then arguments place else layout parts (place - cell i 0)

theorem rows_nil {i : Nat} {arguments : Arguments}
    (empty : ∀ place, cell i 0 ≤ place → arguments place = none) :
    rows i arguments [] = arguments := by
  funext place
  unfold rows
  split
  · rfl
  · next behind => rw [empty place (Nat.le_of_not_lt behind), layout]; rfl

/-- What is behind the row of a segment stays empty. -/
theorem fill_empty {i : Nat} {arguments : Arguments} {segment : List Text}
    (empty : ∀ place, cell i 0 ≤ place → arguments place = none) (inside : Inside i 0 segment)
    (place : Nat) (behind : cell (i + 1) 0 ≤ place) :
    fill arguments (cell i 0) segment place = none := by
  simp only [cell] at behind
  have short : segment.length ≤ 10 := by
    cases segment with
    | nil => exact Nat.zero_le _
    | cons word segment => have bounds := (inside (List.cons_ne_nil _ _)).2; omega
  have elsewhere : ¬ (cell i 0 ≤ place ∧ place < cell i 0 + segment.length) := by
    simp only [cell]
    omega
  rw [fill, if_neg elsewhere]
  exact empty place (by simp only [cell]; omega)

/-- One more row. -/
theorem rows_fill {i : Nat} {arguments : Arguments} {segment : List Text}
    (empty : ∀ place, cell i 0 ≤ place → arguments place = none) (parts : List (List Text)) :
    rows (i + 1) (fill arguments (cell i 0) segment) parts =
      rows i arguments (segment :: parts) := by
  funext place
  have next : cell (i + 1) 0 = cell i 0 + 10 := by
    simp only [cell]
    omega
  simp only [rows, fill, next]
  generalize cell i 0 = start at empty
  by_cases before : place < start
  · rw [if_pos (by omega), if_neg (by omega), if_pos before]
  · by_cases here : place < start + 10
    · have row : (place - start) / 10 = 0 := by omega
      have column : (place - start) % 10 = place - start := by omega
      rw [if_pos here, if_neg before, layout, row, column, List.getElem?_cons_zero,
        Option.bind_some]
      split
      · rfl
      · next behind =>
          rw [empty place (by omega)]
          exact (List.getElem?_eq_none (by omega)).symm
    · have row : (place - start) / 10 = (place - (start + 10)) / 10 + 1 := by omega
      have column : (place - start) % 10 = (place - (start + 10)) % 10 := by omega
      rw [if_neg here, if_neg before, layout, layout, row, column, List.getElem?_cons_succ]

/-- The stores of all segments, in the rows from `i` on, are inside the bounds. -/
def AllInside (i : Nat) (parts : List (List Text)) : Prop :=
  ∀ s segment, parts[s]? = some segment → Inside (i + s) 0 segment

theorem AllInside.cons {i : Nat} {segment : List Text} {parts : List (List Text)} :
    AllInside i (segment :: parts) ↔ Inside i 0 segment ∧ AllInside (i + 1) parts := by
  constructor
  · intro inside
    refine ⟨inside 0 segment rfl, ?_⟩
    intro s other found
    have further := inside (s + 1) other (by simpa using found)
    rwa [Nat.add_right_comm, Nat.add_assoc]
  · intro inside s other found
    cases s with
    | zero =>
        cases found
        exact inside.1
    | succ s =>
        have further := inside.2 s other (by simpa using found)
        rwa [Nat.add_right_comm, Nat.add_assoc] at further

section Segments

variable {i : Nat} {arguments : Arguments} {cursor : Cursor}

theorem remainingTokens_ne_nil (more : cursor ≠ none) : remainingTokens cursor ≠ [] := by
  cases cursor with
  | none => exact absurd rfl more
  | some next => exact List.cons_ne_nil _ _

/-- What one iteration stores, and what it leaves for the next ones. -/
theorem allInside_iff (more : cursor ≠ none) :
    AllInside i (segments isPipeSign (remainingTokens cursor)) ↔
      Inside i 0 ((remainingTokens cursor).takeWhile (!isPipeSign ·)) ∧
        AllInside (i + 1)
          (segments isPipeSign ((remainingTokens cursor).dropWhile (!isPipeSign ·)).tail) := by
  cases ends : (remainingTokens cursor).dropWhile (!isPipeSign ·) with
  | nil =>
      rw [segments_eq_singleton (remainingTokens_ne_nil more) ends]
      exact AllInside.cons
  | cons sign rest =>
      rw [segments_eq_cons ends]
      exact AllInside.cons

/-- The loops end with one row for each segment. -/
theorem readSegments_inside (empty : ∀ place, cell i 0 ≤ place → arguments place = none)
    (inside : AllInside i (segments isPipeSign (remainingTokens cursor))) :
    readSegments i arguments cursor =
      some (i + (segments isPipeSign (remainingTokens cursor)).length,
        rows i arguments (segments isPipeSign (remainingTokens cursor))) := by
  induction i, arguments, cursor using readSegments.induct with
  | case1 i arguments =>
      rw [readSegments, if_pos rfl]
      simp [rows_nil empty]
  | case2 i arguments cursor more stuck =>
      rcases readSegment_inside arguments ((allInside_iff more).mp inside).1 with
        ⟨behind, read, _⟩
      rw [stuck] at read
      cases read
  | case3 i arguments cursor more filled read =>
      have first := ((allInside_iff more).mp inside).1
      rcases readSegment_inside arguments first with ⟨behind, result, left⟩
      rw [read] at result
      cases result
      rw [readSegments_of_last more read, segments_eq_singleton (remainingTokens_ne_nil more)
        left.symm, ← rows_fill empty, rows_nil (fill_empty empty first)]
      rfl
  | case4 i arguments cursor more filled tmp rest read induction =>
      rcases (allInside_iff more).mp inside with ⟨first, later⟩
      rcases readSegment_inside arguments first with ⟨behind, result, left⟩
      rw [read] at result
      cases result
      rw [← left, remainingTokens_some, List.tail_cons, ← remainingTokens_strtok] at later
      rw [readSegments_of_sign more read, segments_eq_cons left.symm, ← rows_fill empty,
        induction (fill_empty empty first) later, remainingTokens_strtok, List.length_cons]
      congr 2
      omega

/-- A store out of bounds ends the loops. -/
theorem readSegments_outside
    (outside : ¬ AllInside i (segments isPipeSign (remainingTokens cursor))) :
    readSegments i arguments cursor = none := by
  induction i, arguments, cursor using readSegments.induct with
  | case1 i arguments =>
      refine absurd ?_ outside
      intro s segment found
      cases found
  | case2 i arguments cursor more stuck => exact readSegments_of_none more stuck
  | case3 i arguments cursor more filled read =>
      rw [allInside_iff more] at outside
      by_cases first : Inside i 0 ((remainingTokens cursor).takeWhile (!isPipeSign ·))
      · rcases readSegment_inside arguments first with ⟨behind, result, left⟩
        rw [read] at result
        cases result
        refine absurd ⟨first, ?_⟩ outside
        intro s segment found
        rw [← left] at found
        cases found
      · rw [readSegment_outside arguments first] at read
        cases read
  | case4 i arguments cursor more filled tmp rest read induction =>
      rw [allInside_iff more] at outside
      by_cases first : Inside i 0 ((remainingTokens cursor).takeWhile (!isPipeSign ·))
      · rcases readSegment_inside arguments first with ⟨behind, result, left⟩
        rw [read] at result
        cases result
        rw [readSegments_of_sign more read]
        apply induction
        intro later
        refine outside ⟨first, ?_⟩
        rwa [← left, remainingTokens_some, List.tail_cons, ← remainingTokens_strtok]
      · rw [readSegment_outside arguments first] at read
        cases read

end Segments

/-! ## A line -/

theorem parseLine_inside {line : Text} (inside : AllInside 0 (programs line)) :
    parseLine line = some ((programs line).length, layout (programs line)) := by
  rw [parseLine, programs, ← remainingTokens_strtok] at *
  have read := readSegments_inside (fun _ _ => rfl) inside
  rw [read, Nat.zero_add]
  rfl

theorem parseLine_outside {line : Text} (outside : ¬ AllInside 0 (programs line)) :
    parseLine line = none := by
  rw [programs, ← remainingTokens_strtok] at outside
  exact readSegments_outside outside

/-- `arguments[s]` holds the tokens of the segment, and null pointers behind them. -/
def RowHolds (arguments : Arguments) (s : Nat) (segment : List Text) : Prop :=
  ∀ j, j < 10 → arguments (cell s j) = segment[j]?

theorem rowHolds_layout {parts : List (List Text)} {s : Nat} {segment : List Text}
    (found : parts[s]? = some segment) : RowHolds (layout parts) s segment := by
  intro j below
  have row : cell s j / 10 = s := by
    simp only [cell]
    omega
  have column : cell s j % 10 = j := by
    simp only [cell]
    omega
  rw [layout, row, column, found, Option.bind_some]

/-- A line of at most ten programs with at most nine tokens each is parsed into them. -/
theorem line_parsed (line : Text) (few : (programs line).length ≤ 10)
    (short : ∀ segment ∈ programs line, segment.length ≤ 9) :
    ∃ arguments, parseLine line = some ((programs line).length, arguments) ∧
      ∀ s segment, (programs line)[s]? = some segment →
        RowHolds arguments s segment ∧ arguments (cell s segment.length) = none := by
  have inside : AllInside 0 (programs line) := by
    intro s segment found _
    have below := (List.getElem?_eq_some_iff.mp found).1
    have length := short segment (List.mem_of_getElem? found)
    omega
  refine ⟨layout (programs line), parseLine_inside inside, ?_⟩
  intro s segment found
  have holds := rowHolds_layout found
  have length := short segment (List.mem_of_getElem? found)
  refine ⟨holds, ?_⟩
  rw [holds segment.length (by omega)]
  exact List.getElem?_eq_none (Nat.le_refl _)

/-- `"ls -l | wc |\n"` -/
def countedListing : Text :=
  ['l', 's', ' ', '-', 'l', ' ', '|', ' ', 'w', 'c', ' ', '|', '\n']

theorem line_parsed_listing :
    programs countedListing = [[['l', 's'], ['-', 'l']], [['w', 'c']]] ∧
      ∃ arguments, parseLine countedListing = some (2, arguments) ∧
        ∀ s segment, (programs countedListing)[s]? = some segment →
          RowHolds arguments s segment ∧ arguments (cell s segment.length) = none :=
  ⟨by decide, line_parsed countedListing (by decide) (by decide)⟩

end OsExercises.Shell
