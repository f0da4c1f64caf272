import OsExercises.Shell.Steps

/-! # The pipes that the shell has open

The ends of the last one or two pipes, in the two entries of `pipes`, and what it has
inherited. -/

namespace OsExercises.Shell

open OsExercises

variable {line : Line}

/-- The pipes with an open end, oldest first. -/
structure Window where
  readFrom : Nat
  writeFrom : Nat
  upTo : Nat

/-- What is open before a statement of the shell. -/
def ParentPc.window : ParentPc → Window
  | .test j | .closeRead j | .closeOlderRead j => ⟨j - 2, j - 2, j⟩
  | .closeWrite j | .closeOlderWrite j => ⟨j - 1, j - 2, j⟩
  | .pipe j | .closeNewerRead j => ⟨j - 1, j - 1, j⟩
  | .fork j => ⟨j - 1, j - 1, j + 1⟩
  | .closeNewerWrite j => ⟨j, j - 1, j⟩
  | .waitpid j => ⟨j, j, j⟩

/-- The descriptor of each file in the shell. -/
def placeAt (line : Line) (window : Window) (pipes : Nat → PipeEnds) : File → Option Int
  | .inherited descriptor => if line.opened descriptor then some descriptor else none
  | .readEnd k =>
      if window.readFrom ≤ k ∧ k < window.upTo then some (pipes (k % 2)).input else none
  | .writeEnd k =>
      if window.writeFrom ≤ k ∧ k < window.upTo then some (pipes (k % 2)).output else none

variable {pipes : Nat → PipeEnds}

theorem placeAt_closeRead {k writeFrom upTo : Nat} :
    Function.update (placeAt line ⟨k, writeFrom, upTo⟩ pipes) (.readEnd k) none =
      placeAt line ⟨k + 1, writeFrom, upTo⟩ pipes := by
  funext file
  cases file with
  | inherited | writeEnd => rfl
  | readEnd other =>
      by_cases same : other = k
      · subst same
        simp only [Function.update_self, placeAt, Nat.not_succ_le_self, false_and, if_false]
      · have later : k ≤ other ↔ k + 1 ≤ other := by omega
        simp [placeAt, same, later]

theorem placeAt_closeWrite {k readFrom upTo : Nat} :
    Function.update (placeAt line ⟨readFrom, k, upTo⟩ pipes) (.writeEnd k) none =
      placeAt line ⟨readFrom, k + 1, upTo⟩ pipes := by
  funext file
  cases file with
  | inherited | readEnd => rfl
  | writeEnd other =>
      by_cases same : other = k
      · subst same
        simp only [Function.update_self, placeAt, Nat.not_succ_le_self, false_and, if_false]
      · have later : k ≤ other ↔ k + 1 ≤ other := by omega
        simp [placeAt, same, later]

/-- A new pipe takes the entry that the open one does not use. -/
theorem end_kept {j k : Nat} (different : k ≠ j) (ends : PipeEnds) (part : PipeEnds → Int) :
    (if j - 1 ≤ k ∧ k < j then some (part (pipes (k % 2))) else none) =
      if j - 1 ≤ k ∧ k < j + 1 then
        some (part (Function.update pipes (j % 2) ends (k % 2)))
      else
        none := by
  by_cases live : j - 1 ≤ k ∧ k < j
  · have after : j - 1 ≤ k ∧ k < j + 1 := by omega
    have other : k % 2 ≠ j % 2 := by omega
    rw [if_pos live, if_pos after, Function.update_of_ne other]
  · have after : ¬ (j - 1 ≤ k ∧ k < j + 1) := by omega
    rw [if_neg live, if_neg after]

theorem placeAt_pipe (j : Nat) (ends : PipeEnds) :
    Function.update
      (Function.update (placeAt line ⟨j - 1, j - 1, j⟩ pipes) (.readEnd j) (some ends.input))
      (.writeEnd j) (some ends.output) =
        placeAt line ⟨j - 1, j - 1, j + 1⟩ (Function.update pipes (j % 2) ends) := by
  funext file
  cases file with
  | inherited => rfl
  | readEnd k =>
      by_cases same : k = j
      · subst same
        simp [placeAt]
      · rw [Function.update_of_ne (by simp), Function.update_of_ne (by simpa using same)]
        exact end_kept same ends PipeEnds.input
  | writeEnd k =>
      by_cases same : k = j
      · subst same
        simp [placeAt]
      · rw [Function.update_of_ne (by simpa using same), Function.update_of_ne (by simp)]
        exact end_kept same ends PipeEnds.output

/-- The shell has the pipes of its window open, in the entries where they were put. -/
structure Parent.Holds (line : Line) (parent : Parent) : Prop where
  within : parent.pc.Within line
  places : parent.files.Places (placeAt line parent.pc.window parent.pipes)

namespace Parent.Holds

variable {parent : Parent}

theorem initial : Parent.Holds line (initial line).parent where
  within := Nat.zero_le _
  places := by
    intro descriptor file
    cases file with
    | inherited other =>
        by_cases same : descriptor = other
        · subst same
          simp [Shell.initial, placeAt]
        · simp [Shell.initial, placeAt, same, Ne.symm same]
    | readEnd | writeEnd => simp [Shell.initial, placeAt, ParentPc.window]

/-- The oldest read end is closed, in whose entry it is. -/
theorem closeRead (holds : parent.Holds line) {k following writeFrom upTo entry : Nat}
    {next : ParentPc} (before : parent.pc.window = ⟨k, writeFrom, upTo⟩)
    (after : next.window = ⟨following, writeFrom, upTo⟩) (within : next.Within line)
    (live : k < upTo) (found : entry % 2 = k % 2) (succeeds : following = k + 1) :
    (parent.close (parent.pipes (entry % 2)).input next).Holds line where
  within := within
  places := by
    have places := holds.places
    rw [before] at places
    have opened : placeAt line ⟨k, writeFrom, upTo⟩ parent.pipes (.readEnd k) =
        some (parent.pipes (k % 2)).input := if_pos ⟨Nat.le_refl k, live⟩
    have closed := places.close opened
    rw [placeAt_closeRead, ← succeeds] at closed
    rw [Parent.close, found, after]
    exact closed

theorem closeWrite (holds : parent.Holds line) {k following readFrom upTo entry : Nat}
    {next : ParentPc} (before : parent.pc.window = ⟨readFrom, k, upTo⟩)
    (after : next.window = ⟨readFrom, following, upTo⟩) (within : next.Within line)
    (live : k < upTo) (found : entry % 2 = k % 2) (succeeds : following = k + 1) :
    (parent.close (parent.pipes (entry % 2)).output next).Holds line where
  within := within
  places := by
    have places := holds.places
    rw [before] at places
    have opened : placeAt line ⟨readFrom, k, upTo⟩ parent.pipes (.writeEnd k) =
        some (parent.pipes (k % 2)).output := if_pos ⟨Nat.le_refl k, live⟩
    have closed := places.close opened
    rw [placeAt_closeWrite, ← succeeds] at closed
    rw [Parent.close, found, after]
    exact closed

/-- A step that neither opens nor closes. -/
theorem move (holds : parent.Holds line) {next : ParentPc} (within : next.Within line)
    (window : next.window = parent.pc.window) : Parent.Holds line { parent with pc := next } where
  within := within
  places := by
    rw [window]
    exact holds.places

theorem closeNothing (holds : parent.Holds line) {descriptor : Int} {next : ParentPc}
    (free : parent.files descriptor = none) (within : next.Within line)
    (window : next.window = parent.pc.window) : (parent.close descriptor next).Holds line := by
  have moved := holds.move within window
  rw [Parent.close, DescriptorTable.close_free free]
  exact moved

theorem pipe (holds : parent.Holds line) {j : Nat} (pc : parent.pc = .pipe j) {ends : PipeEnds}
    (inputFree : parent.files ends.input = none) (outputFree : parent.files ends.output = none)
    (different : ends.input ≠ ends.output) :
    Parent.Holds line
      { pc := .fork j
        files := (parent.files.assign ends.input (.readEnd j)).assign ends.output (.writeEnd j)
        pipes := Function.update parent.pipes (j % 2) ends } where
  within := by
    have within := holds.within
    rw [pc] at within
    exact within
  places := by
    have places := holds.places
    rw [pc] at places
    have noRead : placeAt line (ParentPc.pipe j).window parent.pipes (.readEnd j) = none :=
      if_neg fun live => Nat.lt_irrefl j live.2
    have noWrite : placeAt line (ParentPc.pipe j).window parent.pipes (.writeEnd j) = none :=
      if_neg fun live => Nat.lt_irrefl j live.2
    have read := places.assign inputFree noRead
    have outputStays : parent.files.assign ends.input (.readEnd j) ends.output = none := by
      rw [DescriptorTable.assign_apply, if_neg different.symm]
      exact outputFree
    have both := read.assign outputStays ((Function.update_of_ne (by simp) ..).trans noWrite)
    exact placeAt_pipe j ends ▸ both

/-- One statement of the shell. -/
theorem step {state following : State} {ends : PipeEnds} (holds : state.parent.Holds line)
    (unassigned : UnassignedClosed state (.parent ends))
    (taken : parentStep line state ends = some following) : following.parent.Holds line := by
  have within := holds.within
  have pipeline := line.pipeline
  have next := (parentStep_cases taken).within within
  cases parentStep_cases taken with
  | first pc | again pc | leave pc | fork pc => exact holds.move next (by rw [pc]; rfl)
  | @closeRead j pc =>
      rw [pc] at within
      by_cases first : j = 1
      · subst first
        exact holds.closeNothing (unassigned.1 pc) next (by rw [pc]; rfl)
      · have later : 2 ≤ j := Nat.lt_of_le_of_ne within.1 (Ne.symm first)
        have window : state.parent.pc.window = ⟨j - 2, j - 2, j⟩ := by rw [pc]; rfl
        exact holds.closeRead window rfl next (by omega) (by omega) (by omega)
  | @closeWrite j pc =>
      rw [pc] at within
      by_cases first : j = 1
      · subst first
        exact holds.closeNothing (unassigned.2 pc) next (by rw [pc]; rfl)
      · have later : 2 ≤ j := Nat.lt_of_le_of_ne within.1 (Ne.symm first)
        have window : state.parent.pc.window = ⟨j - 1, j - 2, j⟩ := by rw [pc]; rfl
        exact holds.closeWrite window rfl next (by omega) (by omega) (by omega)
  | pipe pc inputFree outputFree different => exact holds.pipe pc inputFree outputFree different
  | closeOlderRead pc =>
      rw [pc] at within
      cases within
      have window : state.parent.pc.window = ⟨line.i - 2, line.i - 2, line.i⟩ := by rw [pc]; rfl
      exact holds.closeRead window rfl next (by omega) (by omega) (by omega)
  | closeOlderWrite pc =>
      rw [pc] at within
      cases within
      have window : state.parent.pc.window = ⟨line.i - 1, line.i - 2, line.i⟩ := by rw [pc]; rfl
      exact holds.closeWrite window rfl next (by omega) (by omega) (by omega)
  | closeNewerRead pc =>
      rw [pc] at within
      cases within
      have window : state.parent.pc.window = ⟨line.i - 1, line.i - 1, line.i⟩ := by rw [pc]; rfl
      exact holds.closeRead window rfl next (by omega) (by omega) (by omega)
  | closeNewerWrite pc =>
      rw [pc] at within
      cases within
      have window : state.parent.pc.window = ⟨line.i, line.i - 1, line.i⟩ := by rw [pc]; rfl
      exact holds.closeWrite window rfl next (by omega) (by omega) (by omega)

/-- While it waits, the shell has no end of a pipe open. -/
theorem waits_alone (holds : parent.Holds line) {j : Nat} (pc : parent.pc = .waitpid j) (k : Nat)
    (descriptor : Int) : parent.files descriptor ≠ some (.readEnd k) ∧
      parent.files descriptor ≠ some (.writeEnd k) := by
  have places := holds.places
  rw [pc] at places
  have closed : ¬ (j ≤ k ∧ k < j) := by omega
  constructor
  · intro opened
    have place := (places descriptor _).mp opened
    exact Option.some_ne_none descriptor (place.symm.trans (if_neg closed))
  · intro opened
    have place := (places descriptor _).mp opened
    exact Option.some_ne_none descriptor (place.symm.trans (if_neg closed))

end Parent.Holds

end OsExercises.Shell
