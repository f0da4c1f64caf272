import OsExercises.Shell.Programs
import OsExercises.Shell.Wiring

/-! # Who has the ends of the pipes

From the moment when a pipe is made, somebody has the end that is to be written to until the
program that writes has ended, and the end that is to be read until the one that reads has. -/

namespace OsExercises.Shell

open OsExercises

variable {line : Line} {j k : Nat} {pipes : Nat → PipeEnds} {base : DescriptorTable File}
variable {child : Child} {state following : State}

/-! ## The child that writes -/

theorem Forked.closePrevious_output (forked : Forked line j pipes base) (later : j ≠ 0) :
    closePrevious j pipes base (pipes (j % 2)).output = some (.writeEnd j) := by
  have output := forked.output (k := j) (by omega)
  have entry : (j + 1) % 2 = (j - 1) % 2 := by omega
  have different : (pipes (j % 2)).output ≠ (pipes ((j - 1) % 2)).output := by
    intro same
    rw [same, forked.output (by omega), Option.some.injEq, File.writeEnd.injEq] at output
    omega
  rw [closePrevious, DescriptorTable.close_apply, entry, if_neg different]
  exact output

/-- A child has the end that it is to write to from its first statement on. -/
theorem Child.Wires.writes (wires : child.Wires line j) (inner : j + 1 < line.i) :
    ∃ descriptor, child.files descriptor = some (.writeEnd j) := by
  have within := wires.within
  rcases wires.files with ⟨base, forked, files⟩
  rw [files]
  have output := forked.output (k := j) (by omega)
  cases pc : child.pc with
  | testFirst | closeWrite => exact ⟨_, output⟩
  | dupInput =>
      rw [pc] at within
      exact ⟨_, forked.closePrevious_output within⟩
  | testLast | closeRead =>
      refine ⟨_, forked.readPrevious_kept output (forked.not_standard output nofun).1 ?_⟩
      intro later same
      have equal := File.writeEnd.inj same
      omega
  | dupOutput => exact ⟨_, forked.ownOutput⟩
  | execvp => exact ⟨_, Forked.execvp_inner inner⟩
  | failed =>
      rw [pc] at within
      exact within.elim

/-! ## The child that reads -/

theorem Forked.closeOwn_stdin (forked : Forked line j pipes base) {files : DescriptorTable File} :
    closeOwn j pipes files STDIN_FILENO = files STDIN_FILENO := by
  have input := forked.input (k := j) (by omega)
  have different := (forked.not_standard input nofun).1
  rw [closeOwn, DescriptorTable.close_apply, if_neg different.symm]

theorem Child.Wires.reads (wires : child.Wires line (k + 1)) :
    ∃ descriptor, child.files descriptor = some (.readEnd k) := by
  have within := wires.within
  rcases wires.files with ⟨base, forked, files⟩
  rw [files]
  have stdin : readPrevious (k + 1) child.pipes base STDIN_FILENO = some (.readEnd k) := by
    simp [readPrevious]
  cases pc : child.pc with
  | testFirst | closeWrite => exact ⟨_, forked.input (by omega)⟩
  | dupInput => exact ⟨_, forked.previousInput (Nat.succ_ne_zero k)⟩
  | testLast | closeRead => exact ⟨_, stdin⟩
  | dupOutput => exact ⟨_, forked.closeOwn_stdin.trans stdin⟩
  | execvp => exact ⟨_, forked.execvp_next⟩
  | failed =>
      rw [pc] at within
      exact within.elim

/-- Until the reader is forked, the shell has the end that it is to read. -/
theorem Parent.Holds.reads {parent : Parent} (holds : parent.Holds line)
    (forks : parent.pc.forks line = k + 1) (inner : k + 1 < line.i) :
    ∃ descriptor, parent.files descriptor = some (.readEnd k) := by
  have open' : parent.pc.window.readFrom ≤ k ∧ k < parent.pc.window.upTo := by
    cases pc : parent.pc <;> simp only [pc, ParentPc.forks] at forks <;>
      simp only [ParentPc.window] <;> omega
  exact ⟨_, (holds.places _ _).mpr (if_pos open')⟩

/-! ## Open descriptors -/

/-- All open descriptors are those that a process may have. -/
def Bounded (openMax : Nat) (files : DescriptorTable File) : Prop :=
  ∀ descriptor file, files descriptor = some file → InRange openMax descriptor

namespace Bounded

variable {openMax : Nat} {files : DescriptorTable File} {descriptor : Int} {file : File}

theorem close (bounded : Bounded openMax files) (descriptor : Int) :
    Bounded openMax (files.close descriptor) := by
  intro other file opened
  rw [DescriptorTable.close_apply, Option.ite_none_left_eq_some] at opened
  exact bounded other file opened.2

theorem assign (bounded : Bounded openMax files) (inRange : InRange openMax descriptor) :
    Bounded openMax (files.assign descriptor file) := by
  intro other found opened
  rw [DescriptorTable.assign_apply] at opened
  split at opened
  · next same => exact same ▸ inRange
  · exact bounded other found opened

theorem dup2 {following : DescriptorTable File} {source target : Int}
    (bounded : Bounded openMax files) (inRange : InRange openMax target)
    (duplicated : files.dup2 source target = some following) : Bounded openMax following := by
  rcases Option.map_eq_some_iff.mp duplicated with ⟨file, _, rfl⟩
  exact bounded.assign inRange

/-- A file is among the descriptors that a process may have, or not open at all. -/
theorem holds_iff (bounded : Bounded openMax files) :
    holds openMax files file = true ↔ ∃ descriptor, files descriptor = some file := by
  simp only [holds, List.any_eq_true, List.mem_range, decide_eq_true_eq]
  constructor
  · intro found
    rcases found with ⟨descriptor, _, opened⟩
    exact ⟨descriptor, opened⟩
  · intro found
    rcases found with ⟨descriptor, opened⟩
    rcases bounded descriptor file opened with ⟨nonneg, below⟩
    exact ⟨descriptor.toNat, by omega, by rw [Int.toNat_of_nonneg nonneg]; exact opened⟩

end Bounded

/-- The children that there are, and the descriptors that are open. -/
structure Counted (line : Line) (openMax : Nat) (state : State) : Prop where
  forked : ∀ j child, state.child j = some child → j < state.parent.pc.forks line
  parent : Bounded openMax state.parent.files
  children : ∀ j child, state.child j = some child → Bounded openMax child.files

namespace Counted

variable {openMax : Nat}

theorem initial (opened : ∀ descriptor, line.opened descriptor → InRange openMax descriptor) :
    Counted line openMax (initial line) where
  forked := nofun
  parent := by
    intro descriptor file found
    simp only [Shell.initial, Option.ite_none_right_eq_some] at found
    exact opened descriptor found.1
  children := nofun

theorem childStep {next : Child} (counted : Counted line openMax state)
    (present : state.child j = some child) (taken : childStep line j child = some next)
    (stdin : InRange openMax STDIN_FILENO) (stdout : InRange openMax STDOUT_FILENO) :
    Counted line openMax (state.setChild j next) := by
  have bounded := counted.children j child present
  have moved : Bounded openMax next.files := by
    unfold Shell.childStep Child.dup2 at taken
    split at taken
    · cases taken
      exact bounded
    · cases taken
      exact bounded.close _
    · cases taken
      split
      · next files duplicated => exact bounded.dup2 stdin duplicated
      · exact bounded
    · cases taken
      exact bounded
    · cases taken
      exact bounded.close _
    · cases taken
      split
      · next files duplicated => exact bounded.dup2 stdout duplicated
      · exact bounded
    · cases taken
    · cases taken
  refine ⟨?_, counted.parent, ?_⟩
  · intro other found there
    by_cases same : other = j
    · exact counted.forked other child (same ▸ present)
    · simp only [State.setChild_child, Function.update_of_ne same] at there
      exact counted.forked other found there
  · intro other found there
    by_cases same : other = j
    · subst same
      simp only [State.setChild_child, Function.update_self, Option.some.injEq] at there
      exact there ▸ moved
    · simp only [State.setChild_child, Function.update_of_ne same] at there
      exact counted.children other found there

theorem parentStep {ends : PipeEnds} (counted : Counted line openMax state)
    (known : Known line state) (input : InRange openMax ends.input)
    (output : InRange openMax ends.output)
    (taken : parentStep line state ends = some following) : Counted line openMax following := by
  have parent : Bounded openMax following.parent.files := by
    cases parentStep_cases taken with
    | first | again | leave | fork => exact counted.parent
    | closeRead | closeWrite | closeOlderRead | closeOlderWrite | closeNewerRead
    | closeNewerWrite => exact counted.parent.close _
    | pipe => exact (counted.parent.assign input).assign output
  rcases parentStep_child known.parent taken with ⟨same, forks⟩ | ⟨j, pc, forks, forked⟩
  · refine ⟨?_, parent, ?_⟩
    · rw [same, forks]
      exact counted.forked
    · rw [same]
      exact counted.children
  · refine ⟨?_, parent, ?_⟩
    · intro other found there
      rw [forks]
      by_cases new : other = j
      · omega
      · rw [forked, Function.update_of_ne new] at there
        have before := counted.forked other found there
        rw [pc] at before
        exact Nat.lt_succ_of_lt before
    · intro other found there
      by_cases new : other = j
      · subst new
        rw [forked, Function.update_self, Option.some.injEq] at there
        exact there ▸ counted.parent
      · rw [forked, Function.update_of_ne new] at there
        exact counted.children other found there

end Counted

end OsExercises.Shell
