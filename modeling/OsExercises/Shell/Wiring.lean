import OsExercises.Shell.OpenPipes

/-! # How a pipeline is wired

A child is forked while the shell has two pipes open, the one made before it and its
own. It closes the ends that are not for it and puts the others on its standard input
and output. -/

namespace OsExercises.Shell

open OsExercises

variable {line : Line} {j k : Nat} {pipes : Nat → PipeEnds} {base files : DescriptorTable File}
variable {descriptor : Int}

/-! ## The descriptors of a child -/

/-- What a child has open after it was forked. -/
def Forked (line : Line) (j : Nat) (pipes : Nat → PipeEnds) (base : DescriptorTable File) : Prop :=
  base.Places (placeAt line ⟨j - 1, j - 1, j + 1⟩ pipes)

namespace Forked

theorem standard (forked : Forked line j pipes base) (opened : line.opened descriptor) :
    base descriptor = some (.inherited descriptor) :=
  (forked descriptor _).mpr (if_pos opened)

theorem input (forked : Forked line j pipes base) (open' : j - 1 ≤ k ∧ k < j + 1) :
    base (pipes (k % 2)).input = some (.readEnd k) :=
  (forked _ _).mpr (if_pos open')

theorem output (forked : Forked line j pipes base) (open' : j - 1 ≤ k ∧ k < j + 1) :
    base (pipes (k % 2)).output = some (.writeEnd k) :=
  (forked _ _).mpr (if_pos open')

theorem of_readEnd (forked : Forked line j pipes base)
    (opened : base descriptor = some (.readEnd k)) :
    (k = j ∨ k + 1 = j) ∧ descriptor = (pipes (k % 2)).input := by
  have place := (forked _ _).mp opened
  simp only [placeAt, Option.ite_none_right_eq_some, Option.some.injEq] at place
  exact ⟨by omega, place.2.symm⟩

theorem of_writeEnd (forked : Forked line j pipes base)
    (opened : base descriptor = some (.writeEnd k)) :
    (k = j ∨ k + 1 = j) ∧ descriptor = (pipes (k % 2)).output := by
  have place := (forked _ _).mp opened
  simp only [placeAt, Option.ite_none_right_eq_some, Option.some.injEq] at place
  exact ⟨by omega, place.2.symm⟩

end Forked

/-- The child without the write end of the pipe before it, which it reads. -/
def closePrevious (j : Nat) (pipes : Nat → PipeEnds) (files : DescriptorTable File) :
    DescriptorTable File :=
  files.close (pipes ((j + 1) % 2)).output

def readPrevious (j : Nat) (pipes : Nat → PipeEnds) (files : DescriptorTable File) :
    DescriptorTable File :=
  if j ≠ 0 then (closePrevious j pipes files).assign STDIN_FILENO (.readEnd (j - 1)) else files

/-- The child without the read end of its own pipe, which it writes to. -/
def closeOwn (j : Nat) (pipes : Nat → PipeEnds) (files : DescriptorTable File) :
    DescriptorTable File :=
  files.close (pipes (j % 2)).input

def writeOwn (line : Line) (j : Nat) (pipes : Nat → PipeEnds) (files : DescriptorTable File) :
    DescriptorTable File :=
  if j ≠ line.i - 1 then (closeOwn j pipes files).assign STDOUT_FILENO (.writeEnd j) else files

/-- What the child has made of the descriptors it was forked with. -/
def rewired (line : Line) (j : Nat) (pipes : Nat → PipeEnds) (base : DescriptorTable File) :
    ChildPc → DescriptorTable File
  | .testFirst | .closeWrite | .failed => base
  | .dupInput => closePrevious j pipes base
  | .testLast | .closeRead => readPrevious j pipes base
  | .dupOutput => closeOwn j pipes (readPrevious j pipes base)
  | .execvp => writeOwn line j pipes (readPrevious j pipes base)

def ChildPc.Within (line : Line) (j : Nat) : ChildPc → Prop
  | .closeWrite | .dupInput => j ≠ 0
  | .closeRead | .dupOutput => j ≠ line.i - 1
  | .failed => False
  | .testFirst | .testLast | .execvp => True

structure Child.Wires (line : Line) (j : Nat) (child : Child) : Prop where
  within : child.pc.Within line j
  files : ∃ base, Forked line j child.pipes base ∧
    child.files = rewired line j child.pipes base child.pc

/-! ## Where the pipes are in a child -/

theorem readPrevious_cases {file : File}
    (opened : readPrevious j pipes files descriptor = some file) :
    (j ≠ 0 ∧ descriptor = STDIN_FILENO ∧ file = .readEnd (j - 1)) ∨
      (files descriptor = some file ∧ (j ≠ 0 → descriptor ≠ (pipes ((j + 1) % 2)).output)) := by
  by_cases later : j ≠ 0
  · rw [readPrevious, if_pos later, DescriptorTable.assign_apply] at opened
    by_cases stdin : descriptor = STDIN_FILENO
    · rw [if_pos stdin] at opened
      cases opened
      exact .inl ⟨later, stdin, rfl⟩
    · rw [if_neg stdin, closePrevious, DescriptorTable.close_apply] at opened
      by_cases closed : descriptor = (pipes ((j + 1) % 2)).output
      · rw [if_pos closed] at opened
        cases opened
      · rw [if_neg closed] at opened
        exact .inr ⟨opened, fun _ => closed⟩
  · rw [readPrevious, if_neg later] at opened
    exact .inr ⟨opened, fun other => absurd other later⟩

theorem writeOwn_cases {file : File}
    (opened : writeOwn line j pipes files descriptor = some file) :
    (j ≠ line.i - 1 ∧ descriptor = STDOUT_FILENO ∧ file = .writeEnd j) ∨
      (files descriptor = some file ∧
        (j ≠ line.i - 1 → descriptor ≠ (pipes (j % 2)).input)) := by
  by_cases more : j ≠ line.i - 1
  · rw [writeOwn, if_pos more, DescriptorTable.assign_apply] at opened
    by_cases stdout : descriptor = STDOUT_FILENO
    · rw [if_pos stdout] at opened
      cases opened
      exact .inl ⟨more, stdout, rfl⟩
    · rw [if_neg stdout, closeOwn, DescriptorTable.close_apply] at opened
      by_cases closed : descriptor = (pipes (j % 2)).input
      · rw [if_pos closed] at opened
        cases opened
      · rw [if_neg closed] at opened
        exact .inr ⟨opened, fun _ => closed⟩
  · rw [writeOwn, if_neg more] at opened
    exact .inr ⟨opened, fun other => absurd other more⟩

namespace Forked

/-- Between its two `dup2` a child has one write end, its own. -/
theorem readPrevious_writeEnd (forked : Forked line j pipes base)
    (opened : readPrevious j pipes base descriptor = some (.writeEnd k)) :
    k = j ∧ descriptor = (pipes (k % 2)).output := by
  rcases readPrevious_cases opened with ⟨_, _, impossible⟩ | ⟨before, kept⟩
  · cases impossible
  · rcases forked.of_writeEnd before with ⟨own | previous, place⟩
    · exact ⟨own, place⟩
    · have entry : (j + 1) % 2 = k % 2 := by omega
      have closed := kept (by omega)
      rw [entry] at closed
      exact absurd place closed

theorem readPrevious_readEnd (forked : Forked line j pipes base)
    (opened : readPrevious j pipes base descriptor = some (.readEnd k)) :
    (k = j ∧ descriptor = (pipes (k % 2)).input) ∨
      (k + 1 = j ∧ (descriptor = STDIN_FILENO ∨ descriptor = (pipes (k % 2)).input)) := by
  rcases readPrevious_cases opened with ⟨later, stdin, same⟩ | ⟨before, _⟩
  · cases same
    exact .inr ⟨by omega, .inl stdin⟩
  · rcases forked.of_readEnd before with ⟨own | previous, place⟩
    · exact .inl ⟨own, place⟩
    · exact .inr ⟨previous, .inr place⟩

/-- The read end of the previous pipe is there to be put on the standard input. -/
theorem previousInput (forked : Forked line j pipes base) (later : j ≠ 0) :
    closePrevious j pipes base (pipes ((j + 1) % 2)).input = some (.readEnd (j - 1)) := by
  have entry : (j + 1) % 2 = (j - 1) % 2 := by omega
  have input := forked.input (k := j - 1) (by omega)
  have output := forked.output (k := j - 1) (by omega)
  have different : (pipes ((j - 1) % 2)).input ≠ (pipes ((j - 1) % 2)).output := by
    intro same
    rw [same, output] at input
    cases input
  rw [closePrevious, DescriptorTable.close_apply, entry, if_neg different]
  exact input

/-- The ends of the pipes are not on the standard descriptors. -/
theorem not_standard (forked : Forked line j pipes base) {file : File}
    (opened : base descriptor = some file) (pipe : ∀ standard, file ≠ .inherited standard) :
    descriptor ≠ STDIN_FILENO ∧ descriptor ≠ STDOUT_FILENO := by
  constructor
  · intro same
    rw [same, forked.standard line.stdin] at opened
    cases opened
    exact pipe _ rfl
  · intro same
    rw [same, forked.standard line.stdout] at opened
    cases opened
    exact pipe _ rfl

/-- What the child was forked with is still there, but for the previous write end and its
standard input. -/
theorem readPrevious_kept (forked : Forked line j pipes base) {file : File}
    (opened : base descriptor = some file) (stdin : descriptor ≠ STDIN_FILENO)
    (kept : j ≠ 0 → file ≠ .writeEnd (j - 1)) :
    readPrevious j pipes base descriptor = some file := by
  by_cases later : j ≠ 0
  · have entry : (j + 1) % 2 = (j - 1) % 2 := by omega
    have different : descriptor ≠ (pipes ((j + 1) % 2)).output := by
      intro same
      rw [same, entry, forked.output (by omega)] at opened
      exact kept later (Option.some.inj opened).symm
    rw [readPrevious, if_pos later, DescriptorTable.assign_apply, if_neg stdin, closePrevious,
      DescriptorTable.close_apply, if_neg different]
    exact opened
  · rw [readPrevious, if_neg later]
    exact opened

theorem ownOutput (forked : Forked line j pipes base) :
    closeOwn j pipes (readPrevious j pipes base) (pipes (j % 2)).output = some (.writeEnd j) := by
  have input := forked.input (k := j) (by omega)
  have output := forked.output (k := j) (by omega)
  have different : (pipes (j % 2)).output ≠ (pipes (j % 2)).input := by
    intro same
    rw [same, input] at output
    cases output
  rw [closeOwn, DescriptorTable.close_apply, if_neg different]
  refine forked.readPrevious_kept output (forked.not_standard output (by simp)).1 ?_
  intro later same
  have equal := File.writeEnd.inj same
  omega

/-! ### What `execvp` inherits -/

theorem execvp_writeEnd (forked : Forked line j pipes base)
    (opened : writeOwn line j pipes (readPrevious j pipes base) descriptor =
      some (.writeEnd k)) :
    k = j ∧ (descriptor = STDOUT_FILENO ∨ descriptor = (pipes (k % 2)).output) := by
  rcases writeOwn_cases opened with ⟨_, stdout, same⟩ | ⟨before, _⟩
  · cases same
    exact ⟨rfl, .inl stdout⟩
  · rcases forked.readPrevious_writeEnd before with ⟨own, place⟩
    exact ⟨own, .inr place⟩

theorem execvp_readEnd (forked : Forked line j pipes base) (inner : k + 1 < line.i)
    (opened : writeOwn line j pipes (readPrevious j pipes base) descriptor =
      some (.readEnd k)) :
    k + 1 = j ∧ (descriptor = STDIN_FILENO ∨ descriptor = (pipes (k % 2)).input) := by
  rcases writeOwn_cases opened with ⟨_, _, impossible⟩ | ⟨before, kept⟩
  · cases impossible
  · rcases forked.readPrevious_readEnd before with ⟨own, place⟩ | previous
    · subst own
      exact absurd place (kept (by omega))
    · exact previous

theorem execvp_stdin (forked : Forked line j pipes base) {file : File}
    (stdin : readPrevious j pipes base STDIN_FILENO = some file) :
    writeOwn line j pipes (readPrevious j pipes base) STDIN_FILENO = some file := by
  by_cases more : j ≠ line.i - 1
  · have input := forked.input (k := j) (by omega)
    have different := (forked.not_standard input (by simp)).1
    rw [writeOwn, if_pos more, DescriptorTable.assign_apply, if_neg (by decide), closeOwn,
      DescriptorTable.close_apply, if_neg different.symm]
    exact stdin
  · rw [writeOwn, if_neg more]
    exact stdin

theorem execvp_first (forked : Forked line 0 pipes base) :
    writeOwn line 0 pipes (readPrevious 0 pipes base) STDIN_FILENO =
      some (.inherited STDIN_FILENO) :=
  forked.execvp_stdin (forked.standard line.stdin)

theorem execvp_next (forked : Forked line (k + 1) pipes base) :
    writeOwn line (k + 1) pipes (readPrevious (k + 1) pipes base) STDIN_FILENO =
      some (.readEnd k) := by
  apply forked.execvp_stdin
  simp [readPrevious]

theorem execvp_inner (inner : j + 1 < line.i) :
    writeOwn line j pipes files STDOUT_FILENO = some (.writeEnd j) := by
  have more : j ≠ line.i - 1 := by omega
  simp [writeOwn, more]

theorem execvp_last (forked : Forked line (line.i - 1) pipes base) :
    writeOwn line (line.i - 1) pipes (readPrevious (line.i - 1) pipes base) STDOUT_FILENO =
      some (.inherited STDOUT_FILENO) := by
  rw [writeOwn, if_neg (by simp)]
  exact forked.readPrevious_kept (forked.standard line.stdout) (by decide) (by simp)

end Forked

/-! ## Steps -/

namespace Child.Wires

variable {child following : Child}

theorem fork {parent : Parent} (holds : parent.Holds line) (pc : parent.pc = .fork j) :
    Child.Wires line j { pc := .testFirst, files := parent.files, pipes := parent.pipes } where
  within := trivial
  files := by
    have places := holds.places
    rw [pc] at places
    exact ⟨parent.files, places, rfl⟩

/-- One statement of a child. No `dup2` fails. -/
theorem step (wires : child.Wires line j) (taken : childStep line j child = some following) :
    following.Wires line j := by
  have within := wires.within
  rcases wires.files with ⟨base, forked, same⟩
  cases pc : child.pc with
  | testFirst =>
      simp only [childStep, pc] at taken
      cases taken
      rw [pc] at same
      by_cases later : j ≠ 0
      · rw [if_pos later]
        exact ⟨later, base, forked, same⟩
      · rw [if_neg later]
        refine ⟨trivial, base, forked, same.trans ?_⟩
        exact (if_neg later).symm
  | closeWrite =>
      simp only [childStep, pc] at taken
      cases taken
      rw [pc] at same within
      refine ⟨within, base, forked, ?_⟩
      rw [same]
      rfl
  | dupInput =>
      simp only [childStep, pc] at taken
      cases taken
      rw [pc] at same within
      have duplicated := DescriptorTable.dup2_eq (forked.previousInput within) STDIN_FILENO
      have files : child.files = closePrevious j child.pipes base := same
      rw [Child.dup2, files, duplicated]
      exact ⟨trivial, base, forked, (if_pos within).symm⟩
  | testLast =>
      simp only [childStep, pc] at taken
      cases taken
      rw [pc] at same
      by_cases more : j ≠ line.i - 1
      · rw [if_pos more]
        exact ⟨more, base, forked, same⟩
      · rw [if_neg more]
        refine ⟨trivial, base, forked, same.trans ?_⟩
        exact (if_neg more).symm
  | closeRead =>
      simp only [childStep, pc] at taken
      cases taken
      rw [pc] at same within
      refine ⟨within, base, forked, ?_⟩
      rw [same]
      rfl
  | dupOutput =>
      simp only [childStep, pc] at taken
      cases taken
      rw [pc] at same within
      have duplicated := DescriptorTable.dup2_eq forked.ownOutput STDOUT_FILENO
      have files : child.files = closeOwn j child.pipes (readPrevious j child.pipes base) := same
      rw [Child.dup2, files, duplicated]
      exact ⟨trivial, base, forked, (if_pos within).symm⟩
  | execvp | failed =>
      simp only [childStep, pc] at taken
      cases taken

end Child.Wires

/-! ## Every run -/

/-- How many children the shell has forked. -/
def ParentPc.forks (line : Line) : ParentPc → Nat
  | .test j | .closeRead j | .closeWrite j | .pipe j | .fork j => j
  | _ => line.i

/-- A child that was forked wires its pipes. -/
def WiresIfForked (line : Line) (j : Nat) (found : Option Child) : Prop :=
  ∀ child, found = some child → child.Wires line j

structure Known (line : Line) (state : State) : Prop where
  parent : state.parent.Holds line
  children : ∀ j, WiresIfForked line j (state.child j)
  forked : ∀ j, j < state.parent.pc.forks line → (state.child j).isSome

/-- The shell leaves its children alone, but for the one that it forks. -/
theorem parentStep_child {state following : State} {ends : PipeEnds}
    (holds : state.parent.Holds line) (taken : parentStep line state ends = some following) :
    (following.child = state.child ∧
      following.parent.pc.forks line = state.parent.pc.forks line) ∨
    ∃ j, state.parent.pc = .fork j ∧ following.parent.pc.forks line = j + 1 ∧
      following.child = Function.update state.child j
        (some { pc := .testFirst, files := state.parent.files, pipes := state.parent.pipes }) := by
  have within := holds.within
  cases parentStep_cases taken with
  | fork pc => exact .inr ⟨_, pc, rfl, rfl⟩
  | @leave j pc done =>
      rw [pc] at within
      have all : j = line.i := Nat.le_antisymm within done
      exact .inl ⟨rfl, by rw [pc]; exact all.symm⟩
  | first pc | again pc | closeRead pc | closeWrite pc | pipe pc | closeOlderRead pc
  | closeOlderWrite pc | closeNewerRead pc | closeNewerWrite pc =>
      exact .inl ⟨rfl, by rw [pc]; rfl⟩

namespace Known

variable {state following : State}

theorem initial : Known line (initial line) where
  parent := .initial
  children _ _ absent := by cases absent
  forked j below := absurd below (Nat.not_lt_zero j)

theorem parentStep {ends : PipeEnds} (known : Known line state)
    (unassigned : UnassignedClosed state (.parent ends))
    (taken : parentStep line state ends = some following) : Known line following := by
  have parent := known.parent.step unassigned taken
  rcases parentStep_child known.parent taken with ⟨same, forks⟩ | ⟨j, pc, forks, forked⟩
  · refine ⟨parent, ?_, ?_⟩
    · rw [same]
      exact known.children
    · rw [same, forks]
      exact known.forked
  · refine ⟨parent, ?_, ?_⟩
    · rw [forked]
      apply (Function.forall_update_iff state.child (WiresIfForked line)).mpr
      refine ⟨?_, fun other _ => known.children other⟩
      intro child new
      cases new
      exact .fork known.parent pc
    · rw [forks, forked]
      apply (Function.forall_update_iff state.child fun other found =>
        other < j + 1 → found.isSome).mpr
      refine ⟨fun _ => rfl, ?_⟩
      intro other old below
      apply known.forked
      rw [pc]
      exact Nat.lt_of_le_of_ne (Nat.lt_succ_iff.mp below) old

theorem childStep {j : Nat} {child next : Child} (known : Known line state)
    (present : state.child j = some child) (taken : childStep line j child = some next) :
    Known line (state.setChild j next) where
  parent := known.parent
  children := by
    apply (Function.forall_update_iff state.child (WiresIfForked line)).mpr
    refine ⟨?_, fun other _ => known.children other⟩
    intro moved same
    cases same
    exact (known.children j child present).step taken
  forked := by
    apply (Function.forall_update_iff state.child fun other found =>
      other < state.parent.pc.forks line → found.isSome).mpr
    exact ⟨fun _ => rfl, fun other _ => known.forked other⟩

end Known

theorem known {state : State}
    (reachable : (system line).ReachableUnder UnassignedClosed state) : Known line state := by
  refine reachable.invariant (Known line) .initial ?_
  intro current action following known permitted taken
  cases action with
  | parent ends => exact known.parentStep permitted taken
  | child j =>
      rcases Option.bind_eq_some_iff.mp taken with ⟨child, present, stepped⟩
      rcases Option.map_eq_some_iff.mp stepped with ⟨next, moved, same⟩
      cases same
      exact known.childStep present moved

/-- Who has the ends of the pipes, and the standard input and output of the shell. -/
structure Wired (line : Line) (state : State) : Prop where
  writeEnd : ∀ k j child descriptor, state.child j = some child →
    child.files descriptor = some (.writeEnd k) →
      k = j ∧ (descriptor = STDOUT_FILENO ∨ descriptor = (child.pipes (k % 2)).output)
  readEnd : ∀ k, k + 1 < line.i → ∀ j child descriptor, state.child j = some child →
    child.files descriptor = some (.readEnd k) →
      k + 1 = j ∧ (descriptor = STDIN_FILENO ∨ descriptor = (child.pipes (k % 2)).input)
  stdout : ∀ k, k + 1 < line.i → ∃ child, state.child k = some child ∧
    child.files STDOUT_FILENO = some (.writeEnd k)
  stdin : ∀ k, k + 1 < line.i → ∃ child, state.child (k + 1) = some child ∧
    child.files STDIN_FILENO = some (.readEnd k)
  first : ∃ child, state.child 0 = some child ∧
    child.files STDIN_FILENO = some (.inherited STDIN_FILENO)
  last : ∃ child, state.child (line.i - 1) = some child ∧
    child.files STDOUT_FILENO = some (.inherited STDOUT_FILENO)
  parent : ∀ k descriptor, state.parent.files descriptor ≠ some (.readEnd k) ∧
    state.parent.files descriptor ≠ some (.writeEnd k)

section Waiting

variable {state : State} (known : Known line state)
variable (runs : ∀ k child, state.child k = some child → child.pc = .execvp)
include known runs

/-- What a child has made of its descriptors when its program starts. -/
theorem programFiles {child : Child} (present : state.child k = some child) :
    ∃ base, Forked line k child.pipes base ∧
      child.files = writeOwn line k child.pipes (readPrevious k child.pipes base) := by
  rcases (known.children k child present).files with ⟨base, forked, files⟩
  rw [runs k child present] at files
  exact ⟨base, forked, files⟩

/-- Every child is there, with the file that its program is to find. -/
theorem programFile (waits : state.parent.pc = .waitpid j) (below : k < line.i) {file : File}
    (found : ∀ pipes base, Forked line k pipes base →
      writeOwn line k pipes (readPrevious k pipes base) descriptor = some file) :
    ∃ child, state.child k = some child ∧ child.files descriptor = some file := by
  have forked : k < state.parent.pc.forks line := by
    rw [waits]
    exact below
  rcases Option.isSome_iff_exists.mp (known.forked k forked) with ⟨child, present⟩
  rcases programFiles known runs present with ⟨base, forked, files⟩
  refine ⟨child, present, ?_⟩
  rw [files]
  exact found child.pipes base forked

end Waiting

/-- When the shell waits and all children are about to run their programs, each pipe leads
from one child to the next and nobody else has an end of it. -/
theorem pipeline_wired (line : Line) {state : State} {j : Nat}
    (reachable : (system line).ReachableUnder UnassignedClosed state)
    (waits : state.parent.pc = .waitpid j)
    (runs : ∀ k child, state.child k = some child → child.pc = .execvp) : Wired line state := by
  have known := known reachable
  have pipeline := line.pipeline
  exact
    { writeEnd := by
        intro k j child descriptor present opened
        rcases programFiles known runs present with ⟨base, forked, files⟩
        rw [files] at opened
        exact forked.execvp_writeEnd opened
      readEnd := by
        intro k inner j child descriptor present opened
        rcases programFiles known runs present with ⟨base, forked, files⟩
        rw [files] at opened
        exact forked.execvp_readEnd inner opened
      stdout := by
        intro k inner
        apply programFile known runs waits (by omega)
        exact fun _ _ _ => Forked.execvp_inner inner
      stdin := by
        intro k inner
        apply programFile known runs waits inner
        exact fun _ _ forked => forked.execvp_next
      first := by
        apply programFile known runs waits (by omega)
        exact fun _ _ forked => forked.execvp_first
      last := by
        apply programFile known runs waits (by omega)
        exact fun _ _ forked => forked.execvp_last
      parent := fun k descriptor => known.parent.waits_alone waits k descriptor }

def threePrograms : Line where
  i := 3
  pipeline := by decide
  opened descriptor := descriptor = 0 ∨ descriptor = 1 ∨ descriptor = 2
  stdin := by decide
  stdout := by decide
  unassigned _ := ⟨-1, -1⟩

/-- Three pipes and children; the last pipe has the descriptors of the first. -/
def threeForks : List Action :=
  List.replicate 3 (.parent ⟨3, 4⟩) ++ List.replicate 5 (.parent ⟨5, 6⟩) ++
    List.replicate 10 (.parent ⟨3, 4⟩)

def threeStages : State :=
  (system threePrograms).after
    (threeForks ++ List.replicate 4 (.child 0) ++ List.replicate 6 (.child 1) ++
      List.replicate 4 (.child 2))
    rfl

theorem threeStages_run (k : Nat) (child : Child) (present : threeStages.child k = some child) :
    child.pc = .execvp := by
  match k with
  | 0 | 1 | 2 =>
      cases present
      rfl
  | k + 3 => cases present

theorem pipeline_wired_three :
    threeStages.parent.pc = .waitpid 3 ∧ Wired threePrograms threeStages :=
  ⟨rfl, pipeline_wired threePrograms
    (TransitionSystem.after_reachableUnder _ _ rfl (by decide +kernel)) rfl threeStages_run⟩

end OsExercises.Shell
