import OsExercises.Shell.OpenPipes

/-! # Which descriptors the shell closes

On a line with two or more programs, iteration 1 of the loop closes `pipes[1]`, which no
`pipe` has filled on this line. Behind these two, the shell closes what `pipe` has
returned, in the order in which it was returned. -/

namespace OsExercises.Shell

open OsExercises

/-! ## What the shell does on a line -/

/-- A call of the shell on descriptors. -/
inductive Event
  /-- `pipe(pipes[entry])` -/
  | returned (entry : Nat) (ends : PipeEnds)
  /-- `close` of one end in `pipes[entry]` -/
  | closed (entry : Nat) (descriptor : Int)
  deriving DecidableEq

def report (state : State) : Action → List Event
  | .parent ends =>
      let pipes := state.parent.pipes
      match state.parent.pc with
      | .closeRead j | .closeOlderRead j => [.closed (j % 2) (pipes (j % 2)).input]
      | .closeWrite j | .closeOlderWrite j => [.closed (j % 2) (pipes (j % 2)).output]
      | .closeNewerRead j => [.closed ((j + 1) % 2) (pipes ((j + 1) % 2)).input]
      | .closeNewerWrite j => [.closed ((j + 1) % 2) (pipes ((j + 1) % 2)).output]
      | .pipe j => [.returned (j % 2) ends]
      | .test _ | .fork _ | .waitpid _ => []
  | .child _ => []

def PipeEnds.descriptors (ends : PipeEnds) : List Int := [ends.input, ends.output]

def descriptors (pipes : List PipeEnds) : List Int := pipes.flatMap PipeEnds.descriptors

/-- The pipes that were made. -/
def returned (events : List Event) : List PipeEnds :=
  events.filterMap fun event =>
    match event with
    | .returned _ ends => some ends
    | .closed _ _ => none

/-- The descriptors that `close` was called with. -/
def closed (events : List Event) : List Int :=
  events.filterMap fun event =>
    match event with
    | .returned _ _ => none
    | .closed _ descriptor => some descriptor

/-- The shell has read the line, with any files open. -/
def readLine (line : Line) (files : DescriptorTable File) : State where
  parent :=
    { pc := .test 0
      files := files
      pipes := line.unassigned }
  child _ := none

def shell (line : Line) (files : DescriptorTable File) : TransitionSystem State Action :=
  { system line with initial := readLine line files }

/-- A line of `i` programs that the shell has gone through. -/
structure Processed where
  i : Nat
  /-- What was open when the line was read, and what is open at `waitpid`. -/
  before : DescriptorTable File
  events : List Event
  after : DescriptorTable File

inductive LineRun : Processed → Prop
  /-- No pipe is needed. -/
  | single {i : Nat} (few : i < 2) (files : DescriptorTable File) :
      LineRun { i := i, before := files, events := [], after := files }
  | pipeline (line : Line) (before : DescriptorTable File) {final : State} {events : List Event}
      {j : Nat} (reachable : ((shell line before).reporting report).Reachable (final, events))
      (waits : final.parent.pc = .waitpid j) :
      LineRun { i := line.i, before := before, events := events, after := final.parent.files }

/-- The lines of a script, up to the end of the file or to a program that fails. -/
inductive ScriptRun : DescriptorTable File → List Processed → Prop
  | stop (files : DescriptorTable File) : ScriptRun files []
  | line {processed : Processed} {rest : List Processed} (run : LineRun processed)
      (later : ScriptRun processed.after rest) : ScriptRun processed.before (processed :: rest)

/-- The shell closes what `pipe` has returned on this line, and nothing else. -/
structure Hygienic (line : Processed) : Prop where
  onlyReturned : ∀ earlier entry descriptor later,
    line.events = earlier ++ .closed entry descriptor :: later →
      descriptor ∈ descriptors (returned earlier)
  filled : ∀ earlier entry descriptor later,
    line.events = earlier ++ .closed entry descriptor :: later →
      ∃ ends, .returned entry ends ∈ earlier
  once : (closed line.events).Perm (descriptors (returned line.events))
  restored : ∀ descriptor, (line.after descriptor).isSome = (line.before descriptor).isSome

/-! ## Lists of descriptors -/

section Lists

variable {pipes : List PipeEnds} {ends : PipeEnds} {m : Nat}

theorem descriptors_cons :
    descriptors (ends :: pipes) = ends.input :: ends.output :: descriptors pipes := rfl

theorem descriptors_append (others : List PipeEnds) :
    descriptors (pipes ++ others) = descriptors pipes ++ descriptors others :=
  List.flatMap_append

theorem length_descriptors (pipes : List PipeEnds) :
    (descriptors pipes).length = 2 * pipes.length := by
  induction pipes with
  | nil => rfl
  | cons ends pipes induction =>
      rw [descriptors_cons, List.length_cons, List.length_cons, List.length_cons, induction]
      omega

theorem descriptors_ends (found : pipes[m]? = some ends) :
    (descriptors pipes)[2 * m]? = some ends.input ∧
      (descriptors pipes)[2 * m + 1]? = some ends.output := by
  induction pipes generalizing m with
  | nil => cases found
  | cons first pipes induction =>
      cases m with
      | zero =>
          cases found
          exact ⟨rfl, rfl⟩
      | succ m =>
          rw [List.getElem?_cons_succ] at found
          exact induction found

theorem take_input (found : pipes[m]? = some ends) :
    (descriptors pipes).take (2 * m + 1) = (descriptors pipes).take (2 * m) ++ [ends.input] := by
  rw [List.take_add_one, (descriptors_ends found).1]
  rfl

theorem take_output (found : pipes[m]? = some ends) :
    (descriptors pipes).take (2 * m + 2) =
      (descriptors pipes).take (2 * m + 1) ++ [ends.output] := by
  rw [List.take_add_one, (descriptors_ends found).2]
  rfl

end Lists

@[simp] theorem returned_append (events others : List Event) :
    returned (events ++ others) = returned events ++ returned others :=
  List.filterMap_append

@[simp] theorem closed_append (events others : List Event) :
    closed (events ++ others) = closed events ++ closed others :=
  List.filterMap_append

@[simp] theorem returned_closed (entry : Nat) (descriptor : Int) :
    returned [.closed entry descriptor] = [] := rfl

@[simp] theorem returned_returned (entry : Nat) (ends : PipeEnds) :
    returned [.returned entry ends] = [ends] := rfl

@[simp] theorem closed_closed (entry : Nat) (descriptor : Int) :
    closed [.closed entry descriptor] = [descriptor] := rfl

@[simp] theorem closed_returned (entry : Nat) (ends : PipeEnds) :
    closed [.returned entry ends] = [] := rfl

/-! ## The account of a line -/

/-- How many pipes there have been before a statement of the shell. -/
def ParentPc.made : ParentPc → Nat
  | .fork j => j + 1
  | .test j | .closeRead j | .closeWrite j | .pipe j
  | .closeOlderRead j | .closeOlderWrite j | .closeNewerRead j | .closeNewerWrite j
  | .waitpid j => j

/-- How often it has called `close`. -/
def ParentPc.closings : ParentPc → Nat
  | .test j | .closeRead j | .closeOlderRead j => 2 * (j - 1)
  | .closeWrite j | .closeOlderWrite j => 2 * (j - 1) + 1
  | .pipe j | .fork j | .closeNewerRead j => 2 * j
  | .closeNewerWrite j => 2 * j + 1
  | .waitpid j => 2 * (j + 1)

/-- What `close` gets in the course of the line. -/
def ledger (line : Line) (events : List Event) : List PipeEnds :=
  line.unassigned 1 :: returned events

theorem ledger_closed (line : Line) (events : List Event) (entry : Nat) (descriptor : Int) :
    ledger line (events ++ [.closed entry descriptor]) = ledger line events := by
  simp [ledger]

theorem ledger_returned (line : Line) (events : List Event) (entry : Nat) (ends : PipeEnds) :
    ledger line (events ++ [.returned entry ends]) = ledger line events ++ [ends] := by
  simp [ledger]

/-- The last two pipes are in `pipes`, and all others have been closed in order. Where only
one pipe has been made, the other entry is unassigned. -/
structure Account (line : Line) (parent : Parent) (events : List Event) : Prop where
  within : parent.pc.Within line
  made : (returned events).length = parent.pc.made
  closings : closed events = (descriptors (ledger line events)).take parent.pc.closings
  kept : ∀ m ends, parent.pc.made ≤ m + 1 → (ledger line events)[m]? = some ends →
    parent.pipes ((m + 1) % 2) = ends

namespace Account

variable {line : Line} {parent : Parent} {events : List Event}

theorem readLine (line : Line) (files : DescriptorTable File) :
    Account line (readLine line files).parent [] where
  within := Nat.zero_le _
  made := rfl
  closings := rfl
  kept := by
    intro m ends _ found
    cases m with
    | zero => exact Option.some.inj found
    | succ m => cases found

/-- A step without a call on descriptors. -/
theorem move (account : Account line parent events) {pc : ParentPc} (within : pc.Within line)
    (made : pc.made = parent.pc.made) (closings : pc.closings = parent.pc.closings) :
    Account line { parent with pc := pc } (events ++ []) where
  within := within
  made := by
    rw [List.append_nil, made]
    exact account.made
  closings := by
    rw [List.append_nil, closings]
    exact account.closings
  kept := by
    intro m ends recent found
    rw [List.append_nil] at found
    exact account.kept m ends (made ▸ recent) found

/-- The pipe that is next in the ledger is still in `pipes`. -/
theorem found (account : Account line parent events) {m : Nat} (recent : parent.pc.made ≤ m + 1)
    (present : m ≤ parent.pc.made) :
    (ledger line events)[m]? = some (parent.pipes ((m + 1) % 2)) := by
  have below : m < (ledger line events).length := by
    rw [ledger, List.length_cons, account.made]
    exact Nat.lt_succ_of_le present
  have entry := List.getElem?_eq_getElem below
  rw [entry, account.kept m _ recent entry]

/-- One more `close`, of the next descriptor in the ledger. -/
theorem close (account : Account line parent events) {pc : ParentPc} {entry : Nat}
    {descriptor : Int} (within : pc.Within line) (made : pc.made = parent.pc.made)
    (next : (descriptors (ledger line events)).take pc.closings =
      (descriptors (ledger line events)).take parent.pc.closings ++ [descriptor]) :
    Account line (parent.close descriptor pc) (events ++ [.closed entry descriptor]) where
  within := within
  made := by
    have before := account.made
    simpa [Parent.close, made] using before
  closings := by
    rw [ledger_closed, closed_append, account.closings]
    exact next.symm
  kept := by
    intro m ends recent found
    rw [ledger_closed] at found
    exact account.kept m ends (made ▸ recent) found

theorem closeInput (account : Account line parent events) {pc : ParentPc} {entry m : Nat}
    (within : pc.Within line) (made : pc.made = parent.pc.made)
    (recent : parent.pc.made ≤ m + 1) (present : m ≤ parent.pc.made)
    (slot : entry = (m + 1) % 2) (before : parent.pc.closings = 2 * m)
    (after : pc.closings = 2 * m + 1) :
    Account line (parent.close (parent.pipes entry).input pc)
      (events ++ [.closed entry (parent.pipes entry).input]) := by
  subst slot
  apply account.close within made
  rw [before, after]
  exact take_input (account.found recent present)

theorem closeOutput (account : Account line parent events) {pc : ParentPc} {entry m : Nat}
    (within : pc.Within line) (made : pc.made = parent.pc.made)
    (recent : parent.pc.made ≤ m + 1) (present : m ≤ parent.pc.made)
    (slot : entry = (m + 1) % 2) (before : parent.pc.closings = 2 * m + 1)
    (after : pc.closings = 2 * m + 2) :
    Account line (parent.close (parent.pipes entry).output pc)
      (events ++ [.closed entry (parent.pipes entry).output]) := by
  subst slot
  apply account.close within made
  rw [before, after]
  exact take_output (account.found recent present)

/-- A new pipe takes the place of the oldest in the ledger that is still in `pipes`. -/
theorem pipe (account : Account line parent events) {j : Nat} (pc : parent.pc = .pipe j)
    (ends : PipeEnds) (files : DescriptorTable File) :
    Account line
      { pc := .fork j, files := files, pipes := Function.update parent.pipes (j % 2) ends }
      (events ++ [.returned (j % 2) ends]) where
  within := by
    have within := account.within
    rw [pc] at within
    exact within
  made := by
    have made := account.made
    rw [pc] at made
    simp [made, ParentPc.made]
  closings := by
    have made := account.made
    have closings := account.closings
    rw [pc] at made closings
    have enough : 2 * j ≤ (descriptors (ledger line events)).length := by
      rw [length_descriptors, ledger, List.length_cons, made]
      exact Nat.mul_le_mul_left 2 (Nat.le_succ j)
    rw [ledger_returned, descriptors_append, closed_append, closed_returned, List.append_nil,
      closings]
    exact (List.take_append_of_le_length enough).symm
  kept := by
    intro m other recent found
    have made := account.made
    rw [pc] at made
    have length : (ledger line events).length = j + 1 := by
      rw [ledger, List.length_cons, made]
      rfl
    have later : j ≤ m := Nat.le_of_succ_le_succ recent
    rw [ledger_returned] at found
    by_cases newest : m = j + 1
    · subst newest
      rw [List.getElem?_append_right (Nat.le_of_eq length), length, Nat.sub_self] at found
      have entry : (j + 1 + 1) % 2 = j % 2 := by omega
      simp only [entry, Function.update_self]
      exact Option.some.inj found
    · have below : m < (ledger line events ++ [ends]).length :=
        (List.getElem?_eq_some_iff.mp found).1
      rw [List.length_append, length, List.length_singleton] at below
      have older : m < (ledger line events).length := by omega
      rw [List.getElem?_append_left older] at found
      have different : (m + 1) % 2 ≠ j % 2 := by omega
      simp only [Function.update_of_ne different]
      exact account.kept m other (by rw [pc]; exact Nat.le_succ_of_le later) found

/-- One statement of the shell. -/
theorem step {state following : State} {ends : PipeEnds}
    (account : Account line state.parent events)
    (taken : parentStep line state ends = some following) :
    Account line following.parent (events ++ report state (.parent ends)) := by
  have within := account.within
  have pipeline := line.pipeline
  have next := (parentStep_cases taken).within within
  cases parentStep_cases taken with
  | first pc | again pc | leave pc | fork pc =>
      simp only [report, pc]
      exact account.move next (by rw [pc]; rfl) (by rw [pc]; rfl)
  | pipe pc =>
      simp only [report, pc]
      exact account.pipe pc ends _
  | @closeRead j pc =>
      rw [pc] at within
      have made : state.parent.pc.made = j := by rw [pc]; rfl
      have before : state.parent.pc.closings = 2 * (j - 1) := by rw [pc]; rfl
      have positive : 0 < j := within.1
      simp only [report, pc]
      exact account.closeInput (m := j - 1) next made.symm (by omega) (by omega) (by omega) before
        rfl
  | @closeWrite j pc =>
      rw [pc] at within
      have made : state.parent.pc.made = j := by rw [pc]; rfl
      have before : state.parent.pc.closings = 2 * (j - 1) + 1 := by rw [pc]; rfl
      have positive : 0 < j := within.1
      simp only [report, pc]
      exact account.closeOutput (m := j - 1) next made.symm (by omega) (by omega) (by omega) before
        (by simp only [ParentPc.closings]; omega)
  | @closeOlderRead j pc =>
      rw [pc] at within
      have made : state.parent.pc.made = j := by rw [pc]; rfl
      have before : state.parent.pc.closings = 2 * (j - 1) := by rw [pc]; rfl
      have last : j = line.i := within
      simp only [report, pc]
      exact account.closeInput (m := j - 1) next made.symm (by omega) (by omega) (by omega) before
        rfl
  | @closeOlderWrite j pc =>
      rw [pc] at within
      have made : state.parent.pc.made = j := by rw [pc]; rfl
      have before : state.parent.pc.closings = 2 * (j - 1) + 1 := by rw [pc]; rfl
      have last : j = line.i := within
      simp only [report, pc]
      exact account.closeOutput (m := j - 1) next made.symm (by omega) (by omega) (by omega) before
        (by simp only [ParentPc.closings]; omega)
  | @closeNewerRead j pc =>
      have made : state.parent.pc.made = j := by rw [pc]; rfl
      have before : state.parent.pc.closings = 2 * j := by rw [pc]; rfl
      simp only [report, pc]
      exact account.closeInput (m := j) next made.symm (by omega) (by omega) (by omega) before
        rfl
  | @closeNewerWrite j pc =>
      have made : state.parent.pc.made = j := by rw [pc]; rfl
      have before : state.parent.pc.closings = 2 * j + 1 := by rw [pc]; rfl
      simp only [report, pc]
      exact account.closeOutput (m := j) next made.symm (by omega) (by omega) (by omega) before
        rfl

end Account

theorem account {line : Line} {files : DescriptorTable File} {current : State × List Event}
    (reachable : ((shell line files).reporting report).Reachable current) :
    Account line current.1.parent current.2 := by
  apply TransitionSystem.ReachableUnder.invariant
    (fun current => Account line current.1.parent current.2) _ _ reachable
  · exact .readLine line files
  · intro current action following account _ taken
    rcases TransitionSystem.reporting_next_eq_some.mp taken with ⟨taken, extended⟩
    rw [extended]
    cases action with
    | parent ends => exact account.step taken
    | child j =>
        rcases Option.bind_eq_some_iff.mp taken with ⟨child, _, stepped⟩
        rcases Option.map_eq_some_iff.mp stepped with ⟨moved, _, same⟩
        rw [report, List.append_nil, ← same]
        exact account

/-! ## Lines and scripts -/

/-- On a pipeline, the shell closes what it finds in `pipes[1]`, and then what `pipe`
returns. -/
theorem closed_pipeline {line : Line} {files : DescriptorTable File} {final : State}
    {events : List Event} {j : Nat}
    (reachable : ((shell line files).reporting report).Reachable (final, events))
    (waits : final.parent.pc = .waitpid j) :
    closed events = descriptors (line.unassigned 1 :: returned events) := by
  have account := account reachable
  have made := account.made
  have closings := account.closings
  simp only [waits, ParentPc.made, ParentPc.closings] at made closings
  have length : (descriptors (ledger line events)).length = 2 * (j + 1) := by
    rw [length_descriptors, ledger, List.length_cons, made]
  rw [closings]
  exact List.take_of_length_le (Nat.le_of_eq length)

theorem hygienic_iff {line : Processed} (run : LineRun line) : Hygienic line ↔ line.i < 2 := by
  cases run with
  | single few files =>
      constructor
      · intro _
        exact few
      · intro _
        exact
          { onlyReturned := by
              intro earlier entry descriptor later split
              exact absurd split.symm (List.append_ne_nil_of_right_ne_nil earlier (by simp))
            filled := by
              intro earlier entry descriptor later split
              exact absurd split.symm (List.append_ne_nil_of_right_ne_nil earlier (by simp))
            once := .refl []
            restored := fun _ => rfl }
  | @pipeline line before final events j reachable waits =>
      constructor
      · intro hygienic
        have counted := hygienic.once.length_eq
        simp only [closed_pipeline reachable waits, length_descriptors, List.length_cons] at counted
        omega
      · intro few
        exact absurd few (Nat.not_lt.mpr line.pipeline)

/-- The shell keeps to its own descriptors on all lines of a script exactly when none of
them needs a pipe. -/
theorem script_hygienic_iff {files : DescriptorTable File} {lines : List Processed}
    (run : ScriptRun files lines) :
    (∀ line ∈ lines, Hygienic line) ↔ ∀ line ∈ lines, line.i < 2 := by
  induction run with
  | stop files => simp
  | line run _ induction =>
      rw [List.forall_mem_cons, List.forall_mem_cons, hygienic_iff run, induction]

/-- Beside the standard files the script is open, as 3, and `pipes` is made of zeros. -/
def twoPrograms : Line where
  i := 2
  pipeline := by decide
  opened descriptor := 0 ≤ descriptor ∧ descriptor ≤ 3
  stdin := by decide
  stdout := by decide
  unassigned _ := ⟨0, 0⟩

def scriptOpen : DescriptorTable File := (initial twoPrograms).parent.files

/-- `pipe` returns the lowest descriptors that are free. -/
def twoForks : List Action :=
  List.replicate 3 (.parent ⟨4, 5⟩) ++ List.replicate 10 (.parent ⟨0, 6⟩)

def twoStages : State × List Event :=
  ((shell twoPrograms scriptOpen).reporting report).after twoForks rfl

def stdinClosed : Processed where
  i := 2
  before := scriptOpen
  events := twoStages.2
  after := twoStages.1.parent.files

theorem stdinClosed_run : LineRun stdinClosed := by
  have reachable : ((shell twoPrograms scriptOpen).reporting report).Reachable twoStages :=
    TransitionSystem.after_reachable _ twoForks rfl
  exact .pipeline twoPrograms scriptOpen (j := 2) reachable rfl

/-- The shell closes its standard input. -/
theorem stdin_closed : ScriptRun scriptOpen [stdinClosed] ∧ ¬ Hygienic stdinClosed ∧
    scriptOpen STDIN_FILENO = some (.inherited STDIN_FILENO) ∧
    stdinClosed.after STDIN_FILENO = none := by
  refine ⟨.line stdinClosed_run (.stop _), ?_, rfl, rfl⟩
  intro hygienic
  exact absurd (hygienic.restored STDIN_FILENO) (by decide)

def oneProgram : Processed where
  i := 1
  before := scriptOpen
  events := []
  after := scriptOpen

theorem script_hygienic_iff_two :
    (∀ line ∈ [oneProgram], Hygienic line) ∧
      ¬ ∀ line ∈ [oneProgram, stdinClosed], Hygienic line :=
  ⟨(script_hygienic_iff (.line (.single (by decide) scriptOpen) (.stop _))).mpr (by decide),
    fun hygienic => absurd ((script_hygienic_iff
      (.line (.single (by decide) scriptOpen) (.line stdinClosed_run (.stop _)))).mp hygienic)
      (by decide)⟩

end OsExercises.Shell
