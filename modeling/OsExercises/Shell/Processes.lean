import Mathlib.Tactic.Simps.Basic
import OsExercises.Foundation.Descriptors
import OsExercises.Foundation.TransitionSystem

/-! # A pipeline of the shell

The shell of cw05/zad1 on a line with two or more programs: the loop that makes a pipe
and forks a child for each of them, up to `waitpid`, and the children up to `execvp`.
Every call on a descriptor is a step of its own, and the processes run in any order.
`fork` and `pipe` succeed. -/

namespace OsExercises.Shell

open OsExercises

/-- What a descriptor refers to. -/
inductive File
  /-- what the shell had open as `descriptor` when it read the line -/
  | inherited (descriptor : Int)
  /-- the ends of the pipe that iteration `k` has made -/
  | readEnd (k : Nat)
  | writeEnd (k : Nat)
  deriving DecidableEq

/-- An entry of `pipes`. -/
structure PipeEnds where
  /-- `pipes[…][0]` -/
  input : Int
  /-- `pipes[…][1]` -/
  output : Int
  deriving DecidableEq

def STDIN_FILENO : Int := 0
def STDOUT_FILENO : Int := 1

/-- A line of `i` programs, and the shell that reads it. -/
structure Line where
  i : Nat
  pipeline : 2 ≤ i
  /-- What the shell has open. -/
  opened : Int → Bool
  stdin : opened STDIN_FILENO
  stdout : opened STDOUT_FILENO
  /-- The values that `pipes` happens to have, which no statement has assigned. -/
  unassigned : Nat → PipeEnds

/-- The next statement of the shell. -/
inductive ParentPc
  /-- `j < i` and `if (j > 0)` -/
  | test (j : Nat)
  /-- `close(pipes[j % 2][0])` -/
  | closeRead (j : Nat)
  /-- `close(pipes[j % 2][1])` -/
  | closeWrite (j : Nat)
  | pipe (j : Nat)
  | fork (j : Nat)
  /-- the four `close` after the loop -/
  | closeOlderRead (j : Nat)
  | closeOlderWrite (j : Nat)
  | closeNewerRead (j : Nat)
  | closeNewerWrite (j : Nat)
  | waitpid (j : Nat)
  deriving DecidableEq

/-- The next statement of a child. -/
inductive ChildPc
  /-- `if (j != 0)` -/
  | testFirst
  | closeWrite
  | dupInput
  /-- `if (j != i - 1)` -/
  | testLast
  | closeRead
  | dupOutput
  | execvp
  | failed
  deriving DecidableEq

structure Parent where
  pc : ParentPc
  files : DescriptorTable File
  /-- Two entries are used. -/
  pipes : Nat → PipeEnds

structure Child where
  pc : ChildPc
  files : DescriptorTable File
  pipes : Nat → PipeEnds

structure State where
  parent : Parent
  /-- The child of each iteration. -/
  child : Nat → Option Child

def initial (line : Line) : State where
  parent :=
    { pc := .test 0
      files := fun descriptor =>
        if line.opened descriptor then some (.inherited descriptor) else none
      pipes := line.unassigned }
  child _ := none

namespace State

@[simps] def setParent (state : State) (parent : Parent) : State :=
  { state with parent := parent }

@[simps -fullyApplied] def setChild (state : State) (j : Nat) (child : Child) : State :=
  { state with child := Function.update state.child j (some child) }

end State

/-- The shell closes a descriptor and goes on. -/
def Parent.close (parent : Parent) (descriptor : Int) (pc : ParentPc) : Parent :=
  { parent with pc := pc, files := parent.files.close descriptor }

/-- One statement of the shell. `ends` are the descriptors that `pipe` returns, two that
are free. -/
def parentStep (line : Line) (state : State) (ends : PipeEnds) : Option State :=
  let parent := state.parent
  let pipes := parent.pipes
  match parent.pc with
  | .test j =>
      let next : ParentPc :=
        if j < line.i then if 0 < j then .closeRead j else .pipe j else .closeOlderRead j
      some <| state.setParent { parent with pc := next }
  | .closeRead j => some <| state.setParent (parent.close (pipes (j % 2)).input (.closeWrite j))
  | .closeWrite j => some <| state.setParent (parent.close (pipes (j % 2)).output (.pipe j))
  | .pipe j =>
      if parent.files ends.input = none ∧ parent.files ends.output = none ∧
          ends.input ≠ ends.output then
        some <| state.setParent
          { pc := .fork j
            files := (parent.files.assign ends.input (.readEnd j)).assign ends.output (.writeEnd j)
            pipes := Function.update pipes (j % 2) ends }
      else
        none
  | .fork j =>
      some <| (state.setParent { parent with pc := .test (j + 1) }).setChild j
        { pc := .testFirst, files := parent.files, pipes := pipes }
  | .closeOlderRead j =>
      some <| state.setParent (parent.close (pipes (j % 2)).input (.closeOlderWrite j))
  | .closeOlderWrite j =>
      some <| state.setParent (parent.close (pipes (j % 2)).output (.closeNewerRead j))
  | .closeNewerRead j =>
      some <| state.setParent (parent.close (pipes ((j + 1) % 2)).input (.closeNewerWrite j))
  | .closeNewerWrite j =>
      some <| state.setParent (parent.close (pipes ((j + 1) % 2)).output (.waitpid j))
  | .waitpid _ => none

/-- The child calls `dup2`, and exits when it fails. -/
def Child.dup2 (child : Child) (source target : Int) (pc : ChildPc) : Child :=
  match child.files.dup2 source target with
  | some files => { child with pc := pc, files := files }
  | none => { child with pc := .failed }

/-- One statement of the child that iteration `j` has forked. -/
def childStep (line : Line) (j : Nat) (child : Child) : Option Child :=
  let pipes := child.pipes
  match child.pc with
  | .testFirst => some { child with pc := if j ≠ 0 then .closeWrite else .testLast }
  | .closeWrite =>
      some { child with pc := .dupInput, files := child.files.close (pipes ((j + 1) % 2)).output }
  | .dupInput => some <| child.dup2 (pipes ((j + 1) % 2)).input STDIN_FILENO .testLast
  | .testLast => some { child with pc := if j ≠ line.i - 1 then .closeRead else .execvp }
  | .closeRead =>
      some { child with pc := .dupOutput, files := child.files.close (pipes (j % 2)).input }
  | .dupOutput => some <| child.dup2 (pipes (j % 2)).output STDOUT_FILENO .execvp
  | .execvp | .failed => none

inductive Action
  | parent (ends : PipeEnds)
  | child (j : Nat)
  deriving DecidableEq

/-- The shell and its children together. -/
def system (line : Line) : TransitionSystem State Action where
  initial := initial line
  next state
    | .parent ends => parentStep line state ends
    | .child j =>
        (state.child j).bind fun child => (childStep line j child).map (state.setChild j)

/-- In iteration 1 the entry of `pipes` that is closed was never assigned. It names no
open descriptor. -/
def UnassignedClosed (state : State) : Action → Prop
  | .parent _ =>
      (state.parent.pc = .closeRead 1 → state.parent.files (state.parent.pipes 1).input = none) ∧
        (state.parent.pc = .closeWrite 1 → state.parent.files (state.parent.pipes 1).output = none)
  | .child _ => True

instance (state : State) (action : Action) : Decidable (UnassignedClosed state action) := by
  cases action <;> unfold UnassignedClosed <;> infer_instance

end OsExercises.Shell
