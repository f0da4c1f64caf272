import OsExercises.Foundation.Pipeline
import OsExercises.Shell.Processes

/-! # The programs of a pipeline

The children of a pipeline beyond `execvp`, and the shell up to the return of `waitpid`. A program
reads its descriptor 0 and writes its descriptor 1, whatever they refer to, while the shell and
the other children still go on. It gets to the end of a pipe when no process has the write end
open, and is killed by SIGPIPE when no process has the read end open. -/

namespace OsExercises.Shell

open OsExercises

/-- A line, with what the programs named there do. -/
structure Command (Byte : Type u) (Memory : Type v) where
  line : Line
  program : Nat → Transducer Byte Memory
  /-- What the standard input of the shell has to be read. -/
  input : List Byte
  /-- How many bytes a pipe takes. -/
  capacity : Nat
  room : 0 < capacity
  /-- The descriptors of a process are below this. -/
  openMax : Nat
  opened : ∀ descriptor, line.opened descriptor → 0 ≤ descriptor ∧ descriptor < openMax

/-- The shell, its children, and what their programs have done. -/
structure Flow (Byte : Type u) (Memory : Type v) where
  state : State
  /-- The program of each child. It starts when the child comes to `execvp`. -/
  process : Nat → Pipeline.Process Memory
  pipe : Nat → List Byte
  /-- What is still to be read of the standard input of the shell. -/
  stdin : List Byte
  /-- What has been written to the standard output of the shell. -/
  stdout : List Byte
  /-- `waitpid` has returned. -/
  returned : Bool

inductive FlowAction
  /-- a statement of the shell, or of a child before `execvp` -/
  | shell (action : Action)
  /-- the next call of a program -/
  | program (j : Nat)
  | waitpid
  deriving DecidableEq

variable {Byte : Type u} {Memory : Type v}

/-- The process has the file open under some descriptor. -/
def holds (openMax : Nat) (files : DescriptorTable File) (file : File) : Bool :=
  (List.range openMax).any fun descriptor => files descriptor = some file

namespace Flow

/-- Some process has the file open. -/
def inUse (command : Command Byte Memory) (flow : Flow Byte Memory) (file : File) : Bool :=
  holds command.openMax flow.state.parent.files file ||
    (List.range command.line.i).any fun j =>
      match flow.state.child j with
      | some child => !(flow.process j).ended && holds command.openMax child.files file
      | none => false

def setProcess (flow : Flow Byte Memory) (j : Nat) (process : Pipeline.Process Memory) :
    Flow Byte Memory :=
  { flow with process := Function.update flow.process j process }

def setPipe (flow : Flow Byte Memory) (k : Nat) (bytes : List Byte) : Flow Byte Memory :=
  { flow with pipe := Function.update flow.pipe k bytes }

def setStdin (flow : Flow Byte Memory) (bytes : List Byte) : Flow Byte Memory :=
  { flow with stdin := bytes }

def setStdout (flow : Flow Byte Memory) (bytes : List Byte) : Flow Byte Memory :=
  { flow with stdout := bytes }

/-- The program of child `j` reads from a file. -/
def read (command : Command Byte Memory) (flow : Flow Byte Memory) (j : Nat)
    (received : Option Byte → Memory) (file : File) : Option (Flow Byte Memory) :=
  let goOn byte := flow.setProcess j (.running (received byte))
  match file with
  | .inherited descriptor =>
      if descriptor = STDIN_FILENO then
        match flow.stdin with
        | byte :: rest => some ((goOn (some byte)).setStdin rest)
        | [] => some (goOn none)
      else
        none
  | .readEnd k =>
      match flow.pipe k with
      | byte :: rest => some ((goOn (some byte)).setPipe k rest)
      | [] => if flow.inUse command (.writeEnd k) then none else some (goOn none)
  | .writeEnd _ => none

/-- The program of child `j` writes to a file. -/
def write (command : Command Byte Memory) (flow : Flow Byte Memory) (j : Nat) (byte : Byte)
    (sent : Memory) (file : File) : Option (Flow Byte Memory) :=
  let goOn := flow.setProcess j (.running sent)
  match file with
  | .inherited descriptor =>
      if descriptor = STDOUT_FILENO then
        some (goOn.setStdout (flow.stdout ++ [byte]))
      else
        none
  | .writeEnd k =>
      if flow.inUse command (.readEnd k) then
        if (flow.pipe k).length < command.capacity then
          some (goOn.setPipe k (flow.pipe k ++ [byte]))
        else
          none
      else
        some (flow.setProcess j .killed)
  | .readEnd _ => none

/-- The next call of the program of child `j`. -/
def call (command : Command Byte Memory) (flow : Flow Byte Memory) (j : Nat) (child : Child)
    (memory : Memory) : Option (Flow Byte Memory) :=
  match (command.program j).call memory with
  | .read received => (child.files STDIN_FILENO).bind (flow.read command j received)
  | .write byte sent => (child.files STDOUT_FILENO).bind (flow.write command j byte sent)
  | .exit => some (flow.setProcess j .exited)

def runProgram (command : Command Byte Memory) (flow : Flow Byte Memory) (j : Nat) :
    Option (Flow Byte Memory) :=
  match flow.state.child j, flow.process j with
  | some child, .running memory =>
      if child.pc = .execvp then flow.call command j child memory else none
  | _, _ => none

/-- `childPID` is the child that was forked last. -/
def waitpid (command : Command Byte Memory) (flow : Flow Byte Memory) :
    Option (Flow Byte Memory) :=
  match flow.state.parent.pc with
  | .waitpid _ =>
      if (flow.process (command.line.i - 1)).ended ∧ flow.returned = false then
        some { flow with returned := true }
      else
        none
  | _ => none

end Flow

/-- The shell, its children and their programs together. -/
def pipelines (command : Command Byte Memory) :
    TransitionSystem (Flow Byte Memory) FlowAction where
  initial :=
    { state := initial command.line
      process j := .running (command.program j).start
      pipe _ := []
      stdin := command.input
      stdout := []
      returned := false }
  next flow
    | .shell action =>
        ((system command.line).next flow.state action).map fun state => { flow with state := state }
    | .program j => flow.runProgram command j
    | .waitpid => flow.waitpid command

def InRange (openMax : Nat) (descriptor : Int) : Prop :=
  0 ≤ descriptor ∧ descriptor < openMax

/-- The shell closes no file by chance, and `pipe` returns descriptors that a process may have. -/
def Orderly (command : Command Byte Memory) (flow : Flow Byte Memory) : FlowAction → Prop
  | .shell (.parent ends) =>
      UnassignedClosed flow.state (.parent ends) ∧ InRange command.openMax ends.input ∧
        InRange command.openMax ends.output
  | _ => True

instance (openMax : Nat) (descriptor : Int) : Decidable (InRange openMax descriptor) :=
  inferInstanceAs (Decidable (_ ∧ _))

instance (command : Command Byte Memory) (flow : Flow Byte Memory) :
    ∀ action, Decidable (Orderly command flow action)
  | .shell (.parent _) => inferInstanceAs (Decidable (_ ∧ _ ∧ _))
  | .shell (.child _) | .program _ | .waitpid => isTrue trivial

end OsExercises.Shell
