import Mathlib.Logic.Function.Basic
import Mathlib.Tactic.Simps.Basic
import OsExercises.Foundation.Pipe
import OsExercises.Foundation.TransitionSystem
import OsExercises.NamedPipe.Reader

/-! # A master and its slaves

The processes of cw05/zad2, all with the same name for the FIFO. The master creates it and
prints what it reads, and each slave sends a number of messages. A process that opens the FIFO
waits for the other side. Whoever comes to its end removes the name. -/

namespace OsExercises.NamedPipe

open OsExercises

/-- A slave, and what each `date` writes into the `popen` stream. -/
structure Slave where
  /-- `stringToInt(argv[2])`, or 0 if that is negative -/
  count : Nat
  pid : Nat
  date : Nat → Text
  noNul : ∀ i, nul ∉ message pid (date i)
  /-- `buf2` has room for the message. -/
  fits : ∀ i, (message pid (date i)).length < PIPE_BUF

/-- The i-th text in `buf2`. -/
def Slave.message (slave : Slave) (i : Nat) : Text :=
  NamedPipe.message slave.pid (slave.date i)

structure Setting where
  slaves : Nat
  slave : Fin slaves → Slave
  /-- Somebody else has left a FIFO of the name. -/
  taken : Bool
  /-- `char buf[PIPE_BUF]` of the master, as it is at first -/
  buf : Buffer
  capacity : Nat
  /-- A pipe has room for what is written at once. -/
  roomy : PIPE_BUF ≤ capacity

/-- The next statement of the master. -/
inductive MasterPc
  | mkfifo
  | openFifo
  /-- in `open`, until a slave has opened the FIFO, too -/
  | opening
  /-- `read`, and the `printf` of what it has read -/
  | read
  | close
  | remove
  | returned
  /-- `return 1` -/
  | failed
  deriving DecidableEq

/-- The next statement of a slave. -/
inductive SlavePc
  | openFifo
  /-- in `open`, until the master has opened the FIFO, too -/
  | opening
  /-- in `open`, after the master has closed the FIFO -/
  | waiting
  /-- `i < stringToInt(argv[2])` -/
  | test (i : Nat)
  | write (i : Nat)
  | close
  | remove
  | returned
  /-- `return 1` -/
  | failed
  /-- by SIGPIPE, before the i-th message -/
  | killed (i : Nat)
  deriving DecidableEq

namespace MasterPc

/-- The master has opened the FIFO, or has begun to. -/
def Opened : MasterPc → Bool
  | .opening | .read | .close | .remove | .returned => true
  | .mkfifo | .openFifo | .failed => false

/-- There is a reader. -/
def Reads : MasterPc → Bool
  | .opening | .read | .close => true
  | _ => false

/-- A `read` has found the end of the file. -/
def Ended : MasterPc → Bool
  | .close | .remove | .returned => true
  | _ => false

end MasterPc

namespace SlavePc

/-- The slave has opened the FIFO, or has begun to. -/
def Opened : SlavePc → Bool
  | .openFifo | .failed => false
  | _ => true

/-- There is a writer. -/
def Writes : SlavePc → Bool
  | .opening | .waiting | .test _ | .write _ | .close => true
  | _ => false

end SlavePc

structure State (setting : Setting) where
  /-- There is a file with the name. -/
  name : Bool
  pipe : Pipe (Fin setting.slaves) Char
  /-- Nobody writes a NUL. -/
  noNul : nul ∉ pipe.content
  master : MasterPc
  buf : Buffer
  /-- What the master has printed; `none` where it goes on behind the array. -/
  printed : Option Text
  slaves : Fin setting.slaves → SlavePc
  /-- Which slaves have opened the FIFO after the master has read the end of the file. No step
  depends on it. -/
  late : Fin setting.slaves → Bool

variable {setting : Setting}

def initial (setting : Setting) : State setting where
  name := setting.taken
  pipe := .empty
  noNul := List.not_mem_nil
  master := .mkfifo
  buf := setting.buf
  printed := some []
  slaves := fun _ => .openFifo
  late := fun _ => false

namespace State

@[simps -fullyApplied] def moveMaster (state : State setting) (next : MasterPc) :
    State setting :=
  { state with master := next }

@[simps -fullyApplied] def moveSlave (state : State setting) (index : Fin setting.slaves)
    (next : SlavePc) : State setting :=
  { state with slaves := Function.update state.slaves index next }

/-- The next chunk that a `read` returns. -/
def chunk (state : State setting) (something : state.pipe.content ≠ []) : Chunk where
  bytes := state.pipe.content.take PIPE_BUF
  nonempty := by simp [something, PIPE_BUF]
  noNul := fun member => state.noNul (List.mem_of_mem_take member)
  fits := by simp

/-- `read(pipe_fd, buf, PIPE_BUF)` and `printf("%s", buf)` -/
@[simps -fullyApplied] def readChunk (state : State setting)
    (something : state.pipe.content ≠ []) : State setting :=
  let buf := state.buf.read (state.chunk something)
  { state with
    pipe := state.pipe.read PIPE_BUF
    noNul := fun member => state.noNul (List.mem_of_mem_drop member)
    buf := buf
    printed := state.printed.bind fun before => buf.print.map (before ++ ·) }

/-- `write(pipe_fd, buf2, strlen(buf2))` -/
@[simps -fullyApplied] def writeMessage (state : State setting) (index : Fin setting.slaves)
    (i : Nat) : State setting :=
  { state with
    pipe := state.pipe.write index ((setting.slave index).message i)
    noNul := by
      intro member
      rcases List.mem_append.mp member with member | member
      · exact state.noNul member
      · exact (setting.slave index).noNul i member }

/-- `open(argv[1], O_WRONLY)`, up to the moment when the slave waits for the master -/
@[simps -fullyApplied] def beginOpen (state : State setting) (index : Fin setting.slaves) :
    State setting :=
  { state with
    slaves := Function.update state.slaves index
      (if state.master.Opened ∧ ¬ state.master.Reads then .waiting else .opening)
    late := Function.update state.late index state.master.Ended }

/-- `remove(argv[1])` -/
@[simps -fullyApplied] def removeName (state : State setting) : State setting :=
  { state with name := false }

end State

/-- One statement of the master. -/
def master (state : State setting) : Option (State setting) :=
  match state.master with
  | .mkfifo =>
      if state.name then
        some <| state.moveMaster .failed
      else
        some <| { state with name := true }.moveMaster .openFifo
  | .openFifo => some <| state.moveMaster (if state.name then .opening else .failed)
  | .opening =>
      if ∃ index, (state.slaves index).Opened then some <| state.moveMaster .read else none
  | .read =>
      if something : state.pipe.content ≠ [] then
        some <| state.readChunk something
      else if ∃ index, (state.slaves index).Writes then
        none
      else
        some <| state.moveMaster .close
  | .close => some <| state.moveMaster .remove
  | .remove => some <| state.removeName.moveMaster .returned
  | .returned | .failed => none

/-- One statement of a slave. -/
def slave (state : State setting) (index : Fin setting.slaves) : Option (State setting) :=
  match state.slaves index with
  | .openFifo =>
      if state.name then some <| state.beginOpen index
      else some <| state.moveSlave index .failed
  | .opening => if state.master.Opened then some <| state.moveSlave index (.test 0) else none
  | .test i =>
      some <| state.moveSlave index
        (if i < (setting.slave index).count then .write i else .close)
  | .write i =>
      if state.master.Reads then
        if state.pipe.content.length + ((setting.slave index).message i).length ≤
            setting.capacity then
          some <| (state.writeMessage index i).moveSlave index (.test (i + 1))
        else
          none
      else
        some <| state.moveSlave index (.killed i)
  | .close => some <| state.moveSlave index .remove
  | .remove => some <| state.removeName.moveSlave index .returned
  | .waiting | .returned | .failed | .killed _ => none

inductive Action (setting : Setting)
  | master
  | slave (index : Fin setting.slaves)

/-- The master and the slaves together. -/
def system (setting : Setting) : TransitionSystem (State setting) (Action setting) where
  initial := initial setting
  next state
    | .master => master state
    | .slave index => slave state index

end OsExercises.NamedPipe
