import Mathlib.Tactic.Simps.Basic
import OsExercises.BoundedBuffer.Memory
import OsExercises.Foundation.Exclusion
import OsExercises.Foundation.TransitionSystem

/-! # Bounded buffer with semaphores

The threads of cw09/zad2. A wait for a full or an empty buffer posts the cell's
semaphore, waits for a unit of the other side's semaphore, and waits for the
cell again. Unlike a broadcast, a post is kept until somebody waits for it. -/

namespace OsExercises.BoundedBuffer.Semaphore

open OsExercises

/-- The next statement of a producer. -/
inductive ProducerPc
  | lockWrite
  | lockCell
  | testFull
  | waitUnlockCell
  /-- `sem_wait(&someone_is_reading)` -/
  | waitReading
  | relockCell
  | getline
  | store (line : Text)
  | post
  | unlockCell
  | advance
  | unlockWrite
  | eofPost
  | eofUnlockCell
  | eofUnlockWrite
  | setEndTime
  | returned
  deriving DecidableEq

/-- The next statement of a consumer. -/
inductive ConsumerPc
  | lockRead
  | lockCell
  | testEmpty
  | testEnd
  | waitUnlockCell
  /-- `sem_wait(&someone_is_writing)` -/
  | waitWriting
  | relockCell
  | search
  | clear
  | post
  | unlockCell
  | advance
  | unlockRead
  | endUnlockCell
  | endUnlockRead
  | returned
  deriving DecidableEq

structure State (options : Options) where
  memory : Memory
  writeLock : Nat
  readLock : Nat
  bufferLock : Nat → Nat
  someoneIsReading : Nat
  someoneIsWriting : Nat
  producers : Fin options.P → ProducerPc
  consumers : Fin options.K → ConsumerPc
  main : MainPc

/-- Which thread executes its next statement. -/
inductive Action (options : Options)
  | producer (index : Fin options.P)
  | consumer (index : Fin options.K)
  | main

variable {options : Options}

/-- `someone_is_writing` is never initialised; a global semaphore is zero. -/
def initial (options : Options) : State options where
  memory := Memory.initial
  writeLock := 1
  readLock := 1
  bufferLock _ := 1
  someoneIsReading := 0
  someoneIsWriting := 0
  producers _ := .lockWrite
  consumers _ := .lockRead
  main := MainPc.initial options

namespace State

@[simps -fullyApplied] def moveProducer (state : State options) (index : Fin options.P)
    (pc : ProducerPc) : State options :=
  { state with producers := Function.update state.producers index pc }

@[simps -fullyApplied] def moveConsumer (state : State options) (index : Fin options.K)
    (pc : ConsumerPc) : State options :=
  { state with consumers := Function.update state.consumers index pc }

@[simps -fullyApplied] def setCellLock (state : State options) (cell : Nat)
    (value : Nat) : State options :=
  { state with bufferLock := Function.update state.bufferLock cell value }

/-- `sem_post(&buffer_lock[cell])` -/
def postCell (state : State options) (cell : Nat) : State options :=
  state.setCellLock cell (state.bufferLock cell + 1)

end State

/-- One statement of `P_start_routine` on the stream `file`. -/
def pStartRoutine (file : List Text) (state : State options)
    (index : Fin options.P) : Option (State options) :=
  let memory := state.memory
  match state.producers index with
  | .lockWrite =>
      (semWait state.writeLock).map fun value =>
        { state with writeLock := value }.moveProducer index .lockCell
  | .lockCell =>
      (semWait (state.bufferLock memory.writingPos)).map fun value =>
        (state.setCellLock memory.writingPos value).moveProducer index .testFull
  | .testFull =>
      some <| state.moveProducer index
        (if memory.writingCell ≠ none then .waitUnlockCell else .getline)
  | .waitUnlockCell =>
      some <| (state.postCell memory.writingPos).moveProducer index .waitReading
  | .waitReading =>
      (semWait state.someoneIsReading).map fun value =>
        { state with someoneIsReading := value }.moveProducer index .relockCell
  | .relockCell =>
      (semWait (state.bufferLock memory.writingPos)).map fun value =>
        (state.setCellLock memory.writingPos value).moveProducer index .testFull
  | .getline =>
      match file[memory.filePos]? with
      | some line =>
          some <| { state with
            memory := { memory with filePos := memory.filePos + 1 } }.moveProducer
              index (.store line)
      | none => some <| state.moveProducer index .eofPost
  | .store line =>
      some <| { state with memory := memory.store line }.moveProducer index .post
  | .post =>
      some <| { state with someoneIsWriting := state.someoneIsWriting + 1 }.moveProducer
        index .unlockCell
  | .unlockCell =>
      some <| (state.postCell memory.writingPos).moveProducer index .advance
  | .advance =>
      some <| { state with memory := memory.advanceWriting options.N }.moveProducer
        index .unlockWrite
  | .unlockWrite =>
      some <| { state with writeLock := state.writeLock + 1 }.moveProducer index
        .lockWrite
  | .eofPost =>
      some <| { state with someoneIsWriting := state.someoneIsWriting + 1 }.moveProducer
        index .eofUnlockCell
  | .eofUnlockCell =>
      some <| (state.postCell memory.writingPos).moveProducer index .eofUnlockWrite
  | .eofUnlockWrite =>
      some <| { state with writeLock := state.writeLock + 1 }.moveProducer index
        .setEndTime
  | .setEndTime =>
      if options.NK = 0 then
        some <| { state with memory := { memory with endTime := true } }.moveProducer
          index .returned
      else
        some <| state.moveProducer index .returned
  | .returned => none

/-- One statement of `C_start_routine`. -/
def cStartRoutine (state : State options) (index : Fin options.K) :
    Option (State options) :=
  let memory := state.memory
  match state.consumers index with
  | .lockRead =>
      (semWait state.readLock).map fun value =>
        { state with readLock := value }.moveConsumer index .lockCell
  | .lockCell =>
      (semWait (state.bufferLock memory.readingPos)).map fun value =>
        (state.setCellLock memory.readingPos value).moveConsumer index .testEmpty
  | .testEmpty =>
      some <| state.moveConsumer index
        (if memory.readingCell = none then .testEnd else .search)
  | .testEnd =>
      some <| state.moveConsumer index
        (if memory.endTime then .endUnlockCell else .waitUnlockCell)
  | .waitUnlockCell =>
      some <| (state.postCell memory.readingPos).moveConsumer index .waitWriting
  | .waitWriting =>
      (semWait state.someoneIsWriting).map fun value =>
        { state with someoneIsWriting := value }.moveConsumer index .relockCell
  | .relockCell =>
      (semWait (state.bufferLock memory.readingPos)).map fun value =>
        (state.setCellLock memory.readingPos value).moveConsumer index .testEmpty
  | .search =>
      -- `strlen` of a NULL cell would be undefined, so it has no next state.
      memory.readingCell.map fun line =>
        { state with memory :=
          { memory with lineCounter := searchLine options line memory.lineCounter } }
          |>.moveConsumer index .clear
  | .clear =>
      some <| { state with memory := memory.clear }.moveConsumer index .post
  | .post =>
      some <| { state with someoneIsReading := state.someoneIsReading + 1 }.moveConsumer
        index .unlockCell
  | .unlockCell =>
      some <| (state.postCell memory.readingPos).moveConsumer index .advance
  | .advance =>
      some <| { state with memory := memory.advanceReading options.N }.moveConsumer
        index .unlockRead
  | .unlockRead =>
      some <| { state with readLock := state.readLock + 1 }.moveConsumer index .lockRead
  | .endUnlockCell =>
      some <| (state.postCell memory.readingPos).moveConsumer index .endUnlockRead
  | .endUnlockRead =>
      some <| { state with readLock := state.readLock + 1 }.moveConsumer index .returned
  | .returned => none

/-- One statement of `main`. -/
def mainThread (state : State options) : Option (State options) :=
  (state.main.next (fun index => state.producers index = .returned)
    (fun index => state.consumers index = .returned)).map fun main =>
      { state with main := main }

/-- All threads together. The process ends, and every thread with it, when
`main` returns. -/
def system (options : Options) (file : List Text) :
    TransitionSystem (State options) (Action options) where
  initial := initial options
  next state action :=
    if state.main = .returned then
      none
    else
      match action with
      | .producer index => pStartRoutine file state index
      | .consumer index => cStartRoutine state index
      | .main => mainThread state

end OsExercises.BoundedBuffer.Semaphore
