import Mathlib.Tactic.Simps.Basic
import OsExercises.BoundedBuffer.Memory
import OsExercises.Foundation.TransitionSystem

/-! # Bounded buffer with mutexes and condition variables

The threads of cw09/zad1. Locking and unlocking a mutex, waiting for and
broadcasting a condition, `getline` and each access to a shared variable are
separate steps; the two index updates and the `line_nr` count, which only the
lock holder sees, belong to the step next to them. -/

namespace OsExercises.BoundedBuffer.Mutex

open OsExercises

/-- The next statement of a producer. -/
inductive ProducerPc
  | lockWrite
  | lockCell
  | testFull
  /-- about to wait for `someone_is_reading` -/
  | waitReading
  /-- inside the wait, which will lock `cell` again -/
  | blockedReading (cell : Nat)
  /-- woken up, but without the lock on `cell` yet -/
  | relockCell (cell : Nat)
  | getline
  | store (line : Text)
  | broadcast
  | unlockCell
  | advance
  | unlockWrite
  | eofBroadcast
  | eofUnlockCell
  | eofUnlockWrite
  | setEndTime
  | returned
  deriving DecidableEq

/-- The next statement of a consumer. -/
inductive ConsumerPc
  | lockRead
  | lockCell
  | testEmpty
  | testEnd
  /-- about to wait for `someone_is_writing` -/
  | waitWriting
  /-- inside the wait, which will lock `cell` again -/
  | blockedWriting (cell : Nat)
  /-- woken up, but without the lock on `cell` yet -/
  | relockCell (cell : Nat)
  | search
  | clear
  | broadcast
  | unlockCell
  | advance
  | unlockRead
  | endUnlockCell
  | endUnlockRead
  | returned
  deriving DecidableEq

structure State (options : Options) where
  memory : Memory
  /-- The owner of each mutex, if it is locked. -/
  writeLock : Option (Thread options)
  readLock : Option (Thread options)
  bufferLock : Nat → Option (Thread options)
  producers : Fin options.P → ProducerPc
  consumers : Fin options.K → ConsumerPc
  main : MainPc

inductive Action (options : Options)
  /-- a thread executes its next statement -/
  | producer (index : Fin options.P)
  | consumer (index : Fin options.K)
  /-- a thread wakes up from a wait although nobody has broadcast -/
  | wakeProducer (index : Fin options.P)
  | wakeConsumer (index : Fin options.K)
  | main

variable {options : Options}

def initial (options : Options) : State options where
  memory := Memory.initial
  writeLock := none
  readLock := none
  bufferLock _ := none
  producers _ := .lockWrite
  consumers _ := .lockRead
  main := MainPc.initial options

/-- Waking up leaves the wait for the lock. -/
def ProducerPc.wake : ProducerPc → ProducerPc
  | .blockedReading cell => .relockCell cell
  | pc => pc

def ConsumerPc.wake : ConsumerPc → ConsumerPc
  | .blockedWriting cell => .relockCell cell
  | pc => pc

namespace State

@[simps -fullyApplied] def moveProducer (state : State options) (index : Fin options.P)
    (pc : ProducerPc) : State options :=
  { state with producers := Function.update state.producers index pc }

@[simps -fullyApplied] def moveConsumer (state : State options) (index : Fin options.K)
    (pc : ConsumerPc) : State options :=
  { state with consumers := Function.update state.consumers index pc }

@[simps -fullyApplied] def setCellLock (state : State options) (cell : Nat)
    (owner : Option (Thread options)) : State options :=
  { state with bufferLock := Function.update state.bufferLock cell owner }

/-- `pthread_cond_broadcast(&someone_is_reading)` -/
@[simps -fullyApplied] def broadcastReading (state : State options) : State options :=
  { state with producers := fun index => (state.producers index).wake }

/-- `pthread_cond_broadcast(&someone_is_writing)` -/
@[simps -fullyApplied] def broadcastWriting (state : State options) : State options :=
  { state with consumers := fun index => (state.consumers index).wake }

end State

/-- One statement of `P_start_routine` on the stream `file`. -/
def pStartRoutine (file : List Text) (state : State options)
    (index : Fin options.P) : Option (State options) :=
  let self := Thread.producer index
  let memory := state.memory
  match state.producers index with
  | .lockWrite =>
      if state.writeLock = none then
        some <| { state with writeLock := some self }.moveProducer index .lockCell
      else
        none
  | .lockCell =>
      if state.bufferLock memory.writingPos = none then
        some <| (state.setCellLock memory.writingPos (some self)).moveProducer index
          .testFull
      else
        none
  | .testFull =>
      some <| state.moveProducer index
        (if memory.writingCell ≠ none then .waitReading else .getline)
  | .waitReading =>
      some <| (state.setCellLock memory.writingPos none).moveProducer index
        (.blockedReading memory.writingPos)
  | .blockedReading _ => none
  | .relockCell cell =>
      if state.bufferLock cell = none then
        some <| (state.setCellLock cell (some self)).moveProducer index .testFull
      else
        none
  | .getline =>
      match file[memory.filePos]? with
      | some line =>
          some <| { state with
            memory := { memory with filePos := memory.filePos + 1 } }.moveProducer
              index (.store line)
      | none => some <| state.moveProducer index .eofBroadcast
  | .store line =>
      some <| { state with memory := memory.store line }.moveProducer index .broadcast
  | .broadcast => some <| state.broadcastWriting.moveProducer index .unlockCell
  | .unlockCell =>
      some <| (state.setCellLock memory.writingPos none).moveProducer index .advance
  | .advance =>
      some <| { state with memory := memory.advanceWriting options.N }.moveProducer
        index .unlockWrite
  | .unlockWrite =>
      some <| { state with writeLock := none }.moveProducer index .lockWrite
  | .eofBroadcast => some <| state.broadcastWriting.moveProducer index .eofUnlockCell
  | .eofUnlockCell =>
      some <| (state.setCellLock memory.writingPos none).moveProducer index
        .eofUnlockWrite
  | .eofUnlockWrite =>
      some <| { state with writeLock := none }.moveProducer index .setEndTime
  | .setEndTime =>
      if options.NK = 0 then
        some <| { state with memory := { memory with endTime := true } }.moveProducer
          index .returned
      else
        some <| state.moveProducer index .returned
  | .returned => none

/-- One statement of `C_start_routine`. -/
def cStartRoutine (state : State options) (index : Fin options.K) :
    Option (State options) :=
  let self := Thread.consumer index
  let memory := state.memory
  match state.consumers index with
  | .lockRead =>
      if state.readLock = none then
        some <| { state with readLock := some self }.moveConsumer index .lockCell
      else
        none
  | .lockCell =>
      if state.bufferLock memory.readingPos = none then
        some <| (state.setCellLock memory.readingPos (some self)).moveConsumer index
          .testEmpty
      else
        none
  | .testEmpty =>
      some <| state.moveConsumer index
        (if memory.readingCell = none then .testEnd else .search)
  | .testEnd =>
      some <| state.moveConsumer index
        (if memory.endTime then .endUnlockCell else .waitWriting)
  | .waitWriting =>
      some <| (state.setCellLock memory.readingPos none).moveConsumer index
        (.blockedWriting memory.readingPos)
  | .blockedWriting _ => none
  | .relockCell cell =>
      if state.bufferLock cell = none then
        some <| (state.setCellLock cell (some self)).moveConsumer index .testEmpty
      else
        none
  | .search =>
      -- `strlen` of a NULL cell would be undefined, so it has no next state.
      memory.readingCell.map fun line =>
        { state with memory :=
          { memory with lineCounter := searchLine options line memory.lineCounter } }
          |>.moveConsumer index .clear
  | .clear =>
      some <| { state with memory := memory.clear }.moveConsumer index .broadcast
  | .broadcast => some <| state.broadcastReading.moveConsumer index .unlockCell
  | .unlockCell =>
      some <| (state.setCellLock memory.readingPos none).moveConsumer index .advance
  | .advance =>
      some <| { state with memory := memory.advanceReading options.N }.moveConsumer
        index .unlockRead
  | .unlockRead =>
      some <| { state with readLock := none }.moveConsumer index .lockRead
  | .endUnlockCell =>
      some <| (state.setCellLock memory.readingPos none).moveConsumer index
        .endUnlockRead
  | .endUnlockRead =>
      some <| { state with readLock := none }.moveConsumer index .returned
  | .returned => none

/-- One statement of `main`. -/
def mainThread (state : State options) : Option (State options) :=
  (state.main.next (fun index => state.producers index = .returned)
    (fun index => state.consumers index = .returned)).map fun main =>
      { state with main := main }

/-- All threads together. The process ends, and every thread with it, when
`main` returns. -/
def system (options : Options) (file : List Text) :
    TransitionSystem (State options) (Action options) where
  initial := initial options
  next state action :=
    if state.main = .returned then
      none
    else
      match action with
      | .producer index => pStartRoutine file state index
      | .consumer index => cStartRoutine state index
      | .wakeProducer index =>
          match state.producers index with
          | .blockedReading cell => some (state.moveProducer index (.relockCell cell))
          | _ => none
      | .wakeConsumer index =>
          match state.consumers index with
          | .blockedWriting cell => some (state.moveConsumer index (.relockCell cell))
          | _ => none
      | .main => mainThread state

end OsExercises.BoundedBuffer.Mutex
