import OsExercises.BoundedBuffer.Mutex.Threads

/-! # What the threads do

The statements of a producer and of a consumer, one case for each outcome. -/

namespace OsExercises.BoundedBuffer.Mutex

open OsExercises

variable {options : Options} {file : List Text} {state following : State options}

inductive ProducerStep (file : List Text) (state : State options) (index : Fin options.P) :
    State options → Prop
  | lockWrite (pc : state.producers index = .lockWrite) (free : state.writeLock = none) :
      ProducerStep file state index
        ({ state with writeLock := some (.producer index) }.moveProducer index .lockCell)
  | lockCell (pc : state.producers index = .lockCell)
      (free : state.bufferLock state.memory.writingPos = none) :
      ProducerStep file state index
        ((state.setCellLock state.memory.writingPos (some (.producer index))).moveProducer index
          .testFull)
  | full (pc : state.producers index = .testFull) (occupied : state.memory.writingCell ≠ none) :
      ProducerStep file state index (state.moveProducer index .waitReading)
  | notFull (pc : state.producers index = .testFull) (empty : state.memory.writingCell = none) :
      ProducerStep file state index (state.moveProducer index .getline)
  | waitReading (pc : state.producers index = .waitReading) :
      ProducerStep file state index
        ((state.setCellLock state.memory.writingPos none).moveProducer index
          (.blockedReading state.memory.writingPos))
  | relockCell {cell : Nat} (pc : state.producers index = .relockCell cell)
      (free : state.bufferLock cell = none) :
      ProducerStep file state index
        ((state.setCellLock cell (some (.producer index))).moveProducer index .testFull)
  | getline {line : Text} (pc : state.producers index = .getline)
      (read : file[state.memory.filePos]? = some line) :
      ProducerStep file state index
        ({ state with
          memory := { state.memory with filePos := state.memory.filePos + 1 } }.moveProducer
            index (.store line))
  | endOfFile (pc : state.producers index = .getline)
      (ends : file[state.memory.filePos]? = none) :
      ProducerStep file state index (state.moveProducer index .eofBroadcast)
  | store {line : Text} (pc : state.producers index = .store line) :
      ProducerStep file state index
        ({ state with memory := state.memory.store line }.moveProducer index .broadcast)
  | broadcast (pc : state.producers index = .broadcast) :
      ProducerStep file state index (state.broadcastWriting.moveProducer index .unlockCell)
  | unlockCell (pc : state.producers index = .unlockCell) :
      ProducerStep file state index
        ((state.setCellLock state.memory.writingPos none).moveProducer index .advance)
  | advance (pc : state.producers index = .advance) :
      ProducerStep file state index
        ({ state with memory := state.memory.advanceWriting options.N }.moveProducer index
          .unlockWrite)
  | unlockWrite (pc : state.producers index = .unlockWrite) :
      ProducerStep file state index
        ({ state with writeLock := none }.moveProducer index .lockWrite)
  | eofBroadcast (pc : state.producers index = .eofBroadcast) :
      ProducerStep file state index (state.broadcastWriting.moveProducer index .eofUnlockCell)
  | eofUnlockCell (pc : state.producers index = .eofUnlockCell) :
      ProducerStep file state index
        ((state.setCellLock state.memory.writingPos none).moveProducer index .eofUnlockWrite)
  | eofUnlockWrite (pc : state.producers index = .eofUnlockWrite) :
      ProducerStep file state index
        ({ state with writeLock := none }.moveProducer index .setEndTime)
  | setEndTime (pc : state.producers index = .setEndTime) (untimed : options.NK = 0) :
      ProducerStep file state index
        ({ state with memory := { state.memory with endTime := true } }.moveProducer index
          .returned)
  | leaveEndTime (pc : state.producers index = .setEndTime) (timed : options.NK ≠ 0) :
      ProducerStep file state index (state.moveProducer index .returned)

theorem pStartRoutine_cases {index : Fin options.P}
    (taken : pStartRoutine file state index = some following) :
    ProducerStep file state index following := by
  cases pc : state.producers index with
  | lockWrite =>
      simp only [pStartRoutine, pc, Option.ite_none_right_eq_some, Option.some.injEq] at taken
      rcases taken with ⟨free, rfl⟩
      exact .lockWrite pc free
  | lockCell =>
      simp only [pStartRoutine, pc, Option.ite_none_right_eq_some, Option.some.injEq] at taken
      rcases taken with ⟨free, rfl⟩
      exact .lockCell pc free
  | testFull =>
      simp only [pStartRoutine, pc] at taken
      cases taken
      by_cases empty : state.memory.writingCell = none
      · rw [if_neg (not_not_intro empty)]
        exact .notFull pc empty
      · rw [if_pos empty]
        exact .full pc empty
  | relockCell cell =>
      simp only [pStartRoutine, pc, Option.ite_none_right_eq_some, Option.some.injEq] at taken
      rcases taken with ⟨free, rfl⟩
      exact .relockCell pc free
  | getline =>
      simp only [pStartRoutine, pc] at taken
      split at taken
      · next read =>
          cases taken
          exact .getline pc read
      · next ends =>
          cases taken
          exact .endOfFile pc ends
  | setEndTime =>
      simp only [pStartRoutine, pc] at taken
      split at taken
      · next untimed =>
          cases taken
          exact .setEndTime pc untimed
      · next timed =>
          cases taken
          exact .leaveEndTime pc timed
  | waitReading =>
      simp only [pStartRoutine, pc] at taken
      cases taken
      exact .waitReading pc
  | store line =>
      simp only [pStartRoutine, pc] at taken
      cases taken
      exact .store pc
  | broadcast =>
      simp only [pStartRoutine, pc] at taken
      cases taken
      exact .broadcast pc
  | unlockCell =>
      simp only [pStartRoutine, pc] at taken
      cases taken
      exact .unlockCell pc
  | advance =>
      simp only [pStartRoutine, pc] at taken
      cases taken
      exact .advance pc
  | unlockWrite =>
      simp only [pStartRoutine, pc] at taken
      cases taken
      exact .unlockWrite pc
  | eofBroadcast =>
      simp only [pStartRoutine, pc] at taken
      cases taken
      exact .eofBroadcast pc
  | eofUnlockCell =>
      simp only [pStartRoutine, pc] at taken
      cases taken
      exact .eofUnlockCell pc
  | eofUnlockWrite =>
      simp only [pStartRoutine, pc] at taken
      cases taken
      exact .eofUnlockWrite pc
  | blockedReading cell | returned =>
      simp only [pStartRoutine, pc] at taken
      cases taken

inductive ConsumerStep (state : State options) (index : Fin options.K) : State options → Prop
  | lockRead (pc : state.consumers index = .lockRead) (free : state.readLock = none) :
      ConsumerStep state index
        ({ state with readLock := some (.consumer index) }.moveConsumer index .lockCell)
  | lockCell (pc : state.consumers index = .lockCell)
      (free : state.bufferLock state.memory.readingPos = none) :
      ConsumerStep state index
        ((state.setCellLock state.memory.readingPos (some (.consumer index))).moveConsumer index
          .testEmpty)
  | empty (pc : state.consumers index = .testEmpty) (empty : state.memory.readingCell = none) :
      ConsumerStep state index (state.moveConsumer index .testEnd)
  | notEmpty (pc : state.consumers index = .testEmpty)
      (occupied : state.memory.readingCell ≠ none) :
      ConsumerStep state index (state.moveConsumer index .search)
  | ended (pc : state.consumers index = .testEnd) (ended : state.memory.endTime = true) :
      ConsumerStep state index (state.moveConsumer index .endUnlockCell)
  | notEnded (pc : state.consumers index = .testEnd) (open' : state.memory.endTime = false) :
      ConsumerStep state index (state.moveConsumer index .waitWriting)
  | waitWriting (pc : state.consumers index = .waitWriting) :
      ConsumerStep state index
        ((state.setCellLock state.memory.readingPos none).moveConsumer index
          (.blockedWriting state.memory.readingPos))
  | relockCell {cell : Nat} (pc : state.consumers index = .relockCell cell)
      (free : state.bufferLock cell = none) :
      ConsumerStep state index
        ((state.setCellLock cell (some (.consumer index))).moveConsumer index .testEmpty)
  | search {line : Text} (pc : state.consumers index = .search)
      (found : state.memory.readingCell = some line) :
      ConsumerStep state index
        ({ state with memory := { state.memory with
          lineCounter := searchLine options line state.memory.lineCounter } }.moveConsumer
            index .clear)
  | clear (pc : state.consumers index = .clear) :
      ConsumerStep state index
        ({ state with memory := state.memory.clear }.moveConsumer index .broadcast)
  | broadcast (pc : state.consumers index = .broadcast) :
      ConsumerStep state index (state.broadcastReading.moveConsumer index .unlockCell)
  | unlockCell (pc : state.consumers index = .unlockCell) :
      ConsumerStep state index
        ((state.setCellLock state.memory.readingPos none).moveConsumer index .advance)
  | advance (pc : state.consumers index = .advance) :
      ConsumerStep state index
        ({ state with memory := state.memory.advanceReading options.N }.moveConsumer index
          .unlockRead)
  | unlockRead (pc : state.consumers index = .unlockRead) :
      ConsumerStep state index ({ state with readLock := none }.moveConsumer index .lockRead)
  | endUnlockCell (pc : state.consumers index = .endUnlockCell) :
      ConsumerStep state index
        ((state.setCellLock state.memory.readingPos none).moveConsumer index .endUnlockRead)
  | endUnlockRead (pc : state.consumers index = .endUnlockRead) :
      ConsumerStep state index ({ state with readLock := none }.moveConsumer index .returned)

theorem cStartRoutine_cases {index : Fin options.K}
    (taken : cStartRoutine state index = some following) :
    ConsumerStep state index following := by
  cases pc : state.consumers index with
  | lockRead =>
      simp only [cStartRoutine, pc, Option.ite_none_right_eq_some, Option.some.injEq] at taken
      rcases taken with ⟨free, rfl⟩
      exact .lockRead pc free
  | lockCell =>
      simp only [cStartRoutine, pc, Option.ite_none_right_eq_some, Option.some.injEq] at taken
      rcases taken with ⟨free, rfl⟩
      exact .lockCell pc free
  | testEmpty =>
      simp only [cStartRoutine, pc] at taken
      cases taken
      by_cases empty : state.memory.readingCell = none
      · rw [if_pos empty]
        exact .empty pc empty
      · rw [if_neg empty]
        exact .notEmpty pc empty
  | testEnd =>
      simp only [cStartRoutine, pc] at taken
      cases taken
      cases ended : state.memory.endTime with
      | true => exact .ended pc ended
      | false => exact .notEnded pc ended
  | relockCell cell =>
      simp only [cStartRoutine, pc, Option.ite_none_right_eq_some, Option.some.injEq] at taken
      rcases taken with ⟨free, rfl⟩
      exact .relockCell pc free
  | search =>
      simp only [cStartRoutine, pc, Option.map_eq_some_iff] at taken
      rcases taken with ⟨line, found, rfl⟩
      exact .search pc found
  | waitWriting =>
      simp only [cStartRoutine, pc] at taken
      cases taken
      exact .waitWriting pc
  | clear =>
      simp only [cStartRoutine, pc] at taken
      cases taken
      exact .clear pc
  | broadcast =>
      simp only [cStartRoutine, pc] at taken
      cases taken
      exact .broadcast pc
  | unlockCell =>
      simp only [cStartRoutine, pc] at taken
      cases taken
      exact .unlockCell pc
  | advance =>
      simp only [cStartRoutine, pc] at taken
      cases taken
      exact .advance pc
  | unlockRead =>
      simp only [cStartRoutine, pc] at taken
      cases taken
      exact .unlockRead pc
  | endUnlockCell =>
      simp only [cStartRoutine, pc] at taken
      cases taken
      exact .endUnlockCell pc
  | endUnlockRead =>
      simp only [cStartRoutine, pc] at taken
      cases taken
      exact .endUnlockRead pc
  | blockedWriting cell | returned =>
      simp only [cStartRoutine, pc] at taken
      cases taken

end OsExercises.BoundedBuffer.Mutex
