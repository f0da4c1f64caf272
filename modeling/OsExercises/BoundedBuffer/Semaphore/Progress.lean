import OsExercises.BoundedBuffer.Semaphore.Completeness

/-! # No deadlock with semaphores

Nobody owns a cell for ever, and a full buffer and an empty one exclude each other, so the
threads can only block each other when a consumer has lost the last post. -/

namespace OsExercises.BoundedBuffer.Semaphore

open OsExercises

variable {options : Options} {file : List Text} {state following : State options}

/-- The program has not ended, and no thread can execute its next statement. -/
structure State.Deadlocked (file : List Text) (state : State options) : Prop where
  producers : ∀ index, pStartRoutine file state index = none
  consumers : ∀ index, cStartRoutine state index = none
  main : mainThread state = none
  running : state.main ≠ .returned

/-- A consumer that has found a line still has it. -/
theorem found_line (reachable : (system options file).Reachable state) {index : Fin options.K}
    (found : (state.consumers index).foundLine = true) : state.memory.readingCell ≠ none := by
  rcases (simulates_mutex options file).abstraction reachable with
    ⟨matching, matchingReachable, related⟩
  have own := Mutex.ownership matchingReachable
  rcases Mutex.buffered matchingReachable with ⟨queue, buffered⟩
  have same : (matching.consumers index).foundLine = true := by
    rw [(related.consumers index).foundLine, found]
  have reader := own.reader_eq
    (Mutex.ConsumerPc.holdsRead_of_holdsCell (Mutex.ConsumerPc.holdsCell_of_foundLine same))
  rw [← related.memory]
  exact buffered.readerLine (by rw [reader, same])

/-! ## Deadlocks -/

theorem pStartRoutine_ne_none {index : Fin options.P}
    (holds : (state.producers index).holdsCell = true) :
    pStartRoutine file state index ≠ none := by
  cases pc : state.producers index
  case getline =>
    simp only [pStartRoutine, pc]
    split <;> simp
  all_goals simp_all [pStartRoutine, ProducerPc.holdsCell]

theorem cStartRoutine_ne_none {index : Fin options.K}
    (holds : (state.consumers index).holdsCell = true)
    (line : (state.consumers index).foundLine = true → state.memory.readingCell ≠ none) :
    cStartRoutine state index ≠ none := by
  cases pc : state.consumers index
  case search =>
    rw [pc] at line
    simpa [cStartRoutine, pc] using line rfl
  all_goals simp_all [cStartRoutine, ConsumerPc.holdsCell]

namespace State.Deadlocked

/-- Nobody owns a cell, for the owner could go on. -/
theorem cellFree (deadlocked : state.Deadlocked file) (locked : Locked file state)
    (found : ∀ index, (state.consumers index).foundLine = true →
      state.memory.readingCell ≠ none) (cell : Nat) :
    state.bufferLock cell = 1 := by
  have binary := (locked.cell cell).binary
  by_contra taken
  rcases (locked.cell cell).held (by omega) with ⟨owner, inside⟩
  cases owner with
  | producer index => exact pStartRoutine_ne_none inside.1 (deadlocked.producers index)
  | consumer index =>
      exact cStartRoutine_ne_none inside.1 (found index) (deadlocked.consumers index)

theorem producer_rests (deadlocked : state.Deadlocked file)
    (cellFree : ∀ cell, state.bufferLock cell = 1) (index : Fin options.P) :
    state.producers index = .returned ∨
      (state.producers index = .waitReading ∧ state.someoneIsReading = 0) ∨
      state.producers index = .lockWrite ∧ state.writeLock = 0 := by
  have stuck := deadlocked.producers index
  cases pc : state.producers index
  case getline => exact absurd stuck (pStartRoutine_ne_none (by rw [pc]; rfl))
  case setEndTime =>
    simp only [pStartRoutine, pc] at stuck
    split at stuck <;> cases stuck
  all_goals simp_all [pStartRoutine, semWait]

theorem consumer_rests (deadlocked : state.Deadlocked file)
    (found : ∀ index, (state.consumers index).foundLine = true →
      state.memory.readingCell ≠ none)
    (cellFree : ∀ cell, state.bufferLock cell = 1) (index : Fin options.K) :
    state.consumers index = .returned ∨
      (state.consumers index = .waitWriting ∧ state.someoneIsWriting = 0) ∨
      state.consumers index = .lockRead ∧ state.readLock = 0 := by
  have stuck := deadlocked.consumers index
  cases pc : state.consumers index
  case search =>
    exact absurd stuck (cStartRoutine_ne_none (by rw [pc]; rfl) (found index))
  all_goals simp_all [cStartRoutine, semWait]

/-- Who waits for `write_lock` waits for a producer that waits for room. -/
theorem producers_settled (deadlocked : state.Deadlocked file) (locked : Locked file state)
    (cellFree : ∀ cell, state.bufferLock cell = 1) :
    (∀ index, state.producers index = .returned) ∨
      ∃ index, state.producers index = .waitReading ∧ state.someoneIsReading = 0 := by
  by_cases blocked : ∃ index, state.producers index = .waitReading ∧ state.someoneIsReading = 0
  · exact .inr blocked
  · left
    intro index
    rcases deadlocked.producer_rests cellFree index with returned | waits | ⟨_, taken⟩
    · exact returned
    · exact absurd ⟨index, waits⟩ blocked
    · rcases locked.write.held taken with ⟨owner, inside⟩
      cases owner with
      | consumer other => cases inside
      | producer other =>
          have holds : (state.producers other).holdsWrite = true := inside
          rcases deadlocked.producer_rests cellFree other with pc | waits | ⟨pc, _⟩
          · rw [pc] at holds
            cases holds
          · exact absurd ⟨other, waits⟩ blocked
          · rw [pc] at holds
            cases holds

theorem consumers_settled (deadlocked : state.Deadlocked file) (locked : Locked file state)
    (found : ∀ index, (state.consumers index).foundLine = true →
      state.memory.readingCell ≠ none)
    (cellFree : ∀ cell, state.bufferLock cell = 1) :
    (∀ index, state.consumers index = .returned) ∨
      ∃ index, state.consumers index = .waitWriting ∧ state.someoneIsWriting = 0 := by
  by_cases blocked : ∃ index, state.consumers index = .waitWriting ∧ state.someoneIsWriting = 0
  · exact .inr blocked
  · left
    intro index
    rcases deadlocked.consumer_rests found cellFree index with returned | waits | ⟨_, taken⟩
    · exact returned
    · exact absurd ⟨index, waits⟩ blocked
    · rcases locked.read.held taken with ⟨other, holds⟩
      unfold State.insideRead at holds
      rcases deadlocked.consumer_rests found cellFree other with pc | waits | ⟨pc, _⟩
      · rw [pc] at holds
        cases holds
      · exact absurd ⟨other, waits⟩ blocked
      · rw [pc] at holds
        cases holds

theorem writer_full (deadlocked : state.Deadlocked file) (wakes : Wakes state)
    {index : Fin options.P} (waits : state.producers index = .waitReading)
    (exhausted : state.someoneIsReading = 0) : state.memory.writingCell ≠ none := by
  rcases wakes.writer index waits with full | ⟨consumer, posting, _⟩ | unit
  · exact full
  · have enabled : cStartRoutine state consumer ≠ none :=
      cStartRoutine_ne_none (by rw [posting]; rfl) (by rw [posting]; nofun)
    exact absurd (deadlocked.consumers consumer) enabled
  · omega

theorem reader_empty (deadlocked : state.Deadlocked file) (wakes : Wakes state)
    {index : Fin options.K} (waits : state.consumers index = .waitWriting)
    (exhausted : state.someoneIsWriting = 0) : state.memory.readingCell = none := by
  rcases wakes.reader index waits with empty | ⟨producer, posting, _⟩ | unit
  · exact empty
  · exact absurd (deadlocked.producers producer) (pStartRoutine_ne_none (by rw [posting]; rfl))
  · omega

end State.Deadlocked

end OsExercises.BoundedBuffer.Semaphore
