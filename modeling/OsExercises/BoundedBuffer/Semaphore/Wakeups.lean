import OsExercises.BoundedBuffer.Semaphore.Refinement

/-! # No wake-up is lost

A thread waits for a unit of the other side after it has released its cell, so the
cell may change before it waits. The other side then has its unit still to post, or
the unit is there. Only the thread that waits takes units, so none is missing. -/

namespace OsExercises.BoundedBuffer.Semaphore

open OsExercises

variable {options : Options} {file : List Text} {state following : State options}

namespace State

/-- A producer has stored its line in the consumers' cell and has not posted yet. -/
def LineToPost (state : State options) : Prop :=
  ∃ index, state.producers index = .post ∧
    state.memory.writingPos = state.memory.readingPos

/-- A consumer has cleared the producers' cell and has not posted yet. -/
def RoomToPost (state : State options) : Prop :=
  ∃ index, state.consumers index = .post ∧
    state.memory.readingPos = state.memory.writingPos

end State

/-! ## What a statement does to cells and units -/

structure ProducerEffect (state following : State options) (index : Fin options.P) :
    Prop where
  cells : following.memory.globalBuffer = state.memory.globalBuffer ∨
    ∃ line, state.producers index = .store line ∧
      following.memory = state.memory.store line ∧ following.producers index = .post
  readingPos : following.memory.readingPos = state.memory.readingPos
  writingPos : following.memory.writingPos = state.memory.writingPos ∨
    state.producers index = .advance
  reading : following.someoneIsReading = state.someoneIsReading ∨
    state.producers index = .waitReading
  writing : state.someoneIsWriting ≤ following.someoneIsWriting
  posts : state.producers index = .post → 0 < following.someoneIsWriting
  /-- A producer that is about to wait has a full cell. -/
  full : following.producers index = .waitUnlockCell → following.memory.writingCell ≠ none
  waits : following.producers index = .waitReading →
    state.producers index = .waitUnlockCell ∧ following.memory = state.memory

structure ConsumerEffect (state following : State options) (index : Fin options.K) :
    Prop where
  cells : following.memory.globalBuffer = state.memory.globalBuffer ∨
    state.consumers index = .clear ∧ following.memory = state.memory.clear ∧
      following.consumers index = .post
  writingPos : following.memory.writingPos = state.memory.writingPos
  readingPos : following.memory.readingPos = state.memory.readingPos ∨
    state.consumers index = .advance
  writing : following.someoneIsWriting = state.someoneIsWriting ∨
    state.consumers index = .waitWriting
  reading : state.someoneIsReading ≤ following.someoneIsReading
  posts : state.consumers index = .post → 0 < following.someoneIsReading
  waits : following.consumers index = .waitWriting →
    state.consumers index = .waitUnlockCell ∧ following.memory = state.memory

theorem pStartRoutine_effect {index : Fin options.P}
    (taken : pStartRoutine file state index = some following) :
    ProducerEffect state following index := by
  cases pStartRoutine_cases taken
  all_goals constructor
  all_goals simp [State.postCell, State.setCellLock, *]

theorem cStartRoutine_effect {index : Fin options.K}
    (taken : cStartRoutine state index = some following) :
    ConsumerEffect state following index := by
  cases cStartRoutine_cases taken
  all_goals constructor
  all_goals simp [State.postCell, State.setCellLock, *]

/-! ## Who can be where at the same time -/

namespace Locked

theorem producer_unique (locked : Locked file state) {left right : Fin options.P}
    (leftHolds : (state.producers left).holdsWrite = true)
    (rightHolds : (state.producers right).holdsWrite = true) : left = right :=
  Thread.producer.inj (locked.write.unique (.producer left) (.producer right) leftHolds rightHolds)

theorem consumer_unique (locked : Locked file state) {left right : Fin options.K}
    (leftHolds : (state.consumers left).holdsRead = true)
    (rightHolds : (state.consumers right).holdsRead = true) : left = right :=
  locked.read.unique left right leftHolds rightHolds

theorem cells_differ (locked : Locked file state) {producer : Fin options.P}
    {consumer : Fin options.K} (producerHolds : (state.producers producer).holdsCell = true)
    (consumerHolds : (state.consumers consumer).holdsCell = true) :
    state.memory.writingPos ≠ state.memory.readingPos := by
  intro same
  have both := (locked.cell state.memory.writingPos).unique (.producer producer)
    (.consumer consumer) ⟨producerHolds, rfl⟩ ⟨consumerHolds, same⟩
  cases both

end Locked

/-! ## Runs -/

structure Wakes (state : State options) : Prop where
  /-- A producer that is about to wait has a full cell. -/
  writerFull : ∀ index, state.producers index = .waitUnlockCell →
    state.memory.writingCell ≠ none
  writer : ∀ index, state.producers index = .waitReading →
    state.memory.writingCell ≠ none ∨ state.RoomToPost ∨ 0 < state.someoneIsReading
  reader : ∀ index, state.consumers index = .waitWriting →
    state.memory.readingCell = none ∨ state.LineToPost ∨ 0 < state.someoneIsWriting

namespace Wakes

/-- Other producers change neither the cell of a producer that holds `write_lock`
nor the units it waits for. -/
theorem writer_kept (locked : Locked file state) {index other : Fin options.P}
    (effect : ProducerEffect state following index) (different : other ≠ index)
    (holds : (state.producers other).holdsWrite = true) :
    following.memory.writingPos = state.memory.writingPos ∧
      following.memory.writingCell = state.memory.writingCell ∧
      following.someoneIsReading = state.someoneIsReading := by
  have outside : ¬ (state.producers index).holdsWrite = true := fun inside =>
    different (locked.producer_unique holds inside)
  have writingPos : following.memory.writingPos = state.memory.writingPos := by
    rcases effect.writingPos with same | pc
    · exact same
    · exact absurd (by rw [pc]; rfl) outside
  refine ⟨writingPos, ?_, ?_⟩
  · rcases effect.cells with same | ⟨line, pc, _⟩
    · rw [Memory.writingCell, same, writingPos, Memory.writingCell]
    · exact absurd (by rw [pc]; rfl) outside
  · rcases effect.reading with same | pc
    · exact same
    · exact absurd (by rw [pc]; rfl) outside

theorem reader_kept (locked : Locked file state) {index other : Fin options.K}
    (effect : ConsumerEffect state following index) (different : other ≠ index)
    (holds : (state.consumers other).holdsRead = true) :
    following.memory.readingPos = state.memory.readingPos ∧
      following.memory.readingCell = state.memory.readingCell ∧
      following.someoneIsWriting = state.someoneIsWriting := by
  have outside : ¬ (state.consumers index).holdsRead = true := fun inside =>
    different (locked.consumer_unique holds inside)
  have readingPos : following.memory.readingPos = state.memory.readingPos := by
    rcases effect.readingPos with same | pc
    · exact same
    · exact absurd (by rw [pc]; rfl) outside
  refine ⟨readingPos, ?_, ?_⟩
  · rcases effect.cells with same | ⟨pc, _⟩
    · rw [Memory.readingCell, same, readingPos, Memory.readingCell]
    · exact absurd (by rw [pc]; rfl) outside
  · rcases effect.writing with same | pc
    · exact same
    · exact absurd (by rw [pc]; rfl) outside

theorem producer_step (wakes : Wakes state) (locked : Locked file state)
    {index : Fin options.P} (taken : pStartRoutine file state index = some following) :
    Wakes following := by
  have effect := pStartRoutine_effect taken
  rcases pStartRoutine_frame taken with ⟨consumers, _, others⟩
  refine ⟨?_, ?_, ?_⟩
  · intro other pc
    by_cases self : other = index
    · subst self
      exact effect.full pc
    · rw [others other self] at pc
      rw [(writer_kept locked effect self (by rw [pc]; rfl)).2.1]
      exact wakes.writerFull other pc
  · intro other pc
    by_cases self : other = index
    · subst self
      rcases effect.waits pc with ⟨before, memory⟩
      rw [memory]
      exact .inl (wakes.writerFull other before)
    · rw [others other self] at pc
      rcases writer_kept locked effect self (by rw [pc]; rfl) with ⟨writingPos, cell, units⟩
      simp only [State.RoomToPost, consumers, writingPos, cell, units, effect.readingPos]
      exact wakes.writer other pc
  · intro consumer pc
    rw [consumers] at pc
    have posted : state.LineToPost → following.LineToPost ∨ 0 < following.someoneIsWriting := by
      intro toPost
      rcases toPost with ⟨producer, posting, same⟩
      by_cases self : producer = index
      · subst self
        exact .inr (effect.posts posting)
      · have writingPos := (writer_kept locked effect self (by rw [posting]; rfl)).1
        refine .inl ⟨producer, ?_, ?_⟩
        · rw [others producer self, posting]
        · rw [writingPos, effect.readingPos, same]
    rcases wakes.reader consumer pc with empty | toPost | unit
    · rcases effect.cells with kept | ⟨line, storing, memory, posting⟩
      · left
        rw [Memory.readingCell, kept, effect.readingPos]
        exact empty
      · by_cases same : state.memory.writingPos = state.memory.readingPos
        · exact .inr (.inl ⟨index, posting, by rw [memory]; exact same⟩)
        · left
          rw [memory, Memory.readingCell, Memory.store_globalBuffer, Memory.store_readingPos,
            Function.update_of_ne (Ne.symm same)]
          exact empty
    · exact .inr (posted toPost)
    · exact .inr (.inr (Nat.lt_of_lt_of_le unit effect.writing))

theorem consumer_step (wakes : Wakes state) (locked : Locked file state)
    {index : Fin options.K} (taken : cStartRoutine state index = some following) :
    Wakes following := by
  have effect := cStartRoutine_effect taken
  rcases cStartRoutine_frame taken with ⟨producers, others⟩
  -- Only `clear` empties the producers' cell, and then the post is still to come.
  have cleared (full : state.memory.writingCell ≠ none) :
      following.memory.writingCell ≠ none ∨ state.consumers index = .clear ∧
        state.memory.readingPos = state.memory.writingPos ∧ following.RoomToPost := by
    rcases effect.cells with kept | ⟨clearing, memory, posting⟩
    · left
      rw [Memory.writingCell, kept, effect.writingPos]
      exact full
    · by_cases same : state.memory.readingPos = state.memory.writingPos
      · exact .inr ⟨clearing, same, index, posting, by rw [memory]; exact same⟩
      · left
        rw [memory, Memory.writingCell, Memory.clear_globalBuffer, Memory.clear_writingPos,
          Function.update_of_ne (Ne.symm same)]
        exact full
  have posted : state.RoomToPost → following.RoomToPost ∨ 0 < following.someoneIsReading := by
    intro toPost
    rcases toPost with ⟨consumer, posting, same⟩
    by_cases self : consumer = index
    · subst self
      exact .inr (effect.posts posting)
    · have readingPos := (reader_kept locked effect self (by rw [posting]; rfl)).1
      refine .inl ⟨consumer, ?_, ?_⟩
      · rw [others consumer self, posting]
      · rw [readingPos, effect.writingPos, same]
  refine ⟨?_, ?_, ?_⟩
  · intro producer pc
    rw [producers] at pc
    rcases cleared (wakes.writerFull producer pc) with full | ⟨clearing, same, _⟩
    · exact full
    · exact absurd same.symm (locked.cells_differ (by rw [pc]; rfl) (by rw [clearing]; rfl))
  · intro producer pc
    rw [producers] at pc
    rcases wakes.writer producer pc with full | toPost | unit
    · rcases cleared full with full | ⟨_, _, toPost⟩
      · exact .inl full
      · exact .inr (.inl toPost)
    · exact .inr (posted toPost)
    · exact .inr (.inr (Nat.lt_of_lt_of_le unit effect.reading))
  · intro other pc
    by_cases self : other = index
    · subst self
      rcases effect.waits pc with ⟨before, memory⟩
      rw [memory]
      exact .inl (locked.readerEmpty other before)
    · rw [others other self] at pc
      rcases reader_kept locked effect self (by rw [pc]; rfl) with ⟨readingPos, cell, units⟩
      simp only [State.LineToPost, producers, readingPos, cell, units, effect.writingPos]
      exact wakes.reader other pc

end Wakes

theorem wakes {state : State options} (reachable : (system options file).Reachable state) :
    Wakes state := by
  refine reachable.invariant_of Wakes (fun _ reachable => locked reachable) ?_ ?_
  · constructor <;> simp [system, initial]
  · intro current action following locked wakes _ taken
    cases system_step taken with
    | producer index statement => exact wakes.producer_step locked statement
    | consumer index statement => exact wakes.consumer_step locked statement
    | main main advanced =>
        subst advanced
        exact ⟨wakes.writerFull, wakes.writer, wakes.reader⟩

/-- Nobody is admitted twice, waits for a unit that will not come, or loses a line. -/
structure WellBehaved (file : List Text) (state : State options) : Prop where
  writeLock : Excludes state.writeLock state.insideWrite
  readLock : Excludes state.readLock state.insideRead
  bufferLock : ∀ cell, Excludes (state.bufferLock cell) (state.insideCell cell)
  consumerWaits : ∀ index, state.consumers index = .waitWriting →
    state.someoneIsWriting = 0 → state.memory.readingCell = none ∨ state.LineToPost
  producerWaits : ∀ index, state.producers index = .waitReading →
    state.someoneIsReading = 0 → state.memory.writingCell ≠ none ∨ state.RoomToPost
  inOrder : state.memory.consumed <+: file.take state.memory.filePos

/-- No wake-up is lost, before or after the end of the file. -/
theorem no_lost_wakeup (options : Options) (file : List Text) {state : State options}
    (reachable : (system options file).Reachable state) : WellBehaved file state := by
  have locked := locked reachable
  have wakes := wakes reachable
  exact
    { writeLock := locked.write
      readLock := locked.read
      bufferLock := locked.cell
      consumerWaits := by
        intro index pc empty
        rcases wakes.reader index pc with noLine | toPost | unit
        · exact .inl noLine
        · exact .inr toPost
        · omega
      producerWaits := by
        intro index pc empty
        rcases wakes.writer index pc with full | toPost | unit
        · exact .inl full
        · exact .inr toPost
        · omega
      inOrder := locked.order }

/-- The consumer waits while the producer has stored its line and not posted. -/
def lineToPost : State oneCell :=
  (system oneCell [['a'], ['b']]).after
    (List.replicate 5 (.consumer ⟨0, Nat.one_pos⟩) ++ List.replicate 5 (.producer ⟨0, Nat.one_pos⟩))
    rfl

theorem no_lost_wakeup_lineToPost :
    lineToPost.consumers ⟨0, by decide⟩ = .waitWriting ∧ lineToPost.memory.readingCell ≠ none ∧
      lineToPost.someoneIsWriting = 0 ∧ WellBehaved [['a'], ['b']] lineToPost :=
  ⟨rfl, by decide, rfl, no_lost_wakeup oneCell _ (TransitionSystem.after_reachable _ _ _)⟩

end OsExercises.BoundedBuffer.Semaphore
