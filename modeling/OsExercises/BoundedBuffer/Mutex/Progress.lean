import OsExercises.BoundedBuffer.Mutex.Completeness
import OsExercises.BoundedBuffer.Mutex.Shutdown

/-! # No deadlock with condition variables

A thread that waits for a condition has found its cell in the wrong state, and the cell stays
so until the other side broadcasts. A full buffer and an empty one exclude each other, so
somebody can go on as long as lines are left; what remains is a consumer that nobody wakes at
the end of the file. -/

namespace OsExercises.BoundedBuffer.Mutex

open OsExercises

variable {options : Options} {file : List Text} {state following : State options}

namespace State

/-- A producer has stored its line in the consumers' cell and has not broadcast yet. -/
def LineToBroadcast (state : State options) : Prop :=
  ∃ index, state.producers index = .broadcast ∧
    state.memory.writingPos = state.memory.readingPos

/-- A consumer has cleared the producers' cell and has not broadcast yet. -/
def RoomToBroadcast (state : State options) : Prop :=
  ∃ index, state.consumers index = .broadcast ∧
    state.memory.readingPos = state.memory.writingPos

/-- The program has not ended, and no thread can execute its next statement. -/
structure Deadlocked (file : List Text) (state : State options) : Prop where
  producers : ∀ index, pStartRoutine file state index = none
  consumers : ∀ index, cStartRoutine state index = none
  main : mainThread state = none
  running : state.main ≠ .returned

end State

/-! ## What a statement does to cells and waits -/

structure ProducerEffect (state following : State options) (index : Fin options.P) :
    Prop where
  cells : following.memory.globalBuffer = state.memory.globalBuffer ∨
    ∃ line, state.producers index = .store line ∧
      following.memory = state.memory.store line ∧ following.producers index = .broadcast
  wakes : state.producers index = .broadcast →
    following.consumers = state.broadcastWriting.consumers
  /-- A producer that is about to wait has a full cell. -/
  full : following.producers index = .waitReading → following.memory.writingCell ≠ none
  waits : ∀ cell, following.producers index = .blockedReading cell →
    state.producers index = .waitReading ∧ following.memory = state.memory ∧
      following.consumers = state.consumers

structure ConsumerEffect (state following : State options) (index : Fin options.K) :
    Prop where
  cells : following.memory.globalBuffer = state.memory.globalBuffer ∨
    state.consumers index = .clear ∧ following.memory = state.memory.clear ∧
      following.consumers index = .broadcast
  wakes : state.consumers index = .broadcast →
    following.producers = state.broadcastReading.producers
  waits : ∀ cell, following.consumers index = .blockedWriting cell →
    state.consumers index = .waitWriting ∧ following.memory = state.memory

theorem pStartRoutine_effect {index : Fin options.P}
    (taken : pStartRoutine file state index = some following) :
    ProducerEffect state following index := by
  cases pStartRoutine_cases taken
  all_goals constructor
  all_goals simp [State.setCellLock, *]

theorem cStartRoutine_effect {index : Fin options.K}
    (taken : cStartRoutine state index = some following) :
    ConsumerEffect state following index := by
  cases cStartRoutine_cases taken
  all_goals constructor
  all_goals simp [State.setCellLock, *]

theorem ProducerPc.wake_ne_blockedReading (pc : ProducerPc) (cell : Nat) :
    pc.wake ≠ .blockedReading cell := by
  cases pc <;> simp [ProducerPc.wake]

theorem ConsumerPc.wake_ne_blockedWriting (pc : ConsumerPc) (cell : Nat) :
    pc.wake ≠ .blockedWriting cell := by
  cases pc <;> simp [ConsumerPc.wake]

theorem ProducerPc.wake_eq_waitReading {pc : ProducerPc} :
    pc.wake = .waitReading ↔ pc = .waitReading := by
  cases pc <;> simp [ProducerPc.wake]

theorem ProducerPc.wake_eq_broadcast {pc : ProducerPc} :
    pc.wake = .broadcast ↔ pc = .broadcast := by
  cases pc <;> simp [ProducerPc.wake]

theorem ProducerPc.wake_eq_returned {pc : ProducerPc} :
    pc.wake = .returned ↔ pc = .returned := by
  cases pc <;> simp [ProducerPc.wake]

theorem ConsumerPc.wake_eq_broadcast {pc : ConsumerPc} :
    pc.wake = .broadcast ↔ pc = .broadcast := by
  cases pc <;> simp [ConsumerPc.wake]

/-! ## Runs -/

structure Wakes (state : State options) : Prop where
  /-- A producer that is about to wait has a full cell. -/
  writerFull : ∀ index, state.producers index = .waitReading → state.memory.writingCell ≠ none
  writer : ∀ index cell, state.producers index = .blockedReading cell →
    state.memory.writingCell ≠ none ∨ state.RoomToBroadcast
  reader : ∀ index cell, state.consumers index = .blockedWriting cell →
    state.memory.readingCell = none ∨ state.LineToBroadcast

namespace Wakes

/-- Other producers leave the cell of a producer that holds `write_lock` alone. -/
theorem writer_kept (own : Ownership state) {index other : Fin options.P}
    (taken : pStartRoutine file state index = some following) (different : other ≠ index)
    (holds : (state.producers other).holdsWrite = true) :
    following.memory.writingPos = state.memory.writingPos ∧
      following.memory.writingCell = state.memory.writingCell := by
  have outside : ¬ (state.producers index).holdsWrite = true := fun inside =>
    different (own.producer_unique holds inside)
  have writingPos : following.memory.writingPos = state.memory.writingPos := by
    rcases (pStartRoutine_frame taken).writingPos with same | pc
    · exact same
    · exact absurd (by rw [pc]; rfl) outside
  refine ⟨writingPos, ?_⟩
  rcases (pStartRoutine_effect taken).cells with same | ⟨line, pc, _⟩
  · rw [Memory.writingCell, same, writingPos, Memory.writingCell]
  · exact absurd (by rw [pc]; rfl) outside

theorem reader_kept (own : Ownership state) {index other : Fin options.K}
    (taken : cStartRoutine state index = some following) (different : other ≠ index)
    (holds : (state.consumers other).holdsRead = true) :
    following.memory.readingPos = state.memory.readingPos ∧
      following.memory.readingCell = state.memory.readingCell := by
  have outside : ¬ (state.consumers index).holdsRead = true := fun inside =>
    different (own.consumer_unique holds inside)
  have readingPos : following.memory.readingPos = state.memory.readingPos := by
    rcases (cStartRoutine_frame taken).readingPos with same | pc
    · exact same
    · exact absurd (by rw [pc]; rfl) outside
  refine ⟨readingPos, ?_⟩
  rcases (cStartRoutine_effect taken).cells with same | ⟨pc, _⟩
  · rw [Memory.readingCell, same, readingPos, Memory.readingCell]
  · exact absurd (by rw [pc]; rfl) outside

theorem producer_step (wakes : Wakes state) (own : Ownership state) {index : Fin options.P}
    (taken : pStartRoutine file state index = some following) : Wakes following := by
  have effect := pStartRoutine_effect taken
  have frame := pStartRoutine_frame taken
  refine ⟨?_, ?_, ?_⟩
  · intro other pc
    by_cases self : other = index
    · subst self
      exact effect.full pc
    · rw [frame.others other self] at pc
      rw [(writer_kept own taken self (by rw [pc]; rfl)).2]
      exact wakes.writerFull other pc
  · intro other cell pc
    by_cases self : other = index
    · subst self
      rcases effect.waits cell pc with ⟨before, memory, _⟩
      rw [memory]
      exact .inl (wakes.writerFull other before)
    · rw [frame.others other self] at pc
      rcases writer_kept own taken self (by rw [pc]; rfl) with ⟨writingPos, same⟩
      rw [same]
      rcases wakes.writer other cell pc with full | ⟨consumer, broadcasting, samePos⟩
      · exact .inl full
      · refine .inr ⟨consumer, ?_, by rw [frame.readingPos, writingPos, samePos]⟩
        rcases frame.consumers with kept | woken
        · rw [kept, broadcasting]
        · rw [woken]
          exact ConsumerPc.wake_eq_broadcast.mpr broadcasting
  · intro consumer cell pc
    -- A consumer that still waits has not been woken, so nobody has broadcast.
    have asleep : following.consumers = state.consumers := by
      rcases frame.consumers with kept | woken
      · exact kept
      · rw [woken] at pc
        exact absurd pc (ConsumerPc.wake_ne_blockedWriting _ cell)
    have silent : state.producers index ≠ .broadcast := by
      intro broadcasting
      rw [effect.wakes broadcasting] at pc
      exact ConsumerPc.wake_ne_blockedWriting _ cell pc
    rw [asleep] at pc
    rcases wakes.reader consumer cell pc with empty | ⟨producer, broadcasting, samePos⟩
    · rcases effect.cells with kept | ⟨line, _, memory, broadcasting⟩
      · left
        rw [Memory.readingCell, kept, frame.readingPos]
        exact empty
      · by_cases same : state.memory.writingPos = state.memory.readingPos
        · exact .inr ⟨index, broadcasting, by rw [memory]; exact same⟩
        · left
          rw [memory, Memory.readingCell, Memory.store_globalBuffer, Memory.store_readingPos,
            Function.update_of_ne (Ne.symm same)]
          exact empty
    · have other : producer ≠ index := by
        intro same
        exact silent (same ▸ broadcasting)
      have writingPos := (writer_kept own taken other (by rw [broadcasting]; rfl)).1
      refine .inr ⟨producer, ?_, by rw [writingPos, frame.readingPos, samePos]⟩
      rw [frame.others producer other, broadcasting]

theorem consumer_step {queue : List Text} (wakes : Wakes state) (own : Ownership state)
    (buffered : Buffered file state queue) {index : Fin options.K}
    (taken : cStartRoutine state index = some following) : Wakes following := by
  have effect := cStartRoutine_effect taken
  have frame := cStartRoutine_frame taken
  have atSame (producer : Fin options.P) (pc : following.producers producer = .waitReading) :
      state.producers producer = .waitReading := by
    rcases frame.producers with kept | woken
    · rw [← kept, pc]
    · rw [woken] at pc
      exact ProducerPc.wake_eq_waitReading.mp pc
  -- Only `clear` empties the producers' cell, and then the broadcast is still to come.
  have cleared (full : state.memory.writingCell ≠ none) :
      following.memory.writingCell ≠ none ∨ state.consumers index = .clear ∧
        state.memory.readingPos = state.memory.writingPos ∧ following.RoomToBroadcast := by
    rcases effect.cells with kept | ⟨clearing, memory, broadcasting⟩
    · left
      rw [Memory.writingCell, kept, frame.writingPos]
      exact full
    · by_cases same : state.memory.readingPos = state.memory.writingPos
      · exact .inr ⟨clearing, same, index, broadcasting, by rw [memory]; exact same⟩
      · left
        rw [memory, Memory.writingCell, Memory.clear_globalBuffer, Memory.clear_writingPos,
          Function.update_of_ne (Ne.symm same)]
        exact full
  refine ⟨?_, ?_, ?_⟩
  · intro producer pc
    have before := atSame producer pc
    rcases cleared (wakes.writerFull producer before) with full | ⟨clearing, same, _⟩
    · exact full
    · exact absurd same.symm (own.cells_differ (by rw [before]; rfl) (by rw [clearing]; rfl))
  · intro producer cell pc
    have asleep : following.producers = state.producers := by
      rcases frame.producers with kept | woken
      · exact kept
      · rw [woken] at pc
        exact absurd pc (ProducerPc.wake_ne_blockedReading _ cell)
    have silent : state.consumers index ≠ .broadcast := by
      intro broadcasting
      rw [effect.wakes broadcasting] at pc
      exact ProducerPc.wake_ne_blockedReading _ cell pc
    rw [asleep] at pc
    rcases wakes.writer producer cell pc with full | ⟨consumer, broadcasting, samePos⟩
    · rcases cleared full with full | ⟨_, _, room⟩
      · exact .inl full
      · exact .inr room
    · have other : consumer ≠ index := by
        intro same
        exact silent (same ▸ broadcasting)
      have readingPos := (reader_kept own taken other (by rw [broadcasting]; rfl)).1
      refine .inr ⟨consumer, ?_, by rw [readingPos, frame.writingPos, samePos]⟩
      rw [frame.others consumer other, broadcasting]
  · intro other cell pc
    by_cases self : other = index
    · subst self
      rcases effect.waits cell pc with ⟨before, memory⟩
      left
      rw [memory]
      have reader : state.reader = .waitWriting :=
        (own.reader_eq (by rw [before]; rfl)).trans before
      exact buffered.readerEmpty (by rw [reader]; rfl)
    · rw [frame.others other self] at pc
      rcases reader_kept own taken self (by rw [pc]; rfl) with ⟨readingPos, same⟩
      rw [same]
      rcases wakes.reader other cell pc with empty | ⟨producer, broadcasting, samePos⟩
      · exact .inl empty
      · refine .inr ⟨producer, ?_, by rw [readingPos, frame.writingPos, samePos]⟩
        rcases frame.producers with kept | woken
        · rw [kept, broadcasting]
        · rw [woken]
          exact ProducerPc.wake_eq_broadcast.mpr broadcasting

/-- A producer that wakes up without a broadcast only leaves its wait. -/
theorem wake_producer (wakes : Wakes state) {index : Fin options.P} {cell : Nat}
    (blocked : state.producers index = .blockedReading cell) :
    Wakes (state.moveProducer index (.relockCell cell)) := by
  have others (other : Fin options.P) {pc : ProducerPc} (notWoken : pc ≠ .relockCell cell)
      (at' : (state.moveProducer index (.relockCell cell)).producers other = pc) :
      state.producers other = pc := by
    rw [State.moveProducer_producers] at at'
    by_cases self : other = index
    · subst self
      rw [Function.update_self] at at'
      exact absurd at'.symm notWoken
    · rwa [Function.update_of_ne self] at at'
  refine ⟨?_, ?_, ?_⟩
  · intro other pc
    exact wakes.writerFull other (others other (by simp) pc)
  · intro other waited pc
    exact wakes.writer other waited (others other (by simp) pc)
  · intro consumer waited pc
    rcases wakes.reader consumer waited pc with empty | ⟨producer, broadcasting, samePos⟩
    · exact .inl empty
    · have other : producer ≠ index := by
        intro same
        rw [same, blocked] at broadcasting
        cases broadcasting
      exact .inr ⟨producer, by simpa [other] using broadcasting, samePos⟩

theorem wake_consumer (wakes : Wakes state) {index : Fin options.K} {cell : Nat}
    (blocked : state.consumers index = .blockedWriting cell) :
    Wakes (state.moveConsumer index (.relockCell cell)) := by
  refine ⟨wakes.writerFull, ?_, ?_⟩
  · intro producer waited pc
    rcases wakes.writer producer waited pc with full | ⟨consumer, broadcasting, samePos⟩
    · exact .inl full
    · have other : consumer ≠ index := by
        intro same
        rw [same, blocked] at broadcasting
        cases broadcasting
      exact .inr ⟨consumer, by simpa [other] using broadcasting, samePos⟩
  · intro other waited pc
    rw [State.moveConsumer_consumers] at pc
    by_cases self : other = index
    · subst self
      rw [Function.update_self] at pc
      cases pc
    · rw [Function.update_of_ne self] at pc
      exact wakes.reader other waited pc

end Wakes

theorem wakes (reachable : (system options file).Reachable state) : Wakes state := by
  refine reachable.invariant_of Wakes
    (fun state reached => And.intro (ownership reached) (buffered reached)) ?_ ?_
  · constructor <;> simp [system, initial]
  · intro current action following facts wakes _ taken
    rcases facts with ⟨own, queue, buffered⟩
    cases system_step taken with
    | producer index statement => exact wakes.producer_step own statement
    | consumer index statement => exact wakes.consumer_step own buffered statement
    | wakeProducer index cell blocked woken => exact woken ▸ wakes.wake_producer blocked
    | wakeConsumer index cell blocked woken => exact woken ▸ wakes.wake_consumer blocked
    | main statement =>
        rcases mainThread_frame statement with ⟨main, _, rfl⟩
        exact ⟨wakes.writerFull, wakes.writer, wakes.reader⟩

/-- With a time limit `main` never waits for the threads. Without one every producer sets
`end_time` before it returns. -/
structure Announced (state : State options) : Prop where
  limited : options.NK ≠ 0 → state.main = .sleep ∨ state.main = .returned
  endTime : options.NK = 0 → ∀ index, state.producers index = .returned →
    state.memory.endTime = true

namespace Announced

theorem producer_step (announced : Announced state) {index : Fin options.P}
    (taken : pStartRoutine file state index = some following) : Announced following := by
  have frame := pStartRoutine_frame taken
  refine ⟨frame.main ▸ announced.limited, ?_⟩
  intro unlimited other returned
  have before := announced.endTime unlimited other
  by_cases self : other = index
  · subst self
    cases pStartRoutine_cases taken
    all_goals simp_all
  · rw [frame.others other self] at returned
    cases pStartRoutine_cases taken
    all_goals simp_all

theorem consumer_step (announced : Announced state) {index : Fin options.K}
    (taken : cStartRoutine state index = some following) : Announced following := by
  have frame := cStartRoutine_frame taken
  refine ⟨frame.main ▸ announced.limited, ?_⟩
  intro unlimited producer returned
  rw [frame.endTime]
  apply announced.endTime unlimited producer
  rcases frame.producers with same | woken
  · rwa [same] at returned
  · rw [woken] at returned
    exact ProducerPc.wake_eq_returned.mp returned

theorem wake_producer (announced : Announced state) {index : Fin options.P} {cell : Nat} :
    Announced (state.moveProducer index (.relockCell cell)) := by
  refine ⟨announced.limited, ?_⟩
  intro unlimited other returned
  by_cases self : other = index
  · simp [self] at returned
  · simp only [State.moveProducer_producers, Function.update_of_ne self] at returned
    exact announced.endTime unlimited other returned

theorem main_step (announced : Announced state) (taken : mainThread state = some following) :
    Announced following := by
  rcases mainThread_frame taken with ⟨main, advanced, rfl⟩
  refine ⟨?_, announced.endTime⟩
  intro limited
  rcases announced.limited limited with asleep | returned
  · rw [asleep] at advanced
    cases advanced
    exact .inr rfl
  · rw [returned] at advanced
    cases advanced

end Announced

theorem announced (reachable : (system options file).Reachable state) : Announced state := by
  refine reachable.invariant Announced ?_ ?_
  · constructor
    · intro limited
      exact .inl (if_neg limited)
    · simp [system, initial]
  · intro current action following announced _ taken
    cases system_step taken with
    | producer index statement => exact announced.producer_step statement
    | consumer index statement => exact announced.consumer_step statement
    | wakeProducer index cell blocked woken => exact woken ▸ announced.wake_producer
    | wakeConsumer index cell blocked woken =>
        exact woken ▸ ⟨announced.limited, announced.endTime⟩
    | main statement => exact announced.main_step statement

/-! ## Deadlocks -/

/-- A producer that owns a cell can go on. -/
theorem pStartRoutine_ne_none {index : Fin options.P}
    (holds : (state.producers index).holdsCell = true) :
    pStartRoutine file state index ≠ none := by
  cases pc : state.producers index
  case getline =>
    simp only [pStartRoutine, pc]
    split <;> simp
  all_goals simp_all [pStartRoutine, ProducerPc.holdsCell]

theorem cStartRoutine_ne_none {index : Fin options.K}
    (holds : (state.consumers index).holdsCell = true)
    (line : (state.consumers index).foundLine = true → state.memory.readingCell ≠ none) :
    cStartRoutine state index ≠ none := by
  cases pc : state.consumers index
  case search =>
    rw [pc] at line
    simpa [cStartRoutine, pc] using line rfl
  all_goals simp_all [cStartRoutine, ConsumerPc.holdsCell]

namespace State.Deadlocked

variable {queue : List Text}

/-- Nobody owns a cell, for the owner could go on. -/
theorem cellFree (deadlocked : state.Deadlocked file) (own : Ownership state)
    (buffered : Buffered file state queue) (cell : Nat) : state.bufferLock cell = none := by
  cases owned : state.bufferLock cell with
  | none => rfl
  | some owner =>
      have inside := (own.cell cell owner).mpr owned
      cases owner with
      | producer index =>
          exact absurd (deadlocked.producers index) (pStartRoutine_ne_none inside.1)
      | consumer index =>
          refine absurd (deadlocked.consumers index) (cStartRoutine_ne_none inside.1 ?_)
          intro found
          have holdsRead := ConsumerPc.holdsRead_of_holdsCell inside.1
          exact buffered.readerLine (by rw [own.reader_eq holdsRead, found])

/-- A producer has returned, waits for a condition, or waits for the one that does. -/
theorem producer_rests (deadlocked : state.Deadlocked file)
    (cellFree : ∀ cell, state.bufferLock cell = none) (index : Fin options.P) :
    state.producers index = .returned ∨
      (∃ cell, state.producers index = .blockedReading cell) ∨
      state.producers index = .lockWrite ∧ state.writeLock ≠ none := by
  have stuck := deadlocked.producers index
  cases pc : state.producers index
  case getline =>
    exact absurd stuck (pStartRoutine_ne_none (by rw [pc]; rfl))
  case setEndTime =>
    simp only [pStartRoutine, pc] at stuck
    split at stuck <;> cases stuck
  all_goals simp_all [pStartRoutine]

theorem consumer_rests (deadlocked : state.Deadlocked file) (own : Ownership state)
    (cellFree : ∀ cell, state.bufferLock cell = none) (index : Fin options.K) :
    state.consumers index = .returned ∨
      (∃ cell, state.consumers index = .blockedWriting cell) ∨
      state.consumers index = .lockRead ∧ state.readLock ≠ none := by
  have stuck := deadlocked.consumers index
  cases pc : state.consumers index
  case search =>
    have inside : state.insideCell state.memory.readingPos (.consumer index) :=
      ⟨by rw [pc]; rfl, rfl⟩
    have owned := (own.cell _ (.consumer index)).mp inside
    rw [cellFree] at owned
    cases owned
  all_goals simp_all [cStartRoutine]

theorem producers_settled (deadlocked : state.Deadlocked file) (own : Ownership state)
    (cellFree : ∀ cell, state.bufferLock cell = none) :
    (∀ index, state.producers index = .returned) ∨
      ∃ index cell, state.producers index = .blockedReading cell := by
  by_cases blocked : ∃ index cell, state.producers index = .blockedReading cell
  · exact .inr blocked
  · left
    intro index
    rcases deadlocked.producer_rests cellFree index with returned | waits | ⟨_, owned⟩
    · exact returned
    · exact absurd ⟨index, waits⟩ blocked
    · rcases Option.ne_none_iff_exists'.mp owned with ⟨owner, owned⟩
      have inside := (own.write owner).mpr owned
      cases owner with
      | consumer other => cases inside
      | producer other =>
          have holds : (state.producers other).holdsWrite = true := inside
          rcases deadlocked.producer_rests cellFree other with pc | waits | ⟨pc, _⟩
          · rw [pc] at holds
            cases holds
          · exact absurd ⟨other, waits⟩ blocked
          · rw [pc] at holds
            cases holds

theorem consumers_settled (deadlocked : state.Deadlocked file) (own : Ownership state)
    (cellFree : ∀ cell, state.bufferLock cell = none) :
    (∀ index, state.consumers index = .returned) ∨
      ∃ index cell, state.consumers index = .blockedWriting cell := by
  by_cases blocked : ∃ index cell, state.consumers index = .blockedWriting cell
  · exact .inr blocked
  · left
    intro index
    rcases deadlocked.consumer_rests own cellFree index with returned | waits | ⟨_, owned⟩
    · exact returned
    · exact absurd ⟨index, waits⟩ blocked
    · rcases Option.ne_none_iff_exists'.mp owned with ⟨owner, owned⟩
      have inside := (own.read owner).mpr owned
      cases owner with
      | producer other => cases inside
      | consumer other =>
          have holds : (state.consumers other).holdsRead = true := inside
          rcases deadlocked.consumer_rests own cellFree other with pc | waits | ⟨pc, _⟩
          · rw [pc] at holds
            cases holds
          · exact absurd ⟨other, waits⟩ blocked
          · rw [pc] at holds
            cases holds

/-- A producer that waits has a full cell, since the consumer that cleared it would go on. -/
theorem writer_full (deadlocked : state.Deadlocked file) (wakes : Wakes state)
    {index : Fin options.P} {cell : Nat}
    (blocked : state.producers index = .blockedReading cell) :
    state.memory.writingCell ≠ none := by
  rcases wakes.writer index cell blocked with full | ⟨consumer, broadcasting, _⟩
  · exact full
  · have enabled : cStartRoutine state consumer ≠ none :=
      cStartRoutine_ne_none (by rw [broadcasting]; rfl) (by rw [broadcasting]; nofun)
    exact absurd (deadlocked.consumers consumer) enabled

theorem reader_empty (deadlocked : state.Deadlocked file) (wakes : Wakes state)
    {index : Fin options.K} {cell : Nat}
    (blocked : state.consumers index = .blockedWriting cell) :
    state.memory.readingCell = none := by
  rcases wakes.reader index cell blocked with empty | ⟨producer, broadcasting, _⟩
  · exact empty
  · exact absurd (deadlocked.producers producer)
      (pStartRoutine_ne_none (by rw [broadcasting]; rfl))

/-- Nobody has a line in hand. -/
theorem noHand (deadlocked : state.Deadlocked file) : state.writer.inHand = none := by
  by_contra inHand
  rcases Option.ne_none_iff_exists'.mp inHand with ⟨line, inHand⟩
  have holds := ProducerPc.holdsCell_of_inHand inHand
  unfold State.writer at holds
  split at holds
  · next index _ => exact pStartRoutine_ne_none holds (deadlocked.producers index)
  · cases holds

theorem notPending (deadlocked : state.Deadlocked file) : state.reader.pending = false := by
  unfold State.reader
  split
  · next index _ =>
      have stuck := deadlocked.consumers index
      cases pc : state.consumers index
      case broadcast | unlockCell | advance => simp [cStartRoutine, pc] at stuck
      all_goals rfl
  · rfl

/-- `main` waits for a thread, so there is no time limit. -/
theorem endTime (deadlocked : state.Deadlocked file) (announced : Announced state)
    (returned : ∀ index, state.producers index = .returned) :
    state.memory.endTime = true := by
  have unlimited : options.NK = 0 := by
    by_contra limited
    rcases announced.limited limited with asleep | atEnd
    · have stuck := deadlocked.main
      simp [mainThread, asleep, MainPc.next] at stuck
    · exact deadlocked.running atEnd
  exact announced.endTime unlimited ⟨0, options.producersPositive⟩ (returned _)

end State.Deadlocked

/-- Where the reader works on an empty cell and the writer has no line in hand, nothing is
stored. -/
theorem Buffered.nil_of_empty {queue : List Text} (buffered : Buffered file state queue)
    (settled : state.reader.pending = false) (empty : state.memory.readingCell = none)
    (noHand : state.writer.inHand = none) : queue = [] := by
  have read := buffered.read
  rw [State.settledReading, settled, if_neg Bool.false_ne_true] at read
  apply buffered.holds.nil_of_front options.cellsPositive
  rw [← read, State.settledBuffer, noHand]
  exact empty

theorem Buffered.nil_of_consumed {queue : List Text} (buffered : Buffered file state queue)
    (consumed : state.memory.consumed = file) :
    queue = [] ∧ state.memory.filePos = file.length := by
  have lengths := buffered.length_eq
  have within := buffered.withinFile
  rw [consumed] at lengths
  exact ⟨List.eq_nil_of_length_eq_zero (by omega), by omega⟩

/-- With nothing stored, no producer has a line in hand, and all cells are empty. -/
theorem Buffered.cells_empty (buffered : Buffered file state []) :
    state.writer.inHand = none ∧
      ∀ cell, cell < options.N → state.memory.globalBuffer cell = none := by
  have noHand : state.writer.inHand = none := by
    by_contra inHand
    rcases Option.ne_none_iff_exists'.mp inHand with ⟨line, inHand⟩
    have stored := buffered.holds.empty_of_nil buffered.writingPos
    simp [State.settledBuffer, inHand] at stored
  refine ⟨noHand, ?_⟩
  intro cell bound
  have empty := buffered.holds.empty_of_nil bound
  rwa [State.settledBuffer, noHand] at empty

/-- A producer has read to the end, and nothing is stored any more. -/
theorem Buffered.consumed_eq (buffered : Buffered file state [])
    (all : file.length ≤ state.memory.filePos) : state.memory.consumed = file := by
  have order := buffered.order
  rwa [List.append_nil, List.take_of_length_le all] at order

theorem Finishing.file_counted (finish : Finishing file state)
    (consumed : state.memory.consumed = file) (notClearing : state.reader ≠ .clear) :
    Counted options file state.memory.lineCounter := by
  have counted := finish.counted
  rwa [State.searched, if_neg notClearing, List.append_nil, consumed] at counted

/-- What a deadlock can be: all lines have been searched, the producers have set `end_time` and
returned, and a consumer waits for them. -/
structure Finished (file : List Text) (state : State options) : Prop where
  stranded : state.Stranded
  endTime : state.memory.endTime = true
  consumed : state.memory.consumed = file
  lineCounter : Counted options file state.memory.lineCounter

/-- A producer that waits for room and a consumer that waits for a line would have the buffer
full and empty. -/
theorem deadlocked_finished (reachable : (system options file).Reachable state)
    (deadlocked : state.Deadlocked file) : Finished file state := by
  have own := ownership reachable
  have finish := finishing reachable
  have wakes := wakes reachable
  rcases buffered reachable with ⟨queue, buffered⟩
  have cellFree := deadlocked.cellFree own buffered
  rcases deadlocked.producers_settled own cellFree with returned | ⟨producer, waited, waiting⟩
  · rcases deadlocked.consumers_settled own cellFree with left | ⟨consumer, cell, blocked⟩
    · -- `main` would join them all.
      have stuck := Option.map_eq_none_iff.mp deadlocked.main
      refine absurd (MainPc.eq_returned_of_next ?_ ?_ stuck) deadlocked.running
      · exact fun index => decide_eq_true (returned index)
      · exact fun index => decide_eq_true (left index)
    · have nothing := buffered.nil_of_empty deadlocked.notPending
        (deadlocked.reader_empty wakes blocked) deadlocked.noHand
      subst nothing
      have all := finish.sawEnd ⟨0, options.producersPositive⟩ (by rw [returned]; rfl)
      have consumed := buffered.consumed_eq all
      have reader : state.reader ≠ .clear := by
        rw [(own.reader_eq (by rw [blocked]; rfl)).trans blocked]
        nofun
      exact
        { stranded := ⟨returned, consumer, cell, blocked⟩
          endTime := deadlocked.endTime (announced reachable) returned
          consumed := consumed
          lineCounter := finish.file_counted consumed reader }
  · exfalso
    have nothing : queue = [] := by
      rcases deadlocked.consumers_settled own cellFree with left | ⟨consumer, cell, blocked⟩
      · have leaving : (state.consumers ⟨0, options.consumersPositive⟩).leaving = true := by
          rw [left]
          rfl
        exact (buffered.nil_of_consumed (finish.leaving _ leaving)).1
      · exact buffered.nil_of_empty deadlocked.notPending
          (deadlocked.reader_empty wakes blocked) deadlocked.noHand
    subst nothing
    exact deadlocked.writer_full wakes waiting (buffered.cells_empty.2 _ buffered.writingPos)

/-- The threads can only block each other when all lines have been searched. Where each test of
`end_time` comes in time, somebody can go on until `main` has returned. -/
theorem deadlock_free (options : Options) (file : List Text) {state : State options}
    (reachable : (system options file).Reachable state) :
    (state.Deadlocked file → Finished file state) ∧
      ((system options file).ReachableUnder State.TestsInTime state →
        ¬ state.Deadlocked file) := by
  refine ⟨deadlocked_finished reachable, ?_⟩
  intro inTime deadlocked
  exact not_stranded inTime (deadlocked_finished reachable deadlocked).stranded

/-- The consumer finds `end_time` not set after the broadcast, and `main` waits for it. -/
def lateTest : State oneCell :=
  (system oneCell []).after
    (List.replicate 5 (.consumer ⟨0, Nat.one_pos⟩) ++
      List.replicate 7 (.producer ⟨0, Nat.one_pos⟩) ++
      List.replicate 4 (.consumer ⟨0, Nat.one_pos⟩) ++ [.producer ⟨0, Nat.one_pos⟩, .main, .main])
    rfl

theorem deadlock_free_lateTest :
    (lateTest.Deadlocked [] ∧ Finished [] lateTest) ∧ ¬ storedFirst.Deadlocked [['a'], ['b']] := by
  have producers : ∀ index, (pStartRoutine [] lateTest index).isNone := by decide
  have consumers : ∀ index, (cStartRoutine lateTest index).isNone := by decide
  have deadlocked : lateTest.Deadlocked [] :=
    { producers := fun index => Option.isNone_iff_eq_none.mp (producers index)
      consumers := fun index => Option.isNone_iff_eq_none.mp (consumers index)
      main := rfl
      running := by decide }
  refine ⟨⟨deadlocked, ?_⟩, ?_⟩
  · exact (deadlock_free oneCell [] (TransitionSystem.after_reachable _ _ _)).1 deadlocked
  · exact (deadlock_free oneCell _ (TransitionSystem.after_reachable _ _ _)).2
      (TransitionSystem.after_reachableUnder _ _ _ (by decide))

end OsExercises.BoundedBuffer.Mutex
