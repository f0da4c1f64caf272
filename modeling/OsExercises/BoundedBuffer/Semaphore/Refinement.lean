import OsExercises.BoundedBuffer.Mutex.Fifo
import OsExercises.BoundedBuffer.Semaphore.Shutdown

/-! # Semaphores in place of mutexes

Every run with semaphores is a run with mutexes and condition variables. A
semaphore has a unit while the mutex is free, and a thread that takes a unit of
`someone_is_reading` or `someone_is_writing` wakes up from its wait, which needs no
broadcast. What is known of the owners and of the lines holds here as well. -/

namespace OsExercises.BoundedBuffer.Semaphore

open OsExercises

variable {options : Options} {file : List Text}

/-! ## The same statements -/

/-- A producer is at the same statement in both programs. A broadcast may have
ended a wait that still lasts with semaphores. -/
inductive SameProducer : ProducerPc → Mutex.ProducerPc → Prop
  | lockWrite : SameProducer .lockWrite .lockWrite
  | lockCell : SameProducer .lockCell .lockCell
  | testFull : SameProducer .testFull .testFull
  | waitUnlockCell : SameProducer .waitUnlockCell .waitReading
  | blocked (cell : Nat) : SameProducer .waitReading (.blockedReading cell)
  | woken (cell : Nat) : SameProducer .waitReading (.relockCell cell)
  | relockCell (cell : Nat) : SameProducer .relockCell (.relockCell cell)
  | getline : SameProducer .getline .getline
  | store (line : Text) : SameProducer (.store line) (.store line)
  | post : SameProducer .post .broadcast
  | unlockCell : SameProducer .unlockCell .unlockCell
  | advance : SameProducer .advance .advance
  | unlockWrite : SameProducer .unlockWrite .unlockWrite
  | eofPost : SameProducer .eofPost .eofBroadcast
  | eofUnlockCell : SameProducer .eofUnlockCell .eofUnlockCell
  | eofUnlockWrite : SameProducer .eofUnlockWrite .eofUnlockWrite
  | setEndTime : SameProducer .setEndTime .setEndTime
  | returned : SameProducer .returned .returned

inductive SameConsumer : ConsumerPc → Mutex.ConsumerPc → Prop
  | lockRead : SameConsumer .lockRead .lockRead
  | lockCell : SameConsumer .lockCell .lockCell
  | testEmpty : SameConsumer .testEmpty .testEmpty
  | testEnd : SameConsumer .testEnd .testEnd
  | waitUnlockCell : SameConsumer .waitUnlockCell .waitWriting
  | blocked (cell : Nat) : SameConsumer .waitWriting (.blockedWriting cell)
  | woken (cell : Nat) : SameConsumer .waitWriting (.relockCell cell)
  | relockCell (cell : Nat) : SameConsumer .relockCell (.relockCell cell)
  | search : SameConsumer .search .search
  | clear : SameConsumer .clear .clear
  | post : SameConsumer .post .broadcast
  | unlockCell : SameConsumer .unlockCell .unlockCell
  | advance : SameConsumer .advance .advance
  | unlockRead : SameConsumer .unlockRead .unlockRead
  | endUnlockCell : SameConsumer .endUnlockCell .endUnlockCell
  | endUnlockRead : SameConsumer .endUnlockRead .endUnlockRead
  | returned : SameConsumer .returned .returned

theorem SameProducer.wake {pc : ProducerPc} {matching : Mutex.ProducerPc}
    (same : SameProducer pc matching) : SameProducer pc matching.wake := by
  cases same <;> constructor

theorem SameConsumer.wake {pc : ConsumerPc} {matching : Mutex.ConsumerPc}
    (same : SameConsumer pc matching) : SameConsumer pc matching.wake := by
  cases same <;> constructor

theorem SameProducer.returned_iff {pc : ProducerPc} {matching : Mutex.ProducerPc}
    (same : SameProducer pc matching) : matching = .returned ↔ pc = .returned := by
  cases same <;> simp

theorem SameConsumer.returned_iff {pc : ConsumerPc} {matching : Mutex.ConsumerPc}
    (same : SameConsumer pc matching) : matching = .returned ↔ pc = .returned := by
  cases same <;> simp

/-! ## Related states -/

/-- The states differ in what has become of the wake-ups. -/
structure Related (state : State options) (matching : Mutex.State options) : Prop where
  memory : matching.memory = state.memory
  main : matching.main = state.main
  writeLock : state.writeLock = lockUnits matching.writeLock
  readLock : state.readLock = lockUnits matching.readLock
  bufferLock : ∀ cell, state.bufferLock cell = lockUnits (matching.bufferLock cell)
  producers : ∀ index, SameProducer (state.producers index) (matching.producers index)
  consumers : ∀ index, SameConsumer (state.consumers index) (matching.consumers index)

namespace Related

variable {state following : State options} {matching : Mutex.State options}

theorem initially (options : Options) : Related (initial options) (Mutex.initial options) where
  memory := rfl
  main := rfl
  writeLock := rfl
  readLock := rfl
  bufferLock _ := rfl
  producers _ := .lockWrite
  consumers _ := .lockRead

theorem moveProducer (related : Related state matching) (index : Fin options.P)
    {pc : ProducerPc} {matchingPc : Mutex.ProducerPc} (same : SameProducer pc matchingPc) :
    Related (state.moveProducer index pc) (matching.moveProducer index matchingPc) :=
  { related with
    producers := by
      intro other
      simp only [State.moveProducer_producers, Mutex.State.moveProducer_producers]
      by_cases self : other = index
      · subst self
        simpa only [Function.update_self] using same
      · simpa only [Function.update_of_ne self] using related.producers other }

theorem moveConsumer (related : Related state matching) (index : Fin options.K)
    {pc : ConsumerPc} {matchingPc : Mutex.ConsumerPc} (same : SameConsumer pc matchingPc) :
    Related (state.moveConsumer index pc) (matching.moveConsumer index matchingPc) :=
  { related with
    consumers := by
      intro other
      simp only [State.moveConsumer_consumers, Mutex.State.moveConsumer_consumers]
      by_cases self : other = index
      · subst self
        simpa only [Function.update_self] using same
      · simpa only [Function.update_of_ne self] using related.consumers other }

theorem setMemory (related : Related state matching) {memory matchingMemory : Memory}
    (same : matchingMemory = memory) :
    Related { state with memory := memory } { matching with memory := matchingMemory } :=
  { related with memory := same }

/-- A unit of a cell's semaphore is taken, and so is the mutex. -/
theorem takeCell (related : Related state matching) {cell value : Nat}
    (taken : state.bufferLock cell = value + 1) (self : Thread options) :
    matching.bufferLock cell = none ∧
      Related (state.setCellLock cell value) (matching.setCellLock cell (some self)) := by
  rw [related.bufferLock cell, lockUnits_eq_succ] at taken
  refine ⟨taken.1, { related with bufferLock := ?_ }⟩
  intro other
  simp only [State.setCellLock_bufferLock, Mutex.State.setCellLock_bufferLock]
  by_cases here : other = cell
  · subst here
    simpa using taken.2
  · simpa only [Function.update_of_ne here] using related.bufferLock other

theorem postCell (related : Related state matching) {cell : Nat} {self : Thread options}
    (held : matching.bufferLock cell = some self) :
    Related (state.postCell cell) (matching.setCellLock cell none) := by
  have empty := related.bufferLock cell
  rw [held, lockUnits_some] at empty
  refine { related with bufferLock := ?_ }
  intro other
  simp only [State.postCell, State.setCellLock_bufferLock, Mutex.State.setCellLock_bufferLock]
  by_cases here : other = cell
  · subst here
    simp [empty]
  · simpa only [Function.update_of_ne here] using related.bufferLock other

theorem postWriting (related : Related state matching) (value : Nat) :
    Related { state with someoneIsWriting := value } matching.broadcastWriting :=
  { related with consumers := fun index => (related.consumers index).wake }

theorem postReading (related : Related state matching) (value : Nat) :
    Related { state with someoneIsReading := value } matching.broadcastReading :=
  { related with producers := fun index => (related.producers index).wake }

theorem setSomeoneIsReading (related : Related state matching) (value : Nat) :
    Related { state with someoneIsReading := value } matching :=
  { related with }

theorem setSomeoneIsWriting (related : Related state matching) (value : Nat) :
    Related { state with someoneIsWriting := value } matching :=
  { related with }

/-- What a statement of a producer is with mutexes: the same one, the end of a wait,
or nothing when the wait is over already. -/
theorem producer_step (related : Related state matching) (own : Mutex.Ownership matching)
    {index : Fin options.P} (taken : pStartRoutine file state index = some following) :
    (∃ next, Mutex.pStartRoutine file matching index = some next ∧ Related following next) ∨
      (∃ cell, matching.producers index = .blockedReading cell ∧
        Related following (matching.moveProducer index (.relockCell cell))) ∨
      Related following matching := by
  have writingPos : matching.memory.writingPos = state.memory.writingPos := by
    rw [related.memory]
  have writingCell : matching.memory.writingCell = state.memory.writingCell := by
    rw [related.memory]
  have filePos : matching.memory.filePos = state.memory.filePos := by rw [related.memory]
  have same := related.producers index
  generalize pc : state.producers index = statePc at same
  generalize matchingPc : matching.producers index = otherPc at same
  -- Who is inside a cell holds its mutex.
  have held (inside : otherPc.holdsCell = true) :
      matching.bufferLock state.memory.writingPos = some (.producer index) :=
    (own.cell _ (.producer index)).mp ⟨matchingPc ▸ inside, writingPos.symm⟩
  have heldWrite (inside : otherPc.holdsWrite = true) : state.writeLock = 0 := by
    have owner : matching.writeLock = some (.producer index) :=
      (own.write (.producer index)).mp (by rw [← matchingPc] at inside; exact inside)
    rw [related.writeLock, owner, lockUnits_some]
  simp only [pStartRoutine, pc] at taken
  simp only [Mutex.pStartRoutine, matchingPc, writingPos, writingCell, filePos]
  cases same with
  | lockWrite =>
      rcases Option.map_eq_some_iff.mp taken with ⟨value, waited, rfl⟩
      rw [semWait_eq_some, related.writeLock, lockUnits_eq_succ] at waited
      have locked : Related { state with writeLock := value }
          { matching with writeLock := some (.producer index) } :=
        { related with writeLock := waited.2 }
      exact .inl ⟨_, if_pos waited.1, locked.moveProducer index .lockCell⟩
  | lockCell =>
      rcases Option.map_eq_some_iff.mp taken with ⟨value, waited, rfl⟩
      rcases related.takeCell (semWait_eq_some.mp waited) (.producer index) with ⟨free, locked⟩
      exact .inl ⟨_, if_pos free, locked.moveProducer index .testFull⟩
  | testFull =>
      cases taken
      refine .inl ⟨_, rfl, related.moveProducer index ?_⟩
      split
      · exact .waitUnlockCell
      · exact .getline
  | waitUnlockCell =>
      cases taken
      exact .inl ⟨_, rfl, (related.postCell (held rfl)).moveProducer index (.blocked _)⟩
  | blocked cell =>
      rcases Option.map_eq_some_iff.mp taken with ⟨value, _, rfl⟩
      exact .inr (.inl ⟨cell, rfl,
        (related.setSomeoneIsReading value).moveProducer index (.relockCell cell)⟩)
  | woken cell =>
      rcases Option.map_eq_some_iff.mp taken with ⟨value, _, rfl⟩
      have moved := (related.setSomeoneIsReading value).moveProducer index (.relockCell cell)
      rw [← matchingPc, Mutex.State.moveProducer, Function.update_eq_self] at moved
      exact .inr (.inr moved)
  | relockCell cell =>
      have here : cell = state.memory.writingPos := by
        rw [← writingPos]
        exact own.producerWaits index cell (by rw [matchingPc]; rfl)
      subst here
      rcases Option.map_eq_some_iff.mp taken with ⟨value, waited, rfl⟩
      rcases related.takeCell (semWait_eq_some.mp waited) (.producer index) with ⟨free, locked⟩
      exact .inl ⟨_, if_pos free, locked.moveProducer index .testFull⟩
  | getline =>
      dsimp only at taken ⊢
      cases available : file[state.memory.filePos]? with
      | some line =>
          rw [available] at taken
          cases taken
          refine .inl ⟨_, rfl, (related.setMemory ?_).moveProducer index (.store line)⟩
          simp [related.memory]
      | none =>
          rw [available] at taken
          cases taken
          exact .inl ⟨_, rfl, related.moveProducer index .eofPost⟩
  | store line =>
      cases taken
      exact .inl ⟨_, rfl,
        (related.setMemory (congrArg (Memory.store · line) related.memory)).moveProducer index
          .post⟩
  | post =>
      cases taken
      exact .inl ⟨_, rfl, (related.postWriting _).moveProducer index .unlockCell⟩
  | unlockCell =>
      cases taken
      exact .inl ⟨_, rfl, (related.postCell (held rfl)).moveProducer index .advance⟩
  | advance =>
      cases taken
      exact .inl ⟨_, rfl,
        (related.setMemory
          (congrArg (Memory.advanceWriting · options.N) related.memory)).moveProducer index
          .unlockWrite⟩
  | unlockWrite =>
      cases taken
      have unlocked : Related { state with writeLock := state.writeLock + 1 }
          { matching with writeLock := none } :=
        { related with writeLock := by simp [heldWrite rfl] }
      exact .inl ⟨_, rfl, unlocked.moveProducer index .lockWrite⟩
  | eofPost =>
      cases taken
      exact .inl ⟨_, rfl, (related.postWriting _).moveProducer index .eofUnlockCell⟩
  | eofUnlockCell =>
      cases taken
      exact .inl ⟨_, rfl, (related.postCell (held rfl)).moveProducer index .eofUnlockWrite⟩
  | eofUnlockWrite =>
      cases taken
      have unlocked : Related { state with writeLock := state.writeLock + 1 }
          { matching with writeLock := none } :=
        { related with writeLock := by simp [heldWrite rfl] }
      exact .inl ⟨_, rfl, unlocked.moveProducer index .setEndTime⟩
  | setEndTime =>
      dsimp only at taken ⊢
      by_cases endless : options.NK = 0
      · rw [if_pos endless] at taken ⊢
        cases taken
        refine .inl ⟨_, rfl, (related.setMemory ?_).moveProducer index .returned⟩
        simp [related.memory]
      · rw [if_neg endless] at taken ⊢
        cases taken
        exact .inl ⟨_, rfl, related.moveProducer index .returned⟩
  | returned => cases taken

/-- What a statement of a consumer is with mutexes. -/
theorem consumer_step (related : Related state matching) (own : Mutex.Ownership matching)
    {index : Fin options.K} (taken : cStartRoutine state index = some following) :
    (∃ next, Mutex.cStartRoutine matching index = some next ∧ Related following next) ∨
      (∃ cell, matching.consumers index = .blockedWriting cell ∧
        Related following (matching.moveConsumer index (.relockCell cell))) ∨
      Related following matching := by
  have readingPos : matching.memory.readingPos = state.memory.readingPos := by
    rw [related.memory]
  have readingCell : matching.memory.readingCell = state.memory.readingCell := by
    rw [related.memory]
  have endTime : matching.memory.endTime = state.memory.endTime := by rw [related.memory]
  have same := related.consumers index
  generalize pc : state.consumers index = statePc at same
  generalize matchingPc : matching.consumers index = otherPc at same
  have held (inside : otherPc.holdsCell = true) :
      matching.bufferLock state.memory.readingPos = some (.consumer index) :=
    (own.cell _ (.consumer index)).mp ⟨matchingPc ▸ inside, readingPos.symm⟩
  have heldRead (inside : otherPc.holdsRead = true) : state.readLock = 0 := by
    have owner : matching.readLock = some (.consumer index) :=
      (own.read (.consumer index)).mp (by rw [← matchingPc] at inside; exact inside)
    rw [related.readLock, owner, lockUnits_some]
  simp only [cStartRoutine, pc] at taken
  simp only [Mutex.cStartRoutine, matchingPc, readingPos, readingCell, endTime]
  cases same with
  | lockRead =>
      rcases Option.map_eq_some_iff.mp taken with ⟨value, waited, rfl⟩
      rw [semWait_eq_some, related.readLock, lockUnits_eq_succ] at waited
      have locked : Related { state with readLock := value }
          { matching with readLock := some (.consumer index) } :=
        { related with readLock := waited.2 }
      exact .inl ⟨_, if_pos waited.1, locked.moveConsumer index .lockCell⟩
  | lockCell =>
      rcases Option.map_eq_some_iff.mp taken with ⟨value, waited, rfl⟩
      rcases related.takeCell (semWait_eq_some.mp waited) (.consumer index) with ⟨free, locked⟩
      exact .inl ⟨_, if_pos free, locked.moveConsumer index .testEmpty⟩
  | testEmpty =>
      cases taken
      refine .inl ⟨_, rfl, related.moveConsumer index ?_⟩
      split
      · exact .testEnd
      · exact .search
  | testEnd =>
      cases taken
      refine .inl ⟨_, rfl, related.moveConsumer index ?_⟩
      split
      · exact .endUnlockCell
      · exact .waitUnlockCell
  | waitUnlockCell =>
      cases taken
      exact .inl ⟨_, rfl, (related.postCell (held rfl)).moveConsumer index (.blocked _)⟩
  | blocked cell =>
      rcases Option.map_eq_some_iff.mp taken with ⟨value, _, rfl⟩
      exact .inr (.inl ⟨cell, rfl,
        (related.setSomeoneIsWriting value).moveConsumer index (.relockCell cell)⟩)
  | woken cell =>
      rcases Option.map_eq_some_iff.mp taken with ⟨value, _, rfl⟩
      have moved := (related.setSomeoneIsWriting value).moveConsumer index (.relockCell cell)
      rw [← matchingPc, Mutex.State.moveConsumer, Function.update_eq_self] at moved
      exact .inr (.inr moved)
  | relockCell cell =>
      have here : cell = state.memory.readingPos := by
        rw [← readingPos]
        exact own.consumerWaits index cell (by rw [matchingPc]; rfl)
      subst here
      rcases Option.map_eq_some_iff.mp taken with ⟨value, waited, rfl⟩
      rcases related.takeCell (semWait_eq_some.mp waited) (.consumer index) with ⟨free, locked⟩
      exact .inl ⟨_, if_pos free, locked.moveConsumer index .testEmpty⟩
  | search =>
      rcases Option.map_eq_some_iff.mp taken with ⟨line, found, rfl⟩
      dsimp only at found ⊢
      rw [found]
      refine .inl ⟨_, rfl, (related.setMemory ?_).moveConsumer index .clear⟩
      simp [related.memory]
  | clear =>
      cases taken
      exact .inl ⟨_, rfl,
        (related.setMemory (congrArg Memory.clear related.memory)).moveConsumer index .post⟩
  | post =>
      cases taken
      exact .inl ⟨_, rfl, (related.postReading _).moveConsumer index .unlockCell⟩
  | unlockCell =>
      cases taken
      exact .inl ⟨_, rfl, (related.postCell (held rfl)).moveConsumer index .advance⟩
  | advance =>
      cases taken
      exact .inl ⟨_, rfl,
        (related.setMemory
          (congrArg (Memory.advanceReading · options.N) related.memory)).moveConsumer index
          .unlockRead⟩
  | unlockRead =>
      cases taken
      have unlocked : Related { state with readLock := state.readLock + 1 }
          { matching with readLock := none } :=
        { related with readLock := by simp [heldRead rfl] }
      exact .inl ⟨_, rfl, unlocked.moveConsumer index .lockRead⟩
  | endUnlockCell =>
      cases taken
      exact .inl ⟨_, rfl, (related.postCell (held rfl)).moveConsumer index .endUnlockRead⟩
  | endUnlockRead =>
      cases taken
      have unlocked : Related { state with readLock := state.readLock + 1 }
          { matching with readLock := none } :=
        { related with readLock := by simp [heldRead rfl] }
      exact .inl ⟨_, rfl, unlocked.moveConsumer index .returned⟩
  | returned => cases taken

/-- `main` sees the same threads return. -/
theorem main_step (related : Related state matching)
    (taken : mainThread state = some following) :
    ∃ next, Mutex.mainThread matching = some next ∧ Related following next := by
  rcases Option.map_eq_some_iff.mp taken with ⟨main, advanced, rfl⟩
  have producers (index : Fin options.P) :
      decide (matching.producers index = .returned) = decide (state.producers index = .returned) :=
    decide_eq_decide.mpr (related.producers index).returned_iff
  have consumers (index : Fin options.K) :
      decide (matching.consumers index = .returned) = decide (state.consumers index = .returned) :=
    decide_eq_decide.mpr (related.consumers index).returned_iff
  refine ⟨{ matching with main := main }, ?_, { related with main := rfl }⟩
  simp only [Mutex.mainThread, producers, consumers, related.main, advanced, Option.map_some]

end Related

theorem simulates_mutex (options : Options) (file : List Text) :
    (system options file).Simulates (fun _ _ => True) (Mutex.system options file) Related where
  initially := Related.initially options
  answered := by
    intro current action following matching _ reachable related _ taken
    have own := Mutex.ownership reachable
    simp only [system] at taken
    split at taken
    · cases taken
    · next running =>
        rw [← related.main] at running
        cases action with
        | producer index =>
            rcases related.producer_step own taken with
              ⟨next, statement, after⟩ | ⟨cell, blocked, after⟩ | after
            · refine ⟨[.producer index], next, TransitionSystem.run_single ?_, after⟩
              simpa only [Mutex.system, if_neg running] using statement
            · refine ⟨[.wakeProducer index], _, TransitionSystem.run_single ?_, after⟩
              simp only [Mutex.system, if_neg running, blocked]
            · exact ⟨[], matching, rfl, after⟩
        | consumer index =>
            rcases related.consumer_step own taken with
              ⟨next, statement, after⟩ | ⟨cell, blocked, after⟩ | after
            · refine ⟨[.consumer index], next, TransitionSystem.run_single ?_, after⟩
              simpa only [Mutex.system, if_neg running] using statement
            · refine ⟨[.wakeConsumer index], _, TransitionSystem.run_single ?_, after⟩
              simp only [Mutex.system, if_neg running, blocked]
            · exact ⟨[], matching, rfl, after⟩
        | main =>
            rcases related.main_step taken with ⟨next, statement, after⟩
            refine ⟨[.main], next, TransitionSystem.run_single ?_, after⟩
            simpa only [Mutex.system, if_neg running] using statement

/-! ## What the threads with semaphores inherit -/

/-- The statements between the wait for `write_lock` and its post. -/
def ProducerPc.holdsWrite : ProducerPc → Bool
  | .lockWrite | .setEndTime | .returned => false
  | _ => true

/-- The statements between a wait for a cell and its post. -/
def ProducerPc.holdsCell : ProducerPc → Bool
  | .testFull | .waitUnlockCell | .getline | .store _ | .post | .unlockCell | .eofPost
  | .eofUnlockCell => true
  | _ => false

def ConsumerPc.holdsCell : ConsumerPc → Bool
  | .testEmpty | .testEnd | .waitUnlockCell | .search | .clear | .post | .unlockCell
  | .endUnlockCell => true
  | _ => false

theorem SameProducer.holds {pc : ProducerPc} {matching : Mutex.ProducerPc}
    (same : SameProducer pc matching) :
    matching.holdsWrite = pc.holdsWrite ∧ matching.holdsCell = pc.holdsCell := by
  cases same <;> exact ⟨rfl, rfl⟩

theorem SameConsumer.holds {pc : ConsumerPc} {matching : Mutex.ConsumerPc}
    (same : SameConsumer pc matching) :
    matching.holdsRead = pc.holdsRead ∧ matching.holdsCell = pc.holdsCell := by
  cases same <;> exact ⟨rfl, rfl⟩

namespace State

def insideWrite (state : State options) : Thread options → Prop
  | .producer index => (state.producers index).holdsWrite
  | .consumer _ => False

def insideCell (state : State options) (cell : Nat) : Thread options → Prop
  | .producer index => (state.producers index).holdsCell ∧ cell = state.memory.writingPos
  | .consumer index => (state.consumers index).holdsCell ∧ cell = state.memory.readingPos

end State

theorem Related.insideWrite {state : State options} {matching : Mutex.State options}
    (related : Related state matching) : state.insideWrite = matching.insideWrite := by
  funext thread
  cases thread with
  | producer index =>
      simp only [State.insideWrite, Mutex.State.insideWrite, (related.producers index).holds.1]
  | consumer index => rfl

theorem Related.insideCell {state : State options} {matching : Mutex.State options}
    (related : Related state matching) (cell : Nat) :
    state.insideCell cell = matching.insideCell cell := by
  funext thread
  cases thread with
  | producer index =>
      simp only [State.insideCell, Mutex.State.insideCell, (related.producers index).holds.2,
        related.memory]
  | consumer index =>
      simp only [State.insideCell, Mutex.State.insideCell, (related.consumers index).holds.2,
        related.memory]

/-- The binary semaphores exclude as the mutexes do, and the lines come in order. -/
structure Locked (file : List Text) (state : State options) : Prop where
  write : Excludes state.writeLock state.insideWrite
  read : Excludes state.readLock state.insideRead
  cell : ∀ cell, Excludes (state.bufferLock cell) (state.insideCell cell)
  /-- A consumer that is about to wait has an empty cell. -/
  readerEmpty : ∀ index, state.consumers index = .waitUnlockCell →
    state.memory.readingCell = none
  order : state.memory.consumed <+: file.take state.memory.filePos

theorem locked {state : State options} (reachable : (system options file).Reachable state) :
    Locked file state := by
  rcases (simulates_mutex options file).abstraction reachable with
    ⟨matching, matchingReachable, related⟩
  have own := Mutex.ownership matchingReachable
  rcases Mutex.buffered matchingReachable with ⟨queue, buffered⟩
  exact
    { write := by
        rw [related.writeLock, related.insideWrite]
        exact own.write.excludes
      read := read_excludes reachable
      cell := by
        intro cell
        rw [related.bufferLock cell, related.insideCell cell]
        exact (own.cell cell).excludes
      readerEmpty := by
        intro index pc
        have same := related.consumers index
        rw [pc] at same
        generalize matchingPc : matching.consumers index = otherPc at same
        cases same
        have reader : matching.reader = matching.consumers index :=
          own.reader_eq (by simp [matchingPc, Mutex.ConsumerPc.holdsRead])
        rw [← related.memory]
        exact buffered.readerEmpty (by simp [reader, matchingPc, Mutex.ConsumerPc.foundEmpty])
      order := by
        rw [← related.memory]
        exact ⟨queue, buffered.order⟩ }

end OsExercises.BoundedBuffer.Semaphore
