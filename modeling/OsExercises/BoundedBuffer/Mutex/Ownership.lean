import OsExercises.BoundedBuffer.Mutex.Steps
import OsExercises.Foundation.Exclusion

/-! # Who owns the mutexes

The mutexes are owned by the threads whose statements lie between the lock and
the unlock, and by no others. `write_lock` and `read_lock` therefore leave one
producer and one consumer at a time: the writer and the reader. -/

namespace OsExercises.BoundedBuffer.Mutex

open OsExercises

variable {options : Options} {file : List Text}

/-! ## The statements under each lock -/

def ProducerPc.holdsWrite : ProducerPc → Bool
  | .lockWrite | .setEndTime | .returned => false
  | _ => true

def ProducerPc.holdsCell : ProducerPc → Bool
  | .testFull | .waitReading | .getline | .store _ | .broadcast | .unlockCell
  | .eofBroadcast | .eofUnlockCell => true
  | _ => false

/-- The cell whose lock a wait takes again. -/
def ProducerPc.waitsFor : ProducerPc → Option Nat
  | .blockedReading cell | .relockCell cell => some cell
  | _ => none

def ConsumerPc.holdsRead : ConsumerPc → Bool
  | .lockRead | .returned => false
  | _ => true

def ConsumerPc.holdsCell : ConsumerPc → Bool
  | .testEmpty | .testEnd | .waitWriting | .search | .clear | .broadcast
  | .unlockCell | .endUnlockCell => true
  | _ => false

def ConsumerPc.waitsFor : ConsumerPc → Option Nat
  | .blockedWriting cell | .relockCell cell => some cell
  | _ => none

@[simp] theorem ProducerPc.holdsWrite_wake (pc : ProducerPc) :
    pc.wake.holdsWrite = pc.holdsWrite := by
  cases pc <;> rfl

@[simp] theorem ProducerPc.holdsCell_wake (pc : ProducerPc) :
    pc.wake.holdsCell = pc.holdsCell := by
  cases pc <;> rfl

@[simp] theorem ProducerPc.waitsFor_wake (pc : ProducerPc) :
    pc.wake.waitsFor = pc.waitsFor := by
  cases pc <;> rfl

@[simp] theorem ConsumerPc.holdsRead_wake (pc : ConsumerPc) :
    pc.wake.holdsRead = pc.holdsRead := by
  cases pc <;> rfl

@[simp] theorem ConsumerPc.holdsCell_wake (pc : ConsumerPc) :
    pc.wake.holdsCell = pc.holdsCell := by
  cases pc <;> rfl

@[simp] theorem ConsumerPc.waitsFor_wake (pc : ConsumerPc) :
    pc.wake.waitsFor = pc.waitsFor := by
  cases pc <;> rfl

theorem ProducerPc.holdsWrite_of_holdsCell {pc : ProducerPc}
    (holdsCell : pc.holdsCell = true) : pc.holdsWrite = true := by
  cases pc <;> simp_all [ProducerPc.holdsCell, ProducerPc.holdsWrite]

theorem ConsumerPc.holdsRead_of_holdsCell {pc : ConsumerPc}
    (holdsCell : pc.holdsCell = true) : pc.holdsRead = true := by
  cases pc <;> simp_all [ConsumerPc.holdsCell, ConsumerPc.holdsRead]

/-! ## Regions -/

namespace State

def insideWrite (state : State options) : Thread options → Prop
  | .producer index => (state.producers index).holdsWrite
  | .consumer _ => False

def insideRead (state : State options) : Thread options → Prop
  | .producer _ => False
  | .consumer index => (state.consumers index).holdsRead

def insideCell (state : State options) (cell : Nat) : Thread options → Prop
  | .producer index =>
      (state.producers index).holdsCell ∧ cell = state.memory.writingPos
  | .consumer index =>
      (state.consumers index).holdsCell ∧ cell = state.memory.readingPos

/-- The statement of the producer that owns `write_lock`. -/
def writer (state : State options) : ProducerPc :=
  match state.writeLock with
  | some (.producer index) => state.producers index
  | _ => .lockWrite

/-- The statement of the consumer that owns `read_lock`. -/
def reader (state : State options) : ConsumerPc :=
  match state.readLock with
  | some (.consumer index) => state.consumers index
  | _ => .lockRead

end State

structure Ownership (state : State options) : Prop where
  write : OwnedBy state.writeLock state.insideWrite
  read : OwnedBy state.readLock state.insideRead
  cell : ∀ cell, OwnedBy (state.bufferLock cell) (state.insideCell cell)
  /-- A wait takes the lock of the cell the thread still works on. -/
  producerWaits : ∀ index cell, (state.producers index).waitsFor = some cell →
    cell = state.memory.writingPos
  consumerWaits : ∀ index cell, (state.consumers index).waitsFor = some cell →
    cell = state.memory.readingPos

namespace Ownership

variable {state : State options}

theorem writer_eq (own : Ownership state) {index : Fin options.P}
    (holds : (state.producers index).holdsWrite = true) :
    state.writer = state.producers index := by
  have owner : state.writeLock = some (.producer index) :=
    (own.write (.producer index)).mp holds
  simp [State.writer, owner]

theorem reader_eq (own : Ownership state) {index : Fin options.K}
    (holds : (state.consumers index).holdsRead = true) :
    state.reader = state.consumers index := by
  have owner : state.readLock = some (.consumer index) :=
    (own.read (.consumer index)).mp holds
  simp [State.reader, owner]

/-- Moving a producer that does not own `write_lock` is not seen by the writer. -/
theorem writer_move (own : Ownership state) {index : Fin options.P}
    (outside : (state.producers index).holdsWrite = false) (pc : ProducerPc) :
    (state.moveProducer index pc).writer = state.writer := by
  unfold State.writer
  simp only [State.moveProducer_writeLock, State.moveProducer_producers]
  split
  · next other owner =>
      have apart : other ≠ index := by
        intro same
        subst same
        have holds : (state.producers other).holdsWrite = true :=
          (own.write (.producer other)).mpr owner
        simp [outside] at holds
      rw [Function.update_of_ne apart]
  · rfl

theorem producer_unique (own : Ownership state) {left right : Fin options.P}
    (leftHolds : (state.producers left).holdsWrite = true)
    (rightHolds : (state.producers right).holdsWrite = true) : left = right :=
  Thread.producer.inj (own.write.unique leftHolds rightHolds)

theorem consumer_unique (own : Ownership state) {left right : Fin options.K}
    (leftHolds : (state.consumers left).holdsRead = true)
    (rightHolds : (state.consumers right).holdsRead = true) : left = right :=
  Thread.consumer.inj (own.read.unique leftHolds rightHolds)

/-- A producer and a consumer that both own a cell own different ones. -/
theorem cells_differ (own : Ownership state) {producer : Fin options.P}
    {consumer : Fin options.K}
    (producerHolds : (state.producers producer).holdsCell = true)
    (consumerHolds : (state.consumers consumer).holdsCell = true) :
    state.memory.writingPos ≠ state.memory.readingPos := by
  intro same
  have both := (own.cell state.memory.writingPos).unique
    (show state.insideCell _ (.producer producer) from ⟨producerHolds, rfl⟩)
    (show state.insideCell _ (.consumer consumer) from ⟨consumerHolds, same⟩)
  cases both

/-- A writer and a reader that both own a cell work on different ones. -/
theorem positions_differ (own : Ownership state)
    (writerHolds : state.writer.holdsCell = true)
    (readerHolds : state.reader.holdsCell = true) :
    state.memory.writingPos ≠ state.memory.readingPos := by
  unfold State.writer at writerHolds
  unfold State.reader at readerHolds
  split at writerHolds
  · split at readerHolds
    · exact own.cells_differ writerHolds readerHolds
    · cases readerHolds
  · cases writerHolds

end Ownership

/-! ## What a statement leaves alone -/

structure ProducerFrame (state following : State options)
    (index : Fin options.P) : Prop where
  others : ∀ other, other ≠ index →
    following.producers other = state.producers other
  consumers : following.consumers = state.consumers ∨
    following.consumers = state.broadcastWriting.consumers
  readLock : following.readLock = state.readLock
  writingPos : following.memory.writingPos = state.memory.writingPos ∨
    state.producers index = .advance
  readingPos : following.memory.readingPos = state.memory.readingPos
  consumed : following.memory.consumed = state.memory.consumed
  lineCounter : following.memory.lineCounter = state.memory.lineCounter
  main : following.main = state.main

structure ConsumerFrame (state following : State options)
    (index : Fin options.K) : Prop where
  others : ∀ other, other ≠ index →
    following.consumers other = state.consumers other
  producers : following.producers = state.producers ∨
    following.producers = state.broadcastReading.producers
  writeLock : following.writeLock = state.writeLock
  readingPos : following.memory.readingPos = state.memory.readingPos ∨
    state.consumers index = .advance
  writingPos : following.memory.writingPos = state.memory.writingPos
  consumed : following.memory.consumed = state.memory.consumed ∨
    state.consumers index = .clear
  filePos : following.memory.filePos = state.memory.filePos
  endTime : following.memory.endTime = state.memory.endTime
  main : following.main = state.main

theorem pStartRoutine_frame {state following : State options}
    {index : Fin options.P}
    (taken : pStartRoutine file state index = some following) :
    ProducerFrame state following index := by
  cases pStartRoutine_cases taken
  all_goals constructor
  all_goals
    simp +contextual [State.moveProducer, State.setCellLock, State.broadcastWriting,
      Memory.store, Memory.advanceWriting, Function.update_of_ne, *]

theorem cStartRoutine_frame {state following : State options}
    {index : Fin options.K}
    (taken : cStartRoutine state index = some following) :
    ConsumerFrame state following index := by
  cases cStartRoutine_cases taken
  all_goals constructor
  all_goals
    simp +contextual [State.moveConsumer, State.setCellLock, State.broadcastReading,
      Memory.clear, Memory.advanceReading, Function.update_of_ne, *]

/-! ## What a statement does to the locks -/

theorem pStartRoutine_writeLock {state following : State options}
    {index : Fin options.P}
    (taken : pStartRoutine file state index = some following) :
    LockMove (.producer index) state.writeLock following.writeLock
      (state.insideWrite (.producer index))
      (following.insideWrite (.producer index)) := by
  cases pStartRoutine_cases taken
  all_goals
    simp_all [LockMove, State.insideWrite, State.moveProducer, State.setCellLock,
      State.broadcastWriting, ProducerPc.holdsWrite]

theorem cStartRoutine_readLock {state following : State options}
    {index : Fin options.K}
    (taken : cStartRoutine state index = some following) :
    LockMove (.consumer index) state.readLock following.readLock
      (state.insideRead (.consumer index))
      (following.insideRead (.consumer index)) := by
  cases cStartRoutine_cases taken
  all_goals
    simp_all [LockMove, State.insideRead, State.moveConsumer, State.setCellLock,
      State.broadcastReading, ConsumerPc.holdsRead]

theorem pStartRoutine_cellLock {state following : State options}
    {index : Fin options.P} (own : Ownership state)
    (taken : pStartRoutine file state index = some following) (cell : Nat) :
    LockMove (.producer index) (state.bufferLock cell) (following.bufferLock cell)
      (state.insideCell cell (.producer index))
      (following.insideCell cell (.producer index)) := by
  have waits := own.producerWaits index
  cases pStartRoutine_cases taken
  all_goals by_cases here : cell = state.memory.writingPos
  all_goals
    simp_all [LockMove, State.insideCell, State.moveProducer, State.setCellLock,
      State.broadcastWriting, ProducerPc.holdsCell, ProducerPc.waitsFor,
      Memory.store, Memory.advanceWriting]

theorem cStartRoutine_cellLock {state following : State options}
    {index : Fin options.K} (own : Ownership state)
    (taken : cStartRoutine state index = some following) (cell : Nat) :
    LockMove (.consumer index) (state.bufferLock cell) (following.bufferLock cell)
      (state.insideCell cell (.consumer index))
      (following.insideCell cell (.consumer index)) := by
  have waits := own.consumerWaits index
  cases cStartRoutine_cases taken
  all_goals by_cases here : cell = state.memory.readingPos
  all_goals
    simp_all [LockMove, State.insideCell, State.moveConsumer, State.setCellLock,
      State.broadcastReading, ConsumerPc.holdsCell, ConsumerPc.waitsFor,
      Memory.clear, Memory.advanceReading]

theorem pStartRoutine_waitsFor {state following : State options}
    {index : Fin options.P} {cell : Nat}
    (taken : pStartRoutine file state index = some following)
    (waits : (following.producers index).waitsFor = some cell) :
    cell = following.memory.writingPos := by
  cases pStartRoutine_cases taken
  all_goals simp_all [State.moveProducer, State.setCellLock, ProducerPc.waitsFor]

theorem cStartRoutine_waitsFor {state following : State options}
    {index : Fin options.K} {cell : Nat}
    (taken : cStartRoutine state index = some following)
    (waits : (following.consumers index).waitsFor = some cell) :
    cell = following.memory.readingPos := by
  cases cStartRoutine_cases taken
  all_goals
    simp_all [State.moveConsumer, State.setCellLock, ConsumerPc.waitsFor]

/-! ## Ownership in every run -/

namespace Ownership

variable {state following : State options}

/-- While a producer advances, no other works on the cell it leaves. -/
private theorem only_producer (own : Ownership state) {index other : Fin options.P}
    (advancing : state.producers index = .advance) (different : other ≠ index) :
    (state.producers other).holdsWrite = false := by
  by_contra holds
  exact different (own.producer_unique (by simpa using holds)
    (by simp [advancing, ProducerPc.holdsWrite]))

private theorem only_consumer (own : Ownership state) {index other : Fin options.K}
    (advancing : state.consumers index = .advance) (different : other ≠ index) :
    (state.consumers other).holdsRead = false := by
  by_contra holds
  exact different (own.consumer_unique (by simpa using holds)
    (by simp [advancing, ConsumerPc.holdsRead]))

private theorem waiting_holdsWrite {pc : ProducerPc} {cell : Nat}
    (waits : pc.waitsFor = some cell) : pc.holdsWrite = true := by
  cases pc <;> simp_all [ProducerPc.waitsFor, ProducerPc.holdsWrite]

private theorem waiting_holdsRead {pc : ConsumerPc} {cell : Nat}
    (waits : pc.waitsFor = some cell) : pc.holdsRead = true := by
  cases pc <;> simp_all [ConsumerPc.waitsFor, ConsumerPc.holdsRead]

theorem producer_step (own : Ownership state) {index : Fin options.P}
    (taken : pStartRoutine file state index = some following) :
    Ownership following := by
  have frame := pStartRoutine_frame taken
  -- The writing position stays for everybody else who relies on it.
  have position : ∀ other, other ≠ index →
      (state.producers other).holdsWrite = true →
      following.memory.writingPos = state.memory.writingPos := by
    intro other different holds
    rcases frame.writingPos with same | advancing
    · exact same
    · simp [own.only_producer advancing different] at holds
  have consumerRead : ∀ other, (following.consumers other).holdsRead =
      (state.consumers other).holdsRead := by
    intro other
    rcases frame.consumers with same | woken
    · rw [same]
    · simp [woken, State.broadcastWriting]
  have consumerCell : ∀ other, (following.consumers other).holdsCell =
      (state.consumers other).holdsCell := by
    intro other
    rcases frame.consumers with same | woken
    · rw [same]
    · simp [woken, State.broadcastWriting]
  refine ⟨?_, ?_, fun cell => ?_, ?_, ?_⟩
  · refine own.write.move (.producer index) ?_ (pStartRoutine_writeLock taken)
    intro thread different
    cases thread with
    | producer other =>
        simp [State.insideWrite, frame.others other (fun same => different (by rw [same]))]
    | consumer other => exact Iff.rfl
  · rw [frame.readLock]
    intro thread
    cases thread with
    | producer other => exact own.read (.producer other)
    | consumer other => simpa [State.insideRead, consumerRead] using own.read (.consumer other)
  · refine (own.cell cell).move (.producer index) ?_
      (pStartRoutine_cellLock own taken cell)
    intro thread different
    cases thread with
    | producer other =>
        have apart : other ≠ index := fun same => different (by rw [same])
        simp only [State.insideCell, frame.others other apart]
        refine and_congr_right fun holds => ?_
        rw [position other apart (ProducerPc.holdsWrite_of_holdsCell holds)]
    | consumer other => simp [State.insideCell, consumerCell, frame.readingPos]
  · intro other cell waits
    by_cases self : other = index
    · subst self
      exact pStartRoutine_waitsFor taken waits
    · rw [frame.others other self] at waits
      rw [position other self (waiting_holdsWrite waits)]
      exact own.producerWaits other cell waits
  · intro other cell waits
    rw [frame.readingPos]
    refine own.consumerWaits other cell ?_
    rcases frame.consumers with same | woken
    · rwa [same] at waits
    · simpa [woken, State.broadcastWriting] using waits

theorem consumer_step (own : Ownership state) {index : Fin options.K}
    (taken : cStartRoutine state index = some following) :
    Ownership following := by
  have frame := cStartRoutine_frame taken
  -- The reading position stays for everybody else who relies on it.
  have position : ∀ other, other ≠ index →
      (state.consumers other).holdsRead = true →
      following.memory.readingPos = state.memory.readingPos := by
    intro other different holds
    rcases frame.readingPos with same | advancing
    · exact same
    · simp [own.only_consumer advancing different] at holds
  have producerWrite : ∀ other, (following.producers other).holdsWrite =
      (state.producers other).holdsWrite := by
    intro other
    rcases frame.producers with same | woken
    · rw [same]
    · simp [woken, State.broadcastReading]
  have producerCell : ∀ other, (following.producers other).holdsCell =
      (state.producers other).holdsCell := by
    intro other
    rcases frame.producers with same | woken
    · rw [same]
    · simp [woken, State.broadcastReading]
  refine ⟨?_, ?_, fun cell => ?_, ?_, ?_⟩
  · rw [frame.writeLock]
    intro thread
    cases thread with
    | producer other => simpa [State.insideWrite, producerWrite] using own.write (.producer other)
    | consumer other => exact own.write (.consumer other)
  · refine own.read.move (.consumer index) ?_ (cStartRoutine_readLock taken)
    intro thread different
    cases thread with
    | producer other => exact Iff.rfl
    | consumer other =>
        simp [State.insideRead, frame.others other (fun same => different (by rw [same]))]
  · refine (own.cell cell).move (.consumer index) ?_
      (cStartRoutine_cellLock own taken cell)
    intro thread different
    cases thread with
    | producer other => simp [State.insideCell, producerCell, frame.writingPos]
    | consumer other =>
        have apart : other ≠ index := fun same => different (by rw [same])
        simp only [State.insideCell, frame.others other apart]
        refine and_congr_right fun holds => ?_
        rw [position other apart (ConsumerPc.holdsRead_of_holdsCell holds)]
  · intro other cell waits
    rw [frame.writingPos]
    refine own.producerWaits other cell ?_
    rcases frame.producers with same | woken
    · rwa [same] at waits
    · simpa [woken, State.broadcastReading] using waits
  · intro other cell waits
    by_cases self : other = index
    · subst self
      exact cStartRoutine_waitsFor taken waits
    · rw [frame.others other self] at waits
      rw [position other self (waiting_holdsRead waits)]
      exact own.consumerWaits other cell waits

/-- Waking up is not a change of ownership. -/
theorem wake_producer (own : Ownership state) {index : Fin options.P} {cell : Nat}
    (blocked : state.producers index = .blockedReading cell) :
    Ownership (state.moveProducer index (.relockCell cell)) := by
  have flags : ∀ other,
      (Function.update state.producers index (.relockCell cell) other).holdsWrite =
          (state.producers other).holdsWrite ∧
        (Function.update state.producers index (.relockCell cell) other).holdsCell =
          (state.producers other).holdsCell ∧
        (Function.update state.producers index (.relockCell cell) other).waitsFor =
          (state.producers other).waitsFor := by
    intro other
    by_cases self : other = index
    · subst self
      simp [blocked, ProducerPc.holdsWrite,
        ProducerPc.holdsCell, ProducerPc.waitsFor]
    · simp [self]
  refine ⟨?_, own.read, fun cell => ?_, fun other cell waits => ?_, own.consumerWaits⟩
  · intro thread
    cases thread with
    | producer other =>
        simpa [State.insideWrite, State.moveProducer, flags] using own.write (.producer other)
    | consumer other => exact own.write (.consumer other)
  · intro thread
    cases thread with
    | producer other =>
        simpa [State.insideCell, State.moveProducer, flags] using
          own.cell cell (.producer other)
    | consumer other => exact own.cell cell (.consumer other)
  · exact own.producerWaits other cell (by simpa [State.moveProducer, flags] using waits)

theorem wake_consumer (own : Ownership state) {index : Fin options.K} {cell : Nat}
    (blocked : state.consumers index = .blockedWriting cell) :
    Ownership (state.moveConsumer index (.relockCell cell)) := by
  have flags : ∀ other,
      (Function.update state.consumers index (.relockCell cell) other).holdsRead =
          (state.consumers other).holdsRead ∧
        (Function.update state.consumers index (.relockCell cell) other).holdsCell =
          (state.consumers other).holdsCell ∧
        (Function.update state.consumers index (.relockCell cell) other).waitsFor =
          (state.consumers other).waitsFor := by
    intro other
    by_cases self : other = index
    · subst self
      simp [blocked, ConsumerPc.holdsRead,
        ConsumerPc.holdsCell, ConsumerPc.waitsFor]
    · simp [self]
  refine ⟨own.write, ?_, fun cell => ?_, own.producerWaits, fun other cell waits => ?_⟩
  · intro thread
    cases thread with
    | producer other => exact own.read (.producer other)
    | consumer other =>
        simpa [State.insideRead, State.moveConsumer, flags] using own.read (.consumer other)
  · intro thread
    cases thread with
    | producer other => exact own.cell cell (.producer other)
    | consumer other =>
        simpa [State.insideCell, State.moveConsumer, flags] using
          own.cell cell (.consumer other)
  · exact own.consumerWaits other cell (by simpa [State.moveConsumer, flags] using waits)

/-- Nothing of the ownership depends on where `main` is. -/
theorem set_main (own : Ownership state) (main : MainPc) :
    Ownership { state with main := main } :=
  ⟨own.write, own.read, own.cell, own.producerWaits, own.consumerWaits⟩

theorem initially (options : Options) : Ownership (initial options) := by
  refine ⟨?_, ?_, fun cell => ?_, ?_, ?_⟩
  · intro thread
    cases thread <;> simp [initial, State.insideWrite, ProducerPc.holdsWrite]
  · intro thread
    cases thread <;> simp [initial, State.insideRead, ConsumerPc.holdsRead]
  · intro thread
    cases thread <;>
      simp [initial, State.insideCell, ProducerPc.holdsCell, ConsumerPc.holdsCell]
  · simp [initial, ProducerPc.waitsFor]
  · simp [initial, ConsumerPc.waitsFor]

end Ownership

theorem mainThread_frame {state following : State options}
    (taken : mainThread state = some following) :
    ∃ main, state.main.next (fun index => state.producers index = .returned)
        (fun index => state.consumers index = .returned) = some main ∧
      following = { state with main := main } := by
  rcases Option.map_eq_some_iff.mp taken with ⟨main, advanced, rfl⟩
  exact ⟨main, advanced, rfl⟩

/-- What one action of the whole system is: a statement of a thread, a wake-up
without a broadcast, or a statement of `main`. -/
inductive StepOf (file : List Text) (state following : State options) :
    Action options → Prop
  | producer (index : Fin options.P)
      (taken : pStartRoutine file state index = some following) :
      StepOf file state following (.producer index)
  | consumer (index : Fin options.K)
      (taken : cStartRoutine state index = some following) :
      StepOf file state following (.consumer index)
  | wakeProducer (index : Fin options.P) (cell : Nat)
      (blocked : state.producers index = .blockedReading cell)
      (woken : following = state.moveProducer index (.relockCell cell)) :
      StepOf file state following (.wakeProducer index)
  | wakeConsumer (index : Fin options.K) (cell : Nat)
      (blocked : state.consumers index = .blockedWriting cell)
      (woken : following = state.moveConsumer index (.relockCell cell)) :
      StepOf file state following (.wakeConsumer index)
  | main (taken : mainThread state = some following) :
      StepOf file state following .main

theorem system_step {state following : State options} {action : Action options}
    (taken : (system options file).next state action = some following) :
    StepOf file state following action := by
  simp only [system] at taken
  split at taken
  · contradiction
  · cases action with
    | producer index => exact .producer index taken
    | consumer index => exact .consumer index taken
    | wakeProducer index =>
        dsimp only at taken
        split at taken
        · next cell blocked =>
            exact .wakeProducer index cell blocked (Option.some.inj taken).symm
        · contradiction
    | wakeConsumer index =>
        dsimp only at taken
        split at taken
        · next cell blocked =>
            exact .wakeConsumer index cell blocked (Option.some.inj taken).symm
        · contradiction
    | main => exact .main taken

theorem ownership {state : State options}
    (reachable : (system options file).Reachable state) : Ownership state := by
  refine reachable.invariant Ownership (Ownership.initially options) ?_
  intro current action following own _ taken
  cases system_step taken with
  | producer index statement => exact own.producer_step statement
  | consumer index statement => exact own.consumer_step statement
  | wakeProducer index cell blocked woken => exact woken ▸ own.wake_producer blocked
  | wakeConsumer index cell blocked woken => exact woken ▸ own.wake_consumer blocked
  | main statement =>
      rcases mainThread_frame statement with ⟨main, _, rfl⟩
      exact own.set_main main

end OsExercises.BoundedBuffer.Mutex
