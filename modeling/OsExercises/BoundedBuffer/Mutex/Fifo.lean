import OsExercises.BoundedBuffer.Mutex.Ownership
import OsExercises.Foundation.Channel
import OsExercises.Foundation.Ring

/-! # The buffer is a first-in first-out channel

The cells hold, from the reading position on, the lines that `getline` has
returned and no consumer has taken yet. A line a producer has in hand counts as
stored, and a position whose update is still to come counts as advanced. -/

namespace OsExercises.BoundedBuffer.Mutex

open OsExercises

variable {options : Options} {file : List Text}

/-! ## The settled buffer -/

/-- A line `getline` has returned but the producer has not stored yet. -/
def ProducerPc.inHand : ProducerPc → Option Text
  | .store line => some line
  | _ => none

/-- The producer has read a line and not advanced `writing_pos` yet. -/
def ProducerPc.pending : ProducerPc → Bool
  | .store _ | .broadcast | .unlockCell | .advance => true
  | _ => false

/-- The producer has found the cell empty and not filled it yet. -/
def ProducerPc.foundEmpty : ProducerPc → Bool
  | .getline | .store _ => true
  | _ => false

/-- The consumer has cleared the cell and not advanced `reading_pos` yet. -/
def ConsumerPc.pending : ConsumerPc → Bool
  | .broadcast | .unlockCell | .advance => true
  | _ => false

/-- The consumer has found the cell empty, and still owns it. -/
def ConsumerPc.foundEmpty : ConsumerPc → Bool
  | .testEnd | .waitWriting | .endUnlockCell => true
  | _ => false

/-- The consumer has found a line in the cell and not cleared it yet. -/
def ConsumerPc.foundLine : ConsumerPc → Bool
  | .search | .clear => true
  | _ => false

theorem ConsumerPc.holdsCell_of_foundEmpty {pc : ConsumerPc}
    (found : pc.foundEmpty = true) : pc.holdsCell = true := by
  cases pc <;> simp_all [ConsumerPc.foundEmpty, ConsumerPc.holdsCell]

theorem ConsumerPc.holdsCell_of_foundLine {pc : ConsumerPc}
    (found : pc.foundLine = true) : pc.holdsCell = true := by
  cases pc <;> simp_all [ConsumerPc.foundLine, ConsumerPc.holdsCell]

theorem ProducerPc.holdsCell_of_inHand {pc : ProducerPc} {line : Text}
    (inHand : pc.inHand = some line) : pc.holdsCell = true := by
  cases pc <;> simp_all [ProducerPc.inHand, ProducerPc.holdsCell]

theorem ProducerPc.holdsWrite_of_foundEmpty {pc : ProducerPc}
    (found : pc.foundEmpty = true) : pc.holdsWrite = true := by
  cases pc <;> simp_all [ProducerPc.foundEmpty, ProducerPc.holdsWrite]

namespace State

/-- The cells, with the line in the writer's hand in the cell it is meant for. -/
def settledBuffer (state : State options) : Nat → Option Text :=
  match state.writer.inHand with
  | some line =>
      Function.update state.memory.globalBuffer state.memory.writingPos (some line)
  | none => state.memory.globalBuffer

def settledWriting (state : State options) : Nat :=
  if state.writer.pending then (state.memory.writingPos + 1) % options.N
  else state.memory.writingPos

def settledReading (state : State options) : Nat :=
  if state.reader.pending then (state.memory.readingPos + 1) % options.N
  else state.memory.readingPos

end State

theorem ProducerFrame.reader {state following : State options}
    {index : Fin options.P} (frame : ProducerFrame state following index) :
    following.reader = state.reader ∨ following.reader = state.reader.wake := by
  unfold State.reader
  rw [frame.readLock]
  rcases frame.consumers with same | woken
  · rw [same]
    exact .inl rfl
  · rw [woken]
    right
    split <;> rfl

theorem ConsumerFrame.writer {state following : State options}
    {index : Fin options.K} (frame : ConsumerFrame state following index) :
    following.writer = state.writer ∨ following.writer = state.writer.wake := by
  unfold State.writer
  rw [frame.writeLock]
  rcases frame.producers with same | woken
  · rw [same]
    exact .inl rfl
  · rw [woken]
    right
    split <;> rfl

/-- What the reader found and owes does not change with a statement of a
producer. -/
theorem ProducerFrame.reader_flags {state following : State options}
    {index : Fin options.P} (frame : ProducerFrame state following index) :
    following.reader.pending = state.reader.pending ∧
      following.reader.foundEmpty = state.reader.foundEmpty ∧
      following.reader.foundLine = state.reader.foundLine := by
  rcases frame.reader with same | woken
  · simp [same]
  · rw [woken]
    cases state.reader <;> simp [ConsumerPc.wake, ConsumerPc.pending,
      ConsumerPc.foundEmpty, ConsumerPc.foundLine]

theorem ConsumerFrame.writer_flags {state following : State options}
    {index : Fin options.K} (frame : ConsumerFrame state following index) :
    following.writer.inHand = state.writer.inHand ∧
      following.writer.pending = state.writer.pending ∧
      following.writer.foundEmpty = state.writer.foundEmpty := by
  rcases frame.writer with same | woken
  · simp [same]
  · rw [woken]
    cases state.writer <;> simp [ProducerPc.wake, ProducerPc.inHand,
      ProducerPc.pending, ProducerPc.foundEmpty]

/-! ## The ring invariant -/

/-- The buffer stores `queue`, the lines read from `file` and not yet consumed. -/
structure Buffered (file : List Text) (state : State options)
    (queue : List Text) : Prop where
  writingPos : state.memory.writingPos < options.N
  readingPos : state.memory.readingPos < options.N
  written : state.settledWriting = state.memory.filePos % options.N
  read : state.settledReading = state.memory.consumed.length % options.N
  writerEmpty : state.writer.foundEmpty = true → state.memory.writingCell = none
  readerEmpty : state.reader.foundEmpty = true → state.memory.readingCell = none
  readerLine : state.reader.foundLine = true → state.memory.readingCell ≠ none
  holds : Ring.Holds options.N state.settledBuffer state.memory.consumed.length queue
  order : state.memory.consumed ++ queue = file.take state.memory.filePos
  withinFile : state.memory.filePos ≤ file.length

namespace Buffered

variable {state following : State options} {queue : List Text}

theorem length_eq (buffered : Buffered file state queue) :
    state.memory.consumed.length + queue.length = state.memory.filePos := by
  have lengths := congrArg List.length buffered.order
  have withinFile := buffered.withinFile
  simp only [List.length_append, List.length_take] at lengths
  omega

/-- Statements that touch neither cells nor positions keep the invariant. -/
theorem frame (buffered : Buffered file state queue)
    (cells : following.memory.globalBuffer = state.memory.globalBuffer)
    (writingPos : following.memory.writingPos = state.memory.writingPos)
    (readingPos : following.memory.readingPos = state.memory.readingPos)
    (filePos : following.memory.filePos = state.memory.filePos)
    (consumed : following.memory.consumed = state.memory.consumed)
    (inHand : following.writer.inHand = state.writer.inHand)
    (writerPending : following.writer.pending = state.writer.pending)
    (readerPending : following.reader.pending = state.reader.pending)
    (writerEmpty : following.writer.foundEmpty = true →
      state.memory.writingCell = none)
    (readerEmpty : following.reader.foundEmpty = true →
      state.memory.readingCell = none)
    (readerLine : following.reader.foundLine = true →
      state.memory.readingCell ≠ none) :
    Buffered file following queue := by
  have writingCell : following.memory.writingCell = state.memory.writingCell := by
    simp [Memory.writingCell, cells, writingPos]
  have readingCell : following.memory.readingCell = state.memory.readingCell := by
    simp [Memory.readingCell, cells, readingPos]
  have settled : following.settledBuffer = state.settledBuffer := by
    simp [State.settledBuffer, inHand, cells, writingPos]
  exact {
    writingPos := writingPos ▸ buffered.writingPos
    readingPos := readingPos ▸ buffered.readingPos
    written := by
      simpa [State.settledWriting, writerPending, writingPos, filePos] using
        buffered.written
    read := by
      simpa [State.settledReading, readerPending, readingPos, consumed] using
        buffered.read
    writerEmpty := fun found => writingCell.trans (writerEmpty found)
    readerEmpty := fun found => readingCell.trans (readerEmpty found)
    readerLine := fun found => readingCell.symm ▸ readerLine found
    holds := by simpa only [settled, consumed] using buffered.holds
    order := by simpa only [consumed, filePos] using buffered.order
    withinFile := by simpa only [filePos] using buffered.withinFile }

/-! ### Producers -/

/-- The cell the next line goes to. -/
private theorem writing_cell (buffered : Buffered file state queue) :
    (state.memory.consumed.length + queue.length) % options.N =
      state.settledWriting := by
  rw [buffered.length_eq, buffered.written]

theorem producer_getline (buffered : Buffered file state queue)
    {index : Fin options.P} {line : Text}
    (own : Ownership state) (pc : state.producers index = .getline)
    (available : file[state.memory.filePos]? = some line)
    (taken : pStartRoutine file state index = some following) :
    Buffered file following (queue ++ [line]) ∧ queue.length < options.N := by
  have owner : state.writeLock = some (.producer index) :=
    (own.write (.producer index)).mp (by simp [State.insideWrite, pc, ProducerPc.holdsWrite])
  have writer : state.writer = .getline := by simp [State.writer, owner, pc]
  have written := buffered.written
  have backCell := buffered.writing_cell
  have holds := buffered.holds
  simp only [State.settledWriting, writer, ProducerPc.pending, Bool.false_eq_true,
    if_false] at written backCell
  simp only [State.settledBuffer, writer, ProducerPc.inHand] at holds
  have empty : state.memory.globalBuffer
      ((state.memory.consumed.length + queue.length) % options.N) = none := by
    rw [backCell]
    exact buffered.writerEmpty (by simp [writer, ProducerPc.foundEmpty])
  have within : state.memory.filePos < file.length :=
    (List.getElem?_eq_some_iff.mp available).1
  have pushed := holds.push options.cellsPositive empty line
  rw [backCell] at pushed
  simp only [pStartRoutine, pc, available, Option.some.injEq] at taken
  have memory : following.memory =
      { state.memory with filePos := state.memory.filePos + 1 } := by rw [← taken]; rfl
  have nextWriter : following.writer = .store line := by
    rw [← taken]
    simp [State.writer, owner]
  have nextReader : following.reader = state.reader := by rw [← taken]; rfl
  refine ⟨?_, holds.room options.cellsPositive empty⟩
  exact {
    writingPos := by simpa [memory] using buffered.writingPos
    readingPos := by simpa [memory] using buffered.readingPos
    written := by
      simp [State.settledWriting, nextWriter, ProducerPc.pending, memory, written]
    read := by simpa [State.settledReading, nextReader, memory] using buffered.read
    writerEmpty := fun _ => by
      simpa [memory, Memory.writingCell] using
        buffered.writerEmpty (by simp [writer, ProducerPc.foundEmpty])
    readerEmpty := by
      simpa [nextReader, memory, Memory.readingCell] using buffered.readerEmpty
    readerLine := by
      simpa [nextReader, memory, Memory.readingCell] using buffered.readerLine
    holds := by
      simpa [State.settledBuffer, nextWriter, ProducerPc.inHand, memory] using pushed
    order := by simp [memory, List.take_add_one, available, ← buffered.order]
    withinFile := by simpa [memory] using Nat.succ_le_of_lt within }

theorem producer_store (buffered : Buffered file state queue)
    {index : Fin options.P} {line : Text}
    (own : Ownership state) (pc : state.producers index = .store line)
    (taken : pStartRoutine file state index = some following) :
    Buffered file following queue := by
  have owner : state.writeLock = some (.producer index) :=
    (own.write (.producer index)).mp (by simp [State.insideWrite, pc, ProducerPc.holdsWrite])
  have writer : state.writer = .store line := by simp [State.writer, owner, pc]
  -- The reader's cell is another one as long as the reader owns it.
  have readerCell : state.reader.holdsCell = true →
      (state.memory.store line).readingCell = state.memory.readingCell := by
    intro readerHolds
    have differ := own.positions_differ
      (by simp [writer, ProducerPc.holdsCell]) readerHolds
    simp [Memory.readingCell, Memory.store, Ne.symm differ]
  simp only [pStartRoutine, pc, Option.some.injEq] at taken
  have memory : following.memory = state.memory.store line := by rw [← taken]; rfl
  have nextWriter : following.writer = .broadcast := by
    rw [← taken]
    simp [State.writer, owner]
  have nextReader : following.reader = state.reader := by rw [← taken]; rfl
  exact {
    writingPos := by simpa [memory] using buffered.writingPos
    readingPos := by simpa [memory] using buffered.readingPos
    written := by
      have written := buffered.written
      simp only [State.settledWriting, writer, ProducerPc.pending] at written
      simpa [State.settledWriting, nextWriter, ProducerPc.pending, memory] using written
    read := by simpa [State.settledReading, nextReader, memory] using buffered.read
    writerEmpty := by simp [nextWriter, ProducerPc.foundEmpty]
    readerEmpty := fun found => by
      rw [nextReader] at found
      rw [memory, readerCell (ConsumerPc.holdsCell_of_foundEmpty found)]
      exact buffered.readerEmpty found
    readerLine := fun found => by
      rw [nextReader] at found
      rw [memory, readerCell (ConsumerPc.holdsCell_of_foundLine found)]
      exact buffered.readerLine found
    holds := by
      have holds := buffered.holds
      simp only [State.settledBuffer, writer, ProducerPc.inHand] at holds
      simpa [State.settledBuffer, nextWriter, ProducerPc.inHand, memory] using holds
    order := by simpa [memory] using buffered.order
    withinFile := by simpa [memory] using buffered.withinFile }

theorem producer_advance (buffered : Buffered file state queue)
    {index : Fin options.P}
    (own : Ownership state) (pc : state.producers index = .advance)
    (taken : pStartRoutine file state index = some following) :
    Buffered file following queue := by
  have owner : state.writeLock = some (.producer index) :=
    (own.write (.producer index)).mp (by simp [State.insideWrite, pc, ProducerPc.holdsWrite])
  have writer : state.writer = .advance := by simp [State.writer, owner, pc]
  simp only [pStartRoutine, pc, Option.some.injEq] at taken
  have memory : following.memory = state.memory.advanceWriting options.N := by
    rw [← taken]; rfl
  have nextWriter : following.writer = .unlockWrite := by
    rw [← taken]
    simp [State.writer, owner]
  have nextReader : following.reader = state.reader := by rw [← taken]; rfl
  exact {
    writingPos := by simpa [memory] using Nat.mod_lt _ options.cellsPositive
    readingPos := by simpa [memory] using buffered.readingPos
    written := by
      have written := buffered.written
      simp only [State.settledWriting, writer, ProducerPc.pending] at written
      simpa [State.settledWriting, nextWriter, ProducerPc.pending, memory] using written
    read := by simpa [State.settledReading, nextReader, memory] using buffered.read
    writerEmpty := by simp [nextWriter, ProducerPc.foundEmpty]
    readerEmpty := by
      simpa [nextReader, memory, Memory.readingCell] using buffered.readerEmpty
    readerLine := by
      simpa [nextReader, memory, Memory.readingCell] using buffered.readerLine
    holds := by
      have holds := buffered.holds
      simp only [State.settledBuffer, writer, ProducerPc.inHand] at holds
      simpa [State.settledBuffer, nextWriter, ProducerPc.inHand, memory] using holds
    order := by simpa [memory] using buffered.order
    withinFile := by simpa [memory] using buffered.withinFile }

/-- The other statements leave the cells and positions as they are. -/
theorem producer_other (buffered : Buffered file state queue)
    {index : Fin options.P} (own : Ownership state)
    (notStore : ∀ line, state.producers index ≠ .store line)
    (notAdvance : state.producers index ≠ .advance)
    (atEnd : state.producers index = .getline → file[state.memory.filePos]? = none)
    (taken : pStartRoutine file state index = some following) :
    Buffered file following queue := by
  have frame := pStartRoutine_frame taken
  rcases frame.reader_flags with ⟨readerPending, readerEmpty, readerLine⟩
  have owner : (state.producers index).holdsWrite = true →
      state.writeLock = some (.producer index) := (own.write (.producer index)).mp
  have found : (state.producers index).foundEmpty = true →
      state.memory.writingCell = none := by
    intro found
    refine buffered.writerEmpty ?_
    rwa [own.writer_eq (ProducerPc.holdsWrite_of_foundEmpty found)]
  cases pStartRoutine_cases taken
  case store line pc => exact absurd pc (notStore line)
  case advance pc => exact absurd pc notAdvance
  case getline line pc read =>
    rw [atEnd pc] at read
    cases read
  case setEndTime pc _ | leaveEndTime pc _ =>
    have outside : (state.producers index).holdsWrite = false := by
      simp [pc, ProducerPc.holdsWrite]
    have writer := own.writer_move outside .returned
    exact buffered.frame rfl rfl rfl rfl rfl (congrArg _ writer) (congrArg _ writer)
      readerPending (fun empty => buffered.writerEmpty (writer ▸ empty))
      (readerEmpty ▸ buffered.readerEmpty) (readerLine ▸ buffered.readerLine)
  all_goals
    refine buffered.frame rfl rfl rfl rfl rfl ?_ ?_ readerPending ?_
      (readerEmpty ▸ buffered.readerEmpty) (readerLine ▸ buffered.readerLine)
  all_goals
    simp_all [State.writer, ProducerPc.inHand, ProducerPc.pending,
      ProducerPc.foundEmpty, ProducerPc.holdsWrite]

/-! ### Consumers -/

/-- While the reader owns its cell, the settled cell is the one in memory. -/
theorem settled_readingCell (own : Ownership state)
    (readerHolds : state.reader.holdsCell = true) :
    state.settledBuffer state.memory.readingPos = state.memory.readingCell := by
  unfold State.settledBuffer
  cases inHand : state.writer.inHand with
  | none => rfl
  | some line =>
      have differ := own.positions_differ
        (ProducerPc.holdsCell_of_inHand inHand) readerHolds
      simp [Memory.readingCell, Ne.symm differ]

theorem consumer_clear (buffered : Buffered file state queue)
    {index : Fin options.K} (own : Ownership state)
    (pc : state.consumers index = .clear)
    (taken : cStartRoutine state index = some following) :
    ∃ line rest, queue = line :: rest ∧ state.memory.readingCell = some line ∧
      following.memory.consumed = state.memory.consumed ++ [line] ∧
      Buffered file following rest := by
  have frame := cStartRoutine_frame taken
  rcases frame.writer_flags with ⟨inHand, writerPending, writerEmpty⟩
  have owner : state.readLock = some (.consumer index) :=
    (own.read (.consumer index)).mp (by simp [State.insideRead, pc, ConsumerPc.holdsRead])
  have reader : state.reader = .clear := by simp [State.reader, owner, pc]
  have readerHolds : state.reader.holdsCell = true := by
    simp [reader, ConsumerPc.holdsCell]
  have read := buffered.read
  simp only [State.settledReading, reader, ConsumerPc.pending, Bool.false_eq_true,
    if_false] at read
  -- The oldest line of the queue is the one in the reader's cell.
  have front := buffered.holds.front_cell options.cellsPositive
  rw [← read, settled_readingCell own readerHolds] at front
  have present := buffered.readerLine (by simp [reader, ConsumerPc.foundLine])
  rcases queue with _ | ⟨line, rest⟩
  · exact absurd front present
  have popped := buffered.holds.pop options.cellsPositive
  rw [← read] at popped
  simp only [cStartRoutine, pc, Option.some.injEq] at taken
  have memory : following.memory = state.memory.clear := by rw [← taken]; rfl
  have consumed : following.memory.consumed = state.memory.consumed ++ [line] := by
    simp [memory, front]
  have nextReader : following.reader = .broadcast := by
    rw [← taken]
    simp [State.reader, owner]
  have settled : following.settledBuffer =
      Function.update state.settledBuffer state.memory.readingPos none := by
    unfold State.settledBuffer
    rw [inHand, memory]
    cases hand : state.writer.inHand with
    | none => rfl
    | some line =>
        have differ := own.positions_differ
          (ProducerPc.holdsCell_of_inHand hand) readerHolds
        simp only [Memory.clear_globalBuffer, Memory.clear_writingPos]
        rw [Function.update_comm differ]
  refine ⟨line, rest, rfl, front, consumed, ?_⟩
  exact {
    writingPos := by simpa [memory] using buffered.writingPos
    readingPos := by simpa [memory] using buffered.readingPos
    written := by
      simpa [State.settledWriting, writerPending, memory] using buffered.written
    read := by
      simp [State.settledReading, nextReader, ConsumerPc.pending, memory, front, read]
    writerEmpty := fun found => by
      have empty := buffered.writerEmpty (writerEmpty ▸ found)
      simp only [Memory.writingCell, memory, Memory.clear_globalBuffer,
        Memory.clear_writingPos, Function.update_apply]
      split
      · rfl
      · exact empty
    readerEmpty := by simp [nextReader, ConsumerPc.foundEmpty]
    readerLine := by simp [nextReader, ConsumerPc.foundLine]
    holds := by
      rw [settled, consumed, List.length_append]
      exact popped
    order := by
      rw [consumed, List.append_assoc]
      simpa [memory] using buffered.order
    withinFile := by simpa [memory] using buffered.withinFile }

theorem consumer_advance (buffered : Buffered file state queue)
    {index : Fin options.K} (own : Ownership state)
    (pc : state.consumers index = .advance)
    (taken : cStartRoutine state index = some following) :
    Buffered file following queue := by
  have owner : state.readLock = some (.consumer index) :=
    (own.read (.consumer index)).mp (by simp [State.insideRead, pc, ConsumerPc.holdsRead])
  have reader : state.reader = .advance := by simp [State.reader, owner, pc]
  simp only [cStartRoutine, pc, Option.some.injEq] at taken
  have memory : following.memory = state.memory.advanceReading options.N := by
    rw [← taken]; rfl
  have nextReader : following.reader = .unlockRead := by
    rw [← taken]
    simp [State.reader, owner]
  have nextWriter : following.writer = state.writer := by rw [← taken]; rfl
  exact {
    writingPos := by simpa [memory] using buffered.writingPos
    readingPos := by simpa [memory] using Nat.mod_lt _ options.cellsPositive
    written := by
      simpa [State.settledWriting, nextWriter, memory] using buffered.written
    read := by
      have read := buffered.read
      simp only [State.settledReading, reader, ConsumerPc.pending] at read
      simpa [State.settledReading, nextReader, ConsumerPc.pending, memory] using read
    writerEmpty := by
      simpa [nextWriter, memory, Memory.writingCell] using buffered.writerEmpty
    readerEmpty := by simp [nextReader, ConsumerPc.foundEmpty]
    readerLine := by simp [nextReader, ConsumerPc.foundLine]
    holds := by
      simpa [State.settledBuffer, nextWriter, memory] using buffered.holds
    order := by simpa [memory] using buffered.order
    withinFile := by simpa [memory] using buffered.withinFile }

/-- The other statements leave the cells and positions as they are. -/
theorem consumer_other (buffered : Buffered file state queue)
    {index : Fin options.K} (own : Ownership state)
    (notClear : state.consumers index ≠ .clear)
    (notAdvance : state.consumers index ≠ .advance)
    (taken : cStartRoutine state index = some following) :
    Buffered file following queue := by
  have frame := cStartRoutine_frame taken
  rcases frame.writer_flags with ⟨inHand, writerPending, writerEmpty⟩
  have owner : (state.consumers index).holdsRead = true →
      state.readLock = some (.consumer index) := (own.read (.consumer index)).mp
  have reader : (state.consumers index).holdsRead = true →
      state.reader = state.consumers index := fun holds => own.reader_eq holds
  have foundEmpty := buffered.readerEmpty
  have foundLine := buffered.readerLine
  cases cStartRoutine_cases taken
  case clear pc => exact absurd pc notClear
  case advance pc => exact absurd pc notAdvance
  all_goals
    refine buffered.frame rfl rfl rfl rfl rfl inHand writerPending ?_
      (writerEmpty ▸ buffered.writerEmpty) ?_ ?_
  all_goals
    simp_all [State.reader, ConsumerPc.pending, ConsumerPc.foundEmpty,
      ConsumerPc.foundLine, ConsumerPc.holdsRead]

/-! ### Wake-ups and `main` -/

theorem wake_producer (buffered : Buffered file state queue)
    {index : Fin options.P} {cell : Nat} (own : Ownership state)
    (blocked : state.producers index = .blockedReading cell) :
    Buffered file (state.moveProducer index (.relockCell cell)) queue := by
  have owner : state.writeLock = some (.producer index) :=
    (own.write (.producer index)).mp
      (by simp [State.insideWrite, blocked, ProducerPc.holdsWrite])
  have writer : state.writer = .blockedReading cell := by
    simp [State.writer, owner, blocked]
  have woken : (state.moveProducer index (.relockCell cell)).writer =
      .relockCell cell := by
    simp [State.writer, owner]
  refine buffered.frame rfl rfl rfl rfl rfl ?_ ?_ rfl ?_
    buffered.readerEmpty buffered.readerLine
  all_goals
    simp [woken, writer, ProducerPc.inHand, ProducerPc.pending, ProducerPc.foundEmpty]

theorem wake_consumer (buffered : Buffered file state queue)
    {index : Fin options.K} {cell : Nat} (own : Ownership state)
    (blocked : state.consumers index = .blockedWriting cell) :
    Buffered file (state.moveConsumer index (.relockCell cell)) queue := by
  have owner : state.readLock = some (.consumer index) :=
    (own.read (.consumer index)).mp
      (by simp [State.insideRead, blocked, ConsumerPc.holdsRead])
  have reader : state.reader = .blockedWriting cell := by
    simp [State.reader, owner, blocked]
  have woken : (state.moveConsumer index (.relockCell cell)).reader =
      .relockCell cell := by
    simp [State.reader, owner]
  refine buffered.frame rfl rfl rfl rfl rfl rfl rfl ?_ buffered.writerEmpty ?_ ?_
  all_goals
    simp [woken, reader, ConsumerPc.pending, ConsumerPc.foundEmpty, ConsumerPc.foundLine]

theorem initially (options : Options) (file : List Text) :
    Buffered file (initial options) [] where
  writingPos := options.cellsPositive
  readingPos := options.cellsPositive
  written := by
    simp [State.settledWriting, State.writer, initial, ProducerPc.pending, Memory.initial]
  read := by
    simp [State.settledReading, State.reader, initial, ConsumerPc.pending, Memory.initial]
  writerEmpty _ := rfl
  readerEmpty _ := rfl
  readerLine := by simp [State.reader, initial, ConsumerPc.foundLine]
  holds := Ring.holds_nil (fun _ _ => rfl) options.cellsPositive _
  order := by simp [initial, Memory.initial]
  withinFile := by simp [initial, Memory.initial]

end Buffered

/-! ## Refinement -/

/-- The buffer in `state` stands for the channel `carried`. -/
def Carries (file : List Text) (state : State options)
    (carried : Channel Text) : Prop :=
  carried.sent = file.take state.memory.filePos ∧
    carried.received = state.memory.consumed ∧
    Buffered file state carried.held

private theorem Carries.still {state following : State options}
    {carried : Channel Text} (carries : Carries file state carried)
    (consumed : following.memory.consumed = state.memory.consumed)
    (buffered : Buffered file following carried.held) :
    Carries file following carried := by
  rcases carries with ⟨sent, received, before⟩
  refine ⟨?_, received.trans consumed.symm, buffered⟩
  rw [sent, ← before.order, ← buffered.order, consumed]

/-- Every run of the threads is a run of a channel of `N` lines: `getline` sends
and clearing a cell receives. -/
theorem simulates_channel (options : Options) (file : List Text) :
    (system options file).Simulates (fun _ _ => True) (channel Text options.N)
      (Carries file) where
  initially := ⟨by simp [channel, system, initial, Memory.initial], rfl,
    Buffered.initially options file⟩
  answered := by
    intro current action following carried reachable _ carries _ taken
    have own := ownership reachable
    have buffered := carries.2.2
    have answer_none : Carries file following carried →
        ∃ answer final, (channel Text options.N).run carried answer = some final ∧
          Carries file following final :=
      fun still => ⟨[], carried, rfl, still⟩
    cases system_step taken with
    | producer index statement =>
        have frame := pStartRoutine_frame statement
        by_cases reads : current.producers index = .getline ∧
            file[current.memory.filePos]? ≠ none
        · rcases Option.ne_none_iff_exists'.mp reads.2 with ⟨line, available⟩
          rcases buffered.producer_getline own reads.1 available statement with
            ⟨nextBuffered, room⟩
          refine ⟨[.send line], _, Channel.run_send room line, ?_, ?_, nextBuffered⟩
          · rw [← nextBuffered.order, frame.consumed, ← List.append_assoc,
              buffered.order, carries.1]
          · rw [frame.consumed]
            exact carries.2.1
        · refine answer_none (carries.still frame.consumed ?_)
          cases pc : current.producers index
          case store line => exact buffered.producer_store own pc statement
          case advance => exact buffered.producer_advance own pc statement
          all_goals
            refine buffered.producer_other own ?_ ?_ ?_ statement
            all_goals simp_all
    | consumer index statement =>
        have frame := cStartRoutine_frame statement
        by_cases clears : current.consumers index = .clear
        · rcases buffered.consumer_clear own clears statement with
            ⟨line, rest, queued, _, consumed, nextBuffered⟩
          refine ⟨[.receive], _, Channel.run_receive queued, ?_, ?_, nextBuffered⟩
          · rw [frame.filePos]
            exact carries.1
          · rw [consumed, carries.2.1]
        · have consumed : following.memory.consumed = current.memory.consumed :=
            frame.consumed.resolve_right clears
          refine answer_none (carries.still consumed ?_)
          by_cases advances : current.consumers index = .advance
          · exact buffered.consumer_advance own advances statement
          · exact buffered.consumer_other own clears advances statement
    | wakeProducer index cell blocked woken =>
        subst woken
        exact answer_none (carries.still rfl (buffered.wake_producer own blocked))
    | wakeConsumer index cell blocked woken =>
        subst woken
        exact answer_none (carries.still rfl (buffered.wake_consumer own blocked))
    | main statement =>
        rcases mainThread_frame statement with ⟨main, _, rfl⟩
        exact answer_none (carries.still rfl
          (buffered.frame rfl rfl rfl rfl rfl rfl rfl rfl buffered.writerEmpty
            buffered.readerEmpty buffered.readerLine))

theorem buffered {state : State options}
    (reachable : (system options file).Reachable state) :
    ∃ queue, Buffered file state queue := by
  rcases (simulates_channel options file).abstraction reachable with
    ⟨carried, _, carries⟩
  exact ⟨carried.held, carries.2.2⟩

/-- All cells, read cyclically from the settled reading position. -/
def State.cellsFromReading (state : State options) : List (Option Text) :=
  (List.range options.N).map fun offset =>
    state.settledBuffer ((state.settledReading + offset) % options.N)

/-- The lines consumed so far and then the lines in the cells up to the settled
writing position are the lines `getline` has returned, in file order. The cells
beyond are empty. -/
theorem lines_in_file_order {state : State options}
    (reachable : (system options file).Reachable state) :
    ∃ queued : List Text,
      state.memory.consumed ++ queued = file.take state.memory.filePos ∧
      queued.length ≤ options.N ∧
      state.settledReading < options.N ∧
      state.settledWriting = (state.settledReading + queued.length) % options.N ∧
      state.cellsFromReading =
        queued.map some ++ List.replicate (options.N - queued.length) none := by
  rcases (simulates_channel options file).abstraction reachable with
    ⟨carried, carriedReachable, sent, received, buffered⟩
  have order := Channel.fifo carriedReachable
  refine ⟨carried.held, ?_, order.2, ?_, ?_, ?_⟩
  · rw [← received, ← order.1, sent]
  · rw [buffered.read]
    exact Nat.mod_lt _ options.cellsPositive
  · rw [buffered.written, buffered.read, Nat.mod_add_mod, buffered.length_eq]
  · have cells := buffered.holds.read_cells
    simpa [State.cellsFromReading, buffered.read, Nat.mod_add_mod] using cells

/-- The producer has stored the first of two lines in the only cell and has not
advanced yet. -/
def storedFirst : State oneCell :=
  (system oneCell [['a'], ['b']]).after
    (List.replicate 6 (.producer ⟨0, by decide⟩)) rfl

theorem lines_in_file_order_storedFirst :
    storedFirst.memory.filePos = 1 ∧ ∃ queued : List Text,
      storedFirst.memory.consumed ++ queued =
        [['a'], ['b']].take storedFirst.memory.filePos ∧
      queued.length ≤ oneCell.N ∧
      storedFirst.settledReading < oneCell.N ∧
      storedFirst.settledWriting =
        (storedFirst.settledReading + queued.length) % oneCell.N ∧
      storedFirst.cellsFromReading =
        queued.map some ++ List.replicate (oneCell.N - queued.length) none :=
  ⟨rfl, lines_in_file_order (TransitionSystem.after_reachable _ _ _)⟩

end OsExercises.BoundedBuffer.Mutex
