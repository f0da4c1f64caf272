import OsExercises.BoundedBuffer.Mutex.Fifo

/-! # Every line is searched before the program ends

A consumer that leaves has found its cell empty and `end_time` set, at two
different moments. The lock it holds on the cell in between makes the two
observations one: the buffer is empty when the end of the file is known. -/

namespace OsExercises.BoundedBuffer.Mutex

open OsExercises

variable {options : Options} {file : List Text}

/-- The producer's `getline` has returned -1. -/
def ProducerPc.sawEnd : ProducerPc → Bool
  | .eofBroadcast | .eofUnlockCell | .eofUnlockWrite | .setEndTime | .returned => true
  | _ => false

/-- The consumer has passed the test of `end_time`. -/
def ConsumerPc.leaving : ConsumerPc → Bool
  | .endUnlockCell | .endUnlockRead | .returned => true
  | _ => false

/-- The lines that have been searched: those consumed, and the one in the
reader's cell between the search and the clearing. -/
def State.searched (state : State options) : List Text :=
  state.memory.consumed ++
    if state.reader = .clear then state.memory.readingCell.toList else []

@[simp] theorem ProducerPc.sawEnd_wake (pc : ProducerPc) :
    pc.wake.sawEnd = pc.sawEnd := by
  cases pc <;> rfl

@[simp] theorem ConsumerPc.leaving_wake (pc : ConsumerPc) :
    pc.wake.leaving = pc.leaving := by
  cases pc <;> rfl

@[simp] theorem ConsumerPc.wake_eq_returned (pc : ConsumerPc) :
    pc.wake = .returned ↔ pc = .returned := by
  cases pc <;> simp [ConsumerPc.wake]

@[simp] theorem ConsumerPc.wake_eq_clear (pc : ConsumerPc) :
    pc.wake = .clear ↔ pc = .clear := by
  cases pc <;> simp [ConsumerPc.wake]

/-! ## What a producer tells the consumers -/

section Producer

variable {state following : State options} {index : Fin options.P}

theorem pStartRoutine_filePos
    (taken : pStartRoutine file state index = some following) :
    state.memory.filePos ≤ following.memory.filePos := by
  cases pStartRoutine_cases taken
  all_goals simp

theorem pStartRoutine_sawEnd
    (taken : pStartRoutine file state index = some following)
    (saw : (following.producers index).sawEnd = true) :
    (state.producers index).sawEnd = true ∨ file.length ≤ state.memory.filePos := by
  cases pStartRoutine_cases taken
  all_goals simp_all [ProducerPc.sawEnd]

theorem pStartRoutine_endTime
    (taken : pStartRoutine file state index = some following)
    (ended : following.memory.endTime = true) :
    state.memory.endTime = true ∨ state.producers index = .setEndTime := by
  cases pStartRoutine_cases taken
  all_goals simp_all

/-- A producer does not touch the cell a consumer owns. -/
theorem pStartRoutine_readingCell (own : Ownership state)
    (readerHolds : state.reader.holdsCell = true)
    (taken : pStartRoutine file state index = some following) :
    following.memory.readingCell = state.memory.readingCell := by
  cases pStartRoutine_cases taken
  case store line pc =>
    have writer : state.writer = .store line :=
      (own.writer_eq (by simp [pc, ProducerPc.holdsWrite])).trans pc
    have differ := own.positions_differ (by simp [writer, ProducerPc.holdsCell])
      readerHolds
    simp [Memory.readingCell, Ne.symm differ]
  all_goals simp [Memory.readingCell]

end Producer

/-! ## What a consumer counts -/

section Consumer

variable {state following : State options} {index : Fin options.K}

theorem cStartRoutine_leaving
    (taken : cStartRoutine state index = some following)
    (leaves : (following.consumers index).leaving = true) :
    (state.consumers index).leaving = true ∨
      (state.consumers index = .testEnd ∧ state.memory.endTime = true) := by
  cases cStartRoutine_cases taken
  all_goals simp_all [ConsumerPc.leaving]

/-- The search counts the line in the cell, and the clearing consumes it. -/
theorem cStartRoutine_searched (own : Ownership state)
    (taken : cStartRoutine state index = some following) :
    (following.memory.lineCounter = state.memory.lineCounter ∧
        following.searched = state.searched) ∨
      ∃ line, following.memory.lineCounter =
          searchLine options line state.memory.lineCounter ∧
        following.searched = state.searched ++ [line] := by
  have owner : (state.consumers index).holdsRead = true →
      state.readLock = some (.consumer index) := (own.read (.consumer index)).mp
  cases cStartRoutine_cases taken
  case search line pc found =>
    refine .inr ⟨line, rfl, ?_⟩
    rw [pc] at owner
    simp_all [State.searched, State.reader, ConsumerPc.holdsRead, Memory.readingCell]
  all_goals
    refine .inl ⟨rfl, ?_⟩
    simp_all [State.searched, State.reader, ConsumerPc.holdsRead]

theorem cStartRoutine_not_returned
    (taken : cStartRoutine state index = some following) :
    state.consumers index ≠ .returned := by
  intro atEnd
  simp [cStartRoutine, atEnd] at taken

end Consumer

/-! ## The invariant -/

structure Finishing (file : List Text) (state : State options) : Prop where
  sawEnd : ∀ index, (state.producers index).sawEnd = true →
    file.length ≤ state.memory.filePos
  endTime : state.memory.endTime = true → file.length ≤ state.memory.filePos
  leaving : ∀ index, (state.consumers index).leaving = true →
    state.memory.consumed = file
  counted : Counted options state.searched state.memory.lineCounter
  joinedConsumers : ∀ index, state.main = .joinConsumer index →
    ∀ consumer : Fin options.K, consumer.val < index →
      state.consumers consumer = .returned
  printing : state.main = .printFound → ∀ consumer, state.consumers consumer = .returned

namespace Finishing

variable {state following : State options}

theorem initially (options : Options) (file : List Text) :
    Finishing file (initial options) where
  sawEnd := by simp [initial, ProducerPc.sawEnd]
  endTime := by simp [initial, Memory.initial]
  leaving := by simp [initial, ConsumerPc.leaving]
  counted := counted_of_eq (by simp [State.searched, State.reader, initial, Memory.initial, int32])
  joinedConsumers := by
    intro index atMain
    simp only [initial, MainPc.initial] at atMain
    split at atMain <;> cases atMain
  printing := by
    intro atMain
    simp only [initial, MainPc.initial] at atMain
    split at atMain <;> cases atMain

theorem producer_step (finishing : Finishing file state) (own : Ownership state)
    {index : Fin options.P}
    (taken : pStartRoutine file state index = some following) :
    Finishing file following := by
  have frame := pStartRoutine_frame taken
  have progress := pStartRoutine_filePos taken
  have returned : ∀ consumer, state.consumers consumer = .returned →
      following.consumers consumer = .returned := by
    intro consumer atEnd
    rcases frame.consumers with same | woken
    · rw [same, atEnd]
    · simp [woken, atEnd]
  refine ⟨?_, ?_, ?_, ?_, ?_, ?_⟩
  · intro other saw
    refine Nat.le_trans ?_ progress
    by_cases self : other = index
    · subst self
      rcases pStartRoutine_sawEnd taken saw with before | ended
      · exact finishing.sawEnd other before
      · exact ended
    · rw [frame.others other self] at saw
      exact finishing.sawEnd other saw
  · intro ended
    refine Nat.le_trans ?_ progress
    rcases pStartRoutine_endTime taken ended with before | setting
    · exact finishing.endTime before
    · exact finishing.sawEnd index (by simp [setting, ProducerPc.sawEnd])
  · intro consumer leaving
    rw [frame.consumed]
    refine finishing.leaving consumer ?_
    rcases frame.consumers with same | woken
    · rwa [same] at leaving
    · simpa [woken] using leaving
  · have searched : following.searched = state.searched := by
      unfold State.searched
      have sameReader : following.reader = .clear ↔ state.reader = .clear := by
        rcases frame.reader with same | woken
        · rw [same]
        · simp [woken]
      by_cases clearing : state.reader = .clear
      · have cell := pStartRoutine_readingCell own
          (by simp [clearing, ConsumerPc.holdsCell]) taken
        simp [sameReader.mpr clearing, clearing, frame.consumed, cell]
      · have notClearing : following.reader ≠ .clear :=
          fun now => clearing (sameReader.mp now)
        simp [clearing, notClearing, frame.consumed]
    rw [frame.lineCounter, searched]
    exact finishing.counted
  · intro joined atMain consumer below
    rw [frame.main] at atMain
    exact returned consumer (finishing.joinedConsumers joined atMain consumer below)
  · intro atMain consumer
    rw [frame.main] at atMain
    exact returned consumer (finishing.printing atMain consumer)

/-- The consumer that finds `end_time` set works on an empty buffer. -/
private theorem consumed_all (finishing : Finishing file state)
    {queue : List Text} (buffered : Buffered file state queue)
    (own : Ownership state) {index : Fin options.K}
    (pc : state.consumers index = .testEnd)
    (ended : state.memory.endTime = true) : state.memory.consumed = file := by
  have reader : state.reader = .testEnd :=
    (own.reader_eq (by simp [pc, ConsumerPc.holdsRead])).trans pc
  have read := buffered.read
  simp only [State.settledReading, reader, ConsumerPc.pending, Bool.false_eq_true,
    if_false] at read
  have empty : queue = [] := by
    refine buffered.holds.nil_of_front options.cellsPositive ?_
    rw [← read, Buffered.settled_readingCell own (by simp [reader, ConsumerPc.holdsCell])]
    exact buffered.readerEmpty (by simp [reader, ConsumerPc.foundEmpty])
  have order := buffered.order
  rw [empty, List.append_nil, List.take_of_length_le (finishing.endTime ended)] at order
  exact order

/-- When the whole file is consumed, no cell is left to clear. -/
private theorem consumed_stays {queue : List Text}
    (buffered : Buffered file state queue) (own : Ownership state)
    {index : Fin options.K}
    (taken : cStartRoutine state index = some following)
    (complete : state.memory.consumed = file) :
    following.memory.consumed = file := by
  rcases (cStartRoutine_frame taken).consumed with same | clearing
  · rw [same, complete]
  · rcases buffered.consumer_clear own clearing taken with ⟨line, rest, queued, _⟩
    have lengths := buffered.length_eq
    have within := buffered.withinFile
    rw [queued, complete, List.length_cons] at lengths
    omega

theorem consumer_step (finishing : Finishing file state) (own : Ownership state)
    {queue : List Text} (buffered : Buffered file state queue)
    {index : Fin options.K}
    (taken : cStartRoutine state index = some following) :
    Finishing file following := by
  have frame := cStartRoutine_frame taken
  have returned : ∀ consumer, state.consumers consumer = .returned →
      following.consumers consumer = .returned := by
    intro consumer atEnd
    rw [frame.others consumer, atEnd]
    intro same
    subst same
    exact cStartRoutine_not_returned taken atEnd
  refine ⟨?_, ?_, ?_, ?_, ?_, ?_⟩
  · intro producer saw
    rw [frame.filePos]
    refine finishing.sawEnd producer ?_
    rcases frame.producers with same | woken
    · rwa [same] at saw
    · simpa [woken] using saw
  · rw [frame.endTime, frame.filePos]
    exact finishing.endTime
  · intro other leaving
    refine consumed_stays buffered own taken ?_
    by_cases self : other = index
    · subst self
      rcases cStartRoutine_leaving taken leaving with before | ⟨testing, ended⟩
      · exact finishing.leaving other before
      · exact finishing.consumed_all buffered own testing ended
    · rw [frame.others other self] at leaving
      exact finishing.leaving other leaving
  · rcases cStartRoutine_searched own taken with
      ⟨counter, searched⟩ | ⟨line, counter, searched⟩
    · rw [counter, searched]
      exact finishing.counted
    · rw [counter, searched]
      exact counted_concat finishing.counted line
  · intro joined atMain consumer below
    rw [frame.main] at atMain
    exact returned consumer (finishing.joinedConsumers joined atMain consumer below)
  · intro atMain consumer
    rw [frame.main] at atMain
    exact returned consumer (finishing.printing atMain consumer)

/-- `main` goes on to the next consumer, or to the print, only after a join. -/
theorem main_step (finishing : Finishing file state)
    (taken : mainThread state = some following) : Finishing file following := by
  rcases mainThread_frame taken with ⟨main, advanced, rfl⟩
  refine ⟨finishing.sawEnd, finishing.endTime, finishing.leaving, finishing.counted,
    ?_, ?_⟩
  · intro joined atMain consumer below
    simp only at atMain
    subst atMain
    rcases MainPc.next_joinConsumer advanced with first | ⟨previous, before, last, rfl⟩
    · omega
    · rcases Nat.lt_or_eq_of_le (Nat.le_of_lt_succ below) with earlier | same
      · exact finishing.joinedConsumers previous before consumer earlier
      · rw [Fin.ext same]
        simpa using last
  · intro atMain consumer
    simp only at atMain
    subst atMain
    rcases MainPc.next_printFound advanced with ⟨index, before, all⟩
    exact finishing.joinedConsumers index before consumer (by omega)

theorem wake_producer (finishing : Finishing file state)
    {index : Fin options.P} {cell : Nat}
    (blocked : state.producers index = .blockedReading cell) :
    Finishing file (state.moveProducer index (.relockCell cell)) := by
  refine ⟨?_, finishing.endTime, finishing.leaving, finishing.counted,
    finishing.joinedConsumers, finishing.printing⟩
  intro other saw
  by_cases self : other = index
  · subst self
    simp [ProducerPc.sawEnd] at saw
  · exact finishing.sawEnd other (by simpa [self] using saw)

theorem wake_consumer (finishing : Finishing file state) (own : Ownership state)
    {index : Fin options.K} {cell : Nat}
    (blocked : state.consumers index = .blockedWriting cell) :
    Finishing file (state.moveConsumer index (.relockCell cell)) := by
  have owner : state.readLock = some (.consumer index) :=
    (own.read (.consumer index)).mp
      (by simp [State.insideRead, blocked, ConsumerPc.holdsRead])
  have returned : ∀ consumer, state.consumers consumer = .returned →
      (state.moveConsumer index (.relockCell cell)).consumers consumer = .returned := by
    intro consumer atEnd
    have apart : consumer ≠ index := by
      intro same
      subst same
      simp [blocked] at atEnd
    simpa [apart] using atEnd
  refine ⟨finishing.sawEnd, finishing.endTime, ?_, ?_, ?_, ?_⟩
  · intro other leaving
    by_cases self : other = index
    · subst self
      simp [ConsumerPc.leaving] at leaving
    · exact finishing.leaving other (by simpa [self] using leaving)
  · have counted := finishing.counted
    simpa [State.searched, State.reader, owner, blocked] using counted
  · exact fun joined atMain consumer below =>
      returned consumer (finishing.joinedConsumers joined atMain consumer below)
  · exact fun atMain consumer => returned consumer (finishing.printing atMain consumer)

end Finishing

theorem finishing {state : State options}
    (reachable : (system options file).Reachable state) : Finishing file state := by
  refine reachable.invariant_of (Finishing file)
    (fun state reached => And.intro (ownership reached) (buffered reached))
    (Finishing.initially options file) ?_
  intro current action following facts finishing _ taken
  rcases facts with ⟨own, queue, buffered⟩
  cases system_step taken with
  | producer index statement => exact finishing.producer_step own statement
  | consumer index statement => exact finishing.consumer_step own buffered statement
  | wakeProducer index cell blocked woken => exact woken ▸ finishing.wake_producer blocked
  | wakeConsumer index cell blocked woken =>
      exact woken ▸ finishing.wake_consumer own blocked
  | main statement => exact finishing.main_step statement

/-- When a consumer has left through the test of `end_time`, the whole file is
consumed, all cells are empty and no producer has a line or will get one. When
`main` prints `line_counter`, it is the number of lines of the file that the
search mode asks for, as far as an `int` can hold it. -/
theorem search_complete {state : State options}
    (reachable : (system options file).Reachable state) :
    (∀ index, (state.consumers index).leaving = true →
      state.memory.consumed = file ∧
        (∀ cell, cell < options.N → state.memory.globalBuffer cell = none) ∧
        (∀ producer line, state.producers producer ≠ .store line) ∧
        file[state.memory.filePos]? = none) ∧
    (state.main = .printFound → Counted options file state.memory.lineCounter) := by
  have own := ownership reachable
  have finish := finishing reachable
  rcases buffered reachable with ⟨queue, buffered⟩
  constructor
  · intro index leaving
    have complete := finish.leaving index leaving
    have lengths := buffered.length_eq
    have within := buffered.withinFile
    rw [complete] at lengths
    have empty : queue = [] := List.eq_nil_of_length_eq_zero (by omega)
    have settledEmpty : ∀ cell, cell < options.N → state.settledBuffer cell = none := by
      intro cell bound
      exact (empty ▸ buffered.holds).empty_of_nil bound
    have noHand : state.writer.inHand = none := by
      by_contra inHand
      rcases Option.ne_none_iff_exists'.mp inHand with ⟨line, inHand⟩
      have atHand := settledEmpty _ buffered.writingPos
      simp [State.settledBuffer, inHand] at atHand
    refine ⟨complete, fun cell bound => ?_, fun producer line storing => ?_, ?_⟩
    · simpa [State.settledBuffer, noHand] using settledEmpty cell bound
    · have holds : (state.producers producer).holdsWrite = true := by
        simp [storing, ProducerPc.holdsWrite]
      simp [own.writer_eq holds, storing, ProducerPc.inHand] at noHand
    · exact List.getElem?_eq_none (by omega)
  · intro printing
    have returned := finish.printing printing ⟨0, options.consumersPositive⟩
    have complete := finish.leaving _ (by rw [returned]; rfl)
    have notClearing : state.reader ≠ .clear := by
      unfold State.reader
      split
      · next consumer _ => simp [finish.printing printing consumer]
      · simp
    have counted := finish.counted
    rwa [State.searched, if_neg notClearing, List.append_nil, complete] at counted

/-- One line, one producer and one consumer, from the start to the final print:
the producer reads the line, the consumer searches it, the producer meets the
end of the file, and the consumer leaves. -/
def printedOne : State oneCell :=
  let producer : Action oneCell := .producer ⟨0, Nat.one_pos⟩
  let consumer : Action oneCell := .consumer ⟨0, Nat.one_pos⟩
  (system oneCell [['a']]).after
    (List.replicate 9 producer ++ List.replicate 9 consumer ++
      List.replicate 8 producer ++ List.replicate 6 consumer ++
      List.replicate 4 .main) rfl

theorem search_complete_printedOne :
    printedOne.main = .printFound ∧ printedOne.memory.lineCounter = 1 ∧
    (∀ index, (printedOne.consumers index).leaving = true →
      printedOne.memory.consumed = [['a']] ∧
        (∀ cell, cell < oneCell.N → printedOne.memory.globalBuffer cell = none) ∧
        (∀ producer line, printedOne.producers producer ≠ .store line) ∧
        [['a']][printedOne.memory.filePos]? = none) ∧
    (printedOne.main = .printFound →
      Counted oneCell [['a']] printedOne.memory.lineCounter) :=
  ⟨rfl, rfl, search_complete (TransitionSystem.after_reachable _ _ _)⟩

end OsExercises.BoundedBuffer.Mutex
