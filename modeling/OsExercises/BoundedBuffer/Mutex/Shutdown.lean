import OsExercises.BoundedBuffer.Mutex.Fifo

/-! # Shutdown with condition variables

At the end of the file a producer broadcasts, releases its locks and only then
sets `end_time`. A consumer that tests `end_time` in between, after the last
broadcast of all producers, waits for ever. In runs without such a test nobody
does. -/

namespace OsExercises.BoundedBuffer.Mutex

open OsExercises

variable {options : Options} {file : List Text}

/-- The producer has a broadcast of `someone_is_writing` ahead of it. -/
def ProducerPc.willBroadcast : ProducerPc → Bool
  | .eofUnlockCell | .eofUnlockWrite | .setEndTime | .returned => false
  | _ => true

/-- The consumer has decided to wait for `someone_is_writing`. -/
def ConsumerPc.awaitsWriting : ConsumerPc → Bool
  | .waitWriting | .blockedWriting _ => true
  | _ => false

namespace State

/-- All producers have returned and a consumer waits for a broadcast. -/
def Stranded (state : State options) : Prop :=
  (∀ index, state.producers index = .returned) ∧
    ∃ index cell, state.consumers index = .blockedWriting cell

def BroadcastAhead (state : State options) : Prop :=
  ∃ producer, (state.producers producer).willBroadcast = true

/-- A consumer that finds `end_time` not set has a broadcast to wait for. -/
def TestsInTime (state : State options) : Action options → Prop
  | .consumer index => state.consumers index = .testEnd →
      state.memory.endTime = false → state.BroadcastAhead
  | _ => True

instance (state : State options) : Decidable state.BroadcastAhead :=
  inferInstanceAs (Decidable (∃ _, _))

instance (state : State options) : ∀ action, Decidable (state.TestsInTime action)
  | .consumer _ => inferInstanceAs (Decidable (_ → _ → _))
  | .producer _ | .wakeProducer _ | .wakeConsumer _ | .main => isTrue trivial

/-- Whoever waits has a broadcast to wait for. -/
def Awaited (state : State options) : Prop :=
  ∀ index, (state.consumers index).awaitsWriting = true → state.BroadcastAhead

end State

@[simp] theorem ProducerPc.willBroadcast_wake (pc : ProducerPc) :
    pc.wake.willBroadcast = pc.willBroadcast := by
  cases pc <;> rfl

theorem ConsumerPc.waitWriting_of_awaits_wake {pc : ConsumerPc}
    (awaits : pc.wake.awaitsWriting = true) : pc = .waitWriting := by
  cases pc <;> simp_all [ConsumerPc.wake, ConsumerPc.awaitsWriting]

section Steps

variable {state following : State options}

/-- Only the end of the file uses up the last broadcast of a producer. -/
theorem pStartRoutine_willBroadcast {index : Fin options.P}
    (taken : pStartRoutine file state index = some following)
    (ahead : (state.producers index).willBroadcast = true) :
    (following.producers index).willBroadcast = true ∨
      (state.producers index = .eofBroadcast ∧
        following.consumers = state.broadcastWriting.consumers) := by
  cases pStartRoutine_cases taken
  all_goals simp_all [ProducerPc.willBroadcast]

theorem cStartRoutine_awaitsWriting {index : Fin options.K}
    (taken : cStartRoutine state index = some following)
    (awaits : (following.consumers index).awaitsWriting = true) :
    (state.consumers index).awaitsWriting = true ∨
      (state.consumers index = .testEnd ∧ state.memory.endTime = false) := by
  cases cStartRoutine_cases taken
  all_goals simp_all [ConsumerPc.awaitsWriting]

/-- A consumer about to wait and a producer at the end of the file would own the
same cell: the consumer has found the buffer empty, so both work on one cell. -/
theorem no_waiter_at_eof {queue : List Text} (own : Ownership state)
    (buffered : Buffered file state queue) {producer : Fin options.P}
    {consumer : Fin options.K}
    (atEnd : state.producers producer = .eofBroadcast)
    (waiting : state.consumers consumer = .waitWriting) : False := by
  have writer : state.writer = .eofBroadcast :=
    (own.writer_eq (by simp [atEnd, ProducerPc.holdsWrite])).trans atEnd
  have reader : state.reader = .waitWriting :=
    (own.reader_eq (by simp [waiting, ConsumerPc.holdsRead])).trans waiting
  have written := buffered.written
  have read := buffered.read
  simp only [State.settledWriting, writer, ProducerPc.pending, Bool.false_eq_true,
    if_false] at written
  simp only [State.settledReading, reader, ConsumerPc.pending, Bool.false_eq_true,
    if_false] at read
  have empty : queue = [] := by
    refine buffered.holds.nil_of_front options.cellsPositive ?_
    rw [← read, Buffered.settled_readingCell own (by simp [reader, ConsumerPc.holdsCell])]
    exact buffered.readerEmpty (by simp [reader, ConsumerPc.foundEmpty])
  have lengths := buffered.length_eq
  rw [empty, List.length_nil, Nat.add_zero] at lengths
  refine own.positions_differ (by simp [writer, ProducerPc.holdsCell])
    (by simp [reader, ConsumerPc.holdsCell]) ?_
  rw [written, read, lengths]

theorem BroadcastAhead_of_wake
    (ahead : state.BroadcastAhead)
    (woken : following.producers = state.producers ∨
      following.producers = state.broadcastReading.producers) :
    following.BroadcastAhead := by
  rcases ahead with ⟨producer, ahead⟩
  refine ⟨producer, ?_⟩
  rcases woken with same | woken
  · rw [same, ahead]
  · simpa [woken] using ahead

end Steps

/-- In runs without a late test, every waiting consumer has a broadcast ahead. -/
theorem awaited {state : State options}
    (reachable : (system options file).ReachableUnder State.TestsInTime state) :
    state.Awaited := by
  refine reachable.invariant_of State.Awaited
    (fun state reached => And.intro (ownership reached) (buffered reached)) ?_ ?_
  · intro index awaits
    simp [system, initial, ConsumerPc.awaitsWriting] at awaits
  · intro current action following facts awaited permitted taken
    rcases facts with ⟨own, queue, buffered⟩
    cases system_step taken with
    | producer index statement =>
        have frame := pStartRoutine_frame statement
        intro consumer awaits
        -- Without a broadcast in this step the consumer waited before it, too.
        have before : (current.consumers consumer).awaitsWriting = true := by
          rcases frame.consumers with same | woken
          · rwa [same] at awaits
          · rw [woken] at awaits
            simp [ConsumerPc.waitWriting_of_awaits_wake awaits,
              ConsumerPc.awaitsWriting]
        rcases awaited consumer before with ⟨producer, ahead⟩
        by_cases self : producer = index
        · subst self
          rcases pStartRoutine_willBroadcast statement ahead with still | ⟨atEnd, woken⟩
          · exact ⟨producer, still⟩
          · rw [woken] at awaits
            exact (no_waiter_at_eof own buffered atEnd
              (ConsumerPc.waitWriting_of_awaits_wake awaits)).elim
        · exact ⟨producer, by rw [frame.others producer self, ahead]⟩
    | consumer index statement =>
        have frame := cStartRoutine_frame statement
        intro consumer awaits
        refine BroadcastAhead_of_wake ?_ frame.producers
        by_cases self : consumer = index
        · subst self
          rcases cStartRoutine_awaitsWriting statement awaits with before | ⟨testing, open'⟩
          · exact awaited consumer before
          · exact permitted testing open'
        · rw [frame.others consumer self] at awaits
          exact awaited consumer awaits
    | wakeProducer index cell blocked woken =>
        subst woken
        intro consumer awaits
        rcases awaited consumer awaits with ⟨producer, ahead⟩
        refine ⟨producer, ?_⟩
        by_cases self : producer = index
        · subst self
          simp [ProducerPc.willBroadcast]
        · simpa [self] using ahead
    | wakeConsumer index cell blocked woken =>
        subst woken
        intro consumer awaits
        by_cases self : consumer = index
        · subst self
          simp [ConsumerPc.awaitsWriting] at awaits
        · exact awaited consumer (by simpa [self] using awaits)
    | main statement =>
        rcases mainThread_frame statement with ⟨main, _, rfl⟩
        exact awaited

theorem not_stranded {state : State options}
    (reachable : (system options file).ReachableUnder State.TestsInTime state) :
    ¬ state.Stranded := by
  intro stranded
  rcases stranded with ⟨returned, index, cell, blocked⟩
  rcases awaited reachable index (by simp [blocked, ConsumerPc.awaitsWriting]) with
    ⟨producer, ahead⟩
  simp [returned producer, ProducerPc.willBroadcast] at ahead

end OsExercises.BoundedBuffer.Mutex
