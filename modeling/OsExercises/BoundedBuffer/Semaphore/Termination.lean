import OsExercises.BoundedBuffer.Semaphore.Progress
import OsExercises.Foundation.Termination
import OsExercises.Foundation.Totals

/-! # Every run with semaphores ends

Each wait for a full or an empty buffer uses up a unit that somebody has posted for a line or
for the end of the file, and there are finitely many lines. So there are no infinite runs, and
the threads get to the end of the program or lose a consumer there. -/

namespace OsExercises.BoundedBuffer.Semaphore

open OsExercises

variable {options : Options} {file : List Text} {state following : State options}

/-! ## What is left to do -/

/-- Statements that the producer can execute without another line or unit. A unit that it will
post counts five, for the statements of the consumer that takes it. -/
def ProducerPc.rank : ProducerPc → Nat
  | .lockWrite => 13
  | .lockCell | .relockCell => 12
  | .testFull => 11
  | .waitUnlockCell | .getline => 10
  | .waitReading | .eofPost => 9
  | .store _ => 23
  | .post => 22
  | .unlockCell => 16
  | .advance => 15
  | .unlockWrite => 14
  | .eofUnlockCell => 3
  | .eofUnlockWrite => 2
  | .setEndTime => 1
  | .returned => 0

/-- A unit that the consumer will post counts four. -/
def ConsumerPc.rank : ConsumerPc → Nat
  | .lockRead => 8
  | .lockCell | .relockCell => 7
  | .testEmpty => 6
  | .testEnd | .search => 5
  | .waitUnlockCell | .clear => 4
  | .waitWriting => 3
  | .post => 16
  | .unlockCell => 11
  | .advance => 10
  | .unlockRead => 9
  | .endUnlockCell => 2
  | .endUnlockRead => 1
  | .returned => 0

/-- Statements of `main`. -/
def mainRank (options : Options) : MainPc → Nat
  | .sleep | .printFound => 1
  | .joinProducer index => 4 + options.K + (options.P - index)
  | .joinConsumer index => 2 + (options.K - index)
  | .returned => 0

namespace State

/-- What the lines that are left and the units that are posted make possible. -/
def credit (file : List Text) (state : State options) : Nat :=
  14 * (file.length - state.memory.filePos) + 13 * (file.length - state.memory.consumed.length) +
    5 * state.someoneIsWriting + 4 * state.someoneIsReading

def rank (file : List Text) (state : State options) : Nat :=
  state.credit file + total ProducerPc.rank state.producers +
    total ConsumerPc.rank state.consumers + mainRank options state.main

end State

/-! ## What a statement uses up -/

theorem pStartRoutine_rank {index : Fin options.P}
    (taken : pStartRoutine file state index = some following) :
    following.credit file + (following.producers index).rank <
      state.credit file + (state.producers index).rank := by
  cases pStartRoutine_cases taken
  case getline line pc read =>
    have left : state.memory.filePos < file.length := (List.getElem?_eq_some_iff.mp read).1
    simp only [State.credit, State.moveProducer_producers, State.moveProducer_memory,
      State.moveProducer_someoneIsWriting, State.moveProducer_someoneIsReading,
      Function.update_self, pc, ProducerPc.rank]
    omega
  all_goals simp [State.credit, State.postCell, ProducerPc.rank, *] <;> omega

theorem pStartRoutine_main {index : Fin options.P}
    (taken : pStartRoutine file state index = some following) : following.main = state.main := by
  cases pStartRoutine_cases taken
  all_goals rfl

/-- Of the file no more lines are consumed than there are. -/
theorem length_consumed (reachable : (system options file).Reachable state) :
    state.memory.consumed.length ≤ file.length :=
  (locked reachable).order.length_le.trans (List.length_take_le' _ _)

theorem cStartRoutine_rank {index : Fin options.K}
    (line : state.consumers index = .clear →
      state.memory.readingCell ≠ none ∧ following.memory.consumed.length ≤ file.length)
    (taken : cStartRoutine state index = some following) :
    following.credit file + (following.consumers index).rank <
      state.credit file + (state.consumers index).rank := by
  cases cStartRoutine_cases taken
  case clear pc =>
    rcases line pc with ⟨present, within⟩
    rcases Option.ne_none_iff_exists'.mp present with ⟨text, found⟩
    have longer : state.memory.clear.consumed.length = state.memory.consumed.length + 1 := by
      simp [found]
    simp only [State.moveConsumer_memory] at within
    simp only [State.credit, State.moveConsumer_consumers, State.moveConsumer_memory,
      State.moveConsumer_someoneIsWriting, State.moveConsumer_someoneIsReading,
      Function.update_self, pc, ConsumerPc.rank, Memory.clear_filePos]
    omega
  all_goals simp [State.credit, State.postCell, ConsumerPc.rank, *] <;> omega

theorem cStartRoutine_main {index : Fin options.K}
    (taken : cStartRoutine state index = some following) : following.main = state.main := by
  cases cStartRoutine_cases taken
  all_goals rfl

theorem next_rank {main : MainPc} {producerReturned : Fin options.P → Bool}
    {consumerReturned : Fin options.K → Bool} {next : MainPc}
    (taken : main.next producerReturned consumerReturned = some next) :
    mainRank options next < mainRank options main := by
  cases main with
  | sleep | printFound =>
      cases taken
      exact Nat.one_pos
  | joinProducer index =>
      simp only [MainPc.next] at taken
      split at taken
      · split at taken
        · cases taken
          simp only [mainRank]
          omega
        · cases taken
      · cases taken
        simp only [mainRank]
        omega
  | joinConsumer index =>
      simp only [MainPc.next] at taken
      split at taken
      · split at taken
        · cases taken
          simp only [mainRank]
          omega
        · cases taken
      · cases taken
        simp only [mainRank]
        omega
  | returned => cases taken

/-! ## Runs -/

theorem descends (options : Options) (file : List Text) :
    (system options file).Descends (fun _ _ => True) (fun _ _ => False) (State.rank file) := by
  refine .of_lt ?_
  intro current action following reachable taken
  have nextReachable := TransitionSystem.ReachableUnder.step reachable trivial taken
  simp only [system] at taken
  split at taken
  · cases taken
  · cases action with
    | producer index =>
        rcases pStartRoutine_frame taken with ⟨consumers, _, others⟩
        have lower := pStartRoutine_rank taken
        have moved : following.producers =
            Function.update current.producers index (following.producers index) :=
          Function.eq_update_iff.mpr ⟨rfl, others⟩
        have sum := total_update ProducerPc.rank current.producers index
          (following.producers index)
        rw [← moved] at sum
        unfold State.rank
        rw [consumers, pStartRoutine_main taken]
        omega
    | consumer index =>
        rcases cStartRoutine_frame taken with ⟨producers, others⟩
        have line (clearing : current.consumers index = .clear) :
            current.memory.readingCell ≠ none ∧
              following.memory.consumed.length ≤ file.length := by
          exact ⟨found_line reachable (by rw [clearing]; rfl), length_consumed nextReachable⟩
        have lower := cStartRoutine_rank line taken
        have moved : following.consumers =
            Function.update current.consumers index (following.consumers index) :=
          Function.eq_update_iff.mpr ⟨rfl, others⟩
        have sum := total_update ConsumerPc.rank current.consumers index
          (following.consumers index)
        rw [← moved] at sum
        unfold State.rank
        rw [producers, cStartRoutine_main taken]
        omega
    | main =>
        rcases Option.map_eq_some_iff.mp taken with ⟨main, advanced, rfl⟩
        exact Nat.add_lt_add_left (next_rank advanced) _

/-- How many steps a run can have. -/
def mostSteps (options : Options) (file : List Text) : Nat :=
  27 * file.length + 14 * options.P + 9 * options.K + 4

theorem rank_initial (options : Options) (file : List Text) :
    (initial options).rank file ≤ mostSteps options file := by
  have main : mainRank options (initial options).main ≤ 4 + options.K + options.P := by
    simp only [initial, MainPc.initial]
    split
    · exact Nat.le_refl _
    · simp only [mainRank]
      omega
  have producers : total ProducerPc.rank (initial options).producers = 13 * options.P := by
    simp [total, initial, ProducerPc.rank, Nat.mul_comm]
  have consumers : total ConsumerPc.rank (initial options).consumers = 8 * options.K := by
    simp [total, initial, ConsumerPc.rank, Nat.mul_comm]
  have credit : (initial options).credit file = 27 * file.length := by
    simp only [State.credit, initial, Memory.initial, List.length_nil]
    omega
  rw [State.rank, producers, consumers, credit, mostSteps]
  omega

/-- How a run ends: `main` returns, or a consumer waits in vain, which it does not where each
test of `end_time` comes in time. Without a time limit all lines have been searched. -/
structure Ended (file : List Text) (state : State options) : Prop where
  stops : state.main = .returned ∨ state.Stranded
  inTime : (system options file).ReachableUnder State.TestsInTime state → state.main = .returned
  searched : options.NK = 0 → Searched file state

end OsExercises.BoundedBuffer.Semaphore
