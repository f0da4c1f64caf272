import OsExercises.BoundedBuffer.Mutex.Progress
import OsExercises.BoundedBuffer.Semaphore.Wakeups

/-! # The search with semaphores is complete

What is known of the mutex program when a consumer leaves and when `main` prints holds of the
program with semaphores, which runs as that one does. -/

namespace OsExercises.BoundedBuffer.Semaphore

open OsExercises

variable {options : Options} {file : List Text} {state following : State options}

/-- The consumer has passed the test of `end_time`. -/
def ConsumerPc.leaving : ConsumerPc → Bool
  | .endUnlockCell | .endUnlockRead | .returned => true
  | _ => false

/-- The consumer has found a line in the cell and not cleared it yet. -/
def ConsumerPc.foundLine : ConsumerPc → Bool
  | .search | .clear => true
  | _ => false

/-- The consumer has cleared the cell and not advanced `reading_pos` yet. -/
def ConsumerPc.pending : ConsumerPc → Bool
  | .post | .unlockCell | .advance => true
  | _ => false

namespace SameConsumer

variable {pc : ConsumerPc} {matching : Mutex.ConsumerPc}

theorem leaving (same : SameConsumer pc matching) : matching.leaving = pc.leaving := by
  cases same <;> rfl

theorem foundLine (same : SameConsumer pc matching) : matching.foundLine = pc.foundLine := by
  cases same <;> rfl

theorem pending (same : SameConsumer pc matching) : matching.pending = pc.pending := by
  cases same <;> rfl

theorem clearing (same : SameConsumer pc matching) (clearing : matching = .clear) :
    pc = .clear := by
  subst clearing
  cases same
  rfl

end SameConsumer

theorem SameProducer.storing {pc : ProducerPc} {matching : Mutex.ProducerPc} {line : Text}
    (same : SameProducer pc matching) (storing : pc = .store line) : matching = .store line := by
  subst storing
  cases same
  rfl

/-! ## What the mutex program shows of the buffer -/

namespace Related

variable {matching : Mutex.State options}

theorem noHand (related : Related state matching)
    (hands : ∀ index line, state.producers index ≠ .store line) :
    matching.writer.inHand = none := by
  by_contra inHand
  rcases Option.ne_none_iff_exists'.mp inHand with ⟨line, inHand⟩
  unfold Mutex.State.writer at inHand
  split at inHand
  · next index _ =>
      have same := related.producers index
      generalize pc : state.producers index = statePc at same
      generalize matching.producers index = matchingPc at same inHand
      cases same
      case store stored => exact hands index stored pc
      all_goals cases inHand
  · cases inHand

theorem notPending (related : Related state matching)
    (settled : ∀ index, (state.consumers index).pending = false) :
    matching.reader.pending = false := by
  unfold Mutex.State.reader
  split
  · next index _ => rw [(related.consumers index).pending, settled]
  · rfl

theorem notClearing (related : Related state matching)
    (elsewhere : ∀ index, state.consumers index ≠ .clear) : matching.reader ≠ .clear := by
  unfold Mutex.State.reader
  split
  · next index _ =>
      intro clearing
      exact elsewhere index ((related.consumers index).clearing clearing)
  · nofun

end Related

/-! ## The end of the search -/

/-- All lines have been consumed, and no line is on its way to a consumer. -/
structure Drained (file : List Text) (state : State options) : Prop where
  consumed : state.memory.consumed = file
  cells : ∀ cell, cell < options.N → state.memory.globalBuffer cell = none
  hands : ∀ producer line, state.producers producer ≠ .store line
  atEnd : file[state.memory.filePos]? = none

theorem drained (reachable : (system options file).Reachable state) {index : Fin options.K}
    (leaving : (state.consumers index).leaving = true) : Drained file state := by
  rcases (simulates_mutex options file).abstraction reachable with
    ⟨matching, matchingReachable, related⟩
  rw [← (related.consumers index).leaving] at leaving
  have own := Mutex.ownership matchingReachable
  have consumed := (Mutex.finishing matchingReachable).leaving index leaving
  rcases Mutex.buffered matchingReachable with ⟨queue, buffered⟩
  rcases buffered.nil_of_consumed consumed with ⟨nothing, atEnd⟩
  subst nothing
  rcases buffered.cells_empty with ⟨noHand, cells⟩
  rw [related.memory] at consumed cells atEnd
  refine ⟨consumed, cells, ?_, List.getElem?_eq_none atEnd.ge⟩
  intro producer line storing
  have matchingStoring := (related.producers producer).storing storing
  have writer : matching.writer = matching.producers producer :=
    own.writer_eq (by rw [matchingStoring]; rfl)
  rw [writer, matchingStoring] at noHand
  cases noHand

/-- All lines have been searched, and `line_counter` is right. -/
structure Searched (file : List Text) (state : State options) : Prop where
  consumed : state.memory.consumed = file
  lineCounter : Counted options file state.memory.lineCounter

/-- When `main` prints, all consumers have returned and `line_counter` is right. -/
theorem searched_of_printing (reachable : (system options file).Reachable state)
    (printing : state.main = .printFound) : Searched file state := by
  rcases (simulates_mutex options file).abstraction reachable with
    ⟨matching, matchingReachable, related⟩
  have finish := Mutex.finishing matchingReachable
  rw [← related.main] at printing
  have returned := finish.printing printing
  have consumed := finish.leaving ⟨0, options.consumersPositive⟩ (by rw [returned]; rfl)
  have notClearing : matching.reader ≠ .clear := by
    apply related.notClearing
    intro index clearing
    have same := (related.consumers index).returned_iff.mp (returned index)
    rw [clearing] at same
    cases same
  exact
    { consumed := by rw [← related.memory, consumed]
      lineCounter := by
        rw [← related.memory]
        exact finish.file_counted consumed notClearing }

/-- A consumer leaves only when no line is left anywhere, and `main` prints the number of lines
that the search mode asks for. -/
theorem complete_at_exit (reachable : (system options file).Reachable state) :
    (∀ index, (state.consumers index).leaving = true → Drained file state) ∧
      (state.main = .printFound → Searched file state) :=
  ⟨fun _ => drained reachable, searched_of_printing reachable⟩

/-- One line, from the start to the final print. -/
def searchOne : List (Action oneCell) :=
  List.replicate 9 (.producer ⟨0, Nat.one_pos⟩) ++ List.replicate 9 (.consumer ⟨0, Nat.one_pos⟩) ++
    List.replicate 8 (.producer ⟨0, Nat.one_pos⟩) ++
    List.replicate 6 (.consumer ⟨0, Nat.one_pos⟩) ++ List.replicate 4 .main

def printedOne : State oneCell := (system oneCell [['a']]).after searchOne rfl

theorem complete_at_exit_printedOne :
    printedOne.main = .printFound ∧ printedOne.memory.lineCounter = 1 ∧
      Drained [['a']] printedOne ∧ Searched [['a']] printedOne := by
  have complete := complete_at_exit
    ((system oneCell [['a']]).after_reachable searchOne rfl)
  exact ⟨rfl, rfl, complete.1 ⟨0, Nat.one_pos⟩ rfl, complete.2 rfl⟩

end OsExercises.BoundedBuffer.Semaphore
