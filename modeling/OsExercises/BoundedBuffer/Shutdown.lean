import OsExercises.BoundedBuffer.Mutex.Shutdown
import OsExercises.BoundedBuffer.Semaphore.Shutdown

/-! # Shutdown of both programs

Both programs wake the consumers before they set `end_time`. The order loses a
consumer in one interleaving of the smallest instance, and in no run where each
test of `end_time` that finds it not set still has a wake-up to come. -/

namespace OsExercises.BoundedBuffer

open OsExercises

/-- No consumer is stranded when none finds `end_time` not set after the last
wake-up of the producers. -/
theorem no_consumer_stranded (options : Options) (file : List Text) :
    (∀ state, (Mutex.system options file).ReachableUnder Mutex.State.TestsInTime state →
      ¬ state.Stranded) ∧
    (∀ state,
      (Semaphore.system options file).ReachableUnder Semaphore.State.TestsInTime state →
        ¬ state.Stranded) :=
  ⟨fun _ reachable => Mutex.not_stranded reachable,
    fun _ reachable => Semaphore.not_stranded reachable⟩

/-- An empty file whose end the producer has announced before the consumer
starts; `main` joins both. -/
def producerFirst {Step : Type} (producer consumer main : Step) : List Step :=
  List.replicate 8 producer ++ List.replicate 6 consumer ++ List.replicate 4 main

def endedByBroadcast : Mutex.State oneCell :=
  (Mutex.system oneCell []).after
    (producerFirst (.producer ⟨0, Nat.one_pos⟩) (.consumer ⟨0, Nat.one_pos⟩) .main) rfl

def endedByPost : Semaphore.State oneCell :=
  (Semaphore.system oneCell []).after
    (producerFirst (.producer ⟨0, Nat.one_pos⟩) (.consumer ⟨0, Nat.one_pos⟩) .main) rfl

theorem no_consumer_stranded_producerFirst :
    (endedByBroadcast.main = .printFound ∧ ¬ endedByBroadcast.Stranded) ∧
      (endedByPost.main = .printFound ∧ ¬ endedByPost.Stranded) :=
  ⟨⟨rfl, (no_consumer_stranded oneCell []).1 _
      (TransitionSystem.after_reachableUnder _ _ _ (by decide))⟩,
    ⟨rfl, (no_consumer_stranded oneCell []).2 _
      (TransitionSystem.after_reachableUnder _ _ _ (by decide))⟩⟩

/-- An empty file: the consumer waits, the producer broadcasts and releases its
locks, the consumer finds `end_time` not set and waits again, and the producer
sets `end_time` and returns. -/
def strandedByBroadcast : Mutex.State oneCell :=
  let producer : Mutex.Action oneCell := .producer ⟨0, Nat.one_pos⟩
  let consumer : Mutex.Action oneCell := .consumer ⟨0, Nat.one_pos⟩
  (Mutex.system oneCell []).after
    (List.replicate 5 consumer ++ List.replicate 7 producer ++
      List.replicate 4 consumer ++ [producer]) rfl

/-- The same interleaving with semaphores: the consumer uses up the only post. -/
def strandedByPost : Semaphore.State oneCell :=
  let producer : Semaphore.Action oneCell := .producer ⟨0, Nat.one_pos⟩
  let consumer : Semaphore.Action oneCell := .consumer ⟨0, Nat.one_pos⟩
  (Semaphore.system oneCell []).after
    (List.replicate 5 consumer ++ List.replicate 7 producer ++
      List.replicate 5 consumer ++ [producer]) rfl

/-- Without the condition both programs reach a stranded consumer. -/
theorem consumer_stranded :
    oneCell.NK = 0 ∧
      ((Mutex.system oneCell []).Reachable strandedByBroadcast ∧
        strandedByBroadcast.Stranded) ∧
      ((Semaphore.system oneCell []).Reachable strandedByPost ∧
        strandedByPost.Stranded) := by
  refine ⟨rfl, ⟨TransitionSystem.after_reachable _ _ _, ?_, ⟨0, by decide⟩, 0, rfl⟩,
    TransitionSystem.after_reachable _ _ _, ?_, rfl, ⟨0, by decide⟩, rfl⟩
  · decide
  · decide

end OsExercises.BoundedBuffer
