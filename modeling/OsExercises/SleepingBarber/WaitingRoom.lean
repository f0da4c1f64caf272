import OsExercises.SleepingBarber.Guard

/-! # The waiting room

The counter in shared memory and the queue are changed by different statements
of different processes, but whoever finds the mutex free finds them equal. -/

namespace OsExercises.SleepingBarber

open OsExercises

variable {options : Options} {state : State options} {encounter : Encounter options}

/-- Not invited yet, and waiting for its `shaved` flag. -/
def Client.AwaitsInvitation (client : Client) : Prop :=
  client.main = .waitShaved ∧ client.catchSIGUSR1 = none ∧ client.pending = false ∧
    client.shaved = false

/-- Nobody is inside while the mutex is free. -/
theorem Guarded.nobody_inside (guarded : Guarded state) (free : state.mutex ≠ 0)
    (process : Process options) : ¬ state.insideMutex process := by
  have binary := guarded.mutex.binary
  exact guarded.mutex.nobody (by omega) process

theorem Guarded.client_outside (guarded : Guarded state) (free : state.mutex ≠ 0)
    (index : Fin options.noOfClients) : (state.client index).main.locked = false := by
  by_contra inside
  exact guarded.nobody_inside free (.client index)
    (State.insideMutex_client (by simpa using inside))

theorem Guarded.not_ahead (guarded : Guarded state) (free : state.mutex ≠ 0)
    (process : Process options) : ¬ state.ahead process := by
  intro ahead
  refine guarded.nobody_inside free process ?_
  cases process with
  | barber =>
      rcases ahead with ⟨visit, pc⟩
      simp [State.insideMutex, pc, BarberPc.locked]
  | client index =>
      have sending : (state.client index).main = .send := ahead
      simp [State.insideMutex, sending, ClientPc.locked]

/-- The senders in the queue are different clients that are queued. -/
theorem Refines.queue_line (refines : Refines state encounter) (sound : encounter.Sound) :
    (state.queue.map Visit.pid).Nodup ∧
      ∀ visit ∈ state.queue, encounter.role visit.pid = .queued := by
  have suffix : encounter.queue <:+ encounter.line := List.suffix_append _ _
  rw [refines.queue]
  constructor
  · exact sound.lined.distinct.sublist (suffix.sublist.map Visit.pid)
  · intro visit queued
    exact sound.lined.queued_of_mem (suffix.subset queued)

/-- While the mutex is free, the counter is the length of the queue and within
the queue size, and the queue holds messages of different clients that wait to
be invited. No message is ever sent to a full queue. -/
theorem waiting_room
    (reachable : (system options).ReachableUnder SendsSucceed state) :
    (state.mutex ≠ 0 →
      state.waiting = state.queue.length ∧
      0 ≤ state.waiting ∧ state.waiting ≤ options.queueSize ∧
      (state.queue.map Visit.pid).Nodup ∧
      ∀ visit ∈ state.queue, (state.client visit.pid).AwaitsInvitation) ∧
    (∀ index, (state.client index).main = .send →
      state.queue.length < options.queueSize ∧
        options.hasRoom state.queue = true ∧
        (system options).Enabled state (.client index)) := by
  rcases encountered reachable with ⟨encounter, _, sound, refines, guarded⟩
  rcases refines.queue_line sound with ⟨distinct, queued⟩
  constructor
  · intro free
    have counted := guarded.counted (guarded.not_ahead free)
    have fits := guarded.fits
    refine ⟨counted, by omega, by omega, distinct, fun visit inQueue => ?_⟩
    exact Client.waiting_of_queued (queued visit inQueue ▸ refines.role visit.pid)
      (guarded.client_outside free visit.pid)
  · intro index sending
    have room := guarded.room index sending
    have hasRoom : options.hasRoom state.queue = true := by
      unfold Options.hasRoom
      cases options.program
      · rfl
      · simpa using room
    refine ⟨room, hasRoom, ?_⟩
    have idle := (Client.role_idle (refines.role index) (by simp [sending])).1
    simp [TransitionSystem.Enabled, system, clientStep, idle, clientMain, sending, hasRoom]

/-- The client of the POSIX program has joined the queue and freed the mutex. -/
def queued : State (oneClient .zad2) :=
  (system (oneClient .zad2)).after
    (List.replicate 7 (.client ⟨0, by decide⟩)) rfl

theorem waiting_room_queued :
    (queued.mutex = 1 ∧ queued.queue.length = 1) ∧
    (queued.mutex ≠ 0 →
      queued.waiting = queued.queue.length ∧
      0 ≤ queued.waiting ∧ queued.waiting ≤ (oneClient .zad2).queueSize ∧
      (queued.queue.map Visit.pid).Nodup ∧
      ∀ visit ∈ queued.queue, (queued.client visit.pid).AwaitsInvitation) ∧
    (∀ index, (queued.client index).main = .send →
      queued.queue.length < (oneClient .zad2).queueSize ∧
        (oneClient .zad2).hasRoom queued.queue = true ∧
        (system (oneClient .zad2)).Enabled queued (.client index)) :=
  ⟨⟨rfl, rfl⟩, waiting_room (TransitionSystem.after_reachableUnder _ _ _ (by decide))⟩

end OsExercises.SleepingBarber
