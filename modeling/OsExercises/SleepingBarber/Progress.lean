import OsExercises.SleepingBarber.WaitingRoom

/-! # Nobody is missed, and nobody waits for ever

A sleeping barber leaves no message behind and is woken up once. As long as a
client has shaves left, some process can take a step that is neither a busy wait
nor the beginning of a visit in vain. -/

namespace OsExercises.SleepingBarber

open OsExercises

variable {options : Options} {state : State options} {encounter : Encounter options}

/-- An iteration of `while (!shmAddr[0])` or of `while (!shaved)`. -/
def BusyWait (state : State options) : Action options → Prop
  | .barber =>
      state.barber.catchSIGUSR2 = none ∧ state.barber.main = .sleep ∧ state.awake = false
  | .client index =>
      (state.client index).catchSIGUSR1 = none ∧
        (state.client index).main = .waitShaved ∧ (state.client index).shaved = false
  | _ => False

/-- Whoever tries now finds the barber awake and no free seat. -/
def State.Full (state : State options) : Prop :=
  state.awake = true ∧ ¬ state.waiting < options.queueSize

/-- The client tries again and will find no free seat, as things stand. -/
def BeginsRetry (state : State options) : Action options → Prop
  | .client index =>
      (state.client index).main ∈ [ClientPc.loop, .lock] ∧ state.Full
  | _ => False

/-- The client holds the mutex, on its way to `No free seats`. -/
def State.Turned (state : State options) (index : Fin options.noOfClients) : Prop :=
  ((state.client index).main ∈ [ClientPc.testAwake, .testSeats] ∧ state.Full) ∨
    (state.client index).main = .noSeats

/-- A step of an attempt that ends with `No free seats`. -/
def Retry (state : State options) (action : Action options) : Prop :=
  BeginsRetry state action ∨ ∃ index, action = .client index ∧ state.Turned index

/-- A step that brings the shop on. -/
def Productive (state : State options) (action : Action options) : Prop :=
  (system options).Enabled state action ∧ ¬ BusyWait state action ∧ ¬ Retry state action

/-! ## Steps of a client -/

/-- A statement outside the busy wait and the attempts in vain is productive. -/
theorem productive_of_main {index : Fin options.noOfClients}
    (enabled : (system options).Enabled state (.client index))
    (waits : (state.client index).main ≠ .waitShaved)
    (retries : ¬ ((state.client index).main ∈ [ClientPc.loop, .lock] ∧ state.Full))
    (turned : ¬ state.Turned index) : Productive state (.client index) := by
  refine ⟨enabled, fun busy => waits busy.2.1, ?_⟩
  intro retried
  rcases retried with begins | ⟨other, same, vain⟩
  · exact retries begins
  · cases same
    exact turned vain

/-- A statement of the handler is productive. -/
theorem productive_of_handler {index : Fin options.noOfClients} {pc : InvitedPc}
    (enabled : (system options).Enabled state (.client index))
    (spins : (state.client index).main = .waitShaved)
    (handling : (state.client index).catchSIGUSR1 = some pc) :
    Productive state (.client index) := by
  refine ⟨enabled, ?_, ?_⟩
  · intro busy
    rcases busy with ⟨idle, _⟩
    simp [handling] at idle
  · intro retried
    rcases retried with ⟨begins, _⟩ | ⟨other, same, vain⟩
    · simp [spins] at begins
    · cases same
      simp [State.Turned, spins] at vain

theorem enabled_of_idle {index : Fin options.noOfClients}
    (idle : (state.client index).catchSIGUSR1 = none)
    (possible : (clientMain state index).isSome = true) :
    (system options).Enabled state (.client index) := by
  simpa [TransitionSystem.Enabled, system, clientStep, idle] using possible

theorem enabled_of_handling {index : Fin options.noOfClients} {pc : InvitedPc}
    (handling : (state.client index).catchSIGUSR1 = some pc)
    (possible : (catchSIGUSR1 state index pc).isSome = true) :
    (system options).Enabled state (.client index) := by
  simpa [TransitionSystem.Enabled, system, clientStep, handling] using possible

theorem State.waitSend_isSome {awaited : Token options} (posted : state.sendMsgSem ≠ []) :
    (state.waitSend awaited).isSome = true := by
  unfold State.waitSend
  cases units : state.sendMsgSem with
  | nil => exact absurd units posted
  | cons => rfl

/-- A client in the dialogue goes on when it is its turn. -/
theorem Refines.engaged_productive (refines : Refines state encounter)
    {index : Fin options.noOfClients} {turn : Nat}
    (role : encounter.role index = .engaged turn)
    (proceeds : turn % 2 = 1 ∨ state.sendMsgSem ≠ []) :
    ∃ action, Productive state action := by
  have known := refines.role index
  rw [role] at known
  by_cases spins : (state.client index).main = .waitShaved
  · cases handling : (state.client index).catchSIGUSR1 with
    | none =>
        have pending : (state.client index).pending = true := by
          by_contra quiet
          simp only [Client.role, spins, handling] at known
          cases shaved : (state.client index).shaved <;> simp_all
        refine ⟨.deliverSIGUSR1 index false, ?_, id, ?_⟩
        · simp [TransitionSystem.Enabled, system, deliverSIGUSR1, handling, pending, spins]
        · intro retried
          rcases retried with impossible | ⟨other, impossible, _⟩
          · exact impossible
          · cases impossible
    | some pc =>
        rcases Client.role_handling known handling with ⟨_, _, _, same⟩
        refine ⟨.client index, productive_of_handler
          (enabled_of_handling handling ?_) spins handling⟩
        cases pc with
        | postSeated | postLeaving | setShaved => rfl
        | waitDone =>
            cases same
            have posted := proceeds.resolve_left (by decide)
            simp [catchSIGUSR1, State.waitSend_isSome posted]
  · rcases Client.role_idle known spins with ⟨idle, _, _, same⟩
    refine ⟨.client index, productive_of_main (enabled_of_idle idle ?_) spins ?_ ?_⟩
    · cases pc : (state.client index).main with
      | waitAwake | waitDone =>
          rw [pc] at same
          cases same
          have posted := proceeds.resolve_left (by decide)
          simp [clientMain, pc, State.waitSend_isSome posted]
      | wakeUnlock | postSeated | postLeaving => simp [clientMain, pc]
      | _ => simp [pc, ClientPc.role] at same
    · intro retried
      rcases retried with ⟨begins, _⟩
      simp only [List.mem_cons, List.not_mem_nil, or_false] at begins
      rcases begins with pc | pc <;> simp [pc, ClientPc.role] at same
    · intro retried
      rcases retried with ⟨begins, _⟩ | pc
      · simp only [List.mem_cons, List.not_mem_nil, or_false] at begins
        rcases begins with pc | pc <;> simp [pc, ClientPc.role] at same
      · simp [pc, ClientPc.role] at same

/-- A client that holds the mutex goes on, unless it waits for the barber to
wake up. -/
theorem Refines.inside_enabled (refines : Refines state encounter)
    (guarded : Guarded state) {index : Fin options.noOfClients}
    (locked : (state.client index).main.locked = true)
    (notWaking : (state.client index).main ≠ .waitAwake) :
    (system options).Enabled state (.client index) := by
  have outside : (state.client index).main ≠ .waitShaved := by
    intro spins
    simp [spins, ClientPc.locked] at locked
  have idle := (Client.role_idle (refines.role index) outside).1
  refine enabled_of_idle idle ?_
  cases pc : (state.client index).main with
  | send =>
      have room := guarded.room index pc
      have hasRoom : options.hasRoom state.queue = true := by
        unfold Options.hasRoom
        cases options.program
        · rfl
        · simpa using room
      simp [clientMain, pc, hasRoom]
  | waitAwake => exact absurd pc notWaking
  | testAwake | testSeats | takeSeat | failUnlock | unlock | noSeats | wake | wakeUnlock =>
      simp [clientMain, pc]
  | _ => simp [pc, ClientPc.locked] at locked

/-- What is left to do for a client that holds the mutex. -/
theorem Refines.inside_proceeds (refines : Refines state encounter)
    (guarded : Guarded state) {index : Fin options.noOfClients}
    (locked : (state.client index).main.locked = true)
    (notWaking : (state.client index).main ≠ .waitAwake) :
    Productive state (.client index) ∨
      (state.Turned index ∧ (system options).Enabled state (.client index)) := by
  have enabled := refines.inside_enabled guarded locked notWaking
  by_cases turned : state.Turned index
  · exact .inr ⟨turned, enabled⟩
  · refine .inl (productive_of_main enabled ?_ ?_ turned)
    · intro spins
      simp [spins, ClientPc.locked] at locked
    · intro retried
      rcases retried with ⟨begins, _⟩
      simp only [List.mem_cons, List.not_mem_nil, or_false] at begins
      rcases begins with pc | pc <;> simp [pc, ClientPc.locked] at locked

/-! ## Steps of the barber -/

theorem productive_barber (enabled : (system options).Enabled state .barber)
    (working : state.barber.catchSIGUSR2 ≠ none ∨ state.barber.main ≠ .sleep ∨
      state.awake = true) : Productive state .barber := by
  refine ⟨enabled, ?_, ?_⟩
  · intro busy
    rcases busy with ⟨idle, asleep, flag⟩
    simp [idle, asleep, flag] at working
  · intro retried
    rcases retried with impossible | ⟨_, impossible, _⟩
    · exact impossible
    · cases impossible

theorem State.waitRec_isSome {awaited : Token options} (posted : state.recMsgSem ≠ []) :
    (state.waitRec awaited).isSome = true := by
  unfold State.waitRec
  cases units : state.recMsgSem with
  | nil => exact absurd units posted
  | cons => rfl

/-- While the barber waits in vain for its client, the client goes on. -/
theorem Refines.partner_productive (refines : Refines state encounter)
    (sound : encounter.Sound) {visit : Visit options} {turn : Nat}
    (duty : encounter.duty = .engaged visit turn) (odd : turn % 2 = 1)
    (empty : state.recMsgSem = []) : ∃ action, Productive state action := by
  rw [refines.recMsgSem] at empty
  cases sound.meeting with
  | apart idle => exact absurd duty (idle visit turn)
  | parting _ _ _ recOne => simp [empty] at recOne
  | together other known partner busy role _ _ _ _ dialogue =>
      obtain ⟨rfl, rfl⟩ := Duty.engaged.inj (busy.symm.trans duty)
      rw [empty] at dialogue
      refine refines.engaged_productive role ?_
      rw [refines.sendMsgSem]
      exact dialogue.callee_proceeds odd

theorem Refines.handler_productive (refines : Refines state encounter)
    (sound : encounter.Sound) {pc : WakePc} {visit : Visit options}
    (handling : state.barber.catchSIGUSR2 = some (pc, visit)) :
    ∃ action, Productive state action := by
  rcases Barber.duty_handling refines.duty handling with ⟨_, _, _, duty⟩
  by_cases enabled : (system options).Enabled state .barber
  · exact ⟨.barber, productive_barber enabled (.inl (by simp [handling]))⟩
  -- Only a wait for the client can be disabled.
  have blocked : pc.turn % 2 = 1 ∧ state.recMsgSem = [] := by
    by_contra other
    refine enabled ?_
    cases pc with
    | setAwake | postAwake | postDone =>
        simp [TransitionSystem.Enabled, system, barberStep, handling, catchSIGUSR2]
    | waitSeated | waitLeaving =>
        have posted : state.recMsgSem ≠ [] := by simpa [WakePc.turn] using other
        simp [TransitionSystem.Enabled, system, barberStep, handling, catchSIGUSR2,
          State.waitRec_isSome posted]
  exact refines.partner_productive sound duty blocked.1 blocked.2

/-- A barber that is up goes on, or its client does, or a client that holds the
mutex does. -/
theorem Refines.up_proceeds (refines : Refines state encounter) (guarded : Guarded state)
    (sound : encounter.Sound) (up : state.barber.main ≠ .sleep) :
    (∃ action, Productive state action) ∨
      ∃ index, state.Turned index ∧ (system options).Enabled state (.client index) := by
  rcases Barber.duty_idle refines.duty up with ⟨idle, _, _, duty⟩
  by_cases enabled : (system options).Enabled state .barber
  · exact .inl ⟨.barber, productive_barber enabled (.inr (.inl up))⟩
  have stuck : barberMain state = none := by
    simpa [TransitionSystem.Enabled, system, barberStep, idle] using enabled
  cases pc : state.barber.main with
  | sleep => exact absurd pc up
  | lock =>
      rw [pc] at duty
      have taken : state.mutex = 0 := by
        by_contra free
        simp [barberMain, pc, semWait, free] at stuck
      rcases guarded.mutex.held taken with ⟨process, inside⟩
      cases process with
      | barber => simp [State.insideMutex, pc, BarberPc.locked] at inside
      | client index =>
          have notWaking : (state.client index).main ≠ .waitAwake := by
            intro waking
            have role := (Client.role_idle (refines.role index) (by simp [waking])).2.2.2
            rw [waking] at role
            rcases sound.meeting.of_engaged role with ⟨turn, engaged, _⟩
            cases duty.symm.trans engaged
          rcases refines.inside_proceeds guarded inside notWaking with productive | turned
          · exact .inl ⟨_, productive⟩
          · exact .inr ⟨index, turned⟩
  | waitSeated visit | waitLeaving visit =>
      have empty : state.recMsgSem = [] := by
        by_contra posted
        rw [barberMain, pc] at stuck
        rw [Option.map_eq_none_iff, ← Option.not_isSome_iff_eq_none] at stuck
        exact stuck (State.waitRec_isSome posted)
      rw [pc] at duty
      exact .inl (refines.partner_productive sound duty (by decide) empty)
  | receive =>
      simp only [barberMain, pc] at stuck
      split at stuck <;> cases stuck
  | decrement | invite | unlock | postDone | setAsleep | unlockAsleep =>
      simp [barberMain, pc] at stuck

/-! ## A sleeping barber -/

/-- While the mutex is free, a barber that has gone to sleep only sleeps, and
nobody waits for it. -/
theorem Refines.sleeping (refines : Refines state encounter) (guarded : Guarded state)
    (sound : encounter.Sound) (free : state.mutex ≠ 0) (asleep : state.awake = false) :
    state.queue = [] ∧ state.barber.main = .sleep ∧
      state.barber.catchSIGUSR2 = none ∧ state.barber.pending = none ∧
      encounter.duty = .free := by
  refine ⟨guarded.emptyQueue (.inr asleep), refines.asleep_alone asleep ?_ ?_⟩
  · intro unlocking
    refine guarded.nobody_inside free .barber ?_
    simp [State.insideMutex, unlocking, BarberPc.locked]
  · intro visit engaged
    have waker := refines.waker sound engaged
    have outside := guarded.client_outside free visit.pid
    simp [waker, ClientPc.locked] at outside

/-- Nobody is queued or engaged while the barber is free and the queue empty. -/
theorem Encounter.Sound.free_or_served (sound : encounter.Sound)
    (duty : encounter.duty = .free) (queue : encounter.queue = [])
    (index : Fin options.noOfClients) :
    encounter.role index = .free ∨ encounter.role index = .served := by
  cases role : encounter.role index with
  | free => exact .inl rfl
  | served => exact .inr rfl
  | queued =>
      have member := (sound.lined.queued index).mp role
      simp [Encounter.line, duty, queue, Duty.inHand] at member
  | engaged turn =>
      rcases sound.meeting.of_engaged role with ⟨_, engaged, _⟩
      cases duty.symm.trans engaged

/-- A client with shaves left goes on while the barber sleeps and the mutex is
free: it tries again, and will find the barber asleep, or it finishes a visit. -/
theorem Refines.asleep_productive (refines : Refines state encounter)
    (guarded : Guarded state) (sound : encounter.Sound) (free : state.mutex ≠ 0)
    (asleep : state.awake = false) {index : Fin options.noOfClients}
    (more : 0 < (state.client index).noOfShaves) :
    ∃ action, Productive state action := by
  rcases refines.sleeping guarded sound free asleep with ⟨empty, _, _, _, duty⟩
  rw [refines.queue] at empty
  have roles := sound.free_or_served duty empty index
  have outside := guarded.client_outside free index
  have sends := guarded.sends index
  have finished := guarded.finished index
  have notFull : ¬ state.Full := fun full => by simp [State.Full, asleep] at full
  by_cases spins : (state.client index).main = .waitShaved
  · cases handling : (state.client index).catchSIGUSR1 with
    | some pc =>
        rcases Client.role_handling (refines.role index) handling with ⟨_, _, _, role⟩
        refine ⟨.client index, productive_of_handler
          (enabled_of_handling handling ?_) spins handling⟩
        cases pc with
        | waitDone => simp [role, InvitedPc.role] at roles
        | postSeated | postLeaving | setShaved => rfl
    | none =>
        have shaved : (state.client index).shaved = true := by
          have known := refines.role index
          simp only [Client.role, spins, handling] at known
          by_contra unshaved
          rw [Bool.not_eq_true] at unshaved
          rcases roles with role | role <;> rw [role, unshaved] at known <;>
            cases pending : (state.client index).pending <;> simp [pending] at known
        refine ⟨.client index, enabled_of_idle handling (by simp [clientMain, spins]), ?_, ?_⟩
        · intro busy
          rcases busy with ⟨_, _, unshaved⟩
          simp [shaved] at unshaved
        · intro retried
          rcases retried with ⟨_, full⟩ | ⟨other, same, vain⟩
          · exact notFull full
          · cases same
            simp [State.Turned, spins] at vain
  · rcases Client.role_idle (refines.role index) spins with ⟨idle, _, _, role⟩
    refine ⟨.client index, productive_of_main (enabled_of_idle idle ?_) spins
      (fun begins => notFull begins.2) ?_⟩
    · cases pc : (state.client index).main with
      | loop | countShave | clearShaved | countVisit => simp [clientMain, pc]
      | lock => simp [clientMain, pc, semWait, free]
      | waitDone | postSeated | postLeaving => simp [pc, ClientPc.role, role] at roles
      | waitShaved => exact absurd pc spins
      | failed => simp [pc, ClientPc.failing] at sends
      | finished => exact absurd (finished pc) (by omega)
      | _ => simp [pc, ClientPc.locked] at outside
    · intro retried
      rcases retried with ⟨_, full⟩ | pc
      · exact notFull full
      · simp [pc, ClientPc.locked] at outside

/-- Some process goes on, or a client that holds the mutex gives up its attempt. -/
theorem Refines.proceeds (refines : Refines state encounter) (guarded : Guarded state)
    (sound : encounter.Sound) {index : Fin options.noOfClients}
    (more : 0 < (state.client index).noOfShaves) :
    (∃ action, Productive state action) ∨
      ∃ index, state.Turned index ∧ (system options).Enabled state (.client index) := by
  by_cases up : state.barber.main = .sleep
  · cases handling : state.barber.catchSIGUSR2 with
    | some handler => exact .inl (refines.handler_productive sound handling)
    | none =>
        cases pending : state.barber.pending with
        | some visit =>
            refine .inl ⟨.deliverSIGUSR2 false, ?_, id, ?_⟩
            · simp [TransitionSystem.Enabled, system, deliverSIGUSR2, handling, pending]
            · intro retried
              rcases retried with impossible | ⟨_, impossible, _⟩
              · exact impossible
              · cases impossible
        | none =>
            by_cases awake : state.awake = true
            · refine .inl ⟨.barber, productive_barber ?_ (.inr (.inr awake))⟩
              simp [TransitionSystem.Enabled, system, barberStep, handling, barberMain, up]
            · have asleep : state.awake = false := by simpa using awake
              by_cases free : state.mutex = 0
              · rcases guarded.mutex.held free with ⟨process, inside⟩
                cases process with
                | barber => simp [State.insideMutex, up, BarberPc.locked] at inside
                | client other =>
                    have duty : encounter.duty = .free := by
                      have known := refines.duty
                      simpa [Barber.duty, up, handling, pending, eq_comm] using known
                    have notWaking : (state.client other).main ≠ .waitAwake := by
                      intro waking
                      have role := (Client.role_idle (refines.role other)
                        (by simp [waking])).2.2.2
                      rw [waking] at role
                      rcases sound.meeting.of_engaged role with ⟨turn, engaged, _⟩
                      cases duty.symm.trans engaged
                    rcases refines.inside_proceeds guarded inside notWaking with
                      productive | turned
                    · exact .inl ⟨_, productive⟩
                    · exact .inr ⟨other, turned⟩
              · exact .inl (refines.asleep_productive guarded sound free asleep more)
  · exact refines.up_proceeds guarded sound up

/-- While the mutex is free and the flag says that the barber sleeps, the queue
is empty and the barber is in its busy wait; it is woken up at most once while it
sleeps. As long as a client has shaves left, a step is enabled that is neither an
iteration of a busy wait nor the beginning of another attempt that ends with `No
free seats`; and unless a client is in the middle of such an attempt, one that
belongs to no such attempt at all. -/
theorem no_missed_customer_no_deadlock
    (reachable : (system options).ReachableUnder SendsSucceed state) :
    (state.mutex ≠ 0 → state.awake = false →
      state.queue = [] ∧ state.barber.main = .sleep ∧
        state.barber.catchSIGUSR2 = none ∧ state.barber.pending = none) ∧
    state.wakeUps ≤ 1 ∧
    ((∃ index, 0 < (state.client index).noOfShaves) →
      (∃ action, (system options).Enabled state action ∧ ¬ BusyWait state action ∧
        ¬ BeginsRetry state action) ∧
      ((∀ index, ¬ state.Turned index) → ∃ action,
        (system options).Enabled state action ∧ ¬ BusyWait state action ∧
          ¬ Retry state action)) := by
  rcases encountered reachable with ⟨encounter, _, sound, refines, guarded⟩
  refine ⟨?_, guarded.wakeUps, ?_⟩
  · intro free asleep
    rcases refines.sleeping guarded sound free asleep with ⟨empty, sleeps, idle, quiet, _⟩
    exact ⟨empty, sleeps, idle, quiet⟩
  · intro unfinished
    rcases unfinished with ⟨index, more⟩
    rcases refines.proceeds guarded sound more with
      ⟨action, enabled, notBusy, notRetry⟩ | ⟨other, turned, enabled⟩
    · exact ⟨⟨action, enabled, notBusy, fun begins => notRetry (.inl begins)⟩,
        fun _ => ⟨action, enabled, notBusy, notRetry⟩⟩
    · refine ⟨⟨.client other, enabled, ?_, ?_⟩, fun nobody => absurd turned (nobody other)⟩
      · intro busy
        rcases busy with ⟨_, spins, _⟩
        simp [State.Turned, spins] at turned
      · intro retried
        rcases retried with ⟨begins, _⟩
        simp only [List.mem_cons, List.not_mem_nil, or_false] at begins
        rcases begins with pc | pc <;> simp [State.Turned, pc] at turned

/-- The barber has gone to sleep before the client came. -/
def asleep : State (oneClient .zad1) :=
  (system (oneClient .zad1)).after (List.replicate 4 .barber) rfl

theorem no_missed_customer_no_deadlock_asleep :
    (asleep.mutex = 1 ∧ asleep.awake = false ∧
      0 < (asleep.client ⟨0, by decide⟩).noOfShaves) ∧
    (asleep.mutex ≠ 0 → asleep.awake = false →
      asleep.queue = [] ∧ asleep.barber.main = .sleep ∧
        asleep.barber.catchSIGUSR2 = none ∧ asleep.barber.pending = none) ∧
    asleep.wakeUps ≤ 1 ∧
    ((∃ index, 0 < (asleep.client index).noOfShaves) →
      (∃ action, (system (oneClient .zad1)).Enabled asleep action ∧
        ¬ BusyWait asleep action ∧ ¬ BeginsRetry asleep action) ∧
      ((∀ index, ¬ asleep.Turned index) → ∃ action,
        (system (oneClient .zad1)).Enabled asleep action ∧ ¬ BusyWait asleep action ∧
          ¬ Retry asleep action)) :=
  ⟨⟨rfl, rfl, by decide⟩,
    no_missed_customer_no_deadlock (TransitionSystem.after_reachableUnder _ _ _ (by decide))⟩

/-- One client that comes to a shop without seats. -/
def noSeats : Options where
  program := .zad1
  noOfClients := 1
  noOfShaves _ := 1
  queueSize := 0

/-- The client holds the mutex before the barber ever went to sleep. -/
def turnedAway : State noSeats :=
  (system noSeats).after (List.replicate 2 (.client ⟨0, Nat.zero_lt_one⟩)) rfl

/-- The barber waits for the mutex, and all that can happen is that the client is
sent away. -/
theorem turnedAway_only_retries :
    (system noSeats).ReachableUnder SendsSucceed turnedAway ∧
      (∃ index, 0 < (turnedAway.client index).noOfShaves) ∧
      ∀ action, (system noSeats).Enabled turnedAway action →
        ¬ BusyWait turnedAway action → Retry turnedAway action := by
  refine ⟨TransitionSystem.after_reachableUnder _ _ _ (by decide),
    ⟨⟨0, by decide⟩, by decide⟩, ?_⟩
  intro action enabled _
  have only (index : Fin noSeats.noOfClients) : index = ⟨0, Nat.zero_lt_one⟩ :=
    Subsingleton.elim (α := Fin 1) _ _
  cases action with
  | client index =>
      rw [only index]
      exact .inr ⟨_, rfl, .inl ⟨by decide, rfl, by decide⟩⟩
  | barber => exact absurd enabled (by decide)
  | deliverSIGUSR2 interrupts => cases interrupts <;> exact absurd enabled (by decide)
  | deliverSIGUSR1 index interrupts =>
      rw [only index] at enabled
      cases interrupts <;> exact absurd enabled (by decide)
  | failSend index =>
      rw [only index] at enabled
      exact absurd enabled (by decide)

end OsExercises.SleepingBarber
