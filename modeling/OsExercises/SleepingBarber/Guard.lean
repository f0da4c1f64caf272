import OsExercises.SleepingBarber.Refinement

/-! # What the mutex protects

The flag, the counter and the queue are read and written between the locking of
the mutex and its release, so that what a process has found stays true until it
acts on it. -/

namespace OsExercises.SleepingBarber

open OsExercises

variable {options : Options} {state following : State options}
variable {encounter : Encounter options}

/-! ## Steps of one client -/

/-- What holds of the client that moves, and held of the others, holds of all. -/
theorem State.forall_client {index : Fin options.noOfClients} {client : Client}
    (clients : following.client = Function.update state.client index client)
    (holds : Fin options.noOfClients → Client → Prop) (self : holds index client)
    (others : ∀ other, other ≠ index → holds other (state.client other)) :
    ∀ other, holds other (following.client other) := by
  intro other
  rw [clients]
  by_cases same : other = index
  · rw [same, Function.update_self]
    exact self
  · rw [Function.update_of_ne same]
    exact others other same

theorem Guarded.mutex_client_moved (guarded : Guarded state)
    {index : Fin options.noOfClients} {client : Client}
    (clients : following.client = Function.update state.client index client)
    (main : following.barber.main = state.barber.main)
    (moved : SemaphoreMove state.mutex following.mutex
      ((state.client index).main.locked = true) (client.main.locked = true)) :
    Excludes following.mutex following.insideMutex := by
  refine guarded.mutex.move (.client index) ?_ ?_
  · intro process different
    cases process with
    | barber => simp only [State.insideMutex, main]
    | client other =>
        have apart : other ≠ index := fun same => different (congrArg Process.client same)
        simp only [State.insideMutex, clients, Function.update_of_ne apart]
  · simpa only [State.insideMutex, clients, Function.update_self] using moved

theorem State.insideMutex_client {index : Fin options.noOfClients}
    (locked : (state.client index).main.locked = true) :
    state.insideMutex (.client index) :=
  locked

/-- The mutex is held by one client at most. -/
theorem Guarded.others_outside (guarded : Guarded state) {index : Fin options.noOfClients}
    (locked : (state.client index).main.locked = true) (other : Fin options.noOfClients)
    (different : other ≠ index) : (state.client other).main.locked = false := by
  by_contra inside
  have same := guarded.mutex.unique (.client other) (.client index)
    (State.insideMutex_client (by simpa using inside)) (State.insideMutex_client locked)
  exact different (Process.client.inj same)

/-! ## Steps that keep the counter and the queue -/

/-- What the guards ask of a client that moves. Most statements ask nothing. -/
structure ClientGuarded (state : State options) (client : Client) : Prop where
  attempting : client.main.attempting = true → 0 < client.noOfShaves := by
    simp [ClientPc.attempting]
  sends : client.main.failing = false := by rfl
  finished : client.main = .finished → client.noOfShaves = 0 := by simp
  foundAwake : client.main.foundAwake = true → state.awake = true := by
    simp [ClientPc.foundAwake]
  foundAsleep : client.main = .wake → state.awake = false := by simp
  seat : client.main = .takeSeat → state.waiting < options.queueSize := by simp
  notSend : client.main ≠ .send := by simp

/-- A client moves, and is about to send neither before nor after. -/
theorem Guarded.client_moved (guarded : Guarded state) {index : Fin options.noOfClients}
    (client : Client)
    (clients : following.client = Function.update state.client index client)
    (moved : SemaphoreMove state.mutex following.mutex
      ((state.client index).main.locked = true) (client.main.locked = true))
    (allowed : ClientGuarded state client) (notSending : (state.client index).main ≠ .send)
    (main : following.barber.main = state.barber.main)
    (awake : following.awake = state.awake) (waiting : following.waiting = state.waiting)
    (queue : following.queue = state.queue)
    (wakeUps : following.wakeUps ≤ 1)
    (noWakeUp : following.awake = false → following.barber.catchSIGUSR2 = none →
      following.barber.pending = none → following.wakeUps = 0) :
    Guarded following := by
  have sameAhead : ∀ process, following.ahead process ↔ state.ahead process := by
    intro process
    cases process with
    | barber => simp only [State.ahead, main]
    | client other =>
        by_cases same : other = index
        · subst same
          simp [State.ahead, clients, notSending, allowed.notSend]
        · simp only [State.ahead, clients, Function.update_of_ne same]
  exact
    { mutex := guarded.mutex_client_moved clients main moved
      attempting := State.forall_client clients
        (fun _ client => client.main.attempting = true → 0 < client.noOfShaves)
        allowed.attempting fun other _ => guarded.attempting other
      sends := State.forall_client clients (fun _ client => client.main.failing = false)
        allowed.sends fun other _ => guarded.sends other
      finished := State.forall_client clients
        (fun _ client => client.main = .finished → client.noOfShaves = 0)
        allowed.finished fun other _ => guarded.finished other
      foundAwake := by
        rw [awake]
        exact State.forall_client clients
          (fun _ client => client.main.foundAwake = true → state.awake = true)
          allowed.foundAwake fun other _ => guarded.foundAwake other
      foundAsleep := by
        rw [awake]
        exact State.forall_client clients
          (fun _ client => client.main = .wake → state.awake = false)
          allowed.foundAsleep fun other _ => guarded.foundAsleep other
      emptyQueue := by
        rw [main, awake, queue]
        exact guarded.emptyQueue
      counted := by
        intro nobody
        rw [waiting, queue]
        exact guarded.counted fun process now => nobody process ((sameAhead process).mpr now)
      countedAhead := by
        intro process now
        rw [waiting, queue]
        exact guarded.countedAhead process ((sameAhead process).mp now)
      seat := by
        rw [waiting]
        exact State.forall_client clients
          (fun _ client => client.main = .takeSeat → state.waiting < options.queueSize)
          allowed.seat fun other _ => guarded.seat other
      room := by
        intro other inside
        rw [queue]
        have before : state.ahead (.client other) := (sameAhead (.client other)).mp inside
        exact guarded.room other before
      fits := by
        rw [queue]
        exact guarded.fits
      wakeUps := wakeUps
      noWakeUp := noWakeUp }

/-- The barber moves, and has no visit to count down before or after. -/
theorem Guarded.barber_moved (guarded : Guarded state)
    (mains : ∀ index, (following.client index).main = (state.client index).main)
    (shaves : ∀ index, (following.client index).noOfShaves = (state.client index).noOfShaves)
    (moved : SemaphoreMove state.mutex following.mutex
      (state.barber.main.locked = true) (following.barber.main.locked = true))
    (sameAhead : ∀ visit,
      following.barber.main = .decrement visit ↔ state.barber.main = .decrement visit)
    (foundAwake : ∀ index, (state.client index).main.foundAwake = true →
      following.awake = true)
    (foundAsleep : ∀ index, (state.client index).main = .wake → following.awake = false)
    (emptyQueue : following.barber.main = .setAsleep ∨ following.awake = false →
      state.queue = [])
    (waiting : following.waiting = state.waiting) (queue : following.queue = state.queue)
    (wakeUps : following.wakeUps ≤ 1)
    (noWakeUp : following.awake = false → following.barber.catchSIGUSR2 = none →
      following.barber.pending = none → following.wakeUps = 0) :
    Guarded following := by
  have sameAhead : ∀ process, following.ahead process ↔ state.ahead process := by
    intro process
    cases process with
    | barber => simp only [State.ahead, sameAhead]
    | client other => simp only [State.ahead, mains]
  refine ⟨?_, ?_, ?_, ?_, ?_, ?_, ?_, ?_, ?_, ?_, ?_, ?_, wakeUps, noWakeUp⟩
  · refine guarded.mutex.move .barber ?_ moved
    intro process different
    cases process with
    | barber => exact absurd rfl different
    | client other => simp only [State.insideMutex, mains]
  · intro index inside
    rw [mains] at inside
    rw [shaves]
    exact guarded.attempting index inside
  · intro index
    rw [mains, guarded.sends]
  · intro index inside
    rw [mains] at inside
    rw [shaves]
    exact guarded.finished index inside
  · intro index inside
    rw [mains] at inside
    exact foundAwake index inside
  · intro index inside
    rw [mains] at inside
    exact foundAsleep index inside
  · rw [queue]
    exact emptyQueue
  · intro nobody
    rw [waiting, queue]
    exact guarded.counted fun process now => nobody process ((sameAhead process).mpr now)
  · intro process now
    rw [waiting, queue]
    exact guarded.countedAhead process ((sameAhead process).mp now)
  · intro index inside
    rw [mains] at inside
    rw [waiting]
    exact guarded.seat index inside
  · intro index inside
    rw [mains] at inside
    rw [queue]
    exact guarded.room index inside
  · rw [queue]
    exact guarded.fits

/-! ## The barber -/

theorem ClientPc.locked_of_foundAwake {pc : ClientPc} (found : pc.foundAwake = true) :
    pc.locked = true := by
  revert found
  cases pc <;> simp [ClientPc.foundAwake, ClientPc.locked]

/-- A step of `main` that changes neither the flag, the counter nor the queue. -/
theorem Guarded.main_moved (guarded : Guarded state) (pc : BarberPc options)
    (main : following.barber.main = pc)
    (mains : ∀ index, (following.client index).main = (state.client index).main)
    (shaves : ∀ index, (following.client index).noOfShaves = (state.client index).noOfShaves)
    (moved : SemaphoreMove state.mutex following.mutex
      (state.barber.main.locked = true) (pc.locked = true))
    (notBefore : ∀ visit, state.barber.main ≠ .decrement visit)
    (notAfter : ∀ visit, pc ≠ .decrement visit)
    (emptyQueue : pc = .setAsleep → state.queue = [])
    (handler : following.barber.catchSIGUSR2 = state.barber.catchSIGUSR2)
    (pending : following.barber.pending = state.barber.pending)
    (awake : following.awake = state.awake) (waiting : following.waiting = state.waiting)
    (queue : following.queue = state.queue) (wakeUps : following.wakeUps = state.wakeUps) :
    Guarded following := by
  refine guarded.barber_moved mains shaves (main ▸ moved) ?_ ?_ ?_ ?_ waiting queue ?_ ?_
  · intro visit
    simp [main, notBefore visit, notAfter visit]
  · rw [awake]
    exact guarded.foundAwake
  · rw [awake]
    exact guarded.foundAsleep
  · rw [main, awake]
    intro sleeping
    rcases sleeping with sleepy | asleep
    · exact emptyQueue sleepy
    · exact guarded.emptyQueue (.inr asleep)
  · rw [wakeUps]
    exact guarded.wakeUps
  · rw [awake, handler, pending, wakeUps]
    exact guarded.noWakeUp

/-- Nobody else is ahead of the queue while the barber holds the mutex. -/
theorem Guarded.client_not_ahead (guarded : Guarded state)
    (locked : state.barber.main.locked = true) (index : Fin options.noOfClients) :
    ¬ state.ahead (.client index) := by
  intro sending
  have unlocked := guarded.client_unlocked locked index
  have atSend : (state.client index).main = .send := sending
  simp [atSend, ClientPc.locked] at unlocked

theorem Guarded.receive_visit (guarded : Guarded state) {visit : Visit options}
    {rest : List (Visit options)} (pc : state.barber.main = .receive)
    (queue : state.queue = visit :: rest) :
    Guarded ({ state with queue := rest }.moveBarber (.decrement visit)) := by
  have locked : state.barber.main.locked = true := by simp [pc, BarberPc.locked]
  have clients := guarded.client_not_ahead locked
  have unlocked := guarded.client_unlocked locked
  have awake : state.awake = true := by
    by_contra asleep
    have empty := guarded.emptyQueue (.inr (by simpa using asleep))
    simp [queue] at empty
  have counted : state.waiting = state.queue.length := by
    refine guarded.counted fun process now => ?_
    cases process with
    | barber => simp [State.ahead, pc] at now
    | client index => exact clients index now
  have fits := guarded.fits
  rw [queue, List.length_cons] at fits
  exact {
    mutex := by
      refine guarded.mutex.move .barber ?_ (.inl ⟨rfl, ?_⟩)
      · intro process different
        cases process with
        | barber => exact absurd rfl different
        | client index => exact Iff.rfl
      · simp [State.insideMutex, pc, BarberPc.locked]
    attempting := guarded.attempting
    sends := guarded.sends
    finished := guarded.finished
    foundAwake := guarded.foundAwake
    foundAsleep := guarded.foundAsleep
    emptyQueue := by simp [awake]
    counted := fun nobody => absurd ⟨visit, rfl⟩ (nobody .barber)
    countedAhead := fun process now => by
      rw [queue] at counted
      simpa using counted
    seat := guarded.seat
    room := fun index sending => absurd sending (clients index)
    fits := Nat.le_of_succ_le fits
    wakeUps := guarded.wakeUps
    noWakeUp := guarded.noWakeUp }

theorem Guarded.decrement_waiting (guarded : Guarded state) {visit : Visit options}
    (pc : state.barber.main = .decrement visit) :
    Guarded ({ state with waiting := state.waiting - 1 }.moveBarber (.invite visit)) := by
  have locked : state.barber.main.locked = true := by simp [pc, BarberPc.locked]
  have clients := guarded.client_not_ahead locked
  have unlocked := guarded.client_unlocked locked
  have counted := guarded.countedAhead .barber ⟨visit, pc⟩
  exact {
    mutex := by
      refine guarded.mutex.move .barber ?_ (.inl ⟨rfl, ?_⟩)
      · intro process different
        cases process with
        | barber => exact absurd rfl different
        | client index => exact Iff.rfl
      · simp [State.insideMutex, pc, BarberPc.locked]
    attempting := guarded.attempting
    sends := guarded.sends
    finished := guarded.finished
    foundAwake := guarded.foundAwake
    foundAsleep := guarded.foundAsleep
    emptyQueue := by
      intro sleeping
      rcases sleeping with sleepy | asleep
      · simp at sleepy
      · exact guarded.emptyQueue (.inr asleep)
    counted := fun _ => by
      simp only [State.moveBarber_waiting, State.moveBarber_queue, counted]
      omega
    countedAhead := fun process now => by
      cases process with
      | barber =>
          rcases now with ⟨other, impossible⟩
          cases impossible
      | client index => exact absurd now (clients index)
    seat := fun index seating => by
      have outside := unlocked index
      have atSeat : (state.client index).main = .takeSeat := seating
      simp [atSeat, ClientPc.locked] at outside
    room := guarded.room
    fits := guarded.fits
    wakeUps := guarded.wakeUps
    noWakeUp := guarded.noWakeUp }

theorem barberMain_guarded (guarded : Guarded state)
    (statement : barberMain state = some following) : Guarded following := by
  cases pc : state.barber.main with
  | lock =>
      simp only [barberMain, pc, Option.map_eq_some_iff, semWait_eq_some] at statement
      rcases statement with ⟨value, taken, rfl⟩
      exact guarded.main_moved .receive rfl (fun _ => rfl) (fun _ => rfl)
        (.inr (.inl ⟨taken, rfl⟩)) (by simp [pc]) (by simp) (by simp) rfl rfl rfl rfl rfl rfl
  | receive =>
      simp only [barberMain, pc] at statement
      split at statement
      · next empty =>
          cases statement
          exact guarded.main_moved .setAsleep rfl (fun _ => rfl) (fun _ => rfl)
            (.inl ⟨rfl, by simp [pc, BarberPc.locked]⟩) (by simp [pc]) (by simp)
            (fun _ => empty) rfl rfl rfl rfl rfl rfl
      · next visit rest queue =>
          cases statement
          exact guarded.receive_visit pc queue
  | decrement visit =>
      simp only [barberMain, pc, Option.some.injEq] at statement
      subst statement
      exact guarded.decrement_waiting pc
  | invite visit =>
      simp only [barberMain, pc, Option.some.injEq] at statement
      subst statement
      refine guarded.main_moved (.waitSeated visit) rfl ?_ ?_
        (.inl ⟨rfl, by simp [pc, BarberPc.locked]⟩) (by simp [pc]) (by simp) (by simp)
        rfl rfl rfl rfl rfl rfl
      all_goals
        intro index
        by_cases self : index = visit.pid
        · subst self
          simp [State.killSIGUSR1]
        · simp [State.killSIGUSR1, self]
  | waitSeated visit =>
      simp only [barberMain, pc, Option.map_eq_some_iff, State.waitRec_eq_some] at statement
      rcases statement with ⟨_, ⟨taken, rest, received, rfl⟩, rfl⟩
      exact guarded.main_moved (.unlock visit) rfl (fun _ => rfl) (fun _ => rfl)
        (.inl ⟨rfl, by simp [pc, BarberPc.locked]⟩) (by simp [pc]) (by simp) (by simp)
        rfl rfl rfl rfl rfl rfl
  | unlock visit =>
      simp only [barberMain, pc, Option.some.injEq] at statement
      subst statement
      exact guarded.main_moved (.postDone visit) rfl (fun _ => rfl) (fun _ => rfl)
        (.inr (.inr ⟨by simp [pc, BarberPc.locked], rfl, by simp [BarberPc.locked]⟩))
        (by simp [pc]) (by simp) (by simp) rfl rfl rfl rfl rfl rfl
  | postDone visit =>
      simp only [barberMain, pc, Option.some.injEq] at statement
      subst statement
      exact guarded.main_moved (.waitLeaving visit) rfl (fun _ => rfl) (fun _ => rfl)
        (.inl ⟨rfl, by simp [pc, BarberPc.locked]⟩) (by simp [pc]) (by simp) (by simp)
        rfl rfl rfl rfl rfl rfl
  | waitLeaving visit =>
      simp only [barberMain, pc, Option.map_eq_some_iff, State.waitRec_eq_some] at statement
      rcases statement with ⟨_, ⟨taken, rest, received, rfl⟩, rfl⟩
      exact guarded.main_moved .lock rfl (fun _ => rfl) (fun _ => rfl)
        (.inl ⟨rfl, by simp [pc, BarberPc.locked]⟩) (by simp [pc]) (by simp) (by simp)
        rfl rfl rfl rfl rfl rfl
  | setAsleep =>
      have unlocked := guarded.client_unlocked (by simp [pc, BarberPc.locked])
      simp only [barberMain, pc, Option.some.injEq] at statement
      subst statement
      refine guarded.barber_moved (fun _ => rfl) (fun _ => rfl)
        (.inl ⟨rfl, by simp [pc, BarberPc.locked]⟩) (by simp [pc]) ?_ (fun _ _ => rfl)
        (fun _ => guarded.emptyQueue (.inl pc)) rfl rfl (by simp) (fun _ _ _ => rfl)
      intro index found
      have outside := unlocked index
      rw [ClientPc.locked_of_foundAwake found] at outside
      cases outside
  | unlockAsleep =>
      simp only [barberMain, pc, Option.some.injEq] at statement
      subst statement
      exact guarded.main_moved .sleep rfl (fun _ => rfl) (fun _ => rfl)
        (.inr (.inr ⟨by simp [pc, BarberPc.locked], rfl, by simp [BarberPc.locked]⟩))
        (by simp [pc]) (by simp) (by simp) rfl rfl rfl rfl rfl rfl
  | sleep =>
      simp only [barberMain, pc, Option.some.injEq] at statement
      subst statement
      cases state.awake
      · exact guarded.main_moved .sleep rfl (fun _ => rfl) (fun _ => rfl)
          (.inl ⟨rfl, by simp [pc]⟩) (by simp [pc]) (by simp) (by simp)
          rfl rfl rfl rfl rfl rfl
      · exact guarded.main_moved .lock rfl (fun _ => rfl) (fun _ => rfl)
          (.inl ⟨rfl, by simp [pc, BarberPc.locked]⟩) (by simp [pc]) (by simp) (by simp)
          rfl rfl rfl rfl rfl rfl

/-- The handler runs while `main` sleeps, and only raises the flag. -/
theorem Guarded.handler_moved (guarded : Guarded state)
    (asleep : state.barber.main = .sleep) (main : following.barber.main = .sleep)
    (clients : following.client = state.client) (mutex : following.mutex = state.mutex)
    (awake : following.awake = state.awake ∨
      (following.awake = true ∧ ∀ index, (state.client index).main ≠ .wake))
    (waiting : following.waiting = state.waiting) (queue : following.queue = state.queue)
    (wakeUps : following.wakeUps = state.wakeUps)
    (busy : following.awake = false → following.barber.catchSIGUSR2 ≠ none) :
    Guarded following := by
  refine guarded.barber_moved (fun _ => by rw [clients]) (fun _ => by rw [clients])
    (.inl ⟨mutex, by simp [asleep, main]⟩) (by simp [asleep, main]) ?_ ?_ ?_ waiting queue
    ?_ ?_
  · intro index found
    rcases awake with same | ⟨raised, _⟩
    · rw [same]
      exact guarded.foundAwake index found
    · exact raised
  · intro index waking
    rcases awake with same | ⟨_, nobody⟩
    · rw [same]
      exact guarded.foundAsleep index waking
    · exact absurd waking (nobody index)
  · rw [main]
    intro sleeping
    rcases sleeping with sleepy | lowered
    · cases sleepy
    · rcases awake with same | ⟨raised, _⟩
      · exact guarded.emptyQueue (.inr (same ▸ lowered))
      · simp [raised] at lowered
  · rw [wakeUps]
    exact guarded.wakeUps
  · intro lowered idle
    exact absurd idle (busy lowered)

theorem catchSIGUSR2_guarded (refines : Refines state encounter) (guarded : Guarded state)
    (sound : encounter.Sound) {pc : WakePc} {visit : Visit options}
    (handling : state.barber.catchSIGUSR2 = some (pc, visit))
    (statement : catchSIGUSR2 state pc visit = some following) : Guarded following := by
  rcases Barber.duty_handling refines.duty handling with ⟨asleep, _, flag, _⟩
  have nobody : ∀ index, (state.client index).main ≠ .wake := by
    intro index waking
    rcases refines.asleep_of_wake guarded sound waking with ⟨_, _, idle, _⟩
    simp [handling] at idle
  cases pc with
  | setAwake =>
      simp only [catchSIGUSR2, Option.some.injEq] at statement
      subst statement
      exact guarded.handler_moved asleep asleep rfl rfl (.inr ⟨rfl, nobody⟩) rfl rfl rfl
        (by simp)
  | postAwake =>
      simp only [catchSIGUSR2, Option.some.injEq] at statement
      subst statement
      exact guarded.handler_moved asleep asleep rfl rfl (.inl rfl) rfl rfl rfl (by simp)
  | waitSeated =>
      simp only [catchSIGUSR2, Option.map_eq_some_iff, State.waitRec_eq_some] at statement
      rcases statement with ⟨_, ⟨taken, rest, received, rfl⟩, rfl⟩
      exact guarded.handler_moved asleep asleep rfl rfl (.inl rfl) rfl rfl rfl (by simp)
  | postDone =>
      simp only [catchSIGUSR2, Option.some.injEq] at statement
      subst statement
      exact guarded.handler_moved asleep asleep rfl rfl (.inl rfl) rfl rfl rfl (by simp)
  | waitLeaving =>
      simp only [catchSIGUSR2, Option.map_eq_some_iff, State.waitRec_eq_some] at statement
      rcases statement with ⟨_, ⟨taken, rest, received, rfl⟩, rfl⟩
      exact guarded.handler_moved asleep asleep rfl rfl (.inl rfl) rfl rfl rfl
        (by simp [flag.mpr])

/-! ## Clients -/

theorem Guarded.only_ahead (guarded : Guarded state) {index : Fin options.noOfClients}
    (locked : (state.client index).main.locked = true) {process : Process options}
    (ahead : state.ahead process) : process = .client index := by
  refine guarded.mutex.unique _ _ ?_ (State.insideMutex_client locked)
  cases process with
  | barber =>
      rcases ahead with ⟨visit, pc⟩
      simp [State.insideMutex, pc, BarberPc.locked]
  | client other =>
      have sending : (state.client other).main = .send := ahead
      simp [State.insideMutex, sending, ClientPc.locked]

/-- A client counts itself in. -/
theorem Guarded.take_seat (guarded : Guarded state) {index : Fin options.noOfClients}
    (pc : (state.client index).main = .takeSeat) :
    Guarded ({ state with waiting := state.waiting + 1 }.moveClient index .send) := by
  have locked : (state.client index).main.locked = true := by simp [pc, ClientPc.locked]
  have counted : state.waiting = state.queue.length := by
    refine guarded.counted fun process now => ?_
    cases guarded.only_ahead locked now
    have sending : (state.client index).main = .send := now
    simp [pc] at sending
  have seat := guarded.seat index pc
  have clients : ({ state with waiting := state.waiting + 1 }.moveClient index .send).client =
      Function.update state.client index { state.client index with main := .send } := rfl
  exact
    { mutex := by
        exact guarded.mutex_client_moved clients rfl
          (.inl ⟨rfl, by simp [pc, ClientPc.locked]⟩)
      attempting := State.forall_client clients
        (fun _ client => client.main.attempting = true → 0 < client.noOfShaves)
        (fun _ => guarded.attempting index (by simp [pc, ClientPc.attempting]))
        fun other _ => guarded.attempting other
      sends := State.forall_client clients (fun _ client => client.main.failing = false)
        rfl fun other _ => guarded.sends other
      finished := State.forall_client clients
        (fun _ client => client.main = .finished → client.noOfShaves = 0)
        (by simp) fun other _ => guarded.finished other
      foundAwake := State.forall_client clients
        (fun _ client => client.main.foundAwake = true → state.awake = true)
        (fun _ => guarded.foundAwake index (by simp [pc, ClientPc.foundAwake]))
        fun other _ => guarded.foundAwake other
      foundAsleep := State.forall_client clients
        (fun _ client => client.main = .wake → state.awake = false)
        (by simp) fun other _ => guarded.foundAsleep other
      emptyQueue := guarded.emptyQueue
      counted := by
        intro nobody
        refine absurd ?_ (nobody (.client index))
        simp [State.ahead, State.moveClient]
      countedAhead := by
        intro process _
        simp [State.moveClient, counted]
      seat := State.forall_client clients
        (fun _ client => client.main = .takeSeat → state.waiting + 1 < options.queueSize)
        (by simp) (by
          intro other different inside
          have outside := guarded.others_outside locked other different
          simp [inside, ClientPc.locked] at outside)
      room := by
        intro other _
        change (state.queue.length : Nat) < options.queueSize
        omega
      fits := guarded.fits
      wakeUps := guarded.wakeUps
      noWakeUp := guarded.noWakeUp }

/-- A client that has counted itself in joins the queue. -/
theorem Guarded.send_visit (guarded : Guarded state) {index : Fin options.noOfClients}
    (pc : (state.client index).main = .send) :
    Guarded ({ state with
      queue := state.queue ++ [state.visit index]
      log := state.log.admitVisit (state.visit index) }.moveClient index .unlock) := by
  have locked : (state.client index).main.locked = true := by simp [pc, ClientPc.locked]
  have counted := guarded.countedAhead (.client index) pc
  have awake := guarded.foundAwake index (by simp [pc, ClientPc.foundAwake])
  have room := guarded.room index pc
  have barberOut : state.barber.main ≠ .setAsleep := by
    intro sleepy
    have same := guarded.mutex.unique .barber (.client index)
      (by simp [State.insideMutex, sleepy, BarberPc.locked]) (State.insideMutex_client locked)
    cases same
  have clients : ({ state with
        queue := state.queue ++ [state.visit index]
        log := state.log.admitVisit (state.visit index) }.moveClient index .unlock).client =
      Function.update state.client index { state.client index with main := .unlock } := rfl
  exact
    { mutex := by
        exact guarded.mutex_client_moved clients rfl
          (.inl ⟨rfl, by simp [pc, ClientPc.locked]⟩)
      attempting := State.forall_client clients
        (fun _ client => client.main.attempting = true → 0 < client.noOfShaves)
        (by simp [ClientPc.attempting]) fun other _ => guarded.attempting other
      sends := State.forall_client clients (fun _ client => client.main.failing = false)
        rfl fun other _ => guarded.sends other
      finished := State.forall_client clients
        (fun _ client => client.main = .finished → client.noOfShaves = 0)
        (by simp) fun other _ => guarded.finished other
      foundAwake := fun _ _ => awake
      foundAsleep := State.forall_client clients
        (fun _ client => client.main = .wake → state.awake = false)
        (by simp) fun other _ => guarded.foundAsleep other
      emptyQueue := by
        intro sleeping
        rcases sleeping with sleepy | asleep
        · exact absurd sleepy barberOut
        · have before : state.awake = false := asleep
          simp [awake] at before
      counted := by
        intro _
        simp [State.moveClient, counted]
      countedAhead := by
        intro process ahead
        cases process with
        | barber =>
            have before : state.ahead .barber := ahead
            cases guarded.only_ahead locked before
        | client other =>
            by_cases self : other = index
            · subst self
              simp [State.ahead, State.moveClient] at ahead
            · have before : state.ahead (.client other) := by
                simpa [State.ahead, State.moveClient, self] using ahead
              exact absurd (Process.client.inj (guarded.only_ahead locked before)) self
      seat := State.forall_client clients
        (fun _ client => client.main = .takeSeat → state.waiting < options.queueSize)
        (by simp) fun other _ => guarded.seat other
      room := State.forall_client clients
        (fun _ client => client.main = .send →
          (state.queue ++ [state.visit index]).length < options.queueSize)
        (by simp) (by
          intro other different inside
          have outside := guarded.others_outside locked other different
          simp [inside, ClientPc.locked] at outside)
      fits := by
        simp only [State.moveClient, State.setClient_queue, List.length_append,
          List.length_singleton]
        omega
      wakeUps := guarded.wakeUps
      noWakeUp := guarded.noWakeUp }

/-- A statement of a client that touches neither the counter nor the queue. -/
theorem Guarded.client_main_moved (guarded : Guarded state)
    {index : Fin options.noOfClients} {pc : ClientPc}
    (clients : following.client =
      Function.update state.client index { state.client index with main := pc })
    (moved : SemaphoreMove state.mutex following.mutex
      ((state.client index).main.locked = true) (pc.locked = true))
    (allowed : ClientGuarded state { state.client index with main := pc })
    (notSending : (state.client index).main ≠ .send)
    (barber : following.barber = state.barber)
    (awake : following.awake = state.awake) (waiting : following.waiting = state.waiting)
    (queue : following.queue = state.queue) (wakeUps : following.wakeUps = state.wakeUps) :
    Guarded following := by
  refine guarded.client_moved _ clients moved allowed notSending (by rw [barber]) awake
    waiting queue ?_ ?_
  · rw [wakeUps]
    exact guarded.wakeUps
  · rw [awake, barber, wakeUps]
    exact guarded.noWakeUp

theorem clientMain_guarded {index : Fin options.noOfClients}
    (refines : Refines state encounter) (guarded : Guarded state)
    (sound : encounter.Sound)
    (statement : clientMain state index = some following) : Guarded following := by
  have attempting := guarded.attempting index
  cases pc : (state.client index).main with
  | loop =>
      simp only [clientMain, pc, Option.some.injEq] at statement
      subst statement
      by_cases more : 0 < (state.client index).noOfShaves
      · rw [if_pos more]
        exact guarded.client_main_moved rfl (.inl ⟨rfl, by simp [pc, ClientPc.locked]⟩)
          { attempting := fun _ => more } (by simp [pc]) rfl rfl rfl rfl rfl
      · rw [if_neg more]
        exact guarded.client_main_moved rfl (.inl ⟨rfl, by simp [pc, ClientPc.locked]⟩)
          { finished := fun _ => Nat.eq_zero_of_not_pos more } (by simp [pc]) rfl rfl rfl rfl rfl
  | lock =>
      simp only [clientMain, pc, Option.map_eq_some_iff, semWait_eq_some] at statement
      rcases statement with ⟨value, taken, rfl⟩
      exact guarded.client_main_moved rfl (.inr (.inl ⟨taken, rfl⟩))
        { attempting := fun _ => attempting (by simp [pc, ClientPc.attempting]) } (by simp [pc])
        rfl rfl rfl rfl rfl
  | testAwake =>
      have shaves := attempting (by simp [pc, ClientPc.attempting])
      simp only [clientMain, pc, Option.some.injEq] at statement
      subst statement
      cases flag : state.awake
      · exact guarded.client_main_moved rfl (.inl ⟨rfl, by simp [pc, ClientPc.locked]⟩)
          { attempting := fun _ => shaves, foundAsleep := fun _ => flag } (by simp [pc])
          rfl rfl rfl rfl rfl
      · exact guarded.client_main_moved rfl (.inl ⟨rfl, by simp [pc, ClientPc.locked]⟩)
          { attempting := fun _ => shaves, foundAwake := fun _ => flag } (by simp [pc])
          rfl rfl rfl rfl rfl
  | testSeats =>
      have shaves := attempting (by simp [pc, ClientPc.attempting])
      have flag := guarded.foundAwake index (by simp [pc, ClientPc.foundAwake])
      simp only [clientMain, pc, Option.some.injEq] at statement
      subst statement
      by_cases free : state.waiting < options.queueSize
      · rw [if_pos free]
        exact guarded.client_main_moved rfl (.inl ⟨rfl, by simp [pc, ClientPc.locked]⟩)
          { attempting := fun _ => shaves, foundAwake := fun _ => flag, seat := fun _ => free }
          (by simp [pc]) rfl rfl rfl rfl rfl
      · rw [if_neg free]
        exact guarded.client_main_moved rfl (.inl ⟨rfl, by simp [pc, ClientPc.locked]⟩)
          { attempting := fun _ => shaves, foundAwake := fun _ => flag } (by simp [pc])
          rfl rfl rfl rfl rfl
  | takeSeat =>
      simp only [clientMain, pc, Option.some.injEq] at statement
      subst statement
      exact guarded.take_seat pc
  | send =>
      simp only [clientMain, pc] at statement
      split at statement
      · cases statement
        exact guarded.send_visit pc
      · cases statement
  | finished => simp [clientMain, pc] at statement
  | failUnlock | failed =>
      have sends := guarded.sends index
      simp [pc, ClientPc.failing] at sends
  | unlock | noSeats | wakeUnlock =>
      simp only [clientMain, pc, Option.some.injEq] at statement
      subst statement
      exact guarded.client_main_moved rfl
        (.inr (.inr ⟨by simp [pc, ClientPc.locked], rfl, by simp [ClientPc.locked]⟩))
        {} (by simp [pc]) rfl rfl rfl rfl rfl
  | waitShaved =>
      simp only [clientMain, pc, Option.some.injEq] at statement
      subst statement
      cases (state.client index).shaved
      all_goals
        exact guarded.client_main_moved rfl (.inl ⟨rfl, by simp [pc, ClientPc.locked]⟩)
          {} (by simp [pc]) rfl rfl rfl rfl rfl
  | countShave | clearShaved | countVisit =>
      simp only [clientMain, pc, Option.some.injEq] at statement
      subst statement
      exact guarded.client_moved _ rfl (.inl ⟨rfl, by simp [pc, ClientPc.locked]⟩)
        {} (by simp [pc]) rfl rfl rfl rfl guarded.wakeUps guarded.noWakeUp
  | wake =>
      rcases refines.asleep_of_wake guarded sound pc with ⟨asleep, _, idle, pending, _⟩
      have first := guarded.noWakeUp asleep idle pending
      simp only [clientMain, pc, Option.some.injEq] at statement
      subst statement
      refine guarded.client_moved _ rfl (.inl ⟨rfl, by simp [pc, ClientPc.locked]⟩)
        {} (by simp [pc]) rfl rfl rfl rfl ?_ ?_
      · simp [State.moveClient, first]
      · simp [State.moveClient, pending]
  | waitAwake | waitDone =>
      simp only [clientMain, pc, Option.map_eq_some_iff, State.waitSend_eq_some] at statement
      rcases statement with ⟨_, ⟨taken, rest, received, rfl⟩, rfl⟩
      exact guarded.client_main_moved rfl (.inl ⟨rfl, by simp [pc, ClientPc.locked]⟩)
        {} (by simp [pc]) rfl rfl rfl rfl rfl
  | postSeated | postLeaving =>
      simp only [clientMain, pc, Option.some.injEq] at statement
      subst statement
      exact guarded.client_main_moved rfl (.inl ⟨rfl, by simp [pc, ClientPc.locked]⟩)
        {} (by simp [pc]) rfl rfl rfl rfl rfl

/-- Handlers of clients leave everything alone that the mutex protects. -/
theorem Guarded.client_handler_moved (guarded : Guarded state)
    {index : Fin options.noOfClients} (client : Client)
    (clients : following.client = Function.update state.client index client)
    (main : client.main = (state.client index).main)
    (spins : (state.client index).main = .waitShaved)
    (mutex : following.mutex = state.mutex)
    (barber : following.barber = state.barber)
    (awake : following.awake = state.awake) (waiting : following.waiting = state.waiting)
    (queue : following.queue = state.queue) (wakeUps : following.wakeUps = state.wakeUps) :
    Guarded following := by
  have allowed : ClientGuarded state client :=
    { attempting := by simp [main, spins, ClientPc.attempting]
      sends := by simp [main, spins, ClientPc.failing]
      finished := by simp [main, spins]
      foundAwake := by simp [main, spins, ClientPc.foundAwake]
      foundAsleep := by simp [main, spins]
      seat := by simp [main, spins]
      notSend := by simp [main, spins] }
  refine guarded.client_moved client clients (.inl ⟨mutex, by rw [main]⟩) allowed
    (by simp [spins]) (by rw [barber]) awake waiting queue ?_ ?_
  · rw [wakeUps]
    exact guarded.wakeUps
  · rw [awake, barber, wakeUps]
    exact guarded.noWakeUp

theorem catchSIGUSR1_guarded {index : Fin options.noOfClients} {pc : InvitedPc}
    (refines : Refines state encounter) (guarded : Guarded state)
    (handling : (state.client index).catchSIGUSR1 = some pc)
    (statement : catchSIGUSR1 state index pc = some following) : Guarded following := by
  rcases Client.role_handling (refines.role index) handling with ⟨spins, _⟩
  cases pc with
  | postSeated | postLeaving | setShaved =>
      simp only [catchSIGUSR1, Option.some.injEq] at statement
      subst statement
      exact guarded.client_handler_moved _ rfl rfl spins rfl rfl rfl rfl rfl rfl
  | waitDone =>
      simp only [catchSIGUSR1, Option.map_eq_some_iff, State.waitSend_eq_some] at statement
      rcases statement with ⟨_, ⟨taken, rest, received, rfl⟩, rfl⟩
      exact guarded.client_handler_moved _ rfl rfl spins rfl rfl rfl rfl rfl rfl

/-! ## Runs -/

theorem Guarded.step (guarded : Guarded state) (refines : Refines state encounter)
    (sound : encounter.Sound) (stepped : StepOf state following) : Guarded following := by
  cases stepped with
  | barberMain idle statement => exact barberMain_guarded guarded statement
  | barberHandler pc visit handling statement =>
      exact catchSIGUSR2_guarded refines guarded sound handling statement
  | deliverSIGUSR2 visit idle pending delivered =>
      have asleep := Barber.sleeps_of_signal refines.duty (.inr (by simp [pending]))
      subst delivered
      exact guarded.handler_moved asleep asleep rfl rfl (.inl rfl) rfl rfl rfl (by simp)
  | clientMain index idle statement =>
      exact clientMain_guarded refines guarded sound statement
  | clientHandler index pc handling statement =>
      exact catchSIGUSR1_guarded refines guarded handling statement
  | deliverSIGUSR1 index idle pending delivered =>
      have spins := Client.waits_of_signal (refines.role index) (.inr pending)
      subst delivered
      exact guarded.client_handler_moved _ rfl rfl spins rfl rfl rfl rfl rfl rfl

/-- Every run in which all sends succeed is a run of encounters. -/
theorem simulates_encounters (options : Options) :
    (system options).Simulates SendsSucceed (encounters options)
      (fun state encounter => Refines state encounter ∧ Guarded state) where
  initially := by
    refine ⟨⟨rfl, fun _ => rfl, fun _ => rfl, rfl, rfl, rfl, rfl⟩, ?_⟩
    exact {
      mutex := Excludes.of_nobody fun process inside => by
        cases process <;>
          simp [State.insideMutex, system, initial, BarberPc.locked, ClientPc.locked] at inside
      attempting := by simp [system, initial, ClientPc.attempting]
      sends := fun _ => rfl
      finished := by simp [system, initial]
      foundAwake := by simp [system, initial]
      foundAsleep := by simp [system, initial]
      emptyQueue := fun _ => rfl
      counted := fun _ => rfl
      countedAhead := fun process ahead => by
        cases process <;> simp [State.ahead, system, initial] at ahead
      seat := by simp [system, initial]
      room := by simp [system, initial]
      fits := Nat.zero_le _
      wakeUps := Nat.zero_le _
      noWakeUp := fun _ _ _ => rfl }
  answered := by
    intro current action following encounter _ reachable related permitted taken
    rcases related with ⟨refines, guarded⟩
    have sound := Encounter.sound reachable
    have stepped := refines.system_step permitted taken
    have nextGuarded := guarded.step refines sound stepped
    rcases refines.answers guarded sound stepped with
      still | ⟨answer, final, answered, nextRefines⟩
    · exact ⟨[], encounter, rfl, still, nextGuarded⟩
    · refine ⟨[answer], final, ?_, nextRefines, nextGuarded⟩
      simp [TransitionSystem.run, answered]

/-- A state of a run in which all sends succeed, with its encounter. -/
theorem encountered {state : State options}
    (reachable : (system options).ReachableUnder SendsSucceed state) :
    ∃ encounter, (encounters options).Reachable encounter ∧ encounter.Sound ∧
      Refines state encounter ∧ Guarded state := by
  rcases (simulates_encounters options).abstraction reachable with
    ⟨encounter, reached, refines, guarded⟩
  exact ⟨encounter, reached, Encounter.sound reached, refines, guarded⟩

end OsExercises.SleepingBarber
