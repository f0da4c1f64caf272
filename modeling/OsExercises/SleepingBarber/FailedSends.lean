import Mathlib.Data.Finset.Card
import Mathlib.Data.Fintype.Basic
import OsExercises.SleepingBarber.WaitingRoom

/-! # Sends that fail

A client counts itself in before it sends. When the send fails, it frees the mutex and
returns, but does not count itself out. Apart from the counter, the run goes on as if
the client had been turned away: the states of all runs are compared with states in
which it was. -/

namespace OsExercises.SleepingBarber

open OsExercises

variable {options : Options} {state following : State options}
variable {encounter : Encounter options}

/-! ## The state without the failures -/

/-- Where a client would be that had found no seat. -/
def ClientPc.excused : ClientPc → ClientPc
  | .failUnlock => .noSeats
  | .failed => .loop
  | pc => pc

def Client.excused (client : Client) : Client :=
  { client with main := client.main.excused }

namespace State

/-- The clients that were counted in and are not in the queue. -/
def failures (state : State options) : Nat :=
  (Finset.univ.filter fun index => (state.client index).main.failing = true).card

/-- The state in which they were not counted. -/
def excused (state : State options) : State options :=
  { state with
    waiting := state.waiting - state.failures
    client := fun index => (state.client index).excused }

end State

theorem ClientPc.excused_of_not_failing {pc : ClientPc} (sends : pc.failing = false) :
    pc.excused = pc := by
  cases pc <;> first | rfl | cases sends

theorem ClientPc.locked_excused (pc : ClientPc) : pc.excused.locked = pc.locked := by
  cases pc <;> rfl

theorem ClientPc.excused_eq_waitShaved {pc : ClientPc} (spins : pc.excused = .waitShaved) :
    pc = .waitShaved := by
  cases pc <;> first | rfl | cases spins

section Updates

variable {index : Fin options.noOfClients} {client : Client}

theorem State.failures_setClient (same : client.main.failing = (state.client index).main.failing) :
    (state.setClient index client).failures = state.failures := by
  unfold State.failures
  congr 1
  ext other
  by_cases here : other = index
  · subst here
    simp [same]
  · simp [here]

/-- A client fails: it is counted among the failures. -/
theorem State.failures_fail (failing : client.main.failing = true)
    (before : (state.client index).main.failing = false) :
    (state.setClient index client).failures = state.failures + 1 := by
  have more : (Finset.univ.filter fun other =>
      ((state.setClient index client).client other).main.failing = true) =
      insert index
        (Finset.univ.filter fun other => (state.client other).main.failing = true) := by
    ext other
    by_cases here : other = index
    · subst here
      simp [failing]
    · simp [here]
  rw [State.failures, more, Finset.card_insert_of_notMem (by simp [before])]
  rfl

theorem State.excused_setClient (same : client.main.failing = (state.client index).main.failing) :
    (state.setClient index client).excused = state.excused.setClient index client.excused := by
  have clients : (fun other => ((state.setClient index client).client other).excused) =
      Function.update state.excused.client index client.excused := by
    funext other
    by_cases here : other = index
    · subst here
      simp
    · simp [State.excused, here]
  simp only [State.excused, State.failures_setClient same] at clients ⊢
  simp only [State.setClient, State.mk.injEq, true_and, and_true]
  exact clients

theorem State.excused_moveClient {pc : ClientPc}
    (same : pc.failing = (state.client index).main.failing) :
    (state.moveClient index pc).excused = state.excused.moveClient index pc.excused :=
  State.excused_setClient same

theorem State.excused_visit (index : Fin options.noOfClients) :
    state.excused.visit index = state.visit index := rfl

end Updates

/-! ## Steps that do not know the difference -/

@[simp] theorem State.excused_barber : state.excused.barber = state.barber := rfl

@[simp] theorem State.excused_mutex : state.excused.mutex = state.mutex := rfl

@[simp] theorem State.excused_queue : state.excused.queue = state.queue := rfl

@[simp] theorem State.excused_awake : state.excused.awake = state.awake := rfl

theorem State.excused_client (index : Fin options.noOfClients) :
    state.excused.client index = (state.client index).excused := rfl

theorem State.excused_waitRec {awaited : Token options} :
    state.excused.waitRec awaited = (state.waitRec awaited).map State.excused := by
  unfold State.waitRec
  cases tokens : state.recMsgSem with
  | nil => simp [State.excused, tokens]
  | cons taken rest => simp [State.excused, tokens, State.failures]

theorem State.excused_waitSend {awaited : Token options} :
    state.excused.waitSend awaited = (state.waitSend awaited).map State.excused := by
  unfold State.waitSend
  cases tokens : state.sendMsgSem with
  | nil => simp [State.excused, tokens]
  | cons taken rest => simp [State.excused, tokens, State.failures]

theorem barberMain_excused :
    barberMain state.excused = (barberMain state).map State.excused := by
  cases pc : state.barber.main with
  | lock =>
      simp only [barberMain, pc, State.excused_barber, State.excused_mutex, Option.map_map]
      rfl
  | receive =>
      simp only [barberMain, pc, State.excused_barber, State.excused_queue]
      split <;> rfl
  | decrement visit =>
      have counted : state.excused.waiting - 1 = state.waiting - 1 - state.failures := by
        simp only [State.excused]
        omega
      simp only [barberMain, pc, State.excused_barber, counted, Option.map_some]
      rfl
  | invite visit =>
      have invited := @State.excused_setClient options state visit.pid
        { state.client visit.pid with pending := true } rfl
      simp only [barberMain, pc, State.excused_barber, Option.map_some]
      exact congrArg (fun state => some (State.moveBarber state (.waitSeated visit))) invited.symm
  | waitSeated visit | waitLeaving visit =>
      simp only [barberMain, pc, State.excused_barber, State.excused_waitRec, Option.map_map]
      rfl
  | unlock visit | postDone visit | setAsleep | unlockAsleep | sleep =>
      simp only [barberMain, pc, State.excused_barber, Option.map_some]
      rfl

theorem catchSIGUSR2_excused {pc : WakePc} {visit : Visit options} :
    catchSIGUSR2 state.excused pc visit = (catchSIGUSR2 state pc visit).map State.excused := by
  cases pc with
  | waitSeated | waitLeaving =>
      simp only [catchSIGUSR2, State.excused_waitRec, Option.map_map]
      rfl
  | setAwake | postAwake | postDone => rfl

section Clients

variable {index : Fin options.noOfClients}

theorem State.excused_moveSIGUSR1 {handler : Option InvitedPc} :
    (state.moveSIGUSR1 index handler).excused = state.excused.moveSIGUSR1 index handler :=
  State.excused_setClient rfl

theorem State.excused_sending (sends : (state.client index).main.failing = false) :
    state.excused.client index = state.client index := by
  simp only [State.excused_client, Client.excused, ClientPc.excused_of_not_failing sends]

theorem State.excused_moving {pc : ClientPc} (after : pc.failing = false)
    (before : (state.client index).main.failing = false) :
    (state.moveClient index pc).excused = state.excused.moveClient index pc := by
  rw [State.excused_moveClient (after.trans before.symm), ClientPc.excused_of_not_failing after]

theorem State.waitSend_client {awaited : Token options}
    (received : state.waitSend awaited = some following) : following.client = state.client := by
  rcases State.waitSend_eq_some.mp received with ⟨taken, rest, _, rfl⟩
  rfl

theorem catchSIGUSR1_excused {pc : InvitedPc}
    (taken : catchSIGUSR1 state index pc = some following) :
    catchSIGUSR1 state.excused index pc = some following.excused := by
  cases pc with
  | waitDone =>
      simp only [catchSIGUSR1, Option.map_eq_some_iff] at taken ⊢
      rcases taken with ⟨received, waited, rfl⟩
      refine ⟨received.excused, ?_, State.excused_moveSIGUSR1.symm⟩
      rw [State.excused_visit, State.excused_waitSend, waited]
      rfl
  | postSeated | postLeaving =>
      simp only [catchSIGUSR1, Option.some.injEq] at taken ⊢
      subst taken
      rw [State.excused_moveSIGUSR1]
      rfl
  | setShaved =>
      simp only [catchSIGUSR1, Option.some.injEq] at taken ⊢
      subst taken
      rw [State.excused_setClient]
      · rfl
      · rfl

/-- A client goes on in the same way, unless it looks for a seat. -/
theorem clientMain_excused (sends : (state.client index).main.failing = false)
    (elsewhere : (state.client index).main ≠ .testSeats)
    (taken : clientMain state index = some following) :
    clientMain state.excused index = some following.excused := by
  have same := State.excused_sending sends
  cases pc : (state.client index).main with
  | loop | waitShaved =>
      simp only [clientMain, same, pc, Option.some.injEq] at taken ⊢
      subst taken
      rw [State.excused_moving]
      · split <;> rfl
      · exact sends
  | testAwake =>
      simp only [clientMain, same, pc, State.excused_awake, Option.some.injEq] at taken ⊢
      subst taken
      rw [State.excused_moving]
      · rfl
      · split <;> rfl
      · exact sends
  | lock =>
      simp only [clientMain, same, pc, State.excused_mutex, Option.map_eq_some_iff] at taken ⊢
      rcases taken with ⟨value, waited, rfl⟩
      refine ⟨value, waited, ?_⟩
      rw [State.excused_moving]
      · rfl
      · rfl
      · exact sends
  | testSeats => exact absurd pc elsewhere
  | takeSeat =>
      have counted : state.excused.waiting + 1 = state.waiting + 1 - state.failures := by
        simp only [State.excused]
        omega
      simp only [clientMain, same, pc, counted, Option.some.injEq] at taken ⊢
      subst taken
      rw [State.excused_moving]
      · rfl
      · rfl
      · exact sends
  | send =>
      simp only [clientMain, same, pc, State.excused_queue] at taken ⊢
      split at taken
      · next room =>
          cases taken
          simp only [room, if_true]
          rw [State.excused_moving]
          · rfl
          · rfl
          · exact sends
      · cases taken
  | unlock | noSeats | wakeUnlock | wake | postSeated | postLeaving =>
      simp only [clientMain, same, pc, State.excused_mutex, Option.some.injEq] at taken ⊢
      subst taken
      rw [State.excused_moving]
      · rfl
      · rfl
      · exact sends
  | waitAwake | waitDone =>
      simp only [clientMain, same, pc, Option.map_eq_some_iff] at taken ⊢
      rcases taken with ⟨received, waited, rfl⟩
      refine ⟨received.excused, ?_, ?_⟩
      · rw [State.excused_visit, State.excused_waitSend, waited]
        rfl
      · rw [State.excused_moving]
        · rfl
        · rw [State.waitSend_client waited]
          exact sends
  | countShave | clearShaved | countVisit =>
      simp only [clientMain, same, pc, Option.some.injEq] at taken ⊢
      subst taken
      rw [State.excused_setClient]
      · rfl
      · simp [pc, ClientPc.failing]
  | failUnlock | failed => simp [pc, ClientPc.failing] at sends
  | finished => simp [clientMain, pc] at taken

end Clients

/-- A client whose send failed frees the mutex like one that found no seat. -/
theorem failUnlock_excused {index : Fin options.noOfClients}
    (pc : (state.client index).main = .failUnlock)
    (taken : clientMain state index = some following) :
    clientMain state.excused index = some following.excused := by
  have here : (state.excused.client index).main = .noSeats := by
    rw [State.excused_client, Client.excused, pc]
    rfl
  simp only [clientMain, pc, here, Option.some.injEq] at taken ⊢
  subst taken
  rw [State.excused_moveClient]
  · simp only [State.moveClient, State.excused_client, Client.excused]
    rfl
  · rw [pc]
    rfl

/-- Without the failures all steps are steps that the system could take, but for the
search for a seat and the failing send. -/
theorem Refines.excused_step (refines : Refines state.excused encounter)
    {action : Action options} (succeeds : SendsSucceed state action)
    (elsewhere : ∀ index, action = .client index → (state.client index).catchSIGUSR1 = none →
      (state.client index).main ≠ .testSeats)
    (taken : (system options).next state action = some following) :
    StepOf state.excused following.excused := by
  cases action with
  | barber =>
      simp only [system, barberStep] at taken
      split at taken
      · next pc visit handling =>
          exact .barberHandler pc visit handling (by rw [catchSIGUSR2_excused, taken]; rfl)
      · next idle => exact .barberMain idle (by rw [barberMain_excused, taken]; rfl)
  | deliverSIGUSR2 interrupts =>
      simp only [system, SleepingBarber.deliverSIGUSR2] at taken
      split at taken
      · next visit idle pending =>
          have asleep := Barber.sleeps_of_signal refines.duty (.inr (by simp [pending]))
          rw [State.excused_barber] at asleep
          split at taken
          · simp [interruptBarber, asleep] at taken
          · cases taken
            exact .deliverSIGUSR2 visit idle pending rfl
      · cases taken
  | client index =>
      simp only [system, clientStep] at taken
      split at taken
      · next pc handling => exact .clientHandler index pc handling (catchSIGUSR1_excused taken)
      · next idle =>
          refine .clientMain index idle ?_
          cases failing : (state.client index).main.failing with
          | false => exact clientMain_excused failing (elsewhere index rfl idle) taken
          | true =>
              have pc : (state.client index).main = .failUnlock := by
                cases pc : (state.client index).main with
                | failUnlock => rfl
                | failed => simp [clientMain, pc] at taken
                | _ => simp [pc, ClientPc.failing] at failing
              exact failUnlock_excused pc taken
  | deliverSIGUSR1 index interrupts =>
      simp only [system, SleepingBarber.deliverSIGUSR1] at taken
      split at taken
      · next possible =>
          have waits := ClientPc.excused_eq_waitShaved
            (Client.waits_of_signal (refines.role index) (.inr possible.2.1))
          split at taken
          · simp [interruptClient, waits] at taken
          · cases taken
            exact .deliverSIGUSR1 index possible.1 possible.2.1 (State.excused_setClient rfl)
      · cases taken
  | failSend index => exact succeeds.elim

/-! ## The seats that are lost -/

/-- A client that has counted itself in goes away, and takes itself off the counter. -/
theorem Guarded.give_up (guarded : Guarded state) {index : Fin options.noOfClients}
    (pc : (state.client index).main = .send) :
    Guarded ({ state with waiting := state.waiting - 1 }.moveClient index .noSeats) := by
  have locked : (state.client index).main.locked = true := by simp [pc, ClientPc.locked]
  have counted := guarded.countedAhead (.client index) pc
  have clients : ({ state with waiting := state.waiting - 1 }.moveClient index .noSeats).client =
      Function.update state.client index { state.client index with main := .noSeats } := rfl
  exact
    { mutex := by
        exact guarded.mutex_client_moved clients rfl
          (.inl ⟨rfl, by simp [pc, ClientPc.locked]⟩)
      attempting := State.forall_client clients
        (fun _ client => client.main.attempting = true → 0 < client.noOfShaves)
        (by simp [ClientPc.attempting]) fun other _ => guarded.attempting other
      sends := State.forall_client clients (fun _ client => client.main.failing = false)
        rfl fun other _ => guarded.sends other
      finished := State.forall_client clients
        (fun _ client => client.main = .finished → client.noOfShaves = 0)
        (by simp) fun other _ => guarded.finished other
      foundAwake := State.forall_client clients
        (fun _ client => client.main.foundAwake = true → state.awake = true)
        (by simp [ClientPc.foundAwake]) fun other _ => guarded.foundAwake other
      foundAsleep := State.forall_client clients
        (fun _ client => client.main = .wake → state.awake = false)
        (by simp) fun other _ => guarded.foundAsleep other
      emptyQueue := guarded.emptyQueue
      counted := by
        intro _
        simp [State.moveClient, counted]
      countedAhead := by
        intro process ahead
        cases process with
        | barber =>
            have before : state.ahead .barber := ahead
            cases guarded.only_ahead locked before
        | client other =>
            by_cases self : other = index
            · subst self
              simp [State.ahead, State.moveClient] at ahead
            · have before : state.ahead (.client other) := by
                simpa [State.ahead, State.moveClient, self] using ahead
              exact absurd (Process.client.inj (guarded.only_ahead locked before)) self
      seat := State.forall_client clients
        (fun _ client => client.main = .takeSeat → state.waiting - 1 < options.queueSize)
        (by simp) (by
          intro other different inside
          have outside := guarded.others_outside locked other different
          simp [inside, ClientPc.locked] at outside)
      room := State.forall_client clients
        (fun _ client => client.main = .send → state.queue.length < options.queueSize)
        (by simp) fun other _ => guarded.room other
      fits := guarded.fits
      wakeUps := guarded.wakeUps
      noWakeUp := guarded.noWakeUp }

/-- Being turned away is no event of the encounter. -/
theorem Refines.turn_away (refines : Refines state encounter) {index : Fin options.noOfClients}
    (searching : (state.client index).main = .testSeats ∨ (state.client index).main = .send)
    (clients : following.client =
      Function.update state.client index { state.client index with main := .noSeats })
    (barber : following.barber = state.barber) (awake : following.awake = state.awake)
    (queue : following.queue = state.queue)
    (recMsgSem : following.recMsgSem = state.recMsgSem)
    (sendMsgSem : following.sendMsgSem = state.sendMsgSem)
    (log : following.log = state.log) : Answers encounter following := by
  have elsewhere : (state.client index).main ≠ .waitShaved := by
    rcases searching with pc | pc <;> simp [pc]
  rcases Client.role_idle (refines.role index) elsewhere with ⟨idle, quiet, shaved, role⟩
  refine refines.client_still idle quiet clients ?_ ?_ barber awake queue recMsgSem sendMsgSem log
  · rw [shaved]
    rcases searching with pc | pc <;> rw [pc] <;> rfl
  · rw [role]
    rcases searching with pc | pc <;> rw [pc] <;> rfl

/-- A client that looks for a seat may find none because of the failures. -/
theorem testSeats_excused {index : Fin options.noOfClients}
    (refines : Refines state.excused encounter) (guarded : Guarded state.excused)
    (sound : encounter.Sound) (idle : (state.client index).catchSIGUSR1 = none)
    (pc : (state.client index).main = .testSeats)
    (taken : clientMain state index = some following) :
    Answers encounter following.excused ∧ Guarded following.excused := by
  have sends : (state.client index).main.failing = false := by simp [pc, ClientPc.failing]
  have same := State.excused_sending sends
  have here : (state.excused.client index).main = .testSeats := by rw [same, pc]
  simp only [clientMain, pc, Option.some.injEq] at taken
  subst taken
  by_cases free : state.waiting < options.queueSize
  · have counted : state.excused.waiting < options.queueSize := by
      simp only [State.excused]
      omega
    have stepped : StepOf state.excused (state.excused.moveClient index .takeSeat) :=
      .clientMain index (by rw [same]; exact idle)
        (by simp only [clientMain, here, counted, if_true])
    rw [if_pos free, State.excused_moving rfl sends]
    exact ⟨refines.answers guarded sound stepped, guarded.step refines sound stepped⟩
  · rw [if_neg free, State.excused_moving rfl sends]
    refine ⟨refines.turn_away (.inl here) rfl rfl rfl rfl rfl rfl rfl, ?_⟩
    exact guarded.client_main_moved rfl (.inl ⟨rfl, by simp [here, ClientPc.locked]⟩)
      {} (by simp [here]) rfl rfl rfl rfl rfl

/-- The failing client stays counted, and becomes one of the failures. -/
theorem failSend_excused {index : Fin options.noOfClients}
    (pc : (state.client index).main = .send) :
    (state.moveClient index .failUnlock).excused =
      { state.excused with waiting := state.excused.waiting - 1 }.moveClient index .noSeats := by
  have sends : (state.client index).main.failing = false := by simp [pc, ClientPc.failing]
  have one : (state.moveClient index .failUnlock).failures = state.failures + 1 :=
    State.failures_fail rfl sends
  have counted : (state.moveClient index .failUnlock).excused.waiting =
      state.excused.waiting - 1 := by
    change state.waiting - ((state.moveClient index .failUnlock).failures : Int) =
      state.waiting - state.failures - 1
    omega
  have clients : (state.moveClient index .failUnlock).excused.client =
      Function.update state.excused.client index
        { state.excused.client index with main := .noSeats } := by
    funext other
    by_cases here : other = index
    · subst here
      simp only [State.excused_client, State.moveClient, State.setClient_client,
        Function.update_self]
      rfl
    · simp [State.moveClient, State.excused_client, here]
  rw [State.excused, State.mk.injEq]
  exact ⟨rfl, rfl, rfl, rfl, counted, rfl, rfl, clients, rfl, rfl⟩

theorem excused_answers {action : Action options} (refines : Refines state.excused encounter)
    (guarded : Guarded state.excused) (sound : encounter.Sound)
    (taken : (system options).next state action = some following) :
    Answers encounter following.excused ∧ Guarded following.excused := by
  by_cases succeeds : SendsSucceed state action
  · by_cases search : ∃ index, action = .client index ∧
        (state.client index).catchSIGUSR1 = none ∧ (state.client index).main = .testSeats
    · rcases search with ⟨index, rfl, idle, pc⟩
      simp only [system, clientStep, idle] at taken
      exact testSeats_excused refines guarded sound idle pc taken
    · have stepped := refines.excused_step succeeds
        (fun index same idle pc => search ⟨index, same, idle, pc⟩) taken
      exact ⟨refines.answers guarded sound stepped, guarded.step refines sound stepped⟩
  · cases action with
    | failSend index =>
        simp only [system, SleepingBarber.failSend] at taken
        split at taken
        · next sending =>
            cases taken
            have here : (state.excused.client index).main = .send := by
              rw [State.excused_client, Client.excused, sending.2]
              rfl
            rw [failSend_excused sending.2]
            exact ⟨refines.turn_away (.inr here) rfl rfl rfl rfl rfl rfl rfl,
              guarded.give_up here⟩
        · cases taken
    | barber | deliverSIGUSR2 | client | deliverSIGUSR1 => exact absurd trivial succeeds

/-! ## Runs -/

/-- Every run is a run of encounters, once the failures are left out. -/
theorem simulates_encounters_excused (options : Options) :
    (system options).Simulates (fun _ _ => True) (encounters options)
      (fun state encounter => Refines state.excused encounter ∧ Guarded state.excused) where
  initially := by
    have none : (system options).initial.excused = (system options).initial := by
      simp [system, State.excused, State.failures, initial, ClientPc.failing, Client.excused,
        ClientPc.excused]
    rw [none]
    exact (simulates_encounters options).initially
  answered := by
    intro current action following encounter _ reachable related _ taken
    rcases related with ⟨refines, guarded⟩
    rcases excused_answers refines guarded (Encounter.sound reachable) taken with
      ⟨still | ⟨answer, final, answered, nextRefines⟩, nextGuarded⟩
    · exact ⟨[], encounter, rfl, still, nextGuarded⟩
    · refine ⟨[answer], final, ?_, nextRefines, nextGuarded⟩
      simp [TransitionSystem.run, answered]

theorem guarded_excused (reachable : (system options).Reachable state) :
    Guarded state.excused := by
  rcases (simulates_encounters_excused options).abstraction reachable with
    ⟨_, _, _, guarded⟩
  exact guarded

/-- The clients that have returned after a failed send. -/
def State.returned (state : State options) : Finset (Fin options.noOfClients) :=
  Finset.univ.filter fun index => (state.client index).main = .failed

/-- While the mutex is free nobody is about to free it. -/
theorem failures_of_free (guarded : Guarded state.excused) (free : state.mutex ≠ 0) :
    state.failures = state.returned.card := by
  unfold State.failures State.returned
  congr 1
  ext index
  have outside : (state.client index).main.locked = false := by
    rw [← ClientPc.locked_excused]
    exact guarded.client_outside free index
  simp only [Finset.mem_filter, Finset.mem_univ, true_and]
  cases pc : (state.client index).main <;> simp_all [ClientPc.failing, ClientPc.locked]

/-- Whoever finds the mutex free finds the messages and one seat for each client that has
returned after a failed send: the seats are never given back. -/
theorem seats_lost (options : Options) :
    (∀ state, (system options).ReachableUnder SendsSucceed state → state.mutex ≠ 0 →
      state.waiting = state.queue.length) ∧
    ∀ state, (system options).Reachable state → state.mutex ≠ 0 →
      state.waiting = state.queue.length + state.returned.card ∧
        (state.waiting = state.queue.length ↔
          ∀ index, (state.client index).main ≠ .failed) := by
  constructor
  · intro state reachable free
    exact ((waiting_room reachable).1 free).1
  · intro state reachable free
    have guarded := guarded_excused reachable
    have counted : state.waiting - state.failures = state.queue.length :=
      guarded.counted (guarded.not_ahead free)
    have returned := failures_of_free guarded free
    have lost : state.waiting = state.queue.length + state.returned.card := by omega
    refine ⟨lost, ?_⟩
    have nobody : (∀ index, (state.client index).main ≠ .failed) ↔ state.returned.card = 0 := by
      simp [State.returned, Finset.filter_eq_empty_iff]
    rw [nobody]
    omega

/-- The queue refuses the message of the only client, which then returns. -/
def refused (program : Program) : State (oneClient program) :=
  (system (oneClient program)).after
    (List.replicate 5 (.client ⟨0, Nat.one_pos⟩) ++
      [.failSend ⟨0, Nat.one_pos⟩, .client ⟨0, Nat.one_pos⟩])
    (by cases program <;> rfl)

theorem seats_lost_refused :
    (queued.mutex ≠ 0 ∧ queued.waiting = queued.queue.length) ∧
      (refused .zad1).waiting = (refused .zad1).queue.length + (refused .zad1).returned.card :=
  ⟨⟨by decide, (seats_lost (oneClient .zad2)).1 queued
      (TransitionSystem.after_reachableUnder _ _ _ (by decide)) (by decide)⟩,
    ((seats_lost (oneClient .zad1)).2 (refused .zad1)
      (TransitionSystem.after_reachable _ _ _) (by decide)).1⟩

/-- The mutex is free, the queue is empty, and the only seat is taken for good. -/
theorem seat_taken_for_good :
    ((system (oneClient .zad1)).Reachable (refused .zad1) ∧ (refused .zad1).mutex = 1 ∧
      (refused .zad1).queue = [] ∧ (refused .zad1).waiting = 1) ∧
    ((system (oneClient .zad2)).Reachable (refused .zad2) ∧ (refused .zad2).mutex = 1 ∧
      (refused .zad2).queue = [] ∧ (refused .zad2).waiting = 1) :=
  ⟨⟨TransitionSystem.after_reachable _ _ _, rfl, rfl, rfl⟩,
    ⟨TransitionSystem.after_reachable _ _ _, rfl, rfl, rfl⟩⟩

end OsExercises.SleepingBarber
