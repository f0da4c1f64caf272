import OsExercises.SleepingBarber.Stations

/-! # The processes refine the encounters

Each statement of the barber, of a client or of a handler is a step of the
encounter or leaves it alone, as long as no send fails. -/

namespace OsExercises.SleepingBarber

open OsExercises

variable {options : Options} {state following : State options}
variable {encounter : Encounter options}

/-! ## Which statement is taken -/

/-- One statement of one process. Signals interrupt no blocked operation. -/
inductive StepOf (state following : State options) : Prop
  | barberMain (idle : state.barber.catchSIGUSR2 = none)
      (statement : barberMain state = some following)
  | barberHandler (pc : WakePc) (visit : Visit options)
      (handling : state.barber.catchSIGUSR2 = some (pc, visit))
      (statement : catchSIGUSR2 state pc visit = some following)
  | deliverSIGUSR2 (visit : Visit options)
      (idle : state.barber.catchSIGUSR2 = none)
      (pending : state.barber.pending = some visit)
      (delivered : following = { state with barber := { state.barber with
        catchSIGUSR2 := some (.setAwake, visit), pending := none } })
  | clientMain (index : Fin options.noOfClients)
      (idle : (state.client index).catchSIGUSR1 = none)
      (statement : clientMain state index = some following)
  | clientHandler (index : Fin options.noOfClients) (pc : InvitedPc)
      (handling : (state.client index).catchSIGUSR1 = some pc)
      (statement : catchSIGUSR1 state index pc = some following)
  | deliverSIGUSR1 (index : Fin options.noOfClients)
      (idle : (state.client index).catchSIGUSR1 = none)
      (pending : (state.client index).pending = true)
      (delivered : following = state.setClient index { state.client index with
        catchSIGUSR1 := some .postSeated, pending := false })

theorem Refines.system_step (refines : Refines state encounter)
    {action : Action options} (permitted : SendsSucceed state action)
    (taken : (system options).next state action = some following) :
    StepOf state following := by
  cases action with
  | barber =>
      simp only [system, barberStep] at taken
      split at taken
      · next pc visit handling => exact .barberHandler pc visit handling taken
      · next idle => exact .barberMain idle taken
  | deliverSIGUSR2 interrupts =>
      simp only [system, SleepingBarber.deliverSIGUSR2] at taken
      split at taken
      · next visit idle pending =>
          have asleep := Barber.sleeps_of_signal refines.duty (.inr (by simp [pending]))
          split at taken
          · simp [interruptBarber, asleep] at taken
          · cases taken
            exact .deliverSIGUSR2 visit idle pending rfl
      · cases taken
  | client index =>
      simp only [system, clientStep] at taken
      split at taken
      · next pc handling => exact .clientHandler index pc handling taken
      · next idle => exact .clientMain index idle taken
  | deliverSIGUSR1 index interrupts =>
      simp only [system, SleepingBarber.deliverSIGUSR1] at taken
      split at taken
      · next possible =>
          have waits := Client.waits_of_signal (refines.role index) (.inr possible.2.1)
          split at taken
          · simp [interruptClient, waits] at taken
          · cases taken
            exact .deliverSIGUSR1 index possible.1 possible.2.1 rfl
      · cases taken
  | failSend index => exact permitted.elim

/-! ## Moving one process -/

/-- A step of the barber that leaves the clients alone. -/
theorem Refines.barber_moved {final : Encounter options}
    (refines : Refines state encounter)
    (clients : following.client = state.client)
    (roles : final.role = encounter.role)
    (shaves : final.noOfShaves = encounter.noOfShaves)
    (duty : following.barber.duty following.awake = some final.duty)
    (queue : following.queue = final.queue)
    (recMsgSem : following.recMsgSem = final.recMsgSem)
    (sendMsgSem : following.sendMsgSem = final.sendMsgSem)
    (log : following.log = final.log) : Refines following final where
  duty := duty
  role := by
    rw [clients, roles]
    exact refines.role
  noOfShaves := by
    rw [clients, shaves]
    exact refines.noOfShaves
  queue := queue
  recMsgSem := recMsgSem
  sendMsgSem := sendMsgSem
  log := log

/-- The encounter answers a step with one of its own, or not at all. -/
def Answers (encounter : Encounter options) (following : State options) : Prop :=
  Refines following encounter ∨
    ∃ action final, (encounters options).next encounter action = some final ∧
      Refines following final

/-! ## Statements of the barber -/

theorem Refines.visit_eq (refines : Refines state encounter)
    (index : Fin options.noOfClients) : encounter.visit index = state.visit index := by
  simp [Encounter.visit, State.visit, refines.noOfShaves]

theorem State.waitRec_eq_some {awaited : Token options} :
    state.waitRec awaited = some following ↔
      ∃ taken rest, state.recMsgSem = taken :: rest ∧
        following = { state with
          recMsgSem := rest, log := state.log.exchange taken awaited } := by
  unfold State.waitRec
  cases state.recMsgSem <;> simp [eq_comm]

theorem State.waitSend_eq_some {awaited : Token options} :
    state.waitSend awaited = some following ↔
      ∃ taken rest, state.sendMsgSem = taken :: rest ∧
        following = { state with
          sendMsgSem := rest, log := state.log.exchange taken awaited } := by
  unfold State.waitSend
  cases state.sendMsgSem <;> simp [eq_comm]

/-- An idle barber's next statement determines its duty. -/
theorem Refines.main_moved {final : Encounter options} {pc : BarberPc options}
    (refines : Refines state encounter)
    (idle : state.barber.catchSIGUSR2 = none) (quiet : state.barber.pending = none)
    (barber : following.barber = { state.barber with main := pc })
    (flag : pc = .sleep ∨ (following.awake = true ↔ pc ≠ .unlockAsleep))
    (duty : final.duty = pc.duty)
    (clients : following.client = state.client)
    (roles : final.role = encounter.role)
    (shaves : final.noOfShaves = encounter.noOfShaves)
    (queue : following.queue = final.queue)
    (recMsgSem : following.recMsgSem = final.recMsgSem)
    (sendMsgSem : following.sendMsgSem = final.sendMsgSem)
    (log : following.log = final.log) : Refines following final := by
  refine refines.barber_moved clients roles shaves ?_ queue recMsgSem sendMsgSem log
  rw [barber, duty]
  cases pc <;> simp_all [Barber.duty, BarberPc.duty]

/-- In the busy wait the barber keeps its duty, or finds that it is awake. -/
private theorem sleep_answers (refines : Refines state encounter)
    (idle : state.barber.catchSIGUSR2 = none)
    (pc : state.barber.main = .sleep)
    (statement : barberMain state = some following) : Answers encounter following := by
  simp only [barberMain, pc, Option.some.injEq] at statement
  subst statement
  have duty := refines.duty
  simp only [Barber.duty, pc, idle] at duty
  refine .inl (refines.barber_moved rfl rfl rfl ?_ refines.queue refines.recMsgSem
    refines.sendMsgSem refines.log)
  cases pending : state.barber.pending with
  | none =>
      cases awake : state.awake <;>
        simp_all [Barber.duty, State.moveBarber, BarberPc.duty]
  | some visit =>
      cases awake : state.awake <;> simp_all [Barber.duty, State.moveBarber]

/-- A queued client that does not hold the mutex spins on `shaved`. -/
theorem Client.waiting_of_queued {client : Client} (known : client.role = some .queued)
    (unlocked : client.main.locked = false) :
    client.main = .waitShaved ∧ client.catchSIGUSR1 = none ∧ client.pending = false ∧
      client.shaved = false := by
  by_cases spins : client.main = .waitShaved
  · refine ⟨spins, ?_⟩
    simp only [Client.role, spins] at known
    cases handles : client.catchSIGUSR1 with
    | none =>
        cases pending : client.pending <;> cases shaved : client.shaved <;>
          simp [handles, pending, shaved] at known ⊢
    | some pc =>
        cases pending : client.pending <;> cases shaved : client.shaved <;>
          cases pc <;> simp [handles, pending, shaved, InvitedPc.role] at known
  · rcases Client.role_idle known spins with ⟨_, _, _, role⟩
    clear known
    revert spins unlocked role
    cases client.main <;> simp [ClientPc.role, ClientPc.locked]

theorem Guarded.client_unlocked (guarded : Guarded state)
    (locked : state.barber.main.locked = true) (index : Fin options.noOfClients) :
    (state.client index).main.locked = false := by
  by_contra inside
  have clientInside : state.insideMutex (.client index) := by
    simpa [State.insideMutex] using inside
  have same := guarded.mutex.unique .barber (.client index) locked clientInside
  cases same

theorem barberMain_answers (refines : Refines state encounter) (guarded : Guarded state)
    (sound : encounter.Sound)
    (idle : state.barber.catchSIGUSR2 = none)
    (statement : barberMain state = some following) : Answers encounter following := by
  by_cases asleep : state.barber.main = .sleep
  · exact sleep_answers refines idle asleep statement
  rcases Barber.duty_idle refines.duty asleep with ⟨-, quiet, flag, duty⟩
  cases pc : state.barber.main with
  | sleep => exact absurd pc asleep
  | lock =>
      simp only [barberMain, pc, Option.map_eq_some_iff] at statement
      rcases statement with ⟨value, _, rfl⟩
      exact .inl (refines.main_moved idle quiet rfl (.inr (by simp [flag, pc]))
        (by rw [duty, pc]; rfl) rfl rfl rfl refines.queue refines.recMsgSem
        refines.sendMsgSem refines.log)
  | receive =>
      have up : state.awake = true := flag.mpr (by simp [pc])
      have free : encounter.duty = .free := by rw [duty, pc]; rfl
      simp only [barberMain, pc] at statement
      split at statement
      · cases statement
        exact .inl (refines.main_moved idle quiet rfl (.inr (by simp [up])) free rfl rfl rfl
          refines.queue refines.recMsgSem refines.sendMsgSem refines.log)
      · next visit rest queue =>
          cases statement
          rw [refines.queue] at queue
          refine .inr ⟨.call, { encounter with duty := .holding visit, queue := rest },
            by simp [encounters, free, queue], ?_⟩
          exact refines.main_moved idle quiet rfl (.inr (by simp [up])) rfl rfl rfl rfl
            rfl refines.recMsgSem refines.sendMsgSem refines.log
  | decrement visit =>
      simp only [barberMain, pc, Option.some.injEq] at statement
      subst statement
      exact .inl (refines.main_moved idle quiet rfl (.inr (by simp [flag, pc]))
        (by rw [duty, pc]; rfl) rfl rfl rfl refines.queue refines.recMsgSem
        refines.sendMsgSem refines.log)
  | invite visit =>
      have holding : encounter.duty = .holding visit := by rw [duty, pc]; rfl
      have queued : encounter.role visit.pid = .queued :=
        sound.lined.queued_of_mem (by simp [Encounter.line, holding, Duty.inHand])
      rcases Client.waiting_of_queued (queued ▸ refines.role visit.pid)
        (guarded.client_unlocked (by simp [pc, BarberPc.locked]) visit.pid) with
        ⟨spins, handles, unsignalled, open'⟩
      simp only [barberMain, pc, Option.some.injEq] at statement
      subst statement
      refine .inr ⟨.invite, _, by simp [encounters, holding]; rfl, ?_⟩
      exact {
        duty := by
          simp [State.killSIGUSR1, Barber.duty, idle, quiet, flag, pc, BarberPc.duty]
        role := fun index => by
          by_cases self : index = visit.pid
          · subst self
            simp [State.killSIGUSR1, Client.role, spins, handles, open']
          · simp [State.killSIGUSR1, self, refines.role]
        noOfShaves := fun index => by
          by_cases self : index = visit.pid
          · subst self
            simp [State.killSIGUSR1, refines.noOfShaves]
          · simp [State.killSIGUSR1, self, refines.noOfShaves]
        queue := refines.queue
        recMsgSem := refines.recMsgSem
        sendMsgSem := refines.sendMsgSem
        log := refines.log }
  | waitSeated visit =>
      have engaged : encounter.duty = .engaged visit 1 := by rw [duty, pc]; rfl
      simp only [barberMain, pc, Option.map_eq_some_iff, State.waitRec_eq_some] at statement
      rcases statement with ⟨_, ⟨taken, rest, received, rfl⟩, rfl⟩
      rw [refines.recMsgSem] at received
      refine .inr ⟨.barberTurn, _, barber_starts engaged received, ?_⟩
      exact refines.main_moved idle quiet rfl (.inr (by simp [flag, pc])) rfl rfl rfl rfl
        refines.queue rfl refines.sendMsgSem (by rw [← refines.log]; rfl)
  | unlock visit =>
      simp only [barberMain, pc, Option.some.injEq] at statement
      subst statement
      exact .inl (refines.main_moved idle quiet rfl (.inr (by simp [flag, pc]))
        (by rw [duty, pc]; rfl) rfl rfl rfl refines.queue refines.recMsgSem
        refines.sendMsgSem refines.log)
  | postDone visit =>
      have engaged : encounter.duty = .engaged visit 2 := by rw [duty, pc]; rfl
      simp only [barberMain, pc, Option.some.injEq] at statement
      subst statement
      refine .inr ⟨.barberTurn, _, barber_sends engaged (by decide), ?_⟩
      exact refines.main_moved idle quiet rfl (.inr (by simp [flag, pc])) rfl rfl rfl rfl
        refines.queue refines.recMsgSem (by simp [refines.sendMsgSem, message]) refines.log
  | waitLeaving visit =>
      have engaged : encounter.duty = .engaged visit 3 := by rw [duty, pc]; rfl
      simp only [barberMain, pc, Option.map_eq_some_iff, State.waitRec_eq_some] at statement
      rcases statement with ⟨_, ⟨taken, rest, received, rfl⟩, rfl⟩
      rw [refines.recMsgSem] at received
      refine .inr ⟨.barberTurn, _, barber_completes engaged received, ?_⟩
      exact refines.main_moved idle quiet rfl (.inr (by simp [flag, pc])) rfl rfl rfl rfl
        refines.queue rfl refines.sendMsgSem (by rw [← refines.log]; rfl)
  | setAsleep =>
      simp only [barberMain, pc, Option.some.injEq] at statement
      subst statement
      exact .inl (refines.main_moved idle quiet rfl (.inr (by simp))
        (by rw [duty, pc]; rfl) rfl rfl rfl refines.queue refines.recMsgSem
        refines.sendMsgSem refines.log)
  | unlockAsleep =>
      simp only [barberMain, pc, Option.some.injEq] at statement
      subst statement
      exact .inl (refines.main_moved idle quiet rfl (.inl rfl)
        (by rw [duty, pc]; rfl) rfl rfl rfl refines.queue refines.recMsgSem
        refines.sendMsgSem refines.log)

/-! ## Statements of `catchSIGUSR2` -/

/-- While the handler runs, its statement determines the barber's duty. -/
theorem Barber.duty_handling {barber : Barber options} {awake : Bool}
    {duty : Duty options} {pc : WakePc} {visit : Visit options}
    (known : barber.duty awake = some duty)
    (handling : barber.catchSIGUSR2 = some (pc, visit)) :
    barber.main = .sleep ∧ barber.pending = none ∧ (awake = true ↔ pc ≠ .setAwake) ∧
      duty = .engaged visit pc.turn := by
  have asleep := Barber.sleeps_of_signal known (.inl (by simp [handling]))
  simp only [Barber.duty, asleep, handling] at known
  cases pending : barber.pending with
  | none =>
      simp only [pending] at known
      split at known
      · next flag =>
          cases known
          exact ⟨asleep, rfl, by simp [flag], rfl⟩
      · cases known
  | some other => simp [pending] at known

theorem Refines.handler_moved {final : Encounter options} {pc : WakePc}
    {visit : Visit options}
    (refines : Refines state encounter)
    (asleep : state.barber.main = .sleep) (quiet : state.barber.pending = none)
    (barber : following.barber = { state.barber with catchSIGUSR2 := some (pc, visit) })
    (flag : following.awake = true ↔ pc ≠ .setAwake)
    (duty : final.duty = .engaged visit pc.turn)
    (clients : following.client = state.client)
    (roles : final.role = encounter.role)
    (shaves : final.noOfShaves = encounter.noOfShaves)
    (queue : following.queue = final.queue)
    (recMsgSem : following.recMsgSem = final.recMsgSem)
    (sendMsgSem : following.sendMsgSem = final.sendMsgSem)
    (log : following.log = final.log) : Refines following final := by
  refine refines.barber_moved clients roles shaves ?_ queue recMsgSem sendMsgSem log
  rw [barber, duty]
  simp only [Barber.duty, asleep, quiet]
  rw [if_pos]
  cases awake : following.awake <;> simp_all

theorem catchSIGUSR2_answers (refines : Refines state encounter) {pc : WakePc}
    {visit : Visit options} (handling : state.barber.catchSIGUSR2 = some (pc, visit))
    (statement : catchSIGUSR2 state pc visit = some following) :
    Answers encounter following := by
  rcases Barber.duty_handling refines.duty handling with ⟨asleep, quiet, flag, duty⟩
  cases pc with
  | setAwake =>
      simp only [catchSIGUSR2, Option.some.injEq] at statement
      subst statement
      exact .inl (refines.handler_moved asleep quiet rfl (by simp) duty rfl rfl rfl
        refines.queue refines.recMsgSem refines.sendMsgSem refines.log)
  | postAwake =>
      simp only [catchSIGUSR2, Option.some.injEq] at statement
      subst statement
      refine .inr ⟨.barberTurn, _, barber_sends duty (by decide), ?_⟩
      exact refines.handler_moved asleep quiet rfl (by simp [flag]) rfl rfl rfl rfl
        refines.queue refines.recMsgSem
        (by simp [refines.sendMsgSem, message, WakePc.turn]) refines.log
  | waitSeated =>
      simp only [catchSIGUSR2, Option.map_eq_some_iff, State.waitRec_eq_some] at statement
      rcases statement with ⟨_, ⟨taken, rest, received, rfl⟩, rfl⟩
      rw [refines.recMsgSem] at received
      refine .inr ⟨.barberTurn, _, barber_starts duty received, ?_⟩
      exact refines.handler_moved asleep quiet rfl (by simp [flag]) rfl rfl rfl rfl
        refines.queue rfl refines.sendMsgSem (by rw [← refines.log]; rfl)
  | postDone =>
      simp only [catchSIGUSR2, Option.some.injEq] at statement
      subst statement
      refine .inr ⟨.barberTurn, _, barber_sends duty (by decide), ?_⟩
      exact refines.handler_moved asleep quiet rfl (by simp [flag]) rfl rfl rfl rfl
        refines.queue refines.recMsgSem
        (by simp [refines.sendMsgSem, message, WakePc.turn]) refines.log
  | waitLeaving =>
      simp only [catchSIGUSR2, Option.map_eq_some_iff, State.waitRec_eq_some] at statement
      rcases statement with ⟨_, ⟨taken, rest, received, rfl⟩, rfl⟩
      rw [refines.recMsgSem] at received
      refine .inr ⟨.barberTurn, _, barber_completes duty received, ?_⟩
      refine refines.barber_moved rfl rfl rfl ?_ refines.queue rfl refines.sendMsgSem
        (by rw [← refines.log]; rfl)
      simp [Barber.duty, asleep, quiet]

/-- The signal stands for the first turn of the handler. -/
theorem deliverSIGUSR2_answers (refines : Refines state encounter)
    {visit : Visit options} (idle : state.barber.catchSIGUSR2 = none)
    (pending : state.barber.pending = some visit)
    (delivered : following = { state with barber := { state.barber with
      catchSIGUSR2 := some (.setAwake, visit), pending := none } }) :
    Answers encounter following := by
  have asleep := Barber.sleeps_of_signal refines.duty (.inr (by simp [pending]))
  have known := refines.duty
  simp only [Barber.duty, asleep, idle, pending] at known
  split at known
  · cases known
  · next notAwake =>
      subst delivered
      refine .inl (refines.barber_moved rfl rfl rfl ?_ refines.queue refines.recMsgSem
        refines.sendMsgSem refines.log)
      simp_all [Barber.duty, WakePc.turn]

/-! ## Statements of a client -/

/-- The client that is in the dialogue with a barber not yet awake. -/
theorem Refines.waker (refines : Refines state encounter) (sound : encounter.Sound)
    {visit : Visit options} (duty : encounter.duty = .engaged visit 0) :
    (state.client visit.pid).main = .waitAwake := by
  cases sound.meeting with
  | apart idle => exact absurd duty (idle visit 0)
  | parting other busy => cases duty.symm.trans busy
  | together other turn partner busy role _ _ _ _ dialogue =>
      obtain ⟨rfl, rfl⟩ := Duty.engaged.inj (busy.symm.trans duty)
      have first : partner = 0 := Nat.le_zero.mp (dialogue.callee_le (by decide))
      subst first
      have known := refines.role other.pid
      rw [role] at known
      by_cases spins : (state.client other.pid).main = .waitShaved
      · simp only [Client.role, spins] at known
        split at known
        all_goals simp at known
        next pc _ _ _ => cases pc <;> simp [InvitedPc.role] at known
      · rcases Client.role_idle known spins with ⟨_, _, _, atPc⟩
        revert atPc
        cases (state.client other.pid).main <;> simp [ClientPc.role]

/-- Without a client that is waking it up, a barber that has gone to sleep only
sleeps. -/
theorem Refines.asleep_alone (refines : Refines state encounter)
    (asleep : state.awake = false) (unlocked : state.barber.main ≠ .unlockAsleep)
    (alone : ∀ visit, encounter.duty ≠ .engaged visit 0) :
    state.barber.main = .sleep ∧ state.barber.catchSIGUSR2 = none ∧
      state.barber.pending = none ∧ encounter.duty = .free := by
  have sleeps : state.barber.main = .sleep := by
    by_contra up
    rcases Barber.duty_idle refines.duty up with ⟨_, _, flag, _⟩
    simp [flag.mpr unlocked] at asleep
  have known := refines.duty
  simp only [Barber.duty, sleeps, asleep] at known
  cases handles : state.barber.catchSIGUSR2 with
  | none =>
      cases pending : state.barber.pending with
      | none =>
          simp only [handles, pending, Option.some.injEq] at known
          exact ⟨sleeps, rfl, rfl, known.symm⟩
      | some visit =>
          simp only [handles, pending, Bool.false_eq_true, if_false,
            Option.some.injEq] at known
          exact absurd known.symm (alone visit)
  | some handler =>
      rcases handler with ⟨step, visit⟩
      rcases Barber.duty_handling refines.duty handles with ⟨_, _, flag, engaged⟩
      have first : step = .setAwake := by
        by_contra other
        simp [flag.mpr other] at asleep
      subst first
      exact absurd engaged (alone visit)

/-- A client about to wake the barber finds it asleep and alone. -/
theorem Refines.asleep_of_wake (refines : Refines state encounter)
    (guarded : Guarded state) (sound : encounter.Sound)
    {index : Fin options.noOfClients} (pc : (state.client index).main = .wake) :
    state.awake = false ∧ state.barber.main = .sleep ∧
      state.barber.catchSIGUSR2 = none ∧ state.barber.pending = none ∧
      encounter.duty = .free := by
  have asleep := guarded.foundAsleep index pc
  have inside : state.insideMutex (.client index) := by
    simp [State.insideMutex, pc, ClientPc.locked]
  refine ⟨asleep, refines.asleep_alone asleep ?_ ?_⟩
  · intro unlocking
    have barberInside : state.insideMutex .barber := by
      simp [State.insideMutex, unlocking, BarberPc.locked]
    cases guarded.mutex.unique _ _ barberInside inside
  · -- Another client that wakes the barber up would hold the mutex as well.
    intro visit engaged
    have waker := refines.waker sound engaged
    have same := guarded.mutex.unique (.client visit.pid) (.client index)
      (by simp [State.insideMutex, waker, ClientPc.locked]) inside
    cases same
    simp [pc] at waker

/-- A step that gives one client a new state. -/
theorem Refines.client_set {final : Encounter options}
    {index : Fin options.noOfClients}
    (refines : Refines state encounter) (client : Client) (role : Role)
    (clients : following.client = Function.update state.client index client)
    (known : client.role = some role)
    (roles : final.role = Function.update encounter.role index role)
    (left : client.noOfShaves = final.noOfShaves index)
    (shaves : ∀ other, other ≠ index →
      final.noOfShaves other = encounter.noOfShaves other)
    (duty : following.barber.duty following.awake = some final.duty)
    (queue : following.queue = final.queue)
    (recMsgSem : following.recMsgSem = final.recMsgSem)
    (sendMsgSem : following.sendMsgSem = final.sendMsgSem)
    (log : following.log = final.log) : Refines following final where
  duty := duty
  role := by
    intro other
    rw [clients, roles]
    by_cases self : other = index
    · rw [self, Function.update_self, Function.update_self, known]
    · rw [Function.update_of_ne self, Function.update_of_ne self, refines.role]
  noOfShaves := by
    intro other
    rw [clients]
    by_cases self : other = index
    · rw [self, Function.update_self, left]
    · rw [Function.update_of_ne self, shaves other self, refines.noOfShaves]
  queue := queue
  recMsgSem := recMsgSem
  sendMsgSem := sendMsgSem
  log := log

theorem Refines.client_main_moved {final : Encounter options}
    {index : Fin options.noOfClients} {pc : ClientPc}
    (refines : Refines state encounter)
    (idle : (state.client index).catchSIGUSR1 = none)
    (quiet : (state.client index).pending = false)
    (clients : following.client =
      Function.update state.client index { state.client index with main := pc })
    (shaved : (state.client index).shaved = pc.shaved)
    (role : final.role = Function.update encounter.role index pc.role)
    (shaves : final.noOfShaves = encounter.noOfShaves)
    (duty : following.barber.duty following.awake = some final.duty)
    (queue : following.queue = final.queue)
    (recMsgSem : following.recMsgSem = final.recMsgSem)
    (sendMsgSem : following.sendMsgSem = final.sendMsgSem)
    (log : following.log = final.log) : Refines following final := by
  refine refines.client_set _ _ clients ?_ role ?_ (fun _ _ => by rw [shaves]) duty queue
    recMsgSem sendMsgSem log
  · cases pc <;> simp_all [Client.role, ClientPc.role, ClientPc.shaved]
  · rw [shaves]
    exact refines.noOfShaves index

/-- A statement that keeps the client's role. -/
theorem Refines.client_still {index : Fin options.noOfClients} {pc : ClientPc}
    (refines : Refines state encounter)
    (idle : (state.client index).catchSIGUSR1 = none)
    (quiet : (state.client index).pending = false)
    (clients : following.client =
      Function.update state.client index { state.client index with main := pc })
    (shaved : (state.client index).shaved = pc.shaved)
    (role : encounter.role index = pc.role)
    (barber : following.barber = state.barber) (awake : following.awake = state.awake)
    (queue : following.queue = state.queue)
    (recMsgSem : following.recMsgSem = state.recMsgSem)
    (sendMsgSem : following.sendMsgSem = state.sendMsgSem)
    (log : following.log = state.log) : Answers encounter following := by
  refine .inl (refines.client_main_moved idle quiet clients shaved ?_ rfl ?_
    (queue.trans refines.queue) (recMsgSem.trans refines.recMsgSem)
    (sendMsgSem.trans refines.sendMsgSem) (log.trans refines.log))
  · rw [← role, Function.update_eq_self]
  · rw [barber, awake]
    exact refines.duty

/-- In its busy wait a client keeps its role, or finds that it has been shaved. -/
private theorem waitShaved_answers {index : Fin options.noOfClients}
    (refines : Refines state encounter)
    (idle : (state.client index).catchSIGUSR1 = none)
    (pc : (state.client index).main = .waitShaved)
    (statement : clientMain state index = some following) :
    Answers encounter following := by
  simp only [clientMain, pc, Option.some.injEq] at statement
  subst statement
  have known := refines.role index
  refine .inl (refines.client_set _ (encounter.role index) rfl ?_
    (Function.update_eq_self _ _).symm (refines.noOfShaves index) (fun _ _ => rfl)
    refines.duty refines.queue refines.recMsgSem refines.sendMsgSem refines.log)
  rw [← known]
  simp only [Client.role, pc, idle] at known ⊢
  cases shaved : (state.client index).shaved <;>
    cases pending : (state.client index).pending <;>
      simp_all [ClientPc.shaved, ClientPc.role]

theorem clientMain_answers {index : Fin options.noOfClients}
    (refines : Refines state encounter) (guarded : Guarded state)
    (sound : encounter.Sound) (idle : (state.client index).catchSIGUSR1 = none)
    (statement : clientMain state index = some following) :
    Answers encounter following := by
  by_cases spins : (state.client index).main = .waitShaved
  · exact waitShaved_answers refines idle spins statement
  rcases Client.role_idle (refines.role index) spins with ⟨-, quiet, shaved, role⟩
  have visit := refines.visit_eq index
  cases pc : (state.client index).main with
  | waitShaved => exact absurd pc spins
  | loop =>
      rw [pc] at shaved role
      simp only [clientMain, pc, Option.some.injEq] at statement
      subst statement
      by_cases more : 0 < (state.client index).noOfShaves
      · rw [if_pos more]
        exact refines.client_still idle quiet rfl shaved role rfl rfl rfl rfl rfl rfl
      · rw [if_neg more]
        exact refines.client_still idle quiet rfl shaved role rfl rfl rfl rfl rfl rfl
  | lock =>
      rw [pc] at shaved role
      simp only [clientMain, pc, Option.map_eq_some_iff] at statement
      rcases statement with ⟨value, _, rfl⟩
      exact refines.client_still idle quiet rfl shaved role rfl rfl rfl rfl rfl rfl
  | testAwake =>
      rw [pc] at shaved role
      simp only [clientMain, pc, Option.some.injEq] at statement
      subst statement
      cases state.awake
      · exact refines.client_still idle quiet rfl shaved role rfl rfl rfl rfl rfl rfl
      · exact refines.client_still idle quiet rfl shaved role rfl rfl rfl rfl rfl rfl
  | testSeats =>
      rw [pc] at shaved role
      simp only [clientMain, pc, Option.some.injEq] at statement
      subst statement
      by_cases free : state.waiting < options.queueSize
      · rw [if_pos free]
        exact refines.client_still idle quiet rfl shaved role rfl rfl rfl rfl rfl rfl
      · rw [if_neg free]
        exact refines.client_still idle quiet rfl shaved role rfl rfl rfl rfl rfl rfl
  | takeSeat =>
      rw [pc] at shaved role
      simp only [clientMain, pc, Option.some.injEq] at statement
      subst statement
      exact refines.client_still idle quiet rfl shaved role rfl rfl rfl rfl rfl rfl
  | send =>
      rw [pc] at shaved role
      have shaves := guarded.attempting index (by simp [pc, ClientPc.attempting])
      rw [refines.noOfShaves] at shaves
      simp only [clientMain, pc] at statement
      split at statement
      · cases statement
        refine .inr ⟨.join index, _, if_pos ⟨role, shaves⟩, ?_⟩
        exact refines.client_main_moved idle quiet rfl shaved rfl rfl refines.duty
          (by simp [State.moveClient, refines.queue, visit]) refines.recMsgSem
          refines.sendMsgSem (by simp [State.moveClient, refines.log, visit])
      · cases statement
  | failUnlock =>
      rw [pc] at shaved role
      simp only [clientMain, pc, Option.some.injEq] at statement
      subst statement
      exact refines.client_still idle quiet rfl shaved role rfl rfl rfl rfl rfl rfl
  | failed => simp [clientMain, pc] at statement
  | unlock =>
      rw [pc] at shaved role
      simp only [clientMain, pc, Option.some.injEq] at statement
      subst statement
      exact refines.client_still idle quiet rfl shaved role rfl rfl rfl rfl rfl rfl
  | countShave =>
      rw [pc] at shaved role
      simp only [clientMain, pc, Option.some.injEq] at statement
      subst statement
      refine .inr ⟨.count index, _, if_pos role, ?_⟩
      exact refines.client_set _ .free rfl (by simp [Client.role, idle, quiet, shaved,
        ClientPc.shaved, ClientPc.role]) rfl (by simp [refines.noOfShaves])
        (by simp +contextual)
        refines.duty refines.queue refines.recMsgSem refines.sendMsgSem refines.log
  | clearShaved =>
      rw [pc] at shaved role
      simp only [clientMain, pc, Option.some.injEq] at statement
      subst statement
      refine .inl (refines.client_set _ .free rfl (by simp [Client.role, idle, quiet,
        ClientPc.shaved, ClientPc.role]) ?_ (refines.noOfShaves index) (fun _ _ => rfl)
        refines.duty refines.queue refines.recMsgSem refines.sendMsgSem refines.log)
      rw [show Role.free = encounter.role index from role.symm, Function.update_eq_self]
  | noSeats =>
      rw [pc] at shaved role
      simp only [clientMain, pc, Option.some.injEq] at statement
      subst statement
      exact refines.client_still idle quiet rfl shaved role rfl rfl rfl rfl rfl rfl
  | wake =>
      rw [pc] at shaved role
      have shaves := guarded.attempting index (by simp [pc, ClientPc.attempting])
      rw [refines.noOfShaves] at shaves
      rcases refines.asleep_of_wake guarded sound pc with
        ⟨asleep, sleeps, handles, pending, free⟩
      have empty := guarded.emptyQueue (.inr asleep)
      rw [refines.queue] at empty
      simp only [clientMain, pc, Option.some.injEq] at statement
      subst statement
      refine .inr ⟨.wake index, _, if_pos ⟨role, shaves, free, empty⟩, ?_⟩
      refine refines.client_main_moved idle quiet rfl shaved rfl rfl ?_ refines.queue
        refines.recMsgSem refines.sendMsgSem
        (by simp [State.moveClient, refines.log, visit])
      simp [State.moveClient, Barber.duty, sleeps, handles, pending, asleep, visit]
  | waitAwake =>
      rw [pc] at shaved role
      simp only [clientMain, pc, Option.map_eq_some_iff, State.waitSend_eq_some] at statement
      rcases statement with ⟨_, ⟨taken, rest, received, rfl⟩, rfl⟩
      rw [refines.sendMsgSem] at received
      refine .inr ⟨.clientTurn index, _, client_takes role (by decide) received, ?_⟩
      exact refines.client_main_moved idle quiet rfl shaved rfl rfl refines.duty
        refines.queue refines.recMsgSem rfl (by rw [← refines.log, visit]; rfl)
  | wakeUnlock =>
      rw [pc] at shaved role
      simp only [clientMain, pc, Option.some.injEq] at statement
      subst statement
      exact refines.client_still idle quiet rfl shaved role rfl rfl rfl rfl rfl rfl
  | postSeated =>
      rw [pc] at shaved role
      simp only [clientMain, pc, Option.some.injEq] at statement
      subst statement
      refine .inr ⟨.clientTurn index, _, client_sends role, ?_⟩
      exact refines.client_main_moved idle quiet rfl shaved rfl rfl refines.duty
        refines.queue (by simp [State.moveClient, refines.recMsgSem, visit, message])
        refines.sendMsgSem refines.log
  | waitDone =>
      rw [pc] at shaved role
      simp only [clientMain, pc, Option.map_eq_some_iff, State.waitSend_eq_some] at statement
      rcases statement with ⟨_, ⟨taken, rest, received, rfl⟩, rfl⟩
      rw [refines.sendMsgSem] at received
      refine .inr ⟨.clientTurn index, _, client_takes role (by decide) received, ?_⟩
      exact refines.client_main_moved idle quiet rfl shaved rfl rfl refines.duty
        refines.queue refines.recMsgSem rfl (by rw [← refines.log, visit]; rfl)
  | postLeaving =>
      rw [pc] at shaved role
      simp only [clientMain, pc, Option.some.injEq] at statement
      subst statement
      refine .inr ⟨.clientTurn index, _, client_leaves role, ?_⟩
      exact refines.client_main_moved idle quiet rfl shaved rfl rfl refines.duty
        refines.queue (by simp [State.moveClient, refines.recMsgSem, visit, message])
        refines.sendMsgSem (by simp [State.moveClient, refines.log, visit])
  | countVisit =>
      rw [pc] at shaved role
      simp only [clientMain, pc, Option.some.injEq] at statement
      subst statement
      refine .inr ⟨.count index, _, if_pos role, ?_⟩
      exact refines.client_set _ .free rfl (by simp [Client.role, idle, quiet, shaved,
        ClientPc.shaved, ClientPc.role]) rfl (by simp [refines.noOfShaves])
        (by simp +contextual)
        refines.duty refines.queue refines.recMsgSem refines.sendMsgSem refines.log
  | finished => simp [clientMain, pc] at statement

/-! ## Statements of `catchSIGUSR1` -/

theorem Client.role_handling {client : Client} {role : Role} {pc : InvitedPc}
    (known : client.role = some role) (handling : client.catchSIGUSR1 = some pc) :
    client.main = .waitShaved ∧ client.pending = false ∧ client.shaved = false ∧
      role = pc.role := by
  have spins := Client.waits_of_signal known (.inl (by simp [handling]))
  simp only [Client.role, spins, handling] at known
  cases pending : client.pending <;> cases shaved : client.shaved <;>
    simp_all

theorem Refines.handler_client_moved {final : Encounter options}
    {index : Fin options.noOfClients} {pc : InvitedPc}
    (refines : Refines state encounter)
    (spins : (state.client index).main = .waitShaved)
    (quiet : (state.client index).pending = false)
    (shaved : (state.client index).shaved = false)
    (clients : following.client = Function.update state.client index
      { state.client index with catchSIGUSR1 := some pc })
    (role : final.role = Function.update encounter.role index pc.role)
    (shaves : final.noOfShaves = encounter.noOfShaves)
    (duty : following.barber.duty following.awake = some final.duty)
    (queue : following.queue = final.queue)
    (recMsgSem : following.recMsgSem = final.recMsgSem)
    (sendMsgSem : following.sendMsgSem = final.sendMsgSem)
    (log : following.log = final.log) : Refines following final := by
  refine refines.client_set _ _ clients ?_ role ?_ (fun _ _ => by rw [shaves]) duty queue
    recMsgSem sendMsgSem log
  · simp [Client.role, spins, quiet, shaved]
  · rw [shaves]
    exact refines.noOfShaves index

theorem catchSIGUSR1_answers {index : Fin options.noOfClients} {pc : InvitedPc}
    (refines : Refines state encounter)
    (handling : (state.client index).catchSIGUSR1 = some pc)
    (statement : catchSIGUSR1 state index pc = some following) :
    Answers encounter following := by
  rcases Client.role_handling (refines.role index) handling with
    ⟨spins, quiet, shaved, role⟩
  have visit := refines.visit_eq index
  cases pc with
  | postSeated =>
      simp only [catchSIGUSR1, Option.some.injEq] at statement
      subst statement
      refine .inr ⟨.clientTurn index, _, client_sends role, ?_⟩
      exact refines.handler_client_moved spins quiet shaved rfl rfl rfl refines.duty
        refines.queue (by simp [State.moveSIGUSR1, refines.recMsgSem, visit, message])
        refines.sendMsgSem refines.log
  | waitDone =>
      simp only [catchSIGUSR1, Option.map_eq_some_iff, State.waitSend_eq_some] at statement
      rcases statement with ⟨_, ⟨taken, rest, received, rfl⟩, rfl⟩
      rw [refines.sendMsgSem] at received
      refine .inr ⟨.clientTurn index, _, client_takes role (by decide) received, ?_⟩
      exact refines.handler_client_moved spins quiet shaved rfl rfl rfl refines.duty
        refines.queue refines.recMsgSem rfl (by rw [← refines.log, visit]; rfl)
  | postLeaving =>
      simp only [catchSIGUSR1, Option.some.injEq] at statement
      subst statement
      refine .inr ⟨.clientTurn index, _, client_leaves role, ?_⟩
      exact refines.handler_client_moved spins quiet shaved rfl rfl rfl refines.duty
        refines.queue (by simp [State.moveSIGUSR1, refines.recMsgSem, visit, message])
        refines.sendMsgSem (by simp [State.moveSIGUSR1, refines.log, visit])
  | setShaved =>
      simp only [catchSIGUSR1, Option.some.injEq] at statement
      subst statement
      refine .inl (refines.client_set _ .served rfl (by simp [Client.role, spins, quiet]) ?_
        (refines.noOfShaves index) (fun _ _ => rfl) refines.duty refines.queue
        refines.recMsgSem refines.sendMsgSem refines.log)
      rw [show Role.served = encounter.role index from role.symm, Function.update_eq_self]

/-- An invitation is taken when it is sent; handling it only starts the dialogue. -/
theorem deliverSIGUSR1_answers {index : Fin options.noOfClients}
    (refines : Refines state encounter)
    (idle : (state.client index).catchSIGUSR1 = none)
    (pending : (state.client index).pending = true)
    (delivered : following = state.setClient index { state.client index with
      catchSIGUSR1 := some .postSeated, pending := false }) :
    Answers encounter following := by
  have known := refines.role index
  have spins := Client.waits_of_signal known (.inr pending)
  simp only [Client.role, spins, idle, pending] at known
  cases shaved : (state.client index).shaved
  · simp only [shaved, Option.some.injEq] at known
    subst delivered
    refine .inl (refines.client_set _ (.engaged 1) rfl
      (by simp [Client.role, spins, shaved, InvitedPc.role]) ?_ (refines.noOfShaves index)
      (fun _ _ => rfl) refines.duty refines.queue refines.recMsgSem refines.sendMsgSem
      refines.log)
    rw [known, Function.update_eq_self]
  · simp [shaved] at known

theorem Refines.answers (refines : Refines state encounter) (guarded : Guarded state)
    (sound : encounter.Sound) (stepped : StepOf state following) :
    Answers encounter following := by
  cases stepped with
  | barberMain idle statement =>
      exact barberMain_answers refines guarded sound idle statement
  | barberHandler pc visit handling statement =>
      exact catchSIGUSR2_answers refines handling statement
  | deliverSIGUSR2 visit idle pending delivered =>
      exact deliverSIGUSR2_answers refines idle pending delivered
  | clientMain index idle statement =>
      exact clientMain_answers refines guarded sound idle statement
  | clientHandler index pc handling statement =>
      exact catchSIGUSR1_answers refines handling statement
  | deliverSIGUSR1 index idle pending delivered =>
      exact deliverSIGUSR1_answers refines idle pending delivered

end OsExercises.SleepingBarber
