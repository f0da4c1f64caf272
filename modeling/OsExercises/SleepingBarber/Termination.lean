import OsExercises.Foundation.Termination
import OsExercises.Foundation.Totals
import OsExercises.SleepingBarber.Progress

/-! # The shop closes

Apart from busy waits and from attempts in vain there are finitely many steps. When no others
are possible, every client has got all its shaves and has returned, and the barber sleeps. -/

namespace OsExercises.SleepingBarber

open OsExercises

variable {options : Options} {state following : State options} {encounter : Encounter options}

/-- A client with shaves left begins an attempt that will find no free seat, or is on its way out
of one. -/
def InVain (state : State options) : Action options → Prop
  | .client index =>
      ((state.client index).main ∈ [ClientPc.loop, .lock] ∧ state.Full ∧
        0 < (state.client index).noOfShaves) ∨ state.Turned index
  | _ => False

/-- A step that does not bring the shop on. -/
def Idle (state : State options) (action : Action options) : Prop :=
  BusyWait state action ∨ InVain state action

instance (state : State options) : Decidable state.Full :=
  inferInstanceAs (Decidable (_ ∧ ¬ _))

instance (state : State options) (index : Fin options.noOfClients) :
    Decidable (state.Turned index) :=
  inferInstanceAs (Decidable (_ ∧ _ ∨ _))

instance (state : State options) : ∀ action, Decidable (BusyWait state action)
  | .barber | .client _ => inferInstanceAs (Decidable (_ ∧ _ ∧ _))
  | .deliverSIGUSR2 _ | .deliverSIGUSR1 _ _ | .failSend _ => isFalse id

instance (state : State options) : ∀ action, Decidable (InVain state action)
  | .client _ => inferInstanceAs (Decidable (_ ∧ _ ∧ _ ∨ _))
  | .barber | .deliverSIGUSR2 _ | .deliverSIGUSR1 _ _ | .failSend _ => isFalse id

instance (state : State options) (action : Action options) : Decidable (Idle state action) :=
  inferInstanceAs (Decidable (_ ∨ _))

/-! ## What is left to do -/

/-- A client that waits to be shaved, by itself or in its handler. -/
def Client.waitRank (client : Client) : Nat :=
  match client.catchSIGUSR1 with
  | none => if client.shaved then 4 else 9
  | some .postSeated => 8
  | some .waitDone => 7
  | some .postLeaving => 6
  | some .setShaved => 5

/-- The statements up to the end of the visit. While no seat is free, those of an attempt do not
count; a client that changes this for the others pays for it with `takeSeat` or `wake`. -/
def Client.position (options : Options) (full : Bool) (client : Client) : Nat :=
  match client.main with
  | .clearShaved => 4 * options.noOfClients + 28
  | .loop | .noSeats => 4 * options.noOfClients + 27
  | .lock => if full then 4 * options.noOfClients + 27 else 4 * options.noOfClients + 26
  | .testAwake => if full then 4 * options.noOfClients + 27 else 4 * options.noOfClients + 25
  | .testSeats => if full then 4 * options.noOfClients + 27 else 4 * options.noOfClients + 24
  | .takeSeat | .wake => 4 * options.noOfClients + 23
  | .send => 22
  | .unlock => 10
  | .waitShaved => client.waitRank
  | .waitAwake => 8
  | .wakeUnlock => 7
  | .postSeated => 6
  | .waitDone => 5
  | .postLeaving => 4
  | .countShave | .countVisit => 3
  | .failUnlock | .failed | .finished => 0

/-- Each visit that is left counts as many statements as a visit can have. -/
def Client.rank (options : Options) (full : Bool) (client : Client) : Nat :=
  client.noOfShaves * (4 * options.noOfClients + 29) + client.position options full

def BarberPc.rank (awake : Bool) : BarberPc options → Nat
  | .decrement _ => 12
  | .invite _ => 11
  | .waitSeated _ => 10
  | .unlock _ => 9
  | .postDone _ => 8
  | .waitLeaving _ => 7
  | .sleep => if awake then 5 else 0
  | .lock => 4
  | .receive => 3
  | .setAsleep => 2
  | .unlockAsleep => 1

/-- A barber that wakes up may spoil the attempts of all clients. -/
def WakePc.rank (options : Options) : WakePc → Nat
  | .setAwake => 4 * options.noOfClients + 12
  | .postAwake => 6
  | .waitSeated => 5
  | .postDone => 4
  | .waitLeaving => 3

def Barber.rank (barber : Barber options) (awake : Bool) : Nat :=
  barber.main.rank awake + (barber.catchSIGUSR2.elim 0 fun handler => handler.1.rank options) +
    (barber.pending.elim 0 fun _ => 4 * options.noOfClients + 13)

namespace State

def clientsRank (state : State options) : Nat :=
  total (Client.rank options (decide state.Full)) state.client

/-- A visit in the queue counts the barber's statements for it. -/
def rank (state : State options) : Nat :=
  state.clientsRank + state.barber.rank state.awake + 11 * state.queue.length

end State

def mostSteps (options : Options) : Nat :=
  (initial options).rank

/-! ## Seats that are taken or given back -/

theorem Client.rank_false_le (full : Bool) (client : Client) :
    client.rank options false ≤ client.rank options full := by
  unfold Client.rank Client.position
  cases full
  · exact Nat.le_refl _
  · cases client.main <;> simp

theorem Client.rank_le (before after : Bool) (client : Client) :
    client.rank options after ≤ client.rank options before + 3 := by
  unfold Client.rank Client.position
  cases before <;> cases after <;> cases client.main <;> simp <;> omega

/-- There are not fewer seats free for the clients. -/
theorem clientsRank_le (clients : Fin options.noOfClients → Client)
    (seats : following.Full → state.Full) :
    total (Client.rank options (decide following.Full)) clients ≤
      total (Client.rank options (decide state.Full)) clients := by
  have grows (index : Fin options.noOfClients) :
      (clients index).rank options (decide following.Full) ≤
        (clients index).rank options (decide state.Full) + 0 := by
    by_cases full : following.Full
    · simp [full, seats full]
    · rw [decide_eq_false full]
      exact (clients index).rank_false_le _
  simpa using total_le_add _ clients grows

/-- The last seat is taken. -/
theorem clientsRank_spoiled (clients : Fin options.noOfClients → Client) (before after : Bool) :
    total (Client.rank options after) clients ≤
      total (Client.rank options before) clients + 3 * options.noOfClients := by
  have more := total_le_add (Client.rank options before) clients
    fun index => (clients index).rank_le before after
  rw [Fintype.card_fin, Nat.mul_comm] at more
  exact more

/-- One client moves, and there are not fewer seats free. -/
theorem clientsRank_move {index : Fin options.noOfClients} {client : Client}
    (clients : following.client = Function.update state.client index client)
    (seats : following.Full → state.Full) :
    following.clientsRank + (state.client index).rank options (decide state.Full) ≤
      state.clientsRank + client.rank options (decide state.Full) := by
  have moved := total_update (Client.rank options (decide state.Full)) state.client index client
  have fewer := clientsRank_le following.client seats
  unfold State.clientsRank
  rw [clients] at fewer ⊢
  omega

/-- A client that stays where it is. -/
theorem clientsRank_unmoved {index : Fin options.noOfClients} {client : Client}
    (clients : following.client = Function.update state.client index client)
    (seats : following.Full → state.Full)
    (same : client.rank options (decide state.Full) =
      (state.client index).rank options (decide state.Full)) :
    following.clientsRank ≤ state.clientsRank := by
  have moved := clientsRank_move clients seats
  omega

/-- One client moves, and the last seat may be taken. -/
theorem clientsRank_move_spoiled {index : Fin options.noOfClients} {client : Client}
    (clients : following.client = Function.update state.client index client) :
    following.clientsRank + (state.client index).rank options (decide state.Full) ≤
      state.clientsRank + client.rank options (decide state.Full) + 3 * options.noOfClients := by
  have moved := total_update (Client.rank options (decide state.Full)) state.client index client
  have spoiled := clientsRank_spoiled following.client (decide state.Full)
    (decide following.Full)
  unfold State.clientsRank
  rw [clients] at spoiled ⊢
  omega

/-! ## Steps of the barber -/

theorem clientsRank_same (clients : following.client = state.client)
    (seats : following.Full → state.Full) : following.clientsRank ≤ state.clientsRank := by
  unfold State.clientsRank
  rw [clients]
  exact clientsRank_le state.client seats

/-- The barber makes a step that is not a loss for the clients. -/
theorem rank_of_barber (clients : following.clientsRank ≤ state.clientsRank)
    (lower : following.barber.rank following.awake + 11 * following.queue.length <
      state.barber.rank state.awake + 11 * state.queue.length) : following.rank < state.rank := by
  unfold State.rank
  omega

theorem barberMain_rank (refines : Refines state encounter)
    (idle : state.barber.catchSIGUSR2 = none) (statement : barberMain state = some following) :
    following.rank ≤ state.rank ∧ (¬ Idle state .barber → following.rank < state.rank) := by
  have lower (less : following.rank < state.rank) :
      following.rank ≤ state.rank ∧ (¬ Idle state .barber → following.rank < state.rank) :=
    ⟨Nat.le_of_lt less, fun _ => less⟩
  cases pc : state.barber.main with
  | lock =>
      simp only [barberMain, pc, Option.map_eq_some_iff, semWait_eq_some] at statement
      rcases statement with ⟨value, taken, rfl⟩
      refine lower (rank_of_barber (clientsRank_same rfl id) ?_)
      simp [Barber.rank, pc, BarberPc.rank]
  | receive =>
      simp only [barberMain, pc] at statement
      split at statement
      · cases statement
        refine lower (rank_of_barber (clientsRank_same rfl id) ?_)
        simp [Barber.rank, pc, BarberPc.rank]
      · next visit rest queue =>
          cases statement
          refine lower (rank_of_barber (clientsRank_same rfl id) ?_)
          simp [Barber.rank, pc, BarberPc.rank, queue]
          omega
  | decrement visit =>
      simp only [barberMain, pc, Option.some.injEq] at statement
      subst statement
      refine lower (rank_of_barber (clientsRank_same rfl ?_) ?_)
      · intro full
        rcases full with ⟨awake, taken⟩
        refine ⟨awake, ?_⟩
        simp only [State.moveBarber_waiting] at taken
        omega
      · simp [Barber.rank, pc, BarberPc.rank]
  | invite visit =>
      simp only [barberMain, pc, Option.some.injEq] at statement
      subst statement
      refine lower (rank_of_barber ?_ ?_)
      · refine clientsRank_unmoved rfl id ?_
        simp [Client.rank, Client.position, Client.waitRank]
      · simp [Barber.rank, pc, BarberPc.rank, State.killSIGUSR1]
  | waitSeated visit | waitLeaving visit =>
      simp only [barberMain, pc, Option.map_eq_some_iff, State.waitRec_eq_some] at statement
      rcases statement with ⟨_, ⟨taken, rest, received, rfl⟩, rfl⟩
      refine lower (rank_of_barber (clientsRank_same rfl id) ?_)
      simp [Barber.rank, pc, BarberPc.rank]
  | unlock visit | postDone visit =>
      simp only [barberMain, pc, Option.some.injEq] at statement
      subst statement
      refine lower (rank_of_barber (clientsRank_same rfl id) ?_)
      simp [Barber.rank, pc, BarberPc.rank]
  | setAsleep =>
      simp only [barberMain, pc, Option.some.injEq] at statement
      subst statement
      refine lower (rank_of_barber (clientsRank_same rfl ?_) ?_)
      · intro full
        cases full.1
      · simp [Barber.rank, pc, BarberPc.rank]
  | unlockAsleep =>
      simp only [barberMain, pc, Option.some.injEq] at statement
      subst statement
      have asleep : state.awake = false := by
        have flag := (Barber.duty_idle refines.duty (by simp [pc])).2.2.1
        simpa [pc] using flag
      refine lower (rank_of_barber (clientsRank_same rfl id) ?_)
      simp [Barber.rank, pc, BarberPc.rank, asleep]
  | sleep =>
      simp only [barberMain, pc, Option.some.injEq] at statement
      subst statement
      by_cases awake : state.awake = true
      · rw [if_pos awake] at lower ⊢
        refine lower (rank_of_barber (clientsRank_same rfl id) ?_)
        simp [Barber.rank, pc, BarberPc.rank, awake]
      · have asleep : state.awake = false := Bool.eq_false_iff.mpr awake
        rw [if_neg awake]
        refine ⟨?_, fun busy => absurd (.inl ⟨idle, pc, asleep⟩) busy⟩
        have clients : (state.moveBarber .sleep).clientsRank ≤ state.clientsRank :=
          clientsRank_same rfl id
        simp [State.rank, Barber.rank, pc]
        omega

theorem catchSIGUSR2_rank (refines : Refines state encounter) {pc : WakePc}
    {visit : Visit options} (handling : state.barber.catchSIGUSR2 = some (pc, visit))
    (statement : catchSIGUSR2 state pc visit = some following) :
    following.rank < state.rank := by
  have asleep := (Barber.duty_handling refines.duty handling).1
  cases pc with
  | setAwake =>
      cases statement
      have spoiled := clientsRank_spoiled state.client (decide state.Full)
        (decide ({ state with awake := true }.moveSIGUSR2 (some (.postAwake, visit))).Full)
      simp [State.rank, State.clientsRank, Barber.rank, handling, asleep, WakePc.rank,
        BarberPc.rank] at spoiled ⊢
      split <;> omega
  | postAwake | postDone =>
      cases statement
      refine rank_of_barber (clientsRank_same rfl id) ?_
      simp [Barber.rank, handling, WakePc.rank]
  | waitSeated | waitLeaving =>
      simp only [catchSIGUSR2, Option.map_eq_some_iff, State.waitRec_eq_some] at statement
      rcases statement with ⟨_, ⟨taken, rest, received, rfl⟩, rfl⟩
      refine rank_of_barber (clientsRank_same rfl id) ?_
      simp [Barber.rank, handling, WakePc.rank]

theorem deliverSIGUSR2_rank {visit : Visit options}
    (idle : state.barber.catchSIGUSR2 = none) (pending : state.barber.pending = some visit)
    (delivered : following = { state with barber := { state.barber with
      catchSIGUSR2 := some (.setAwake, visit), pending := none } }) :
    following.rank < state.rank := by
  subst delivered
  refine rank_of_barber (clientsRank_same rfl id) ?_
  simp [Barber.rank, idle, pending, WakePc.rank]

/-! ## Steps of a client -/

/-- A client makes a step that is not a loss for the others. -/
theorem rank_of_client {index : Fin options.noOfClients} {client : Client} {busy : Prop}
    (clients : following.client = Function.update state.client index client)
    (seats : following.Full → state.Full) (barber : following.barber = state.barber)
    (awake : following.awake = state.awake) (queue : following.queue = state.queue)
    (lower : client.rank options (decide state.Full) ≤
        (state.client index).rank options (decide state.Full) ∧
      (busy → client.rank options (decide state.Full) <
        (state.client index).rank options (decide state.Full))) :
    following.rank ≤ state.rank ∧ (busy → following.rank < state.rank) := by
  have moved := clientsRank_move clients seats
  unfold State.rank
  rw [barber, awake, queue]
  refine ⟨by omega, fun working => ?_⟩
  have less := lower.2 working
  omega

theorem le_and_lt {amount bound : Nat} {busy : Prop} (less : amount < bound) :
    amount ≤ bound ∧ (busy → amount < bound) :=
  ⟨Nat.le_of_lt less, fun _ => less⟩

theorem le_and_vain {amount bound : Nat} {vain : Prop} (holds : vain) (same : amount = bound) :
    amount ≤ bound ∧ (¬ vain → amount < bound) :=
  ⟨Nat.le_of_eq same, fun busy => absurd holds busy⟩

/-- One visit less is left. -/
theorem Client.rank_count {client counted : Client} {full : Bool} (left : 0 < client.noOfShaves)
    (less : counted.noOfShaves = client.noOfShaves - 1)
    (position : counted.position options full ≤ 4 * options.noOfClients + 28) :
    counted.rank options full < client.rank options full := by
  rcases Nat.exists_eq_succ_of_ne_zero (Nat.ne_of_gt left) with ⟨rest, same⟩
  rw [Client.rank, Client.rank, less, same, Nat.succ_sub_one, Nat.succ_mul rest]
  omega

/-- A step of an attempt is in vain, or it uses up a statement. -/
theorem attempt_rank {index : Fin options.noOfClients} (guarded : Guarded state)
    (attempting : (state.client index).main ∈
      [ClientPc.loop, .lock, .testAwake, .testSeats, .noSeats])
    (statement : clientMain state index = some following) :
    following.rank ≤ state.rank ∧
      (¬ Idle state (.client index) → following.rank < state.rank) := by
  simp only [List.mem_cons, List.not_mem_nil, or_false] at attempting
  rcases attempting with pc | pc | pc | pc | pc
  · simp only [clientMain, pc, Option.some.injEq] at statement
    subst statement
    refine rank_of_client rfl id rfl rfl rfl ?_
    by_cases left : 0 < (state.client index).noOfShaves
    · by_cases full : state.Full
      · refine le_and_vain (.inr (.inl ⟨by simp [pc], full, left⟩)) ?_
        simp [Client.rank, Client.position, pc, left, full]
      · refine le_and_lt ?_
        simp [Client.rank, Client.position, pc, left, full]
    · refine le_and_lt ?_
      simp [Client.rank, Client.position, pc, left]
  · have left := guarded.attempting index (by rw [pc]; rfl)
    simp only [clientMain, pc, Option.map_eq_some_iff, semWait_eq_some] at statement
    rcases statement with ⟨value, taken, rfl⟩
    refine rank_of_client rfl id rfl rfl rfl ?_
    by_cases full : state.Full
    · refine le_and_vain (.inr (.inl ⟨by simp [pc], full, left⟩)) ?_
      simp [Client.rank, Client.position, pc, full]
    · refine le_and_lt ?_
      simp [Client.rank, Client.position, pc, full]
  · simp only [clientMain, pc, Option.some.injEq] at statement
    subst statement
    refine rank_of_client rfl id rfl rfl rfl ?_
    by_cases full : state.Full
    · refine le_and_vain (.inr (.inr (.inl ⟨by simp [pc], full⟩))) ?_
      simp [Client.rank, Client.position, pc, full, full.1]
    · refine le_and_lt ?_
      by_cases awake : state.awake = true <;>
        simp [Client.rank, Client.position, pc, full, awake]
  · have awake := guarded.foundAwake index (by rw [pc]; rfl)
    simp only [clientMain, pc, Option.some.injEq] at statement
    subst statement
    refine rank_of_client rfl id rfl rfl rfl ?_
    by_cases seat : state.waiting < options.queueSize
    · have free : ¬ state.Full := fun full => full.2 seat
      refine le_and_lt ?_
      simp [Client.rank, Client.position, pc, free, seat]
    · have full : state.Full := ⟨awake, seat⟩
      refine le_and_vain (.inr (.inr (.inl ⟨by simp [pc], full⟩))) ?_
      simp [Client.rank, Client.position, pc, full, seat]
  · simp only [clientMain, pc, Option.some.injEq] at statement
    subst statement
    refine rank_of_client rfl id rfl rfl rfl (le_and_vain (.inr (.inr (.inr pc))) ?_)
    simp [Client.rank, Client.position, pc]

/-- A client pays for what it leaves to the barber. -/
theorem rank_of_payment {index : Fin options.noOfClients} {client : Client}
    (clients : following.client = Function.update state.client index client)
    (seats : following.Full → state.Full)
    (paid : client.rank options (decide state.Full) +
        (following.barber.rank following.awake + 11 * following.queue.length) <
      (state.client index).rank options (decide state.Full) +
        (state.barber.rank state.awake + 11 * state.queue.length)) :
    following.rank < state.rank := by
  have moved := clientsRank_move clients seats
  unfold State.rank
  omega

/-- A client takes the last seat, perhaps. -/
theorem takeSeat_rank {index : Fin options.noOfClients}
    (pc : (state.client index).main = .takeSeat)
    (statement : clientMain state index = some following) : following.rank < state.rank := by
  simp only [clientMain, pc, Option.some.injEq] at statement
  subst statement
  have clients : ({ state with waiting := state.waiting + 1 }.moveClient index .send).client =
      Function.update state.client index { state.client index with main := .send } := rfl
  have moved := clientsRank_move_spoiled clients
  simp only [Client.rank, Client.position, pc] at moved
  unfold State.rank
  simp only [State.moveClient, State.setClient_barber, State.setClient_awake,
    State.setClient_queue] at moved ⊢
  omega

theorem send_rank {index : Fin options.noOfClients} (pc : (state.client index).main = .send)
    (statement : clientMain state index = some following) : following.rank < state.rank := by
  simp only [clientMain, pc] at statement
  split at statement
  · cases statement
    refine rank_of_payment rfl id ?_
    simp [Client.rank, Client.position, pc, State.moveClient]
    omega
  · cases statement

/-- The client wakes the barber up. -/
theorem wake_rank {index : Fin options.noOfClients} (pc : (state.client index).main = .wake)
    (statement : clientMain state index = some following) : following.rank < state.rank := by
  simp only [clientMain, pc, Option.some.injEq] at statement
  subst statement
  refine rank_of_payment rfl id ?_
  simp [Client.rank, Client.position, pc, State.moveClient, Barber.rank]
  cases state.barber.pending with
  | none =>
      simp only [Option.elim_none, Option.elim_some]
      omega
  | some earlier =>
      simp only [Option.elim_some]
      omega

theorem clientMain_rank {index : Fin options.noOfClients} (refines : Refines state encounter)
    (guarded : Guarded state) (sound : encounter.Sound)
    (idle : (state.client index).catchSIGUSR1 = none)
    (statement : clientMain state index = some following) :
    following.rank ≤ state.rank ∧
      (¬ Idle state (.client index) → following.rank < state.rank) := by
  cases pc : (state.client index).main with
  | loop | lock | testAwake | testSeats | noSeats =>
      exact attempt_rank guarded (by simp [pc]) statement
  | takeSeat => exact le_and_lt (takeSeat_rank pc statement)
  | send => exact le_and_lt (send_rank pc statement)
  | wake => exact le_and_lt (wake_rank pc statement)
  | failUnlock =>
      have sends := guarded.sends index
      rw [pc] at sends
      cases sends
  | unlock =>
      have shaved := (Client.role_idle (refines.role index) (by simp [pc])).2.2.1
      rw [pc] at shaved
      simp only [clientMain, pc, Option.some.injEq] at statement
      subst statement
      refine rank_of_client rfl id rfl rfl rfl (le_and_lt ?_)
      simp [Client.rank, Client.position, Client.waitRank, pc, idle, shaved, ClientPc.shaved]
  | waitShaved =>
      simp only [clientMain, pc, Option.some.injEq] at statement
      subst statement
      refine rank_of_client rfl id rfl rfl rfl ?_
      by_cases shaved : (state.client index).shaved = true
      · refine le_and_lt ?_
        simp [Client.rank, Client.position, Client.waitRank, pc, idle, shaved]
      · have waits : (state.client index).shaved = false := Bool.eq_false_iff.mpr shaved
        refine le_and_vain (.inl ⟨idle, pc, waits⟩) ?_
        simp [Client.rank, Client.position, Client.waitRank, pc, idle, waits]
  | countShave | countVisit =>
      have role := (Client.role_idle (refines.role index) (by simp [pc])).2.2.2
      rw [pc] at role
      have left := sound.shavesLeft index (by simp [role, ClientPc.role])
      rw [← refines.noOfShaves] at left
      simp only [clientMain, pc, Option.some.injEq] at statement
      subst statement
      refine rank_of_client rfl id rfl rfl rfl (le_and_lt (Client.rank_count left rfl ?_))
      simp [Client.position]
  | clearShaved | wakeUnlock | postSeated | postLeaving =>
      simp only [clientMain, pc, Option.some.injEq] at statement
      subst statement
      refine rank_of_client rfl id rfl rfl rfl (le_and_lt ?_)
      simp [Client.rank, Client.position, pc]
  | waitAwake | waitDone =>
      simp only [clientMain, pc, Option.map_eq_some_iff, State.waitSend_eq_some] at statement
      rcases statement with ⟨_, ⟨taken, rest, received, rfl⟩, rfl⟩
      refine rank_of_client rfl id rfl rfl rfl (le_and_lt ?_)
      simp [Client.rank, Client.position, pc]
  | failed | finished => simp [clientMain, pc] at statement

theorem catchSIGUSR1_rank {index : Fin options.noOfClients} (refines : Refines state encounter)
    {pc : InvitedPc} (handling : (state.client index).catchSIGUSR1 = some pc)
    (statement : catchSIGUSR1 state index pc = some following) :
    following.rank < state.rank := by
  have spins := (Client.role_handling (refines.role index) handling).1
  cases pc with
  | postSeated | postLeaving | setShaved =>
      cases statement
      refine rank_of_payment rfl id ?_
      simp [Client.rank, Client.position, Client.waitRank, spins, handling, State.moveSIGUSR1]
  | waitDone =>
      simp only [catchSIGUSR1, Option.map_eq_some_iff, State.waitSend_eq_some] at statement
      rcases statement with ⟨_, ⟨taken, rest, received, rfl⟩, rfl⟩
      refine rank_of_payment rfl id ?_
      simp [Client.rank, Client.position, Client.waitRank, spins, handling, State.moveSIGUSR1]

/-- A signal interrupts no blocked operation. -/
theorem deliverSIGUSR2_step (refines : Refines state encounter) {interrupts : Bool}
    (taken : deliverSIGUSR2 state interrupts = some following) :
    following.rank < state.rank := by
  simp only [deliverSIGUSR2] at taken
  split at taken
  · next visit idle pending =>
      have asleep := Barber.sleeps_of_signal refines.duty (.inr (by simp [pending]))
      split at taken
      · simp [interruptBarber, asleep] at taken
      · cases taken
        exact deliverSIGUSR2_rank idle pending rfl
  · cases taken

theorem deliverSIGUSR1_step {index : Fin options.noOfClients} (refines : Refines state encounter)
    {interrupts : Bool} (taken : deliverSIGUSR1 state index interrupts = some following) :
    following.rank < state.rank := by
  simp only [deliverSIGUSR1] at taken
  split at taken
  · next possible =>
      rcases possible with ⟨idle, pending, _⟩
      have known := refines.role index
      have spins := Client.waits_of_signal known (.inr pending)
      have shaved : (state.client index).shaved = false := by
        simp only [Client.role, spins, idle, pending] at known
        cases shaved : (state.client index).shaved <;> simp_all
      split at taken
      · simp [interruptClient, spins] at taken
      · cases taken
        refine rank_of_payment rfl id ?_
        simp [Client.rank, Client.position, Client.waitRank, spins, idle, shaved]
  · cases taken

theorem descends (options : Options) :
    (system options).Descends SendsSucceed Idle State.rank := by
  intro current action following reachable permitted taken
  rcases encountered reachable with ⟨encounter, _, sound, refines, guarded⟩
  cases action with
  | barber =>
      simp only [system, barberStep] at taken
      split at taken
      · next pc visit handling =>
          exact le_and_lt (catchSIGUSR2_rank refines handling taken)
      · next idle => exact barberMain_rank refines idle taken
  | deliverSIGUSR2 interrupts => exact le_and_lt (deliverSIGUSR2_step refines taken)
  | client index =>
      simp only [system, clientStep] at taken
      split at taken
      · next pc handling => exact le_and_lt (catchSIGUSR1_rank refines handling taken)
      · next idle => exact clientMain_rank refines guarded sound idle taken
  | deliverSIGUSR1 index interrupts => exact le_and_lt (deliverSIGUSR1_step refines taken)
  | failSend index => exact permitted.elim

/-! ## The end -/

/-- Every client has had all its shaves and has returned, and the barber sleeps. -/
structure Closed (state : State options) : Prop where
  clients : ∀ index, (state.client index).main = .finished ∧ (state.client index).noOfShaves = 0
  /-- Each visit of each client has been shaved, in the order of admission. -/
  visits : ∀ index, (state.log.admitted.countP fun visit => visit.pid = index) =
    options.noOfShaves index
  started : state.log.started = state.log.admitted
  barber : state.barber.main = .sleep ∧ state.barber.catchSIGUSR2 = none ∧
    state.barber.pending = none ∧ state.awake = false
  queue : state.queue = []

/-- A client that has had all its shaves is not in the middle of one. -/
theorem Refines.role_free (refines : Refines state encounter) (sound : encounter.Sound)
    {index : Fin options.noOfClients} (nothing : (state.client index).noOfShaves = 0) :
    encounter.role index = .free := by
  by_contra engaged
  have left := sound.shavesLeft index engaged
  rw [← refines.noOfShaves, nothing] at left
  cases left

section Halted

variable (nobody : ∀ index, ¬ state.Turned index)
variable (halted : (system options).Halted SendsSucceed Idle state)

include nobody halted

/-- While nobody is on the way out of an attempt in vain, all that can happen is an attempt or a
busy wait. -/
theorem not_productive (refines : Refines state encounter) (guarded : Guarded state)
    {action : Action options} : ¬ Productive state action := by
  intro productive
  rcases productive with ⟨enabled, notBusy, notRetry⟩
  have stuck (succeeds : SendsSucceed state action) (works : ¬ InVain state action) : False := by
    have disabled := halted action succeeds fun idle => idle.elim notBusy works
    rw [TransitionSystem.Enabled, disabled] at enabled
    cases enabled
  cases action with
  | failSend index =>
      -- a send that may fail may also succeed
      have sending : (state.client index).main = .send := by
        simp only [TransitionSystem.Enabled, system, failSend] at enabled
        split at enabled
        · next possible => exact possible.2
        · cases enabled
      have locked : (state.client index).main.locked = true := by rw [sending]; rfl
      have goesOn := refines.inside_enabled guarded locked (by simp [sending])
      have disabled := halted (.client index) trivial
        (by simp [Idle, BusyWait, InVain, State.Turned, sending])
      rw [TransitionSystem.Enabled, disabled] at goesOn
      cases goesOn
  | client index =>
      refine stuck trivial fun vain => ?_
      rcases vain with begins | turned
      · exact notRetry (.inl ⟨begins.1, begins.2.1⟩)
      · exact nobody index turned
  | barber | deliverSIGUSR2 | deliverSIGUSR1 => exact stuck trivial id

theorem nothing_left (refines : Refines state encounter) (guarded : Guarded state)
    (sound : encounter.Sound) (index : Fin options.noOfClients) :
    (state.client index).noOfShaves = 0 := by
  by_contra left
  rcases refines.proceeds guarded sound (Nat.pos_of_ne_zero left) with
    ⟨action, productive⟩ | ⟨other, turned, _⟩
  · exact not_productive nobody halted refines guarded productive
  · exact nobody other turned

theorem barber_sleeps (refines : Refines state encounter) (guarded : Guarded state)
    (sound : encounter.Sound) :
    state.barber.main = .sleep ∧ state.barber.catchSIGUSR2 = none ∧
      state.barber.pending = none ∧ state.awake = false := by
  have stuck {action : Action options} : ¬ Productive state action :=
    not_productive nobody halted refines guarded
  have sleeps : state.barber.main = .sleep := by
    by_contra up
    rcases refines.up_proceeds guarded sound up with ⟨action, productive⟩ | ⟨other, turned, _⟩
    · exact stuck productive
    · exact nobody other turned
  have idle : state.barber.catchSIGUSR2 = none := by
    cases handling : state.barber.catchSIGUSR2 with
    | none => rfl
    | some handler =>
        rcases refines.handler_productive sound handling with ⟨action, productive⟩
        exact (stuck productive).elim
  have quiet : state.barber.pending = none := by
    cases pending : state.barber.pending with
    | none => rfl
    | some visit =>
        have delivered := halted (.deliverSIGUSR2 false) trivial (by simp [Idle, BusyWait, InVain])
        simp [system, deliverSIGUSR2, idle, pending] at delivered
  refine ⟨sleeps, idle, quiet, ?_⟩
  by_contra awake
  have wakes := halted .barber trivial (by simp [Idle, BusyWait, InVain, awake])
  simp [system, barberStep, barberMain, idle, sleeps] at wakes

theorem client_finished (refines : Refines state encounter) (guarded : Guarded state)
    (sound : encounter.Sound) (index : Fin options.noOfClients) :
    (state.client index).main = .finished := by
  have nothing := nothing_left nobody halted refines guarded sound index
  have known := refines.role index
  rw [refines.role_free sound nothing] at known
  have elsewhere : (state.client index).main ≠ .waitShaved := by
    intro spins
    simp only [Client.role, spins] at known
    split at known
    all_goals simp at known
    next pc _ _ _ => cases pc <;> simp [InvitedPc.role] at known
  rcases Client.role_idle known elsewhere with ⟨idle, _, _, role⟩
  have attempting := guarded.attempting index
  have sends := guarded.sends index
  have here (enabled : (clientMain state index).isSome = true)
      (begins : (state.client index).main ≠ .waitShaved) : False := by
    have stuck := halted (.client index) trivial (by
      simpa [Idle, BusyWait, InVain, begins, nothing] using nobody index)
    simp [system, clientStep, idle] at stuck
    rw [stuck] at enabled
    cases enabled
  cases pc : (state.client index).main with
  | loop | clearShaved => exact (here (by simp [clientMain, pc]) elsewhere).elim
  | lock | testAwake | testSeats | takeSeat | send | wake =>
      rw [pc] at attempting
      exact absurd (attempting rfl) (by omega)
  | failUnlock | failed => simp [pc, ClientPc.failing] at sends
  | noSeats => exact absurd (.inr pc) (nobody index)
  | finished => rfl
  | _ => simp [pc, ClientPc.role] at role

theorem closed (refines : Refines state encounter) (guarded : Guarded state)
    (sound : encounter.Sound) : Closed state := by
  have asleep := barber_sleeps nobody halted refines guarded sound
  have nothing := nothing_left nobody halted refines guarded sound
  have empty := guarded.emptyQueue (.inr asleep.2.2.2)
  have duty : encounter.duty = .free := by
    have known := refines.duty
    simpa [Barber.duty, asleep, eq_comm] using known
  refine ⟨fun index => ⟨client_finished nobody halted refines guarded sound index, nothing index⟩,
    fun index => ?_, ?_, asleep, empty⟩
  · have counted := sound.counted index
    rw [if_pos (refines.role_free sound (nothing index)), ← refines.noOfShaves, nothing,
      Encounter.visits, ← refines.log] at counted
    exact counted
  · rw [refines.queue] at empty
    rw [refines.log, sound.order, duty, empty]
    simp [Duty.expected]

end Halted

/-! ## Attempts in vain -/

theorem State.Turned.locked {index : Fin options.noOfClients} (turned : state.Turned index) :
    state.insideMutex (.client index) := by
  rcases turned with ⟨tests, _⟩ | pc
  · simp only [List.mem_cons, List.not_mem_nil, or_false] at tests
    rcases tests with pc | pc <;> simp [State.insideMutex, pc, ClientPc.locked]
  · simp [State.insideMutex, pc, ClientPc.locked]

/-- The state after a step of an attempt in vain. -/
theorem step_of_turned {index : Fin options.noOfClients}
    (reachable : (system options).ReachableUnder SendsSucceed state)
    (turned : state.Turned index) (statement : clientMain state index = some following) :
    (system options).LeadsUnder SendsSucceed state following := by
  rcases encountered reachable with ⟨encounter, _, _, refines, _⟩
  have outside : (state.client index).main ≠ .waitShaved := by
    intro spins
    simp [State.Turned, spins] at turned
  have idle := (Client.role_idle (refines.role index) outside).1
  have permitted : SendsSucceed state (.client index) := trivial
  refine .step permitted ?_ .refl
  simp [system, clientStep, idle, statement]

/-- Some run leads to a state in which no client is on its way out. -/
def Rests (state : State options) : Prop :=
  ∃ later, (system options).LeadsUnder SendsSucceed state later ∧ ∀ index, ¬ later.Turned index

theorem noSeats_rests {index : Fin options.noOfClients}
    (reachable : (system options).ReachableUnder SendsSucceed state)
    (pc : (state.client index).main = .noSeats) : Rests state := by
  have statement : clientMain state index =
      some ({ state with mutex := state.mutex + 1 }.moveClient index .loop) := by
    simp [clientMain, pc]
  have leads := step_of_turned reachable (.inr pc) statement
  refine ⟨_, leads, fun other turned => ?_⟩
  rcases encountered (leads.reachable reachable) with ⟨_, _, _, _, guarded⟩
  exact guarded.nobody_inside (Nat.succ_ne_zero state.mutex) _ turned.locked

theorem testSeats_rests {index : Fin options.noOfClients}
    (reachable : (system options).ReachableUnder SendsSucceed state)
    (pc : (state.client index).main = .testSeats) (full : state.Full) : Rests state := by
  have statement : clientMain state index = some (state.moveClient index .noSeats) := by
    simp [clientMain, pc, full.2]
  have leads := step_of_turned reachable (.inl ⟨by simp [pc], full⟩) statement
  have next : ((state.moveClient index .noSeats).client index).main = .noSeats := by
    simp [State.moveClient]
  rcases noSeats_rests (leads.reachable reachable) next with ⟨later, onward, nobody⟩
  exact ⟨later, leads.trans onward, nobody⟩

theorem testAwake_rests {index : Fin options.noOfClients}
    (reachable : (system options).ReachableUnder SendsSucceed state)
    (pc : (state.client index).main = .testAwake) (full : state.Full) : Rests state := by
  have statement : clientMain state index = some (state.moveClient index .testSeats) := by
    simp [clientMain, pc, full.1]
  have leads := step_of_turned reachable (.inl ⟨by simp [pc], full⟩) statement
  have next : ((state.moveClient index .testSeats).client index).main = .testSeats := by
    simp [State.moveClient]
  rcases testSeats_rests (leads.reachable reachable) next full with ⟨later, onward, nobody⟩
  exact ⟨later, leads.trans onward, nobody⟩

/-- A client that has found no free seat leaves the mutex behind. -/
theorem rests (reachable : (system options).ReachableUnder SendsSucceed state) : Rests state := by
  by_cases turned : ∃ index, state.Turned index
  · rcases turned with ⟨index, ⟨tests, full⟩ | pc⟩
    · simp only [List.mem_cons, List.not_mem_nil, or_false] at tests
      rcases tests with pc | pc
      · exact testAwake_rests reachable pc full
      · exact testSeats_rests reachable pc full
    · exact noSeats_rests reachable pc
  · exact ⟨state, .refl, not_exists.mp turned⟩

/-! ## The whole run -/

/-- Unless a send fails, a run has at most `mostSteps` steps besides busy waits and attempts that
end with `No free seats`, and at any point it can be continued until the shop closes. It ends
there only: once such steps are all that can happen, and no client is on its way out, every
client has been shaved as often as it was told to and has returned, the visits have been served in
the order of admission, and the barber sleeps. -/
theorem shop_closes (options : Options) :
    (∀ actions final, (system options).AllowedAlong SendsSucceed (initial options) actions →
      (system options).run (initial options) actions = some final →
      (system options).busySteps Idle (initial options) actions ≤ mostSteps options) ∧
    (∀ state, (system options).ReachableUnder SendsSucceed state →
      (∃ final, (system options).LeadsUnder SendsSucceed state final ∧ Closed final) ∧
      ((∀ index, ¬ state.Turned index) → (system options).Halted SendsSucceed Idle state →
        Closed state)) := by
  have ends (state : State options)
      (reachable : (system options).ReachableUnder SendsSucceed state)
      (nobody : ∀ index, ¬ state.Turned index)
      (halted : (system options).Halted SendsSucceed Idle state) : Closed state := by
    rcases encountered reachable with ⟨encounter, _, sound, refines, guarded⟩
    exact closed nobody halted refines guarded sound
  constructor
  · intro actions final permitted evaluated
    have bounded := (descends options).busySteps_le .initial permitted evaluated
    exact Nat.le_trans (Nat.le_add_right _ _) bounded
  · intro state reachable
    refine ⟨?_, ends state reachable⟩
    have rested (state : State options)
        (reachable : (system options).ReachableUnder SendsSucceed state) : Rests state :=
      rests reachable
    rcases (descends options).halts_at rested reachable with ⟨final, leads, nobody, halted⟩
    exact ⟨final, leads, ends final (leads.reachable reachable) nobody halted⟩

/-- The client has joined the queue, has been shaved and has returned, and the barber has gone to
sleep. -/
def closing : State (oneClient .zad1) :=
  let client : Action (oneClient .zad1) := .client ⟨0, Nat.zero_lt_one⟩
  (system (oneClient .zad1)).after
    (List.replicate 7 client ++ List.replicate 4 .barber ++
      [.deliverSIGUSR1 ⟨0, Nat.zero_lt_one⟩ false, client] ++ List.replicate 3 .barber ++
      List.replicate 7 client ++ List.replicate 5 .barber) rfl

theorem shop_closes_closing :
    (closing.client ⟨0, by decide⟩).main = .finished ∧ Closed closing := by
  refine ⟨rfl, ((shop_closes (oneClient .zad1)).2 closing
    (TransitionSystem.after_reachableUnder _ _ _ (by decide))).2 (by decide) ?_⟩
  intro action permitted busy
  have only (index : Fin (oneClient .zad1).noOfClients) : index = ⟨0, by decide⟩ :=
    Fin.ext (Nat.lt_one_iff.mp index.isLt)
  cases action with
  | barber => exact absurd (.inl ⟨rfl, rfl, rfl⟩) busy
  | deliverSIGUSR2 => rfl
  | client index =>
      rw [only index]
      rfl
  | deliverSIGUSR1 index =>
      rw [only index]
      rfl
  | failSend => exact permitted.elim

end OsExercises.SleepingBarber
