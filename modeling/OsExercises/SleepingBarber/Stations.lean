import OsExercises.SleepingBarber.Soundness

/-! # Where the processes stand in the encounter

The program counters, the signals and the flags of a process determine its part
in the encounter. Combinations that no run reaches determine none, so that being
determined is an invariant of its own. -/

namespace OsExercises.SleepingBarber

open OsExercises

variable {options : Options}

/-! ## Clients -/

/-- The role at a statement where no signal is expected. -/
def ClientPc.role : ClientPc → Role
  | .unlock | .waitShaved => .queued
  | .countShave | .countVisit => .served
  | .waitAwake => .engaged 0
  | .wakeUnlock | .postSeated => .engaged 1
  | .waitDone => .engaged 2
  | .postLeaving => .engaged 3
  | _ => .free

/-- `shaved` is set from the handler to `shaved = 0`. -/
def ClientPc.shaved : ClientPc → Bool
  | .countShave | .clearShaved => true
  | _ => false

def InvitedPc.role : InvitedPc → Role
  | .postSeated => .engaged 1
  | .waitDone => .engaged 2
  | .postLeaving => .engaged 3
  | .setShaved => .served

/-- A client is invited while it waits to be shaved, and only then. -/
def Client.role (client : Client) : Option Role :=
  match client.main with
  | .waitShaved =>
      match client.catchSIGUSR1, client.pending, client.shaved with
      | none, false, false => some .queued
      | none, true, false => some (.engaged 1)
      | some pc, false, false => some pc.role
      | none, false, true => some .served
      | _, _, _ => none
  | pc =>
      if client.catchSIGUSR1 = none ∧ client.pending = false ∧ client.shaved = pc.shaved then
        some pc.role
      else
        none

/-- Between the locking of the mutex and its release. -/
def ClientPc.locked : ClientPc → Bool
  | .testAwake | .testSeats | .takeSeat | .send | .failUnlock | .unlock | .noSeats
  | .wake | .waitAwake | .wakeUnlock => true
  | _ => false

/-- After the test of `noOfShaves`, and before the visit begins. -/
def ClientPc.attempting : ClientPc → Bool
  | .lock | .testAwake | .testSeats | .takeSeat | .send | .wake => true
  | _ => false

/-- After a failed send. -/
def ClientPc.failing : ClientPc → Bool
  | .failUnlock | .failed => true
  | _ => false

/-- On the way to the queue. -/
def ClientPc.foundAwake : ClientPc → Bool
  | .testSeats | .takeSeat | .send => true
  | _ => false

/-! ## The barber -/

def BarberPc.duty : BarberPc options → Duty options
  | .decrement visit | .invite visit => .holding visit
  | .waitSeated visit => .engaged visit 1
  | .unlock visit | .postDone visit => .engaged visit 2
  | .waitLeaving visit => .engaged visit 3
  | _ => .free

def WakePc.turn : WakePc → Nat
  | .setAwake | .postAwake => 0
  | .waitSeated => 1
  | .postDone => 2
  | .waitLeaving => 3

/-- The barber is woken up while it sleeps, and only then. -/
def Barber.duty (barber : Barber options) (awake : Bool) : Option (Duty options) :=
  match barber.main with
  | .sleep =>
      match barber.catchSIGUSR2, barber.pending with
      | none, none => some .free
      | none, some visit => if awake then none else some (.engaged visit 0)
      | some (pc, visit), none =>
          if awake = (pc ≠ .setAwake) then some (.engaged visit pc.turn) else none
      | _, _ => none
  | pc =>
      if barber.catchSIGUSR2 = none ∧ barber.pending = none ∧
          awake = (pc ≠ .unlockAsleep) then
        some pc.duty
      else
        none

def BarberPc.locked : BarberPc options → Bool
  | .receive | .decrement _ | .invite _ | .waitSeated _ | .unlock _ | .setAsleep
  | .unlockAsleep => true
  | _ => false

/-! ## The mutex -/

inductive Process (options : Options)
  | barber
  | client (index : Fin options.noOfClients)
  deriving DecidableEq

namespace State

def insideMutex (state : State options) : Process options → Prop
  | .barber => state.barber.main.locked = true
  | .client index => (state.client index).main.locked = true

/-- `shmAddr[2]` counts a visit that is not in the queue: the client is about to
send it, or the barber has received it already. -/
def ahead (state : State options) : Process options → Prop
  | .barber => ∃ visit, state.barber.main = .decrement visit
  | .client index => (state.client index).main = .send

end State

/-- `state` is a state of the encounter. -/
structure Refines (state : State options) (encounter : Encounter options) : Prop where
  duty : state.barber.duty state.awake = some encounter.duty
  role : ∀ index, (state.client index).role = some (encounter.role index)
  noOfShaves : ∀ index, (state.client index).noOfShaves = encounter.noOfShaves index
  queue : state.queue = encounter.queue
  recMsgSem : state.recMsgSem = encounter.recMsgSem
  sendMsgSem : state.sendMsgSem = encounter.sendMsgSem
  log : state.log = encounter.log

/-- What the mutex protects. -/
structure Guarded (state : State options) : Prop where
  mutex : Excludes state.mutex state.insideMutex
  attempting : ∀ index, (state.client index).main.attempting = true →
    0 < (state.client index).noOfShaves
  sends : ∀ index, (state.client index).main.failing = false
  finished : ∀ index, (state.client index).main = .finished →
    (state.client index).noOfShaves = 0
  foundAwake : ∀ index, (state.client index).main.foundAwake = true →
    state.awake = true
  foundAsleep : ∀ index, (state.client index).main = .wake → state.awake = false
  /-- The barber goes to sleep only while nobody is in the queue. -/
  emptyQueue : state.barber.main = .setAsleep ∨ state.awake = false → state.queue = []
  counted : (∀ process, ¬ state.ahead process) → state.waiting = state.queue.length
  countedAhead : ∀ process, state.ahead process →
    state.waiting = state.queue.length + 1
  seat : ∀ index, (state.client index).main = .takeSeat →
    state.waiting < options.queueSize
  room : ∀ index, (state.client index).main = .send →
    state.queue.length < options.queueSize
  fits : state.queue.length ≤ options.queueSize
  wakeUps : state.wakeUps ≤ 1
  noWakeUp : state.awake = false → state.barber.catchSIGUSR2 = none →
    state.barber.pending = none → state.wakeUps = 0

/-! ## What the stations tell -/

theorem Client.role_idle {client : Client} {role : Role}
    (known : client.role = some role) (elsewhere : client.main ≠ .waitShaved) :
    client.catchSIGUSR1 = none ∧ client.pending = false ∧
      client.shaved = client.main.shaved ∧ role = client.main.role := by
  unfold Client.role at known
  split at known
  · next atSpin => exact absurd atSpin elsewhere
  · split at known
    · next quiet =>
        cases known
        exact ⟨quiet.1, quiet.2.1, quiet.2.2, rfl⟩
    · cases known

/-- A client that handles a signal, or has one pending, waits to be shaved. -/
theorem Client.waits_of_signal {client : Client} {role : Role}
    (known : client.role = some role)
    (signal : client.catchSIGUSR1 ≠ none ∨ client.pending = true) :
    client.main = .waitShaved := by
  by_contra elsewhere
  rcases Client.role_idle known elsewhere with ⟨idle, notPending, _⟩
  simp [idle, notPending] at signal

theorem Barber.duty_idle {barber : Barber options} {awake : Bool} {duty : Duty options}
    (known : barber.duty awake = some duty) (up : barber.main ≠ .sleep) :
    barber.catchSIGUSR2 = none ∧ barber.pending = none ∧
      (awake = true ↔ barber.main ≠ .unlockAsleep) ∧ duty = barber.main.duty := by
  unfold Barber.duty at known
  split at known
  · next asleep => exact absurd asleep up
  · split at known
    · next quiet =>
        cases known
        exact ⟨quiet.1, quiet.2.1, by simp [quiet.2.2], rfl⟩
    · cases known

theorem Barber.sleeps_of_signal {barber : Barber options} {awake : Bool}
    {duty : Duty options} (known : barber.duty awake = some duty)
    (signal : barber.catchSIGUSR2 ≠ none ∨ barber.pending ≠ none) :
    barber.main = .sleep := by
  by_contra up
  rcases Barber.duty_idle known up with ⟨idle, notPending, _⟩
  simp [idle, notPending] at signal

end OsExercises.SleepingBarber
