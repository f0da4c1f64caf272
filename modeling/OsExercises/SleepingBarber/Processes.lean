import Mathlib.Tactic.Simps.Basic
import OsExercises.Foundation.Exclusion
import OsExercises.Foundation.TransitionSystem

/-! # The sleeping barber

The barber, its clients and their signal handlers, as in cw07/zad1 (System V)
and cw07/zad2 (POSIX). Each operation on a semaphore, the queue or the shared
memory is one step. A signal that was sent is handled at any later point of the
process it was sent to.

The two handshake semaphores are anonymous counters. The model stores their
units as tokens that remember who posted them and why, and logs each unit
together with the one the waiting process was waiting for; no step depends on
either. -/

namespace OsExercises.SleepingBarber

open OsExercises

inductive Program
  | zad1
  | zad2
  deriving DecidableEq

structure Options where
  program : Program
  noOfClients : Nat
  noOfShaves : Fin noOfClients → Nat
  queueSize : Nat

/-- One client that comes once, and one seat to wait on. -/
def oneClient (program : Program) : Options where
  program := program
  noOfClients := 1
  noOfShaves _ := 1
  queueSize := 1

/-- A client's visit. `noOfShaves`, the number of visits left, tells it from the
client's other visits. -/
structure Visit (options : Options) where
  pid : Fin options.noOfClients
  noOfShaves : Nat
  deriving DecidableEq

/-- What a post on a handshake semaphore tells the partner. -/
inductive Purpose
  | awake
  | seated
  | done
  | leaving
  deriving DecidableEq

/-- One unit of a handshake semaphore. -/
structure Token (options : Options) where
  visit : Visit options
  purpose : Purpose
  deriving DecidableEq

/-- The next statement of the barber's `main`. -/
inductive BarberPc (options : Options)
  | lock
  | receive
  | decrement (visit : Visit options)
  | invite (visit : Visit options)
  | waitSeated (visit : Visit options)
  | unlock (visit : Visit options)
  | postDone (visit : Visit options)
  | waitLeaving (visit : Visit options)
  | setAsleep
  | unlockAsleep
  /-- `while (!shmAddr[0])` -/
  | sleep
  deriving DecidableEq

/-- The next statement of the barber's `catchSIGUSR2`. -/
inductive WakePc
  | setAwake
  | postAwake
  | waitSeated
  | postDone
  | waitLeaving
  deriving DecidableEq

structure Barber (options : Options) where
  main : BarberPc options
  /-- The handler in progress, with the sender of its signal. -/
  catchSIGUSR2 : Option (WakePc × Visit options)
  /-- A SIGUSR2 that has not been handled yet. -/
  pending : Option (Visit options)

/-- The next statement of a client's `main`. -/
inductive ClientPc
  /-- `while (noOfShaves > 0)` -/
  | loop
  | lock
  | testAwake
  | testSeats
  | takeSeat
  | send
  | failUnlock
  /-- returned after a failed send -/
  | failed
  | unlock
  /-- `while (!shaved)` -/
  | waitShaved
  | countShave
  | clearShaved
  | noSeats
  | wake
  | waitAwake
  | wakeUnlock
  | postSeated
  | waitDone
  | postLeaving
  | countVisit
  | finished
  deriving DecidableEq

/-- The next statement of a client's `catchSIGUSR1`. -/
inductive InvitedPc
  | postSeated
  | waitDone
  | postLeaving
  | setShaved
  deriving DecidableEq

structure Client where
  main : ClientPc
  catchSIGUSR1 : Option InvitedPc
  /-- A SIGUSR1 has not been handled yet. -/
  pending : Bool
  shaved : Bool
  noOfShaves : Nat

/-- What happened, in order. No step depends on it. -/
structure Log (options : Options) where
  /-- Visits that joined the queue or woke the barber up. -/
  admitted : List (Visit options)
  /-- Visits for which the barber was told that the client is seated. -/
  started : List (Visit options)
  /-- Visits for which the barber was told that the client is leaving. -/
  completed : List (Visit options)
  /-- Visits whose client has posted that it is leaving. -/
  left : List (Visit options)
  /-- Units taken from a handshake semaphore, with the unit waited for. -/
  exchanged : List (Token options × Token options)

structure State (options : Options) where
  mutex : Nat
  /-- Semaphore 1: posted by clients, waited for by the barber. -/
  recMsgSem : List (Token options)
  /-- Semaphore 2: posted by the barber, waited for by clients. -/
  sendMsgSem : List (Token options)
  /-- `shmAddr[0]` -/
  awake : Bool
  /-- `shmAddr[2]` -/
  waiting : Int
  queue : List (Visit options)
  barber : Barber options
  client : Fin options.noOfClients → Client
  log : Log options
  /-- How many SIGUSR2 were sent since the barber last went to sleep. -/
  wakeUps : Nat

variable {options : Options}

namespace Log

def empty : Log options := ⟨[], [], [], [], []⟩

@[simps -fullyApplied] def admitVisit (log : Log options) (visit : Visit options) :
    Log options :=
  { log with admitted := log.admitted ++ [visit] }

@[simps -fullyApplied] def start (log : Log options) (visit : Visit options) :
    Log options :=
  { log with started := log.started ++ [visit] }

@[simps -fullyApplied] def complete (log : Log options) (visit : Visit options) :
    Log options :=
  { log with completed := log.completed ++ [visit] }

@[simps -fullyApplied] def leave (log : Log options) (visit : Visit options) :
    Log options :=
  { log with left := log.left ++ [visit] }

@[simps -fullyApplied] def exchange (log : Log options)
    (taken awaited : Token options) : Log options :=
  { log with exchanged := log.exchanged ++ [(taken, awaited)] }

end Log

def initial (options : Options) : State options where
  mutex := 1
  recMsgSem := []
  sendMsgSem := []
  awake := true
  waiting := 0
  queue := []
  barber := ⟨.lock, none, none⟩
  client index := ⟨.loop, none, false, false, options.noOfShaves index⟩
  log := Log.empty
  wakeUps := 0

/-- A System V queue takes any number of these short messages; `mq_maxmsg` of
the POSIX queue is the queue size. -/
def Options.hasRoom (options : Options) (queue : List (Visit options)) : Bool :=
  match options.program with
  | .zad1 => true
  | .zad2 => queue.length < options.queueSize

namespace State

/-- The visit that the client is on, or would go on next. -/
def visit (state : State options) (index : Fin options.noOfClients) : Visit options :=
  ⟨index, (state.client index).noOfShaves⟩

@[simps -fullyApplied] def moveBarber (state : State options)
    (pc : BarberPc options) : State options :=
  { state with barber := { state.barber with main := pc } }

/-- The handler goes on, or returns to `main`. -/
@[simps -fullyApplied] def moveSIGUSR2 (state : State options)
    (handler : Option (WakePc × Visit options)) : State options :=
  { state with barber := { state.barber with catchSIGUSR2 := handler } }

@[simps -fullyApplied] def setClient (state : State options)
    (index : Fin options.noOfClients) (client : Client) : State options :=
  { state with client := Function.update state.client index client }

def moveClient (state : State options) (index : Fin options.noOfClients)
    (pc : ClientPc) : State options :=
  state.setClient index { state.client index with main := pc }

def moveSIGUSR1 (state : State options) (index : Fin options.noOfClients)
    (handler : Option InvitedPc) : State options :=
  state.setClient index { state.client index with catchSIGUSR1 := handler }

@[simps -fullyApplied] def postRec (state : State options) (token : Token options) :
    State options :=
  { state with recMsgSem := state.recMsgSem ++ [token] }

@[simps -fullyApplied] def postSend (state : State options) (token : Token options) :
    State options :=
  { state with sendMsgSem := state.sendMsgSem ++ [token] }

/-- Takes a unit of semaphore 1, if there is one. -/
def waitRec (state : State options) (awaited : Token options) :
    Option (State options) :=
  match state.recMsgSem with
  | [] => none
  | taken :: rest =>
      some { state with recMsgSem := rest, log := state.log.exchange taken awaited }

/-- Takes a unit of semaphore 2, if there is one. -/
def waitSend (state : State options) (awaited : Token options) :
    Option (State options) :=
  match state.sendMsgSem with
  | [] => none
  | taken :: rest =>
      some { state with sendMsgSem := rest, log := state.log.exchange taken awaited }

/-- `kill(shmAddr[3], SIGUSR2)`: a signal that is already pending stays. -/
@[simps -fullyApplied] def killSIGUSR2 (state : State options) (visit : Visit options) :
    State options :=
  { state with
    barber := { state.barber with
      pending := match state.barber.pending with
        | some earlier => some earlier
        | none => some visit }
    wakeUps := state.wakeUps + 1 }

/-- `kill(recMsg.pid, SIGUSR1)` -/
def killSIGUSR1 (state : State options) (index : Fin options.noOfClients) :
    State options :=
  state.setClient index { state.client index with pending := true }

end State

/-- One statement of the barber's main loop. -/
def barberMain (state : State options) : Option (State options) :=
  match state.barber.main with
  | .lock =>
      (semWait state.mutex).map fun value =>
        { state with mutex := value }.moveBarber .receive
  | .receive =>
      match state.queue with
      | [] => some <| state.moveBarber .setAsleep
      | visit :: rest =>
          some <| { state with queue := rest }.moveBarber (.decrement visit)
  | .decrement visit =>
      some <| { state with waiting := state.waiting - 1 }.moveBarber (.invite visit)
  | .invite visit =>
      some <| (state.killSIGUSR1 visit.pid).moveBarber (.waitSeated visit)
  | .waitSeated visit =>
      (state.waitRec ⟨visit, .seated⟩).map fun state =>
        { state with log := state.log.start visit }.moveBarber (.unlock visit)
  | .unlock visit =>
      some <| { state with mutex := state.mutex + 1 }.moveBarber (.postDone visit)
  | .postDone visit =>
      some <| (state.postSend ⟨visit, .done⟩).moveBarber (.waitLeaving visit)
  | .waitLeaving visit =>
      (state.waitRec ⟨visit, .leaving⟩).map fun state =>
        { state with log := state.log.complete visit }.moveBarber .lock
  | .setAsleep =>
      some <| { state with awake := false, wakeUps := 0 }.moveBarber .unlockAsleep
  | .unlockAsleep =>
      some <| { state with mutex := state.mutex + 1 }.moveBarber .sleep
  | .sleep => some <| state.moveBarber (if state.awake then .lock else .sleep)

/-- One statement of `catchSIGUSR2`. -/
def catchSIGUSR2 (state : State options) (pc : WakePc) (visit : Visit options) :
    Option (State options) :=
  match pc with
  | .setAwake => some <| { state with awake := true }.moveSIGUSR2 (some (.postAwake, visit))
  | .postAwake =>
      some <| (state.postSend ⟨visit, .awake⟩).moveSIGUSR2 (some (.waitSeated, visit))
  | .waitSeated =>
      (state.waitRec ⟨visit, .seated⟩).map fun state =>
        { state with log := state.log.start visit }.moveSIGUSR2 (some (.postDone, visit))
  | .postDone =>
      some <| (state.postSend ⟨visit, .done⟩).moveSIGUSR2 (some (.waitLeaving, visit))
  | .waitLeaving =>
      (state.waitRec ⟨visit, .leaving⟩).map fun state =>
        { state with log := state.log.complete visit }.moveSIGUSR2 none

/-- A handler that runs while `main` is blocked in a semaphore operation makes
the operation fail with EINTR. `main` does not look at the result and goes on. -/
def interruptBarber (state : State options) : Option (State options) :=
  match state.barber.main with
  | .lock => if state.mutex = 0 then some <| state.moveBarber .receive else none
  | .waitSeated visit =>
      if state.recMsgSem = [] then
        some <| { state with log := state.log.start visit }.moveBarber (.unlock visit)
      else
        none
  | .waitLeaving visit =>
      if state.recMsgSem = [] then
        some <| { state with log := state.log.complete visit }.moveBarber .lock
      else
        none
  | _ => none

/-- The barber starts to handle a pending SIGUSR2. -/
def deliverSIGUSR2 (state : State options) (interrupts : Bool) :
    Option (State options) :=
  match state.barber.catchSIGUSR2, state.barber.pending with
  | none, some visit =>
      let handling := { state with barber := { state.barber with
        catchSIGUSR2 := some (.setAwake, visit), pending := none } }
      if interrupts then interruptBarber handling else some handling
  | _, _ => none

/-- One statement of a client's main loop. -/
def clientMain (state : State options) (index : Fin options.noOfClients) :
    Option (State options) :=
  let client := state.client index
  let visit := state.visit index
  match client.main with
  | .loop =>
      some <| state.moveClient index (if 0 < client.noOfShaves then .lock else .finished)
  | .lock =>
      (semWait state.mutex).map fun value =>
        { state with mutex := value }.moveClient index .testAwake
  | .testAwake => some <| state.moveClient index (if state.awake then .testSeats else .wake)
  | .testSeats =>
      some <| state.moveClient index
        (if state.waiting < options.queueSize then .takeSeat else .noSeats)
  | .takeSeat =>
      some <| { state with waiting := state.waiting + 1 }.moveClient index .send
  | .send =>
      if options.hasRoom state.queue then
        some <| { state with
          queue := state.queue ++ [visit]
          log := state.log.admitVisit visit }.moveClient index .unlock
      else
        none
  | .failUnlock =>
      some <| { state with mutex := state.mutex + 1 }.moveClient index .failed
  | .failed => none
  | .unlock =>
      some <| { state with mutex := state.mutex + 1 }.moveClient index .waitShaved
  | .waitShaved =>
      some <| state.moveClient index (if client.shaved then .countShave else .waitShaved)
  | .countShave =>
      some <| state.setClient index
        { client with noOfShaves := client.noOfShaves - 1, main := .clearShaved }
  | .clearShaved =>
      some <| state.setClient index { client with shaved := false, main := .loop }
  | .noSeats => some <| { state with mutex := state.mutex + 1 }.moveClient index .loop
  | .wake =>
      some <| { state.killSIGUSR2 visit with log := state.log.admitVisit visit }.moveClient
        index .waitAwake
  | .waitAwake =>
      (state.waitSend ⟨visit, .awake⟩).map fun state => state.moveClient index .wakeUnlock
  | .wakeUnlock =>
      some <| { state with mutex := state.mutex + 1 }.moveClient index .postSeated
  | .postSeated => some <| (state.postRec ⟨visit, .seated⟩).moveClient index .waitDone
  | .waitDone =>
      (state.waitSend ⟨visit, .done⟩).map fun state => state.moveClient index .postLeaving
  | .postLeaving =>
      some <| { state.postRec ⟨visit, .leaving⟩ with
        log := state.log.leave visit }.moveClient index .countVisit
  | .countVisit =>
      some <| state.setClient index
        { client with noOfShaves := client.noOfShaves - 1, main := .loop }
  | .finished => none

/-- One statement of `catchSIGUSR1`. -/
def catchSIGUSR1 (state : State options) (index : Fin options.noOfClients)
    (pc : InvitedPc) : Option (State options) :=
  let visit := state.visit index
  match pc with
  | .postSeated =>
      some <| (state.postRec ⟨visit, .seated⟩).moveSIGUSR1 index (some .waitDone)
  | .waitDone =>
      (state.waitSend ⟨visit, .done⟩).map fun state =>
        state.moveSIGUSR1 index (some .postLeaving)
  | .postLeaving =>
      some <| { state.postRec ⟨visit, .leaving⟩ with
        log := state.log.leave visit }.moveSIGUSR1 index (some .setShaved)
  | .setShaved =>
      some <| state.setClient index
        { state.client index with shaved := true, catchSIGUSR1 := none }

/-- A blocked semaphore operation or send fails when a handler runs. -/
def interruptClient (state : State options) (index : Fin options.noOfClients) :
    Option (State options) :=
  match (state.client index).main with
  | .lock => if state.mutex = 0 then some <| state.moveClient index .testAwake else none
  | .send =>
      if options.hasRoom state.queue then none
      else some <| state.moveClient index .failUnlock
  | .waitAwake =>
      if state.sendMsgSem = [] then some <| state.moveClient index .wakeUnlock else none
  | .waitDone =>
      if state.sendMsgSem = [] then some <| state.moveClient index .postLeaving else none
  | _ => none

/-- A client that still runs starts to handle a pending SIGUSR1. -/
def deliverSIGUSR1 (state : State options) (index : Fin options.noOfClients)
    (interrupts : Bool) : Option (State options) :=
  let client := state.client index
  if client.catchSIGUSR1 = none ∧ client.pending = true ∧ client.main ≠ .failed ∧
      client.main ≠ .finished then
    let handling := state.setClient index
      { client with catchSIGUSR1 := some .postSeated, pending := false }
    if interrupts then interruptClient handling index else some handling
  else
    none

inductive Action (options : Options)
  /-- the barber executes its next statement, of the handler if one runs -/
  | barber
  | deliverSIGUSR2 (interrupts : Bool)
  | client (index : Fin options.noOfClients)
  | deliverSIGUSR1 (index : Fin options.noOfClients) (interrupts : Bool)
  /-- the queue refuses the message of a client -/
  | failSend (index : Fin options.noOfClients)
  deriving DecidableEq

def barberStep (state : State options) : Option (State options) :=
  match state.barber.catchSIGUSR2 with
  | some (pc, visit) => catchSIGUSR2 state pc visit
  | none => barberMain state

def clientStep (state : State options) (index : Fin options.noOfClients) :
    Option (State options) :=
  match (state.client index).catchSIGUSR1 with
  | some pc => catchSIGUSR1 state index pc
  | none => clientMain state index

def failSend (state : State options) (index : Fin options.noOfClients) :
    Option (State options) :=
  if (state.client index).catchSIGUSR1 = none ∧ (state.client index).main = .send then
    some <| state.moveClient index .failUnlock
  else
    none

/-- The barber and all clients together. -/
def system (options : Options) : TransitionSystem (State options) (Action options) where
  initial := initial options
  next state
    | .barber => barberStep state
    | .deliverSIGUSR2 interrupts => deliverSIGUSR2 state interrupts
    | .client index => clientStep state index
    | .deliverSIGUSR1 index interrupts => deliverSIGUSR1 state index interrupts
    | .failSend index => failSend state index

/-- The condition on runs in which no send fails. -/
def SendsSucceed (_ : State options) : Action options → Prop
  | .failSend _ => False
  | _ => True

instance (state : State options) : ∀ action, Decidable (SendsSucceed state action)
  | .failSend _ => isFalse id
  | .barber | .deliverSIGUSR2 _ | .client _ | .deliverSIGUSR1 _ _ => isTrue trivial

end OsExercises.SleepingBarber
