import Mathlib.Data.List.Basic
import Mathlib.Tactic.Simps.Basic
import OsExercises.Foundation.Channel
import OsExercises.Foundation.Dialogue
import OsExercises.SleepingBarber.Processes

/-! # Encounters

What the barber shop is for, without the mutex, the flags and the handlers: the
clients stand in line or wake the barber up, and the barber and one client at a
time speak a dialogue of four messages. An invited client enters the dialogue
after the first message, which only a sleeping barber has to send. -/

namespace OsExercises.SleepingBarber

open OsExercises

variable {options : Options}

/-- What a client has to do with the barber. -/
inductive Role
  | free
  | queued
  /-- in the dialogue, with this many messages behind it -/
  | engaged (turn : Nat)
  /-- has left, but has not counted the visit yet -/
  | served
  deriving DecidableEq

/-- What the barber has to do with the clients. -/
inductive Duty (options : Options)
  | free
  /-- has taken a visit from the queue, but not invited the client yet -/
  | holding (visit : Visit options)
  | engaged (visit : Visit options) (turn : Nat)
  deriving DecidableEq

/-- The dialogue: the barber sends the even messages, the client the odd ones. -/
def message (visit : Visit options) : Nat → Token options
  | 0 => ⟨visit, .awake⟩
  | 1 => ⟨visit, .seated⟩
  | 2 => ⟨visit, .done⟩
  | _ => ⟨visit, .leaving⟩

structure Encounter (options : Options) where
  duty : Duty options
  role : Fin options.noOfClients → Role
  noOfShaves : Fin options.noOfClients → Nat
  queue : List (Visit options)
  recMsgSem : List (Token options)
  sendMsgSem : List (Token options)
  log : Log options

inductive EncounterAction (options : Options)
  | join (index : Fin options.noOfClients)
  | wake (index : Fin options.noOfClients)
  | call
  | invite
  | barberTurn
  | clientTurn (index : Fin options.noOfClients)
  | count (index : Fin options.noOfClients)

/-- The visit in the barber's hand. -/
def Duty.inHand : Duty options → List (Visit options)
  | .holding visit => [visit]
  | _ => []

/-- The visit whose shave has not started yet. -/
def Duty.expected : Duty options → List (Visit options)
  | .holding visit => [visit]
  | .engaged visit turn => if turn ≤ 1 then [visit] else []
  | .free => []

namespace Encounter

def visit (encounter : Encounter options) (index : Fin options.noOfClients) :
    Visit options :=
  ⟨index, encounter.noOfShaves index⟩

@[simps -fullyApplied] def setRole (encounter : Encounter options) (index : Fin options.noOfClients)
    (role : Role) : Encounter options :=
  { encounter with role := Function.update encounter.role index role }

/-- The barber sends its next message, or takes the client's. -/
def barberTurn (encounter : Encounter options) : Option (Encounter options) :=
  match encounter.duty with
  | .engaged visit turn =>
      if turn % 2 = 0 then
        some { encounter with
          duty := .engaged visit (turn + 1)
          sendMsgSem := encounter.sendMsgSem ++ [message visit turn] }
      else
        match encounter.recMsgSem with
        | [] => none
        | taken :: rest =>
            let log := encounter.log.exchange taken (message visit turn)
            if turn = 3 then
              some { encounter with
                duty := .free, recMsgSem := rest, log := log.complete visit }
            else
              some { encounter with
                duty := .engaged visit (turn + 1)
                recMsgSem := rest
                log := log.start visit }
  | _ => none

/-- A client takes the barber's message, or sends its next one. -/
def clientTurn (encounter : Encounter options) (index : Fin options.noOfClients) :
    Option (Encounter options) :=
  match encounter.role index with
  | .engaged turn =>
      let awaited := message (encounter.visit index) turn
      if turn % 2 = 0 then
        match encounter.sendMsgSem with
        | [] => none
        | taken :: rest =>
            some { encounter.setRole index (.engaged (turn + 1)) with
              sendMsgSem := rest
              log := encounter.log.exchange taken awaited }
      else if turn = 3 then
        some { encounter.setRole index .served with
          recMsgSem := encounter.recMsgSem ++ [awaited]
          log := encounter.log.leave (encounter.visit index) }
      else
        some { encounter.setRole index (.engaged (turn + 1)) with
          recMsgSem := encounter.recMsgSem ++ [awaited] }
  | _ => none

end Encounter

/-- The barber shop as its purpose asks for it. -/
def encounters (options : Options) :
    TransitionSystem (Encounter options) (EncounterAction options) where
  initial := {
    duty := .free
    role := fun _ => .free
    noOfShaves := options.noOfShaves
    queue := []
    recMsgSem := []
    sendMsgSem := []
    log := Log.empty }
  next encounter
    | .join index =>
        if encounter.role index = .free ∧ 0 < encounter.noOfShaves index then
          some { encounter.setRole index .queued with
            queue := encounter.queue ++ [encounter.visit index]
            log := encounter.log.admitVisit (encounter.visit index) }
        else
          none
    | .wake index =>
        if encounter.role index = .free ∧ 0 < encounter.noOfShaves index ∧
            encounter.duty = .free ∧ encounter.queue = [] then
          some { encounter.setRole index (.engaged 0) with
            duty := .engaged (encounter.visit index) 0
            log := encounter.log.admitVisit (encounter.visit index) }
        else
          none
    | .call =>
        match encounter.duty, encounter.queue with
        | .free, visit :: rest =>
            some { encounter with duty := .holding visit, queue := rest }
        | _, _ => none
    | .invite =>
        match encounter.duty with
        | .holding visit =>
            some { encounter.setRole visit.pid (.engaged 1) with
              duty := .engaged visit 1 }
        | _ => none
    | .barberTurn => encounter.barberTurn
    | .clientTurn index => encounter.clientTurn index
    | .count index =>
        if encounter.role index = .served then
          some { encounter.setRole index .free with
            noOfShaves := Function.update encounter.noOfShaves index
              (encounter.noOfShaves index - 1) }
        else
          none

/-! ## The invariant -/

namespace Encounter

def NobodyEngaged (encounter : Encounter options) : Prop :=
  ∀ index turn, encounter.role index ≠ .engaged turn

/-- Who is in the dialogue, and which message is on its way. -/
inductive Meeting (encounter : Encounter options) : Prop
  | apart (idle : ∀ visit turn, encounter.duty ≠ .engaged visit turn)
      (nobody : encounter.NobodyEngaged)
      (recEmpty : encounter.recMsgSem = []) (sendEmpty : encounter.sendMsgSem = [])
      (left : encounter.log.left = encounter.log.completed)
  | together (visit : Visit options) (turn partner : Nat)
      (duty : encounter.duty = .engaged visit turn)
      (role : encounter.role visit.pid = .engaged partner)
      (same : encounter.visit visit.pid = visit)
      (only : ∀ index turn, encounter.role index = .engaged turn → index = visit.pid)
      (turnBound : turn ≤ 3) (partnerBound : partner ≤ 3)
      (dialogue : Alternates (message visit) turn partner
        encounter.sendMsgSem encounter.recMsgSem)
      (left : encounter.log.left = encounter.log.completed)
  /-- the client has left, and the barber has not noticed yet -/
  | parting (visit : Visit options)
      (duty : encounter.duty = .engaged visit 3)
      (nobody : encounter.NobodyEngaged)
      (recOne : encounter.recMsgSem = [message visit 3])
      (sendEmpty : encounter.sendMsgSem = [])
      (left : encounter.log.left = encounter.log.completed ++ [visit])

/-- The visits that wait to be invited, in order. -/
def line (encounter : Encounter options) : List (Visit options) :=
  encounter.duty.inHand ++ encounter.queue

structure Lined (encounter : Encounter options) : Prop where
  distinct : (encounter.line.map Visit.pid).Nodup
  queued : ∀ index,
    encounter.role index = .queued ↔ encounter.visit index ∈ encounter.line
  current : ∀ visit ∈ encounter.line, encounter.visit visit.pid = visit

def visits (encounter : Encounter options) (index : Fin options.noOfClients) : Nat :=
  encounter.log.admitted.countP fun visit => visit.pid = index

structure Sound (encounter : Encounter options) : Prop where
  meeting : encounter.Meeting
  lined : encounter.Lined
  order : encounter.log.admitted =
    encounter.log.started ++ (encounter.duty.expected ++ encounter.queue)
  exchanged : ∀ exchange ∈ encounter.log.exchanged, exchange.1 = exchange.2
  counted : ∀ index, encounter.visits index + encounter.noOfShaves index =
    options.noOfShaves index + if encounter.role index = .free then 0 else 1
  shavesLeft : ∀ index, encounter.role index ≠ .free → 0 < encounter.noOfShaves index

end Encounter

/-! ## What one step does -/

inductive EncounterStep (encounter : Encounter options) :
    Encounter options → Prop
  | join (index : Fin options.noOfClients)
      (role : encounter.role index = .free)
      (shaves : 0 < encounter.noOfShaves index) :
      EncounterStep encounter { encounter.setRole index .queued with
        queue := encounter.queue ++ [encounter.visit index]
        log := encounter.log.admitVisit (encounter.visit index) }
  | wake (index : Fin options.noOfClients)
      (role : encounter.role index = .free)
      (shaves : 0 < encounter.noOfShaves index)
      (duty : encounter.duty = .free) (queue : encounter.queue = []) :
      EncounterStep encounter { encounter.setRole index (.engaged 0) with
        duty := .engaged (encounter.visit index) 0
        log := encounter.log.admitVisit (encounter.visit index) }
  | call (visit : Visit options) (rest : List (Visit options))
      (duty : encounter.duty = .free) (queue : encounter.queue = visit :: rest) :
      EncounterStep encounter { encounter with duty := .holding visit, queue := rest }
  | invite (visit : Visit options) (duty : encounter.duty = .holding visit) :
      EncounterStep encounter { encounter.setRole visit.pid (.engaged 1) with
        duty := .engaged visit 1 }
  | barberSends (visit : Visit options) (turn : Nat)
      (duty : encounter.duty = .engaged visit turn) (even : turn % 2 = 0) :
      EncounterStep encounter { encounter with
        duty := .engaged visit (turn + 1)
        sendMsgSem := encounter.sendMsgSem ++ [message visit turn] }
  | barberStarts (visit : Visit options) (turn : Nat)
      (taken : Token options) (rest : List (Token options))
      (duty : encounter.duty = .engaged visit turn) (odd : turn % 2 = 1)
      (notLast : turn ≠ 3) (received : encounter.recMsgSem = taken :: rest) :
      EncounterStep encounter { encounter with
        duty := .engaged visit (turn + 1)
        recMsgSem := rest
        log := (encounter.log.exchange taken (message visit turn)).start visit }
  | barberCompletes (visit : Visit options)
      (taken : Token options) (rest : List (Token options))
      (duty : encounter.duty = .engaged visit 3)
      (received : encounter.recMsgSem = taken :: rest) :
      EncounterStep encounter { encounter with
        duty := .free
        recMsgSem := rest
        log := (encounter.log.exchange taken (message visit 3)).complete visit }
  | clientTakes (index : Fin options.noOfClients) (turn : Nat)
      (taken : Token options) (rest : List (Token options))
      (role : encounter.role index = .engaged turn) (even : turn % 2 = 0)
      (received : encounter.sendMsgSem = taken :: rest) :
      EncounterStep encounter { encounter.setRole index (.engaged (turn + 1)) with
        sendMsgSem := rest
        log := encounter.log.exchange taken (message (encounter.visit index) turn) }
  | clientSends (index : Fin options.noOfClients) (turn : Nat)
      (role : encounter.role index = .engaged turn) (odd : turn % 2 = 1)
      (notLast : turn ≠ 3) :
      EncounterStep encounter { encounter.setRole index (.engaged (turn + 1)) with
        recMsgSem := encounter.recMsgSem ++ [message (encounter.visit index) turn] }
  | clientLeaves (index : Fin options.noOfClients)
      (role : encounter.role index = .engaged 3) :
      EncounterStep encounter { encounter.setRole index .served with
        recMsgSem := encounter.recMsgSem ++ [message (encounter.visit index) 3]
        log := encounter.log.leave (encounter.visit index) }
  | count (index : Fin options.noOfClients) (role : encounter.role index = .served) :
      EncounterStep encounter { encounter.setRole index .free with
        noOfShaves := Function.update encounter.noOfShaves index
          (encounter.noOfShaves index - 1) }

theorem encounters_step {encounter following : Encounter options}
    {action : EncounterAction options}
    (taken : (encounters options).next encounter action = some following) :
    EncounterStep encounter following := by
  cases action with
  | join index =>
      simp only [encounters] at taken
      split at taken
      · next possible =>
          cases taken
          exact .join index possible.1 possible.2
      · cases taken
  | wake index =>
      simp only [encounters] at taken
      split at taken
      · next possible =>
          cases taken
          exact .wake index possible.1 possible.2.1 possible.2.2.1 possible.2.2.2
      · cases taken
  | call =>
      simp only [encounters] at taken
      split at taken
      · next visit rest duty queue =>
          cases taken
          exact .call visit rest duty queue
      · cases taken
  | invite =>
      simp only [encounters] at taken
      split at taken
      · next visit duty =>
          cases taken
          exact .invite visit duty
      · cases taken
  | barberTurn =>
      simp only [encounters, Encounter.barberTurn] at taken
      split at taken
      · next visit turn duty =>
          split at taken
          · next even =>
              cases taken
              exact .barberSends visit turn duty even
          · next odd =>
              split at taken
              · cases taken
              · next token rest received =>
                  split at taken
                  · next last =>
                      subst last
                      cases taken
                      exact .barberCompletes visit token rest duty received
                  · next notLast =>
                      cases taken
                      exact .barberStarts visit turn token rest duty (by omega) notLast
                        received
      · cases taken
  | clientTurn index =>
      simp only [encounters, Encounter.clientTurn] at taken
      split at taken
      · next turn role =>
          split at taken
          · next even =>
              split at taken
              · cases taken
              · next token rest received =>
                  cases taken
                  exact .clientTakes index turn token rest role even received
          · next odd =>
              split at taken
              · next last =>
                  subst last
                  cases taken
                  exact .clientLeaves index role
              · next notLast =>
                  cases taken
                  exact .clientSends index turn role (by omega) notLast
      · cases taken
  | count index =>
      simp only [encounters] at taken
      split at taken
      · next role =>
          cases taken
          exact .count index role
      · cases taken

/-! ## Turns that can be taken -/

section Turns

variable {encounter : Encounter options} {visit : Visit options} {turn : Nat}
variable {index : Fin options.noOfClients}
variable {taken : Token options} {rest : List (Token options)}

theorem barber_sends (duty : encounter.duty = .engaged visit turn)
    (even : turn % 2 = 0) :
    (encounters options).next encounter .barberTurn = some { encounter with
      duty := .engaged visit (turn + 1)
      sendMsgSem := encounter.sendMsgSem ++ [message visit turn] } := by
  simp [encounters, Encounter.barberTurn, duty, even]

theorem barber_starts (duty : encounter.duty = .engaged visit 1)
    (received : encounter.recMsgSem = taken :: rest) :
    (encounters options).next encounter .barberTurn = some { encounter with
      duty := .engaged visit 2
      recMsgSem := rest
      log := (encounter.log.exchange taken (message visit 1)).start visit } := by
  simp [encounters, Encounter.barberTurn, duty, received]

theorem barber_completes (duty : encounter.duty = .engaged visit 3)
    (received : encounter.recMsgSem = taken :: rest) :
    (encounters options).next encounter .barberTurn = some { encounter with
      duty := .free
      recMsgSem := rest
      log := (encounter.log.exchange taken (message visit 3)).complete visit } := by
  simp [encounters, Encounter.barberTurn, duty, received]

theorem client_takes (role : encounter.role index = .engaged turn)
    (even : turn % 2 = 0) (received : encounter.sendMsgSem = taken :: rest) :
    (encounters options).next encounter (.clientTurn index) =
      some { encounter.setRole index (.engaged (turn + 1)) with
        sendMsgSem := rest
        log := encounter.log.exchange taken (message (encounter.visit index) turn) } := by
  simp [encounters, Encounter.clientTurn, role, even, received]

theorem client_sends (role : encounter.role index = .engaged 1) :
    (encounters options).next encounter (.clientTurn index) =
      some { encounter.setRole index (.engaged 2) with
        recMsgSem := encounter.recMsgSem ++ [message (encounter.visit index) 1] } := by
  simp [encounters, Encounter.clientTurn, role]

theorem client_leaves (role : encounter.role index = .engaged 3) :
    (encounters options).next encounter (.clientTurn index) =
      some { encounter.setRole index .served with
        recMsgSem := encounter.recMsgSem ++ [message (encounter.visit index) 3]
        log := encounter.log.leave (encounter.visit index) } := by
  simp [encounters, Encounter.clientTurn, role]

end Turns

end OsExercises.SleepingBarber
