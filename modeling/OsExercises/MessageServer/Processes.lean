import Mathlib.Data.List.FinRange
import Mathlib.Tactic.Simps.Basic
import OsExercises.Foundation.TransitionSystem
import OsExercises.MessageServer.Requests

/-! # The message server

The server and the clients of cw06/zad1 (System V queues) and cw06/zad2 (POSIX
queues), with SIGINT at any moment. Each operation on a queue is one step, and so
is each test of a flag that a signal handler sets. Runs start when every program
has opened its queues.

Pids are numbers of clients, so that they are distinct; `none` is the pid 0 of a
free slot. -/

namespace OsExercises.MessageServer

open OsExercises

inductive Program
  | zad1
  | zad2
  deriving DecidableEq

structure Options where
  program : Program
  noOfClients : Nat
  /-- What each client calls its private queue. An identifier (zad1) is the same for
  all processes, a descriptor (zad2) is not; both have the type `int`. -/
  recMsgqID : Fin noOfClients → Nat
  recMsgqID_injective : program = .zad1 → Function.Injective recMsgqID
  recMsgqID_lt : ∀ client, recMsgqID client < 2 ^ 31
  /-- What each client finds on its standard input. -/
  stdin : Fin noOfClients → List Text
  /-- What `malloc` leaves in each client's buffer. -/
  garbage : Fin noOfClients → Text
  /-- The `qID` of `noClient`, which is never set. -/
  unsetQID : Int
  /-- How many bytes a queue holds (zad1). -/
  msgQbytes : Nat
  /-- How many queues of clients the server may have open (zad2). -/
  openMax : Nat
  library : CLibrary

theorem one_few : 1 ≤ 2 ^ 31 := by norm_num

/-- Clients that all read the same lines from their standard input. -/
def someClients (program : Program) (noOfClients : Nat) (few : noOfClients ≤ 2 ^ 31)
    (stdin : List Text) : Options where
  program := program
  noOfClients := noOfClients
  recMsgqID client := client
  recMsgqID_injective _ := Fin.val_injective
  recMsgqID_lt client := Nat.lt_of_lt_of_le client.isLt few
  stdin _ := stdin
  garbage _ := []
  unsetQID := 0
  msgQbytes := 16384
  openMax := 1024
  library :=
    { quotient := fun _ _ => []
      ctime := fun _ => []
      length_quotient := by simp
      length_ctime := by simp }

structure Message (options : Options) where
  mType : MessageType
  pid : Fin options.noOfClients
  msg : Text
  deriving DecidableEq

structure ClientInfo (options : Options) where
  pid : Option (Fin options.noOfClients)
  qID : Int

/-- The next statement of the server. -/
inductive ServerPc (options : Options)
  | receive
  /-- the switch, for a message that was received -/
  | handle (recMsg : Message options)
  /-- about to send a reply to the client in slot `i` -/
  | reply (i : Nat) (recMsg : Message options)
  /-- `if (SERVER_STOP) break;` and `while (!SERVER_END)` -/
  | testStop
  | removeQueue
  | returned
  /-- dead after `strlen` of a null pointer -/
  | crashed
  /-- read or wrote `clientMsgQs` outside its bounds -/
  | outOfBounds
  deriving DecidableEq

structure Server (options : Options) where
  pc : ServerPc options
  clientMsgQs : Nat → ClientInfo options
  clientNo : Nat
  serverEnd : Bool
  serverStop : Bool
  /-- The descriptors from `mq_open`, by number (zad2). -/
  opened : List (Fin options.noOfClients)

/-- The next statement of a client. -/
inductive ClientPc (options : Options)
  | sendStart
  | awaitStart
  /-- `while (!CLIENT_STOP)` -/
  | loopTest
  | getline
  | sendRequest (mMsg : Message options)
  | testStop
  | awaitReply
  /-- `if (!send)` -/
  | testSend
  | sendStop
  | testStopAgain
  | awaitStop
  | removeQueue
  | returned
  /-- dead after a line that it cannot handle -/
  | crashed
  deriving DecidableEq

structure Client (options : Options) where
  pc : ClientPc options
  /-- `CLIENT_STOP` -/
  clientStop : Bool
  send : Nat
  buffer : Text
  stdin : List Text
  /-- A SIGINT was handled. No step depends on it. -/
  interrupted : Bool

/-- The messages of one client, in order. No step depends on them. -/
structure Log (options : Options) where
  /-- START and the requests that reached the queue of the server. -/
  asked : List (Message options)
  /-- Replies that reached the private queue. -/
  delivered : List (Message options)
  /-- Replies that the client took from its private queue. -/
  received : List (Message options)

structure State (options : Options) where
  queue : List (Message options)
  queueExists : Bool
  server : Server options
  client : Fin options.noOfClients → Client options
  /-- The private queues; `none` once removed. -/
  recMsgq : Fin options.noOfClients → Option (List (Message options))
  log : Fin options.noOfClients → Log options

variable {options : Options}

def noClient (options : Options) : ClientInfo options := ⟨none, options.unsetQID⟩

def initial (options : Options) : State options where
  queue := []
  queueExists := true
  server :=
    { pc := .receive
      clientMsgQs := fun _ => noClient options
      clientNo := 0
      serverEnd := false
      serverStop := false
      opened := [] }
  client index :=
    { pc := .sendStart
      clientStop := false
      send := 0
      buffer := getline (options.garbage index) (decimal (options.recMsgqID index))
      stdin := options.stdin index
      interrupted := false }
  recMsgq _ := some []
  log _ := ⟨[], [], []⟩

/-! ## Queues -/

/-- The size given to `msgsnd`, with the final NUL. -/
def Message.size (message : Message options) : Nat :=
  sizeofPid + message.msg.length + 1

/-- Whether `msgrcv` takes the message; it fails with E2BIG otherwise. -/
def Message.Fits (message : Message options) : Prop :=
  options.program = .zad1 → message.size ≤ maxMsgSize

instance (message : Message options) : Decidable message.Fits :=
  inferInstanceAs (Decidable (_ → _))

/-- `mq_maxmsg` is 10 for all POSIX queues. -/
def hasRoom (queue : List (Message options)) (message : Message options) : Bool :=
  match options.program with
  | .zad1 => (queue.map Message.size).sum + message.size ≤ options.msgQbytes
  | .zad2 => queue.length < 10

/-- The priority of a reply (zad2). All messages to the server have the same. -/
def MessageType.priority : MessageType → Nat
  | .start | .mirror => 1
  | _ => 0

/-- A private queue with one more reply. A POSIX queue is sorted by priority. -/
def enqueueReply (queue : List (Message options)) (reply : Message options) :
    List (Message options) :=
  match options.program with
  | .zad1 => queue ++ [reply]
  | .zad2 =>
      queue.takeWhile (reply.mType.priority ≤ ·.mType.priority) ++
        reply :: queue.dropWhile (reply.mType.priority ≤ ·.mType.priority)

/-- The client whose private queue is meant by `qID`. -/
def recipient (options : Options) (opened : List (Fin options.noOfClients))
    (qID : Int) : Option (Fin options.noOfClients) :=
  match options.program with
  | .zad1 => (List.finRange options.noOfClients).find? (options.recMsgqID · = qID)
  | .zad2 => if 0 ≤ qID then opened[qID.toNat]? else none

/-! ## The server -/

/-- The loop that looks for the sender's slot, from slot `i` on, with `remaining`
slots to go. -/
def findClient (clientMsgQs : Nat → ClientInfo options)
    (pid : Fin options.noOfClients) (i : Nat) : Nat → Nat
  | 0 => i
  | remaining + 1 =>
      if (clientMsgQs i).pid = some pid then i
      else findClient clientMsgQs pid (i + 1) remaining

/-- `i` after the lookup: the sender's slot, or `maxNoOfClients`. -/
def Server.lookup (server : Server options) (pid : Fin options.noOfClients) : Nat :=
  findClient server.clientMsgQs pid 0 maxNoOfClients

/-- The loop of START that looks for a free slot: `client_no` and `flag` at its
end. `none` when it reads outside the table, or `fuel` is too small; neither
happens (`findFree_eq_some`). -/
def findFree (clientMsgQs : Nat → ClientInfo options) :
    (fuel clientNo flag : Nat) → Option (Nat × Nat)
  | 0, _, _ => none
  | fuel + 1, clientNo, flag =>
      if clientNo < maxNoOfClients then
        if (clientMsgQs clientNo).pid = none then some (clientNo, flag)
        else if flag < 2 then
          if clientNo + 1 = maxNoOfClients then findFree clientMsgQs fuel 0 (flag + 1)
          else findFree clientMsgQs fuel (clientNo + 1) flag
        else some (clientNo, flag)
      else
        none

/-- Enough for two passes through the table. -/
def scanFuel : Nat := 2 * maxNoOfClients + 1

namespace State

@[simps -fullyApplied] def setQueue (state : State options) (queue : List (Message options)) :
    State options :=
  { state with queue := queue }

@[simps -fullyApplied] def moveServer (state : State options) (pc : ServerPc options) :
    State options :=
  { state with server := { state.server with pc := pc } }

@[simps -fullyApplied] def setSlot (state : State options) (i : Nat)
    (info : ClientInfo options) : State options :=
  { state with server := { state.server with
      clientMsgQs := Function.update state.server.clientMsgQs i info } }

@[simps -fullyApplied] def setClientNo (state : State options) (clientNo : Nat) :
    State options :=
  { state with server := { state.server with clientNo := clientNo } }

@[simps -fullyApplied] def setServerEnd (state : State options) : State options :=
  { state with server := { state.server with serverEnd := true } }

@[simps -fullyApplied] def setServerStop (state : State options) : State options :=
  { state with server := { state.server with serverStop := true } }

def addDescriptor (state : State options)
    (client : Fin options.noOfClients) : State options :=
  { state with server := { state.server with opened := state.server.opened ++ [client] } }

@[simps -fullyApplied] def setClient (state : State options)
    (index : Fin options.noOfClients) (client : Client options) : State options :=
  { state with client := Function.update state.client index client }

@[simps -fullyApplied] def setRecMsgq (state : State options)
    (index : Fin options.noOfClients) (queue : Option (List (Message options))) :
    State options :=
  { state with recMsgq := Function.update state.recMsgq index queue }

@[simps -fullyApplied] def setLog (state : State options)
    (index : Fin options.noOfClients) (log : Log options) : State options :=
  { state with log := Function.update state.log index log }

end State

/-- `clientMsgQs[client_no].qID = …`: the identifier that the client has sent
(zad1), or the descriptor of a queue named by its pid (zad2). -/
def openQueue (state : State options) (recMsg : Message options) :
    State options × Int :=
  match options.program with
  | .zad1 => (state, stringToInt recMsg.msg)
  | .zad2 =>
      if (state.recMsgq recMsg.pid).isSome ∧
          state.server.opened.length < options.openMax then
        (state.addDescriptor recMsg.pid, state.server.opened.length)
      else
        (state, -1)

/-- `case START` -/
def handleStart (state : State options) (recMsg : Message options) : State options :=
  match findFree state.server.clientMsgQs scanFuel state.server.clientNo 0 with
  | none => state.moveServer .outOfBounds
  | some (clientNo, flag) =>
      if flag = 2 then (state.setClientNo clientNo).moveServer .testStop
      else
        let (opened, qID) := openQueue state recMsg
        ((opened.setClientNo clientNo).setSlot clientNo ⟨recMsg.pid, qID⟩).moveServer
          (.reply clientNo { recMsg with msg := decimal clientNo })

/-- The switch. -/
def handle (state : State options) (seconds : Nat) (recMsg : Message options) :
    State options :=
  let i := state.server.lookup recMsg.pid
  match recMsg.mType with
  | .start => handleStart state recMsg
  | .serverEnd => state.setServerEnd.moveServer .testStop
  | .stop =>
      if i < maxNoOfClients then (state.setSlot i (noClient options)).moveServer .testStop
      else state.moveServer .outOfBounds
  | mType =>
      match answer options.library seconds mType recMsg.msg with
      | none => state.moveServer .crashed
      | some msg => state.moveServer (.reply i { recMsg with msg := msg })

/-- `msgsnd(clientMsgQs[i].qID, …)`. It fails when the queue does not exist any
more, and waits while the queue has no room. -/
def reply (state : State options) (i : Nat) (recMsg : Message options) :
    Option (State options) :=
  if i < maxNoOfClients then
    match recipient options state.server.opened (state.server.clientMsgQs i).qID with
    | none => some <| state.moveServer .testStop
    | some client =>
        match state.recMsgq client with
        | none => some <| state.moveServer .testStop
        | some queue =>
            if hasRoom queue recMsg then
              some <| ((state.setRecMsgq client (enqueueReply queue recMsg)).setLog client
                { state.log client with
                  delivered := (state.log client).delivered ++ [recMsg] }).moveServer
                .testStop
            else
              none
  else
    some <| state.moveServer .outOfBounds

/-- One statement of the server at a time given in seconds. The POSIX queue stays
while clients have it open. -/
def serverStep (state : State options) (seconds : Nat) : Option (State options) :=
  match state.server.pc with
  | .receive =>
      match state.queue with
      | [] => some <| state.moveServer .testStop
      | recMsg :: rest =>
          if recMsg.Fits then some <| (state.setQueue rest).moveServer (.handle recMsg)
          else some <| state.moveServer .testStop
  | .handle recMsg => some <| handle state seconds recMsg
  | .reply i recMsg => reply state i recMsg
  | .testStop =>
      some <| state.moveServer
        (if state.server.serverStop ∨ state.server.serverEnd then .removeQueue else .receive)
  | .removeQueue =>
      match options.program with
      | .zad1 =>
          some <| { state.setQueue [] with queueExists := false }.moveServer .returned
      | .zad2 => some <| state.moveServer .returned
  | .returned | .crashed | .outOfBounds => none

/-! ## The clients -/

/-- The client after a call that waits has returned, with or without success. -/
def Client.resume (client : Client options) : Client options :=
  match client.pc with
  | .sendStart => { client with pc := .awaitStart }
  | .awaitStart => { client with pc := .loopTest }
  | .getline => { client with pc := .loopTest }
  | .sendRequest _ => { client with pc := .testStop }
  | .awaitReply => { client with send := client.send - 1, pc := .loopTest }
  | .sendStop => { client with pc := .testStopAgain }
  | .awaitStop => { client with pc := .removeQueue }
  | _ => client

def startMessage (options : Options) (index : Fin options.noOfClients) : Message options :=
  ⟨.start, index, decimal (options.recMsgqID index)⟩

/-- Its text `" "` loses the last character, like that of every request. -/
def stopMessage (index : Fin options.noOfClients) : Message options :=
  ⟨.stop, index, []⟩

/-- A send waits while the queue is full. -/
def sendBlocks (state : State options) (message : Message options) : Bool :=
  state.queueExists && !hasRoom state.queue message

/-- STOP is no request. -/
def Log.ask (log : Log options) (message : Message options) : Log options :=
  match message.mType with
  | .stop => log
  | _ => { log with asked := log.asked ++ [message] }

/-- `msgsnd(sendMsgqID, …)` -/
def clientSend (state : State options) (index : Fin options.noOfClients)
    (message : Message options) : Option (State options) :=
  let resumed := state.setClient index (state.client index).resume
  if sendBlocks state message then none
  else if state.queueExists then
    some <| (resumed.setQueue (state.queue ++ [message])).setLog index
      ((state.log index).ask message)
  else
    some resumed

/-- `msgrcv(recMsgqID, …)` -/
def clientReceive (state : State options) (index : Fin options.noOfClients) :
    Option (State options) :=
  let resumed := state.setClient index (state.client index).resume
  match state.recMsgq index with
  | none => some resumed
  | some [] => none
  | some (message :: rest) =>
      if message.Fits then
        some <| (resumed.setRecMsgq index (some rest)).setLog index
          { state.log index with received := (state.log index).received ++ [message] }
      else
        some resumed

/-- The body of the loop up to the send. The STOP that it prepares after a SIGINT
is overwritten by the operation on the line. -/
def Client.readLine (client : Client options) (index : Fin options.noOfClients) :
    Client options :=
  match client.stdin with
  | [] => { client with pc := .loopTest }
  | line :: rest =>
      let buffer := MessageServer.getline client.buffer line
      let read := { client with stdin := rest, buffer := cutFirstWord buffer }
      match parse buffer with
      | .crash => { read with pc := .crashed }
      | .wrongOperation => { read with send := 0, pc := .loopTest }
      | .request .serverEnd msg =>
          { read with
            clientStop := true, send := 2, pc := .sendRequest ⟨.serverEnd, index, msg⟩ }
      | .request mType msg => { read with send := 1, pc := .sendRequest ⟨mType, index, msg⟩ }

/-- One statement of a client. -/
def clientStep (state : State options) (index : Fin options.noOfClients) :
    Option (State options) :=
  let client := state.client index
  match client.pc with
  | .sendStart => clientSend state index (startMessage options index)
  | .sendRequest mMsg => clientSend state index mMsg
  | .sendStop => clientSend state index (stopMessage index)
  | .awaitStart | .awaitReply | .awaitStop => clientReceive state index
  | .loopTest =>
      some <| state.setClient index
        { client with pc := if client.clientStop then .testSend else .getline }
  | .getline => some <| state.setClient index (client.readLine index)
  | .testStop =>
      some <| state.setClient index
        (if client.clientStop then { client with send := client.send - 1, pc := .loopTest }
        else { client with pc := .awaitReply })
  | .testSend =>
      some <| state.setClient index
        { client with pc := if client.send = 0 then .sendStop else .removeQueue }
  | .testStopAgain =>
      some <| state.setClient index
        { client with pc := if client.clientStop then .removeQueue else .awaitStop }
  | .removeQueue =>
      some <| (state.setRecMsgq index none).setClient index { client with pc := .returned }
  | .returned | .crashed => none

/-- Whether a client is inside a call that waits and that a signal ends. -/
def blocked (state : State options) (index : Fin options.noOfClients) : Bool :=
  match (state.client index).pc with
  | .getline => true
  | .sendStart => sendBlocks state (startMessage options index)
  | .sendRequest mMsg => sendBlocks state mMsg
  | .sendStop => sendBlocks state (stopMessage index)
  | .awaitStart | .awaitReply | .awaitStop => state.recMsgq index = some []
  | _ => false

/-- `catchSIGINT` of the server. The only call that waits is the send of a reply,
which fails with EINTR, unless the signal comes just before it. -/
def interruptServer (state : State options) (interrupts : Bool) : Option (State options) :=
  let stopped := state.setServerStop
  if interrupts then
    match state.server.pc with
    | .reply i recMsg =>
        if (reply state i recMsg).isNone then some <| stopped.moveServer .testStop else none
    | _ => none
  else some stopped

/-- `catchSIGINT` of a client, with the same effect on a call that waits. -/
def interruptClient (state : State options) (index : Fin options.noOfClients)
    (interrupts : Bool) : Option (State options) :=
  let client := { state.client index with clientStop := true, interrupted := true }
  if client.pc = .returned ∨ client.pc = .crashed then none
  else if interrupts then
    if blocked state index then some <| state.setClient index client.resume else none
  else some <| state.setClient index client

inductive Action (options : Options)
  | server (seconds : Nat)
  | interruptServer (interrupts : Bool)
  | client (index : Fin options.noOfClients)
  | interruptClient (index : Fin options.noOfClients) (interrupts : Bool)
  deriving DecidableEq

/-- The server and all clients together. -/
def system (options : Options) : TransitionSystem (State options) (Action options) where
  initial := initial options
  next state
    | .server seconds => serverStep state seconds
    | .interruptServer interrupts => interruptServer state interrupts
    | .client index => clientStep state index
    | .interruptClient index interrupts => interruptClient state index interrupts

end OsExercises.MessageServer
