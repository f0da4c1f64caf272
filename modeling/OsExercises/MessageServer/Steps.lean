import OsExercises.MessageServer.SlotTable

/-! # What a step can do

The steps of the server and of the clients, one case for each thing they do to
the shared state. The invariants are proved by cases on these. -/

namespace OsExercises.MessageServer

open OsExercises

variable {options : Options}

namespace ServerPc

/-- The message that the server has taken and not handled yet. -/
def handling : ServerPc options → List (Message options)
  | .handle recMsg => [recMsg]
  | _ => []

/-- The reply that the server is about to send. -/
def replying : ServerPc options → List (Message options)
  | .reply _ recMsg => [recMsg]
  | _ => []

/-- The server has no message in its hands. -/
def Idle (pc : ServerPc options) : Prop :=
  pc.handling = [] ∧ pc.replying = []

end ServerPc

theorem mem_enqueueReply {queue : List (Message options)} {reply message : Message options} :
    message ∈ enqueueReply queue reply ↔ message ∈ queue ∨ message = reply := by
  unfold enqueueReply
  split
  · simp
  · have parts := List.mem_append (a := message)
      (s := queue.takeWhile (reply.mType.priority ≤ ·.mType.priority))
      (t := queue.dropWhile (reply.mType.priority ≤ ·.mType.priority))
    rw [List.takeWhile_append_dropWhile] at parts
    rw [parts, List.mem_append, List.mem_cons]
    grind

/-- What the server does at its next statement, with a sound `client_no`. -/
inductive ServerStep (state : State options) (seconds : Nat) : State options → Prop
  | move (next : ServerPc options) (idle : state.server.pc.Idle) (idleNext : next.Idle)
      (stopped : next = .removeQueue →
        state.server.serverStop = true ∨ state.server.serverEnd = true)
      (returned : next = .returned → state.server.pc = .removeQueue)
      (safe : next ≠ .crashed ∧ next ≠ .outOfBounds) :
      ServerStep state seconds (state.moveServer next)
  | receive (recMsg : Message options) (rest : List (Message options))
      (pc : state.server.pc = .receive) (queue : state.queue = recMsg :: rest)
      (fits : recMsg.Fits) :
      ServerStep state seconds ((state.setQueue rest).moveServer (.handle recMsg))
  | refuse (recMsg : Message options) (pc : state.server.pc = .handle recMsg)
      (start : recMsg.mType = .start) (full : Full state.server.clientMsgQs) :
      ServerStep state seconds ((state.setClientNo 0).moveServer .testStop)
  | register (recMsg : Message options) (clientNo : Nat)
      (opened : List (Fin options.noOfClients)) (qID : Int)
      (pc : state.server.pc = .handle recMsg) (start : recMsg.mType = .start)
      (below : clientNo < maxNoOfClients)
      (free : (state.server.clientMsgQs clientNo).pid = none)
      (kept : opened = state.server.opened ∨ opened = state.server.opened ++ [recMsg.pid])
      (leads : recMsg.msg = decimal (options.recMsgqID recMsg.pid) →
        Leads options opened recMsg.pid qID) :
      ServerStep state seconds
        { state with server := { state.server with
            pc := .reply clientNo { recMsg with msg := decimal clientNo }
            clientMsgQs := Function.update state.server.clientMsgQs clientNo ⟨recMsg.pid, qID⟩
            clientNo := clientNo
            opened := opened } }
  | serverEnd (recMsg : Message options) (pc : state.server.pc = .handle recMsg)
      (ends : recMsg.mType = .serverEnd) :
      ServerStep state seconds (state.setServerEnd.moveServer .testStop)
  | release (recMsg : Message options) (pc : state.server.pc = .handle recMsg)
      (stop : recMsg.mType = .stop)
      (found : state.server.lookup recMsg.pid < maxNoOfClients) :
      ServerStep state seconds
        ((state.setSlot (state.server.lookup recMsg.pid) (noClient options)).moveServer .testStop)
  | releaseBeyond (recMsg : Message options) (pc : state.server.pc = .handle recMsg)
      (stop : recMsg.mType = .stop)
      (unknown : maxNoOfClients ≤ state.server.lookup recMsg.pid) :
      ServerStep state seconds (state.moveServer .outOfBounds)
  | crash (recMsg : Message options) (pc : state.server.pc = .handle recMsg)
      (request : recMsg.mType ≠ .start ∧ recMsg.mType ≠ .serverEnd ∧ recMsg.mType ≠ .stop)
      (missing : answer options.library seconds recMsg.mType recMsg.msg = none) :
      ServerStep state seconds (state.moveServer .crashed)
  | answer (recMsg : Message options) (msg : Text) (pc : state.server.pc = .handle recMsg)
      (answered : answer options.library seconds recMsg.mType recMsg.msg = some msg) :
      ServerStep state seconds
        (state.moveServer
          (.reply (state.server.lookup recMsg.pid) { recMsg with msg := msg }))
  | fail (i : Nat) (recMsg : Message options) (pc : state.server.pc = .reply i recMsg)
      (below : i < maxNoOfClients)
      (nobody : ∀ client queue,
        recipient options state.server.opened (state.server.clientMsgQs i).qID = some client →
          state.recMsgq client ≠ some queue) :
      ServerStep state seconds (state.moveServer .testStop)
  | deliver (i : Nat) (recMsg : Message options) (client : Fin options.noOfClients)
      (queue : List (Message options)) (pc : state.server.pc = .reply i recMsg)
      (below : i < maxNoOfClients)
      (found : recipient options state.server.opened (state.server.clientMsgQs i).qID =
        some client)
      (here : state.recMsgq client = some queue) :
      ServerStep state seconds
        (((state.setRecMsgq client (enqueueReply queue recMsg)).setLog client
          { state.log client with
            delivered := (state.log client).delivered ++ [recMsg] }).moveServer .testStop)
  | replyBeyond (i : Nat) (recMsg : Message options) (pc : state.server.pc = .reply i recMsg)
      (beyond : maxNoOfClients ≤ i) :
      ServerStep state seconds (state.moveServer .outOfBounds)
  | remove (pc : state.server.pc = .removeQueue) :
      ServerStep state seconds
        ({ state.setQueue [] with queueExists := false }.moveServer .returned)

/-- `openQueue` only adds a descriptor. -/
theorem openQueue_cases (state : State options) (recMsg : Message options) :
    ∃ opened qID,
      openQueue state recMsg =
        ({ state with server := { state.server with opened := opened } }, qID) ∧
      (opened = state.server.opened ∨ opened = state.server.opened ++ [recMsg.pid]) ∧
      (recMsg.msg = decimal (options.recMsgqID recMsg.pid) →
        Leads options opened recMsg.pid qID) := by
  unfold openQueue Leads
  cases options.program with
  | zad1 =>
      refine ⟨_, _, rfl, .inl rfl, ?_⟩
      intro identifier
      rw [identifier]
      exact stringToInt_decimal (options.recMsgqID_lt recMsg.pid)
  | zad2 =>
      by_cases opens : (state.recMsgq recMsg.pid).isSome ∧
          state.server.opened.length < options.openMax
      · simp only [if_pos opens]
        exact ⟨_, _, rfl, .inr rfl, fun _ => .inr (by simp)⟩
      · simp only [if_neg opens]
        exact ⟨_, _, rfl, .inl rfl, fun _ => .inl rfl⟩

theorem handleStart_cases {state : State options} {recMsg : Message options}
    (sound : state.server.clientNo < maxNoOfClients) (seconds : Nat)
    (pc : state.server.pc = .handle recMsg) (start : recMsg.mType = .start) :
    ServerStep state seconds (handleStart state recMsg) := by
  rcases findFree_eq_some state.server.clientMsgQs sound with
    ⟨result, found, slot⟩
  unfold handleStart
  rw [found]
  cases slot with
  | full occupied => exact .refuse recMsg pc start occupied
  | free clientNo flag below early free =>
      rcases openQueue_cases state recMsg with ⟨opened, qID, opens, kept, leads⟩
      simp only [if_neg early, opens]
      exact .register recMsg clientNo opened qID pc start below free kept leads

theorem handle_cases {state : State options} {recMsg : Message options}
    (sound : state.server.clientNo < maxNoOfClients) (seconds : Nat)
    (pc : state.server.pc = .handle recMsg) :
    ServerStep state seconds (handle state seconds recMsg) := by
  cases mType : recMsg.mType with
  | start =>
      simp only [handle, mType]
      exact handleStart_cases sound seconds pc mType
  | serverEnd =>
      simp only [handle, mType]
      exact .serverEnd recMsg pc mType
  | stop =>
      simp only [handle, mType]
      split
      · next found => exact .release recMsg pc mType found
      · next unknown => exact .releaseBeyond recMsg pc mType (Nat.le_of_not_lt unknown)
  | mirror | add | mul | sub | div | time =>
      have request : recMsg.mType ≠ .start ∧ recMsg.mType ≠ .serverEnd ∧
          recMsg.mType ≠ .stop := by
        rw [mType]
        decide
      simp only [handle, mType]
      split
      · next crashed =>
          rw [← mType] at crashed
          exact .crash recMsg pc request crashed
      · next msg answered =>
          rw [← mType] at answered
          have step : ServerStep state seconds _ := .answer recMsg msg pc answered
          rw [mType] at step
          exact step

theorem reply_cases {state following : State options} {i : Nat} {recMsg : Message options}
    (seconds : Nat) (pc : state.server.pc = .reply i recMsg)
    (taken : reply state i recMsg = some following) :
    ServerStep state seconds following := by
  unfold reply at taken
  split at taken
  · next below =>
      split at taken
      · next nobody =>
          cases taken
          exact .fail i recMsg pc below (by simp [nobody])
      · next client found =>
          split at taken
          · next removed =>
              cases taken
              refine .fail i recMsg pc below ?_
              intro other queue same
              rw [found] at same
              cases same
              simp [removed]
          · next queue here =>
              split at taken
              · cases taken
                exact .deliver i recMsg client queue pc below found here
              · cases taken
  · next beyond =>
      cases taken
      exact .replyBeyond i recMsg pc (Nat.le_of_not_lt beyond)

theorem serverStep_cases {state following : State options} {seconds : Nat}
    (sound : state.server.clientNo < maxNoOfClients)
    (taken : serverStep state seconds = some following) :
    ServerStep state seconds following := by
  cases pc : state.server.pc with
  | receive =>
      have idle : state.server.pc.Idle := by
        rw [pc]
        exact ⟨rfl, rfl⟩
      simp only [serverStep, pc] at taken
      split at taken
      · cases taken
        exact .move _ idle ⟨rfl, rfl⟩ (by simp) (by simp) (by simp)
      · next recMsg rest queue =>
          split at taken
          · next fits =>
              cases taken
              exact .receive recMsg rest pc queue fits
          · cases taken
            exact .move _ idle ⟨rfl, rfl⟩ (by simp) (by simp) (by simp)
  | handle recMsg =>
      simp only [serverStep, pc] at taken
      cases taken
      exact handle_cases sound seconds pc
  | reply i recMsg =>
      simp only [serverStep, pc] at taken
      exact reply_cases seconds pc taken
  | testStop =>
      have idle : state.server.pc.Idle := by
        rw [pc]
        exact ⟨rfl, rfl⟩
      simp only [serverStep, pc] at taken
      cases taken
      split
      · next stopped => exact .move _ idle ⟨rfl, rfl⟩ (fun _ => stopped) (by simp) (by simp)
      · exact .move _ idle ⟨rfl, rfl⟩ (by simp) (by simp) (by simp)
  | removeQueue =>
      simp only [serverStep, pc] at taken
      split at taken
      · cases taken
        exact .remove pc
      · cases taken
        have idle : state.server.pc.Idle := by
          rw [pc]
          exact ⟨rfl, rfl⟩
        exact .move _ idle ⟨rfl, rfl⟩ (by simp) (fun _ => pc) (by simp)
  | returned | crashed | outOfBounds => simp [serverStep, pc] at taken

/-! ## Clients -/

/-- A client at `pc` is about to send the message. -/
inductive Sends (options : Options) (index : Fin options.noOfClients) :
    ClientPc options → Message options → Prop
  | start : Sends options index .sendStart (startMessage options index)
  | request (mMsg : Message options) : Sends options index (.sendRequest mMsg) mMsg
  | stop : Sends options index .sendStop (stopMessage index)

/-- A client at `pc` is inside `msgrcv` or about to call it. -/
inductive Receives : ClientPc options → Prop
  | start : Receives .awaitStart
  | reply : Receives .awaitReply
  | stop : Receives .awaitStop

/-- The statements that concern the client alone. -/
inductive LocalStep (index : Fin options.noOfClients) (client : Client options) :
    Client options → Prop
  | leaveLoop (pc : client.pc = .loopTest) (stops : client.clientStop = true) :
      LocalStep index client { client with pc := .testSend }
  | enterLoop (pc : client.pc = .loopTest) (continues : client.clientStop = false) :
      LocalStep index client { client with pc := .getline }
  | endOfFile (pc : client.pc = .getline) :
      LocalStep index client { client with pc := .loopTest }
  | crash (buffer : Text) (stdin : List Text) (pc : client.pc = .getline) :
      LocalStep index client { client with pc := .crashed, buffer := buffer, stdin := stdin }
  | wrongOperation (buffer : Text) (stdin : List Text) (pc : client.pc = .getline) :
      LocalStep index client
        { client with pc := .loopTest, send := 0, buffer := buffer, stdin := stdin }
  | serverEnd (buffer : Text) (stdin : List Text) (msg : Text) (pc : client.pc = .getline) :
      LocalStep index client
        { client with
          pc := .sendRequest ⟨.serverEnd, index, msg⟩
          clientStop := true
          send := 2
          buffer := buffer
          stdin := stdin }
  | request (buffer : Text) (stdin : List Text) (mType : MessageType) (msg : Text)
      (pc : client.pc = .getline) (ordinary : mType ≠ .start ∧ mType ≠ .stop) :
      LocalStep index client
        { client with
          pc := .sendRequest ⟨mType, index, msg⟩
          send := 1
          buffer := buffer
          stdin := stdin }
  | noWait (pc : client.pc = .testStop) (stops : client.clientStop = true) :
      LocalStep index client { client with pc := .loopTest, send := client.send - 1 }
  | wait (pc : client.pc = .testStop) (continues : client.clientStop = false) :
      LocalStep index client { client with pc := .awaitReply }
  | unregister (pc : client.pc = .testSend) (sent : client.send = 0) :
      LocalStep index client { client with pc := .sendStop }
  | noUnregister (pc : client.pc = .testSend) (sent : client.send ≠ 0) :
      LocalStep index client { client with pc := .removeQueue }
  | noLastWait (pc : client.pc = .testStopAgain) (stops : client.clientStop = true) :
      LocalStep index client { client with pc := .removeQueue }
  | lastWait (pc : client.pc = .testStopAgain) (continues : client.clientStop = false) :
      LocalStep index client { client with pc := .awaitStop }

/-- What a client does at its next statement. -/
inductive ClientStep (state : State options) (index : Fin options.noOfClients) :
    State options → Prop
  | send (message : Message options) (sends : Sends options index (state.client index).pc message)
      (here : state.queueExists = true) :
      ClientStep state index
        (((state.setClient index (state.client index).resume).setQueue
          (state.queue ++ [message])).setLog index ((state.log index).ask message))
  | sendFails (message : Message options)
      (sends : Sends options index (state.client index).pc message)
      (gone : state.queueExists = false) :
      ClientStep state index (state.setClient index (state.client index).resume)
  | receive (message : Message options) (rest : List (Message options))
      (receives : Receives (state.client index).pc)
      (arrived : state.recMsgq index = some (message :: rest)) (fits : message.Fits) :
      ClientStep state index
        (((state.setClient index (state.client index).resume).setRecMsgq index (some rest)).setLog
          index { state.log index with received := (state.log index).received ++ [message] })
  | receiveFails (receives : Receives (state.client index).pc)
      (fails : ∀ message rest, state.recMsgq index = some (message :: rest) → ¬ message.Fits)
      (awake : state.recMsgq index ≠ some []) :
      ClientStep state index (state.setClient index (state.client index).resume)
  | move (next : Client options) (moves : LocalStep index (state.client index) next) :
      ClientStep state index (state.setClient index next)
  | close (pc : (state.client index).pc = .removeQueue) :
      ClientStep state index
        ((state.setRecMsgq index none).setClient index
          { state.client index with pc := .returned })

theorem operation_ne {fWord : Text} {mType : MessageType}
    (found : operation fWord = some mType) : mType ≠ .start ∧ mType ≠ .stop := by
  unfold operation at found
  repeat' split at found
  all_goals cases found
  all_goals decide

theorem parse_ne {buffer : Text} {mType : MessageType} {msg : Text}
    (parsed : parse buffer = .request mType msg) : mType ≠ .start ∧ mType ≠ .stop := by
  unfold parse at parsed
  split at parsed
  · cases parsed
  · split at parsed
    · cases parsed
    · next found =>
        simp only at parsed
        split at parsed
        · cases parsed
          exact operation_ne found
        · cases parsed

theorem readLine_cases {client : Client options} (index : Fin options.noOfClients)
    (pc : client.pc = .getline) : LocalStep index client (client.readLine index) := by
  unfold Client.readLine
  split
  · exact .endOfFile pc
  · next line rest _ =>
      simp only
      split
      · exact .crash _ rest pc
      · exact .wrongOperation _ rest pc
      · next msg _ => exact .serverEnd _ rest msg pc
      · next mType msg _ parsed => exact .request _ rest mType msg pc (parse_ne parsed)

theorem clientSend_cases {state following : State options} {index : Fin options.noOfClients}
    {message : Message options} (sends : Sends options index (state.client index).pc message)
    (taken : clientSend state index message = some following) :
    ClientStep state index following := by
  simp only [clientSend] at taken
  split at taken
  · cases taken
  · split at taken
    · next here =>
        cases taken
        exact .send message sends here
    · next gone =>
        cases taken
        exact .sendFails message sends (by simpa using gone)

theorem clientReceive_cases {state following : State options}
    {index : Fin options.noOfClients} (receives : Receives (state.client index).pc)
    (taken : clientReceive state index = some following) :
    ClientStep state index following := by
  simp only [clientReceive] at taken
  split at taken
  · next removed =>
      cases taken
      exact .receiveFails receives (by simp [removed]) (by simp [removed])
  · cases taken
  · next message rest arrived =>
      split at taken
      · next fits =>
          cases taken
          exact .receive message rest receives arrived fits
      · next tooBig =>
          cases taken
          refine .receiveFails receives ?_ (by simp [arrived])
          intro other others same
          rw [arrived] at same
          cases same
          exact tooBig

theorem clientStep_cases {state following : State options} {index : Fin options.noOfClients}
    (taken : clientStep state index = some following) : ClientStep state index following := by
  cases pc : (state.client index).pc with
  | sendStart =>
      simp only [clientStep, pc] at taken
      exact clientSend_cases (pc ▸ .start) taken
  | sendRequest mMsg =>
      simp only [clientStep, pc] at taken
      exact clientSend_cases (pc ▸ .request mMsg) taken
  | sendStop =>
      simp only [clientStep, pc] at taken
      exact clientSend_cases (pc ▸ .stop) taken
  | awaitStart =>
      simp only [clientStep, pc] at taken
      exact clientReceive_cases (pc ▸ .start) taken
  | awaitReply =>
      simp only [clientStep, pc] at taken
      exact clientReceive_cases (pc ▸ .reply) taken
  | awaitStop =>
      simp only [clientStep, pc] at taken
      exact clientReceive_cases (pc ▸ .stop) taken
  | loopTest =>
      simp only [clientStep, pc] at taken
      cases taken
      apply ClientStep.move
      split
      · next stops => exact .leaveLoop pc stops
      · next continues => exact .enterLoop pc (by simpa using continues)
  | getline =>
      simp only [clientStep, pc] at taken
      cases taken
      exact .move _ (readLine_cases index pc)
  | testStop =>
      simp only [clientStep, pc] at taken
      cases taken
      apply ClientStep.move
      split
      · next stops => exact .noWait pc stops
      · next continues => exact .wait pc (by simpa using continues)
  | testSend =>
      simp only [clientStep, pc] at taken
      cases taken
      apply ClientStep.move
      split
      · next sent => exact .unregister pc sent
      · next sent => exact .noUnregister pc sent
  | testStopAgain =>
      simp only [clientStep, pc] at taken
      cases taken
      apply ClientStep.move
      split
      · next stops => exact .noLastWait pc stops
      · next continues => exact .lastWait pc (by simpa using continues)
  | removeQueue =>
      simp only [clientStep, pc] at taken
      cases taken
      exact .close pc
  | returned | crashed => simp [clientStep, pc] at taken

/-! ## Signals -/

/-- The client once `catchSIGINT` has run. -/
@[simps] def Client.interrupt (client : Client options) : Client options :=
  { client with clientStop := true, interrupted := true }

/-- What a SIGINT does to the server. A call that it ends is the send of a reply. -/
inductive ServerInterruption (state : State options) : Bool → State options → Prop
  | noted : ServerInterruption state false state.setServerStop
  | send (i : Nat) (recMsg : Message options) (pc : state.server.pc = .reply i recMsg) :
      ServerInterruption state true (state.setServerStop.moveServer .testStop)

theorem interruptServer_cases {state following : State options} {interrupts : Bool}
    (taken : interruptServer state interrupts = some following) :
    ServerInterruption state interrupts following := by
  cases interrupts with
  | false =>
      cases taken
      exact .noted
  | true =>
      simp only [interruptServer, if_true] at taken
      split at taken
      · next i recMsg pc =>
          split at taken
          · cases taken
            exact .send i recMsg pc
          · cases taken
      · cases taken

/-- What a SIGINT does to a client. A call that it ends is one that waits. -/
inductive Interruption (state : State options) (index : Fin options.noOfClients) :
    Bool → Client options → Prop
  | noted (alive : (state.client index).pc ≠ .returned) :
      Interruption state index false (state.client index).interrupt
  | read (pc : (state.client index).pc = .getline) :
      Interruption state index true (state.client index).interrupt.resume
  | send (message : Message options)
      (sends : Sends options index (state.client index).pc message) :
      Interruption state index true (state.client index).interrupt.resume
  | receive (receives : Receives (state.client index).pc)
      (empty : state.recMsgq index = some []) :
      Interruption state index true (state.client index).interrupt.resume

theorem interruptClient_cases {state following : State options}
    {index : Fin options.noOfClients} {interrupts : Bool}
    (taken : interruptClient state index interrupts = some following) :
    ∃ next, Interruption state index interrupts next ∧
      following = state.setClient index next := by
  simp only [interruptClient] at taken
  split at taken
  · cases taken
  · next alive =>
      cases interrupts with
      | false =>
          simp only [Bool.false_eq_true, if_false] at taken
          cases taken
          exact ⟨_, .noted fun returned => alive (.inl returned), rfl⟩
      | true =>
          simp only [if_true] at taken
          split at taken
          · next waits =>
              cases taken
              refine ⟨_, ?_, rfl⟩
              simp only [blocked] at waits
              split at waits
              · next pc => exact .read pc
              · next pc => exact .send (startMessage options index) (pc ▸ .start)
              · next mMsg pc => exact .send mMsg (pc ▸ .request mMsg)
              · next pc => exact .send (stopMessage index) (pc ▸ .stop)
              · next pc => exact .receive (pc ▸ .start) (by simpa using waits)
              · next pc => exact .receive (pc ▸ .reply) (by simpa using waits)
              · next pc => exact .receive (pc ▸ .stop) (by simpa using waits)
              · cases waits
          · cases taken

end OsExercises.MessageServer
