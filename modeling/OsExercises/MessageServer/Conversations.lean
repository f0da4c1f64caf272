import OsExercises.Foundation.Conversation
import OsExercises.MessageServer.Consistency

/-! # The conversation of each client with the server

The server serves all clients from one queue and one buffer. Seen from one client
it is a conversation of requests and replies: every step of the system is a step
of that conversation or does not concern it. -/

namespace OsExercises.MessageServer

open OsExercises

variable {options : Options}

/-- `reply` is the answer to `request` that the matching case of the switch
sends: a slot number to START, the computed text to a request of the loop. -/
def IsAnswer (request reply : Message options) : Prop :=
  reply.mType = request.mType ∧ reply.pid = request.pid ∧
    match request.mType with
    | .start => ∃ clientNo : Nat, clientNo < maxNoOfClients ∧ reply.msg = decimal clientNo
    | mType => ∃ seconds, answer options.library seconds mType request.msg = some reply.msg

/-- A client is on its turn, waits, or receives nothing more. -/
def Client.stage (client : Client options) : Stage :=
  match client.pc with
  | .sendStart | .getline | .sendRequest _ => .ready
  | .loopTest => if client.clientStop then .gone else .ready
  | .awaitStart | .testStop | .awaitReply => .waiting
  | _ => .gone

namespace State

/-- The messages of one client that the server has not handled yet. -/
def pending (state : State options) (index : Fin options.noOfClients) :
    List (Message options) :=
  (state.server.pc.handling ++ state.queue).filter (·.pid = index)

/-- The reply to one client that the server is about to send. -/
def replying (state : State options) (index : Fin options.noOfClients) :
    List (Message options) :=
  state.server.pc.replying.filter (·.pid = index)

@[simps stage interrupted] def conversation (state : State options)
    (index : Fin options.noOfClients) : Conversation (Message options) (Message options) where
  stage := (state.client index).stage
  interrupted := (state.client index).interrupted
  pending := state.pending index
  replying := state.replying index
  inbox := (state.recMsgq index).getD []
  asked := (state.log index).asked
  delivered := (state.log index).delivered
  received := (state.log index).received

end State

/-- Why a message to or from a client may get lost. -/
inductive LossCause (state : State options) (index : Fin options.noOfClients) :
    Action options → Prop
  | refused (seconds : Nat) (recMsg : Message options) (pc : state.server.pc = .handle recMsg)
      (mine : recMsg.pid = index) (start : recMsg.mType = .start)
      (full : Full state.server.clientMsgQs) : LossCause state index (.server seconds)
  | ended (seconds : Nat) (recMsg : Message options) (pc : state.server.pc = .handle recMsg)
      (ends : recMsg.mType = .serverEnd) : LossCause state index (.server seconds)
  | stopped (seconds : Nat) (recMsg : Message options) (pc : state.server.pc = .handle recMsg)
      (mine : recMsg.pid = index) (stop : recMsg.mType = .stop) :
      LossCause state index (.server seconds)
  | crashed (seconds : Nat) (recMsg : Message options) (pc : state.server.pc = .handle recMsg)
      (request : recMsg.mType ≠ .start ∧ recMsg.mType ≠ .serverEnd ∧ recMsg.mType ≠ .stop)
      (missing : answer options.library seconds recMsg.mType recMsg.msg = none) :
      LossCause state index (.server seconds)
  | unreachable (seconds i : Nat) (recMsg : Message options)
      (pc : state.server.pc = .reply i recMsg) (mine : recMsg.pid = index)
      (below : i < maxNoOfClients)
      (nobody : ∀ client queue,
        recipient options state.server.opened (state.server.clientMsgQs i).qID = some client →
          state.recMsgq client ≠ some queue) :
      LossCause state index (.server seconds)
  | beyond (seconds i : Nat) (recMsg : Message options)
      (pc : state.server.pc = .reply i recMsg) (beyond : maxNoOfClients ≤ i) :
      LossCause state index (.server seconds)
  | removed (seconds : Nat) (pc : state.server.pc = .removeQueue) :
      LossCause state index (.server seconds)
  | signalled : LossCause state index (.interruptServer true)
  | unsent (gone : state.queueExists = false) : LossCause state index (.client index)
  | interrupted : LossCause state index (.interruptClient index true)

variable {state following : State options} {index : Fin options.noOfClients}

/-- A conversation goes on only through these parts of the state. -/
theorem conversation_congr (client : following.client index = state.client index)
    (recMsgq : following.recMsgq index = state.recMsgq index)
    (log : following.log index = state.log index)
    (pending : following.pending index = state.pending index)
    (replying : following.replying index = state.replying index) :
    following.conversation index = state.conversation index := by
  simp only [State.conversation, client, recMsgq, log, pending, replying]

/-! ## Steps of the server -/

/-- What most steps of the server leave alone. -/
structure SameClients (state following : State options) : Prop where
  client : following.client = state.client
  recMsgq : following.recMsgq = state.recMsgq
  log : following.log = state.log
  queue : following.queue = state.queue

section Server

variable {recMsg : Message options} {cause : Prop}

theorem pending_of_handle (index : Fin options.noOfClients)
    (pc : state.server.pc = .handle recMsg) :
    state.pending index =
      if recMsg.pid = index then recMsg :: state.queue.filter (·.pid = index)
      else state.queue.filter (·.pid = index) := by
  simp [State.pending, pc, ServerPc.handling, List.filter_cons]

theorem replying_of_reply (index : Fin options.noOfClients) {i : Nat}
    (pc : state.server.pc = .reply i recMsg) :
    state.replying index = if recMsg.pid = index then [recMsg] else [] := by
  simp [State.replying, pc, ServerPc.replying, List.filter_cons]

/-- A message is handled and nothing is sent. -/
theorem advances_discard (same : SameClients state following)
    (pc : state.server.pc = .handle recMsg) (idle : following.server.pc.Idle)
    (because : recMsg.pid = index → cause) :
    (state.conversation index).Advances IsAnswer cause (following.conversation index) := by
  have before := pending_of_handle index pc
  have after : following.pending index = state.queue.filter (·.pid = index) := by
    simp [State.pending, idle.1, same.queue]
  have silent : following.replying index = state.replying index := by
    have before : state.server.pc.replying = [] := by rw [pc]; rfl
    simp [State.replying, idle.2, before]
  by_cases mine : recMsg.pid = index
  · rw [if_pos mine] at before
    have discarded : following.conversation index =
        { state.conversation index with pending := state.queue.filter (·.pid = index) } := by
      simp [State.conversation, same.client, same.recMsgq, same.log, after, silent]
    rw [discarded]
    exact .loses (.discard before) (because mine)
  · rw [if_neg mine] at before
    exact .unchanged (conversation_congr (by rw [same.client]) (by rw [same.recMsgq])
      (by rw [same.log]) (after.trans before.symm) silent)

/-- A message is handled and its answer will be sent. -/
theorem advances_answer (same : SameClients state following) {reply : Message options}
    {i : Nat} (pc : state.server.pc = .handle recMsg)
    (replyPc : following.server.pc = .reply i reply) (answers : IsAnswer recMsg reply) :
    (state.conversation index).Advances IsAnswer cause (following.conversation index) := by
  have before := pending_of_handle index pc
  have after : following.pending index = state.queue.filter (·.pid = index) := by
    simp [State.pending, replyPc, ServerPc.handling, same.queue]
  have silent : state.replying index = [] := by
    simp [State.replying, pc, ServerPc.replying]
  have replying := replying_of_reply index replyPc
  rw [answers.2.1] at replying
  by_cases mine : recMsg.pid = index
  · rw [if_pos mine] at before replying
    have answered : following.conversation index =
        { state.conversation index with
          pending := state.queue.filter (·.pid = index)
          replying := (state.conversation index).replying ++ [reply] } := by
      simp [State.conversation, same.client, same.recMsgq, same.log, after, silent, replying]
    rw [answered]
    exact .serves (.answer reply before answers)
  · rw [if_neg mine] at before replying
    exact .unchanged (conversation_congr (by rw [same.client]) (by rw [same.recMsgq])
      (by rw [same.log]) (after.trans before.symm) (replying.trans silent.symm))

/-- A reply cannot be sent. -/
theorem advances_drop (same : SameClients state following) {i : Nat}
    (pc : state.server.pc = .reply i recMsg) (idle : following.server.pc.Idle)
    (because : recMsg.pid = index → cause) :
    (state.conversation index).Advances IsAnswer cause (following.conversation index) := by
  have before := replying_of_reply index pc
  have after : following.replying index = [] := by
    simp [State.replying, idle.2]
  have pending : following.pending index = state.pending index := by
    have before : state.server.pc.handling = [] := by rw [pc]; rfl
    simp [State.pending, idle.1, before, same.queue]
  by_cases mine : recMsg.pid = index
  · rw [if_pos mine] at before
    have dropped : following.conversation index =
        { state.conversation index with replying := [] } := by
      simp [State.conversation, same.client, same.recMsgq, same.log, after, pending]
    rw [dropped]
    exact .loses (.drop before) (because mine)
  · rw [if_neg mine] at before
    exact .unchanged (conversation_congr (by rw [same.client]) (by rw [same.recMsgq])
      (by rw [same.log]) pending (after.trans before.symm))

/-- The reply in a slot goes to the client that the answered message came from. -/
theorem Consistent.recipient_eq (consistent : Consistent state) {i : Nat}
    {client : Fin options.noOfClients} (pc : state.server.pc = .reply i recMsg)
    (below : i < maxNoOfClients)
    (found : recipient options state.server.opened (state.server.clientMsgQs i).qID =
      some client) : client = recMsg.pid :=
  (consistent.slots i recMsg.pid (consistent.replies i recMsg pc below)).recipient found

theorem enqueueReply_nil (reply : Message options) : enqueueReply [] reply = [reply] := by
  unfold enqueueReply
  split <;> rfl

theorem advances_serverStep {seconds : Nat} (consistent : Consistent state)
    (paced : (state.conversation index).Paced IsAnswer)
    (step : ServerStep state seconds following) :
    (state.conversation index).Advances IsAnswer (LossCause state index (.server seconds))
      (following.conversation index) := by
  cases step with
  | move next idle idleNext =>
      apply Conversation.Advances.unchanged
      refine conversation_congr rfl rfl rfl ?_ ?_
      · simp [State.pending, idle.1, idleNext.1]
      · simp [State.replying, idle.2, idleNext.2]
  | receive recMsg rest pc queue fits =>
      apply Conversation.Advances.unchanged
      refine conversation_congr rfl rfl rfl ?_ ?_
      · simp [State.pending, pc, queue, ServerPc.handling]
      · simp [State.replying, pc, ServerPc.replying]
  | refuse recMsg pc start full =>
      exact advances_discard ⟨rfl, rfl, rfl, rfl⟩ pc ⟨rfl, rfl⟩
        fun mine => .refused seconds recMsg pc mine start full
  | register recMsg clientNo opened qID pc start below free kept leads =>
      have answers : IsAnswer recMsg { recMsg with msg := decimal clientNo } := by
        refine ⟨rfl, rfl, ?_⟩
        rw [start]
        exact ⟨clientNo, below, rfl⟩
      exact advances_answer ⟨rfl, rfl, rfl, rfl⟩ pc rfl answers
  | serverEnd recMsg pc ends =>
      exact advances_discard ⟨rfl, rfl, rfl, rfl⟩ pc ⟨rfl, rfl⟩
        fun _ => .ended seconds recMsg pc ends
  | release recMsg pc stop found =>
      exact advances_discard ⟨rfl, rfl, rfl, rfl⟩ pc ⟨rfl, rfl⟩
        fun mine => .stopped seconds recMsg pc mine stop
  | releaseBeyond recMsg pc stop unknown =>
      exact advances_discard ⟨rfl, rfl, rfl, rfl⟩ pc ⟨rfl, rfl⟩
        fun mine => .stopped seconds recMsg pc mine stop
  | crash recMsg pc request missing =>
      exact advances_discard ⟨rfl, rfl, rfl, rfl⟩ pc ⟨rfl, rfl⟩
        fun _ => .crashed seconds recMsg pc request missing
  | answer recMsg msg pc answered =>
      have answers : IsAnswer recMsg { recMsg with msg := msg } := by
        refine ⟨rfl, rfl, ?_⟩
        cases mType : recMsg.mType <;> rw [mType] at answered
        case start => cases answered
        all_goals exact ⟨seconds, answered⟩
      exact advances_answer ⟨rfl, rfl, rfl, rfl⟩ pc rfl answers
  | fail i recMsg pc below nobody =>
      exact advances_drop ⟨rfl, rfl, rfl, rfl⟩ pc ⟨rfl, rfl⟩
        fun mine => .unreachable seconds i recMsg pc mine below nobody
  | replyBeyond i recMsg pc beyond =>
      exact advances_drop ⟨rfl, rfl, rfl, rfl⟩ pc ⟨rfl, rfl⟩
        fun _ => .beyond seconds i recMsg pc beyond
  | deliver i recMsg client queue pc below found here =>
      have addressee := consistent.recipient_eq pc below found
      subst addressee
      have before := replying_of_reply index pc
      by_cases mine : recMsg.pid = index
      · subst mine
        rw [if_pos rfl] at before
        have alone := (paced.of_replying before).2
        have empty : queue = [] := by simpa [State.conversation, here] using alone
        subst empty
        have delivered : (((state.setRecMsgq recMsg.pid (enqueueReply [] recMsg)).setLog
              recMsg.pid { state.log recMsg.pid with
                delivered := (state.log recMsg.pid).delivered ++ [recMsg] }).moveServer
            .testStop).conversation recMsg.pid =
            { state.conversation recMsg.pid with
              replying := []
              inbox := (state.conversation recMsg.pid).inbox ++ [recMsg]
              delivered := (state.conversation recMsg.pid).delivered ++ [recMsg] } := by
          simp [State.conversation, here, enqueueReply_nil, State.pending, State.replying, pc,
            ServerPc.handling, ServerPc.replying]
        rw [delivered]
        exact .serves (.deliver before)
      · rw [if_neg mine] at before
        apply Conversation.Advances.unchanged
        apply conversation_congr
        · rfl
        · simp [Function.update_of_ne (Ne.symm mine)]
        · simp [Function.update_of_ne (Ne.symm mine)]
        · simp [State.pending, pc, ServerPc.handling]
        · rw [before]
          simp [State.replying, ServerPc.replying]
  | remove pc =>
      have shut : ({ state.setQueue [] with queueExists := false }.moveServer
          .returned).conversation index =
          { state.conversation index with pending := [] } := by
        simp [State.conversation, State.pending, State.replying, pc, ServerPc.handling,
          ServerPc.replying]
      rw [shut]
      exact .loses .shutDown (.removed seconds pc)

end Server

/-! ## Steps of the clients -/

section Client

/-- STOP has no answer. -/
theorem silent_stop (index : Fin options.noOfClients) (reply : Message options) :
    ¬ IsAnswer (stopMessage index) reply := by
  intro answers
  rcases answers with ⟨_, _, _, answered⟩
  cases answered

theorem conversation_setClient (state : State options) (index : Fin options.noOfClients)
    (next : Client options) :
    (state.setClient index next).conversation index =
      { state.conversation index with
        stage := next.stage
        interrupted := next.interrupted } := by
  simp [State.conversation, State.pending, State.replying]

/-- A client on its own moves on within its turn, or leaves. -/
theorem LocalStep.stage {client next : Client options} (step : LocalStep index client next) :
    next.stage = client.stage ∨ next.stage = .gone := by
  cases step with
  | leaveLoop pc stops | unregister pc | noUnregister pc | noLastWait pc | lastWait pc =>
      exact .inr rfl
  | crash _ _ pc => exact .inr rfl
  | enterLoop pc continues =>
      apply Or.inl
      simp [Client.stage, pc, continues]
  | endOfFile pc | wrongOperation _ _ pc =>
      cases stops : client.clientStop with
      | false => exact .inl (by simp [Client.stage, pc])
      | true => exact .inr rfl
  | serverEnd _ _ _ pc | request _ _ _ _ pc =>
      apply Or.inl
      simp [Client.stage, pc]
  | noWait pc stops =>
      apply Or.inr
      simp [Client.stage, stops]
  | wait pc continues =>
      apply Or.inl
      simp [Client.stage, pc]

/-- After a reply it is the client's turn, or it leaves. -/
theorem resume_stage_of_receives {client : Client options} (receives : Receives client.pc) :
    client.resume.stage ≠ .waiting := by
  generalize pc : client.pc = clientPc at receives
  cases receives with
  | start | reply =>
      simp only [Client.resume, pc, Client.stage]
      split <;> simp
  | stop => simp [Client.resume, pc, Client.stage]

variable {message : Message options} {cause : Prop}

theorem conversation_send (state : State options) {index : Fin options.noOfClients}
    {message : Message options} (mine : message.pid = index) :
    (((state.setClient index (state.client index).resume).setQueue
        (state.queue ++ [message])).setLog index
          ((state.log index).ask message)).conversation index =
      { state.conversation index with
        stage := (state.client index).resume.stage
        pending := (state.conversation index).pending ++ [message]
        asked := ((state.log index).ask message).asked } := by
  have log : ((state.log index).ask message).delivered = (state.log index).delivered ∧
      ((state.log index).ask message).received = (state.log index).received := by
    unfold Log.ask
    split <;> exact ⟨rfl, rfl⟩
  simp [State.conversation, State.pending, State.replying, List.filter_append, mine, log,
    Client.resume_interrupted]

theorem advances_send (consistent : Consistent state)
    (sends : Sends options index (state.client index).pc message) :
    (state.conversation index).Advances IsAnswer cause
      ((((state.setClient index (state.client index).resume).setQueue
        (state.queue ++ [message])).setLog index
          ((state.log index).ask message)).conversation index) := by
  have sound := consistent.clients index
  generalize pc : (state.client index).pc = clientPc at sends
  cases sends with
  | start =>
      have ready : (state.client index).stage = .ready := by simp [Client.stage, pc]
      have mine : (startMessage options index).pid = index := rfl
      rw [conversation_send state mine]
      simp only [Client.resume, pc, Client.stage, Log.ask, startMessage]
      exact .serves (.ask _ ready)
  | request =>
      rcases sound.request message pc with ⟨mine, _, notStop⟩
      have ready : (state.client index).stage = .ready := by simp [Client.stage, pc]
      have asks : ((state.log index).ask message).asked =
          (state.log index).asked ++ [message] := by
        unfold Log.ask
        split
        · next stop => exact absurd stop notStop
        · rfl
      rw [conversation_send state mine, asks]
      simp only [Client.resume, pc, Client.stage]
      exact .serves (.ask _ ready)
  | stop =>
      have gone : (state.client index).stage = .gone := by simp [Client.stage, pc]
      have mine : (stopMessage index).pid = index := rfl
      rw [conversation_send state mine]
      have stays : (state.client index).resume.stage = (state.client index).stage := by
        rw [gone]
        simp [Client.resume, pc, Client.stage]
      rw [stays]
      exact .serves (.part _ gone (sound.interrupted_of_sendStop pc) (silent_stop index))

/-- A send that fails, or is ended by a signal, leaves the client waiting. -/
theorem advances_sendFails {interrupted : Bool} {client : Client options}
    (sends : Sends options index client.pc message) (same : client.pc = (state.client index).pc)
    (flag : client.interrupted = interrupted)
    (kept : (state.client index).interrupted = true → interrupted = true)
    (because : cause) :
    (state.conversation index).Advances IsAnswer cause
      ((state.setClient index client.resume).conversation index) := by
  rw [conversation_setClient, Client.resume_interrupted, flag]
  generalize pc : client.pc = clientPc at sends same
  cases sends with
  | start | request =>
      have ready : (state.client index).stage = .ready := by simp [Client.stage, ← same]
      have waits : client.resume.stage = .waiting := by
        simp [Client.resume, pc, Client.stage]
      rw [waits]
      exact .loses (.unsent interrupted ready kept) because
  | stop =>
      have gone : (state.client index).stage = .gone := by simp [Client.stage, ← same]
      have stays : client.resume.stage = .gone := by
        simp [Client.resume, pc, Client.stage]
      rw [stays]
      cases interrupted with
      | true => exact .serves (.interrupt .gone (.inr rfl))
      | false =>
          have undisturbed : (state.client index).interrupted = false := by
            simpa using mt kept (by simp)
          apply Conversation.Advances.unchanged
          simp [State.conversation, gone, undisturbed]

theorem advances_clientStep {following : State options} (consistent : Consistent state)
    (step : ClientStep state index following) :
    (state.conversation index).Advances IsAnswer (LossCause state index (.client index))
      (following.conversation index) := by
  have sound := consistent.clients index
  cases step with
  | send message sends here => exact advances_send consistent sends
  | sendFails message sends gone =>
      exact advances_sendFails sends rfl rfl id (.unsent gone)
  | receive message rest receives arrived fits =>
      have next := resume_stage_of_receives receives
      have waits : (state.client index).stage = .waiting := by
        have noLastWait := sound.noLastWait
        generalize pc : (state.client index).pc = clientPc at receives noLastWait
        cases receives with
        | start | reply => simp [Client.stage, pc]
        | stop => exact absurd rfl noLastWait
      have inbox : (state.conversation index).inbox = message :: rest := by
        simp [State.conversation, arrived]
      have received : (((state.setClient index (state.client index).resume).setRecMsgq index
            (some rest)).setLog index
              { state.log index with
                received := (state.log index).received ++ [message] }).conversation index =
          { state.conversation index with
            stage := (state.client index).resume.stage
            inbox := rest
            received := (state.conversation index).received ++ [message] } := by
        simp [State.conversation, State.pending, State.replying, Client.resume_interrupted]
      rw [received]
      exact .serves (.receive _ next waits inbox)
  | receiveFails receives fails awake =>
      cases held : state.recMsgq index with
      | none =>
          exact absurd (consistent.closed index held) (Consistent.alive_of_receives receives)
      | some queue =>
          cases queue with
          | nil => exact absurd held awake
          | cons message rest =>
              have fits := consistent.inboxes index _ held message (by simp)
              exact absurd fits (fails message rest held)
  | move next moves =>
      rw [conversation_setClient, moves.interrupted]
      rcases moves.stage with same | gone
      · rw [same]
        exact .unchanged rfl
      · rw [gone]
        exact .serves .leave
  | close pc =>
      have gone : (state.client index).stage = .gone := by simp [Client.stage, pc]
      have closed : ((state.setRecMsgq index none).setClient index
            { state.client index with pc := .returned }).conversation index =
          { state.conversation index with inbox := [] } := by
        simp [State.conversation, State.pending, State.replying, Client.stage, pc]
      rw [closed]
      exact .serves (.close gone)

theorem advances_interruption {interrupts : Bool} {next : Client options}
    (interruption : Interruption state index interrupts next) :
    (state.conversation index).Advances IsAnswer
      (LossCause state index (.interruptClient index interrupts))
      ((state.setClient index next).conversation index) := by
  cases interruption with
  | noted alive =>
      rw [conversation_setClient]
      have stays : (state.client index).interrupt.stage = (state.client index).stage ∨
          (state.client index).interrupt.stage = .gone := by
        unfold Client.stage
        cases pc : (state.client index).pc <;> simp [pc]
      exact .serves (.interrupt _ stays)
  | read pc =>
      have leaves : (state.client index).interrupt.resume.stage = .gone := by
        simp [Client.resume, pc, Client.stage]
      rw [conversation_setClient, Client.resume_interrupted, leaves]
      exact .serves (.interrupt .gone (.inr rfl))
  | send message sends =>
      exact advances_sendFails sends rfl rfl (fun _ => rfl) .interrupted
  | receive receives empty =>
      have leaves : (state.client index).interrupt.resume.stage = .gone := by
        generalize pc : (state.client index).pc = clientPc at receives
        cases receives <;> simp [Client.resume, pc, Client.stage]
      rw [conversation_setClient, Client.resume_interrupted, leaves]
      exact .serves (.interrupt .gone (.inr rfl))

/-! ## All steps -/

/-- A step of one client does not concern the others. -/
theorem conversation_of_clientStep {other : Fin options.noOfClients}
    (different : other ≠ index) (consistent : Consistent state)
    (step : ClientStep state index following) :
    following.conversation other = state.conversation other := by
  cases step with
  | send message sends here =>
      have mine : message.pid = index := by
        have request := (consistent.clients index).request
        generalize (state.client index).pc = clientPc at sends request
        cases sends with
        | start | stop => rfl
        | request => exact (request message rfl).1
      have foreign : ¬ message.pid = other := fun same => different (same.symm.trans mine)
      refine conversation_congr ?_ rfl ?_ ?_ rfl
      · simp [different]
      · simp [different]
      · simp [State.pending, List.filter_append, foreign]
  | sendFails | receiveFails | move =>
      exact conversation_congr (by simp [different]) rfl rfl rfl rfl
  | receive message rest receives arrived fits =>
      exact conversation_congr (by simp [different]) (by simp [different])
        (by simp [different]) rfl rfl
  | close pc =>
      exact conversation_congr (by simp [different]) (by simp [different]) rfl rfl rfl

end Client

/-- Every step of the system is a step of each conversation, or leaves it alone. -/
theorem advances {action : Action options} (consistent : Consistent state)
    (paced : (state.conversation index).Paced IsAnswer)
    (taken : (system options).next state action = some following) :
    (state.conversation index).Advances IsAnswer (LossCause state index action)
      (following.conversation index) := by
  cases action with
  | server seconds =>
      exact advances_serverStep consistent paced
        (serverStep_cases consistent.clientNo taken)
  | interruptServer interrupts =>
      cases interruptServer_cases taken with
      | noted => exact .unchanged rfl
      | send i recMsg pc =>
          exact advances_drop ⟨rfl, rfl, rfl, rfl⟩ pc ⟨rfl, rfl⟩ fun _ => .signalled
  | client other =>
      have step := clientStep_cases taken
      by_cases same : index = other
      · subst same
        exact advances_clientStep consistent step
      · exact .unchanged (conversation_of_clientStep same consistent step)
  | interruptClient other interrupts =>
      rcases interruptClient_cases taken with ⟨next, interruption, rfl⟩
      by_cases same : index = other
      · subst same
        exact advances_interruption interruption
      · exact .unchanged
          (conversation_congr (by simp [same]) rfl rfl rfl rfl)

theorem paced_initial (options : Options) (index : Fin options.noOfClients) :
    ((initial options).conversation index).Paced IsAnswer := by
  refine ⟨[], [], [], [], [], ?_⟩
  exact
    { asked := rfl
      pending := rfl
      delivered := rfl
      answered := .nil
      outstanding := .nowhere [] (by simp)
      inbox := .inl rfl
      ready := fun _ => rfl
      silent := by simp
      parting := by simp }

/-- In every run each client and the server take turns. -/
theorem paced (reachable : (system options).Reachable state)
    (index : Fin options.noOfClients) : (state.conversation index).Paced IsAnswer :=
  reachable.invariant_of (fun state => (state.conversation index).Paced IsAnswer)
    (fun _ => consistent) (paced_initial options index)
    fun _ _ _ known holds _ taken => holds.advances (advances known holds taken)

end OsExercises.MessageServer
