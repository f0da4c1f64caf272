import OsExercises.MessageServer.Steps

/-! # What the server and its clients know about each other

Invariants of all runs, with SIGINT at any moment: what the flags of a client say,
which client a slot leads to, and that messages have the right sender and size. -/

namespace OsExercises.MessageServer

open OsExercises

variable {options : Options}

/-! ## The flags of a client -/

/-- Behind the loop of the client. -/
def ClientPc.Leaving : ClientPc options → Prop
  | .testSend | .sendStop | .testStopAgain | .awaitStop | .removeQueue => True
  | _ => False

/-- On the way from an END line to the exit, without STOP. -/
def Client.Ending (client : Client options) : Prop :=
  match client.pc with
  | .sendRequest _ | .testStop => client.send = 2
  | .loopTest | .testSend => client.send = 1
  | .removeQueue | .returned => True
  | _ => False

theorem Client.resume_interrupted (client : Client options) :
    client.resume.interrupted = client.interrupted := by
  unfold Client.resume
  split <;> rfl

/-- Going on forgets no SIGINT. -/
theorem remembered_resume (client : Client options) (interrupted : client.interrupted = true) :
    client.resume.interrupted = true :=
  (Client.resume_interrupted client).trans interrupted

theorem LocalStep.interrupted {index : Fin options.noOfClients} {client next : Client options}
    (step : LocalStep index client next) : next.interrupted = client.interrupted := by
  cases step <;> rfl

structure Client.Sound (index : Fin options.noOfClients) (client : Client options) : Prop where
  request : ∀ mMsg, client.pc = .sendRequest mMsg →
    mMsg.pid = index ∧ mMsg.mType ≠ .start ∧ mMsg.mType ≠ .stop
  leaving : client.pc.Leaving → client.clientStop = true
  ending : client.clientStop = true → client.interrupted = true ∨ client.Ending
  noLastWait : client.pc ≠ .awaitStop

namespace Client.Sound

variable {index : Fin options.noOfClients} {client next : Client options}

theorem localStep (sound : client.Sound index) (step : LocalStep index client next) :
    next.Sound index := by
  have ending := sound.ending
  have leaving := sound.leaving
  cases step with
  | leaveLoop pc stops =>
      exact
        { request := by simp
          leaving := fun _ => stops
          ending := by simpa [Client.Ending, pc] using ending
          noLastWait := by simp }
  | enterLoop pc continues =>
      exact
        { request := by simp
          leaving := False.elim
          ending := by simp [continues]
          noLastWait := by simp }
  | endOfFile pc | crash _ _ pc | wrongOperation _ _ pc =>
      simp only [Client.Ending, pc, or_false] at ending
      exact
        { request := by simp
          leaving := False.elim
          ending := fun stops => .inl (ending stops)
          noLastWait := by simp }
  | serverEnd buffer stdin msg pc =>
      exact
        { request := by
            intro mMsg same
            cases same
            simp
          leaving := False.elim
          ending := fun _ => .inr rfl
          noLastWait := by simp }
  | request buffer stdin mType msg pc ordinary =>
      simp only [Client.Ending, pc, or_false] at ending
      exact
        { request := by
            intro mMsg same
            cases same
            exact ⟨rfl, ordinary⟩
          leaving := False.elim
          ending := fun stops => .inl (ending stops)
          noLastWait := by simp }
  | noWait pc stops =>
      exact
        { request := by simp
          leaving := False.elim
          ending := by
            intro _
            rcases ending stops with interrupted | sent
            · exact .inl interrupted
            · simp only [Client.Ending, pc] at sent
              exact .inr (by simp [Client.Ending, sent])
          noLastWait := by simp }
  | wait pc continues =>
      exact
        { request := by simp
          leaving := False.elim
          ending := by simp [continues]
          noLastWait := by simp }
  | unregister pc sent =>
      have stops := leaving (by simp [ClientPc.Leaving, pc])
      exact
        { request := by simp
          leaving := fun _ => stops
          ending := by
            intro _
            rcases ending stops with interrupted | one
            · exact .inl interrupted
            · simp only [Client.Ending, pc] at one
              omega
          noLastWait := by simp }
  | noUnregister pc sent =>
      have stops := leaving (by simp [ClientPc.Leaving, pc])
      exact
        { request := by simp
          leaving := fun _ => stops
          ending := fun _ => .inr trivial
          noLastWait := by simp }
  | noLastWait pc stops =>
      exact
        { request := by simp
          leaving := fun _ => stops
          ending := fun _ => .inr trivial
          noLastWait := by simp }
  | lastWait pc continues =>
      have stops := leaving (by simp [ClientPc.Leaving, pc])
      rw [continues] at stops
      cases stops

theorem interrupt (sound : client.Sound index) : client.interrupt.Sound index where
  request := sound.request
  leaving _ := rfl
  ending _ := .inl rfl
  noLastWait := sound.noLastWait

theorem resume_getline (sound : client.Sound index) (pc : client.pc = .getline) :
    client.resume.Sound index := by
  have ending := sound.ending
  simp only [Client.Ending, pc, or_false] at ending
  simp only [Client.resume, pc]
  exact
    { request := by simp
      leaving := False.elim
      ending := fun stops => .inl (ending stops)
      noLastWait := by simp }

theorem resume_sends {message : Message options} (sound : client.Sound index)
    (sends : Sends options index client.pc message) : client.resume.Sound index := by
  have ending := sound.ending
  have leaving := sound.leaving
  generalize pc : client.pc = clientPc at sends
  cases sends with
  | start =>
      simp only [Client.Ending, pc, or_false] at ending
      simp only [Client.resume, pc]
      exact
        { request := by simp
          leaving := False.elim
          ending := fun stops => .inl (ending stops)
          noLastWait := by simp }
  | request =>
      simp only [Client.Ending, pc] at ending
      simp only [Client.resume, pc]
      exact
        { request := by simp
          leaving := False.elim
          ending := ending
          noLastWait := by simp }
  | stop =>
      have stops := leaving (by simp [ClientPc.Leaving, pc])
      simp only [Client.Ending, pc, or_false] at ending
      simp only [Client.resume, pc]
      exact
        { request := by simp
          leaving := fun _ => stops
          ending := fun _ => .inl (ending stops)
          noLastWait := by simp }

theorem resume_receives (sound : client.Sound index) (receives : Receives client.pc) :
    client.resume.Sound index := by
  have ending := sound.ending
  have noLastWait := sound.noLastWait
  generalize pc : client.pc = clientPc at receives
  cases receives with
  | start | reply =>
      simp only [Client.Ending, pc, or_false] at ending
      simp only [Client.resume, pc]
      exact
        { request := by simp
          leaving := False.elim
          ending := fun stops => .inl (ending stops)
          noLastWait := by simp }
  | stop => exact absurd pc noLastWait

/-- Only a SIGINT makes a client send STOP. -/
theorem interrupted_of_sendStop (sound : client.Sound index) (pc : client.pc = .sendStop) :
    client.interrupted = true := by
  have stops := sound.leaving (by simp [ClientPc.Leaving, pc])
  rcases sound.ending stops with interrupted | ending
  · exact interrupted
  · simp [Client.Ending, pc] at ending

theorem returned (index : Fin options.noOfClients) (client : Client options) :
    ({ client with pc := .returned } : Client options).Sound index where
  request := by simp
  leaving := False.elim
  ending _ := .inr trivial
  noLastWait := by simp

end Client.Sound

/-! ## The server -/

structure Consistent (state : State options) : Prop where
  clients : ∀ index, (state.client index).Sound index
  clientNo : state.server.clientNo < maxNoOfClients
  slots : ∀ i client, (state.server.clientMsgQs i).pid = some client →
    Leads options state.server.opened client (state.server.clientMsgQs i).qID
  starts : ∀ message ∈ state.server.pc.handling ++ state.queue, message.mType = .start →
    message.msg = decimal (options.recMsgqID message.pid)
  stops : ∀ message ∈ state.server.pc.handling ++ state.queue, message.mType = .stop →
    (state.client message.pid).interrupted = true
  replies : ∀ i message, state.server.pc = .reply i message → i < maxNoOfClients →
    (state.server.clientMsgQs i).pid = some message.pid
  taken : ∀ message ∈ state.server.pc.handling ++ state.server.pc.replying, message.Fits
  inboxes : ∀ client queue, state.recMsgq client = some queue →
    ∀ message ∈ queue, message.Fits
  closed : ∀ client, state.recMsgq client = none → (state.client client).pc = .returned
  ended : state.server.pc = .removeQueue ∨ state.server.pc = .returned ∨
      state.queueExists = false →
    state.server.serverStop = true ∨ state.server.serverEnd = true

namespace Consistent

variable {state following : State options}

/-- A server that is still in its loop removes no queue. -/
theorem ended_of_busy (consistent : Consistent state) {next : ServerPc options}
    (busy : next ≠ .removeQueue ∧ next ≠ .returned)
    (ends : next = .removeQueue ∨ next = .returned ∨ state.queueExists = false) :
    state.server.serverStop = true ∨ state.server.serverEnd = true := by
  rcases ends with removing | returned | gone
  · exact absurd removing busy.1
  · exact absurd returned busy.2
  · exact consistent.ended (.inr (.inr gone))

theorem initial (options : Options) : Consistent (MessageServer.initial options) where
  clients index :=
    { request := by simp [MessageServer.initial]
      leaving := False.elim
      ending := by simp [MessageServer.initial]
      noLastWait := by simp [MessageServer.initial] }
  clientNo := by simp [MessageServer.initial, maxNoOfClients]
  slots := by simp [MessageServer.initial, noClient]
  starts := by simp [MessageServer.initial, ServerPc.handling]
  stops := by simp [MessageServer.initial, ServerPc.handling]
  replies := by simp [MessageServer.initial]
  taken := by simp [MessageServer.initial, ServerPc.handling, ServerPc.replying]
  inboxes := by simp [MessageServer.initial]
  closed := by simp [MessageServer.initial]
  ended := by simp [MessageServer.initial]

/-- The server is done with a message. -/
theorem moveServer (consistent : Consistent state) {next : ServerPc options}
    (idle : next.Idle)
    (stopped : next = .removeQueue ∨ next = .returned →
      state.server.serverStop = true ∨ state.server.serverEnd = true) :
    Consistent (state.moveServer next) where
  clients := consistent.clients
  clientNo := consistent.clientNo
  slots := consistent.slots
  starts := by
    intro message member
    apply consistent.starts
    exact List.mem_append_right _ (by simpa [idle.1] using member)
  stops := by
    intro message member
    apply consistent.stops
    exact List.mem_append_right _ (by simpa [idle.1] using member)
  replies := by
    intro i message reply
    have holds := idle.2
    simp only [State.moveServer_server_pc] at reply
    rw [reply] at holds
    cases holds
  taken := by simp [idle.1, idle.2]
  inboxes := consistent.inboxes
  closed := consistent.closed
  ended := by
    intro ends
    rcases ends with removing | returned | gone
    · exact stopped (.inl removing)
    · exact stopped (.inr returned)
    · exact consistent.ended (.inr (.inr gone))

/-- A slot is freed; it leads to nobody then. -/
theorem freeSlot (consistent : Consistent state) (i : Nat)
    (silent : state.server.pc.replying = []) :
    Consistent (state.setSlot i (noClient options)) :=
  { consistent with
    slots := by
      intro other client holds
      simp only [State.setSlot_server_clientMsgQs, State.setSlot_server_opened] at holds ⊢
      by_cases same : other = i
      · subst same
        simp [noClient] at holds
      · rw [Function.update_of_ne same] at holds ⊢
        exact consistent.slots other client holds
    replies := by
      intro _ message reply
      simp only [State.setSlot_server_pc] at reply
      rw [reply] at silent
      cases silent }

/-- A private queue changes. -/
theorem setRecMsgq (consistent : Consistent state) {index : Fin options.noOfClients}
    {queue : Option (List (Message options))}
    (fits : ∀ messages, queue = some messages → ∀ message ∈ messages, message.Fits)
    (removed : queue = none → (state.client index).pc = .returned) :
    Consistent (state.setRecMsgq index queue) :=
  { consistent with
    inboxes := by
      intro other messages held
      simp only [State.setRecMsgq_recMsgq] at held
      by_cases same : other = index
      · rw [same, Function.update_self] at held
        exact fits messages held
      · rw [Function.update_of_ne same] at held
        exact consistent.inboxes other messages held
    closed := by
      intro other none
      simp only [State.setRecMsgq_recMsgq] at none
      by_cases same : other = index
      · rw [same, Function.update_self] at none
        exact same ▸ removed none
      · rw [Function.update_of_ne same] at none
        exact consistent.closed other none }

theorem setLog (consistent : Consistent state) (index : Fin options.noOfClients)
    (log : Log options) : Consistent (state.setLog index log) :=
  { consistent with }

/-- The answer to a message that fits is short enough as well. -/
theorem fits_answer {recMsg : Message options} {msg : Text} {seconds : Nat}
    (fits : recMsg.Fits)
    (answered : answer options.library seconds recMsg.mType recMsg.msg = some msg) :
    Message.Fits { recMsg with msg := msg } := by
  intro zad1
  have request := fits zad1
  have length := length_answer answered
  simp only [Message.size, sizeofPid, maxMsgSize] at request ⊢
  omega

theorem fits_decimal (recMsg : Message options) {clientNo : Nat}
    (below : clientNo < maxNoOfClients) :
    Message.Fits { recMsg with msg := decimal clientNo } := by
  intro _
  have length : (decimal clientNo).length ≤ 11 := by
    apply length_decimal
    simp only [maxNoOfClients] at below
    rw [Int.natAbs_natCast]
    exact Nat.le_trans (Nat.le_of_lt below) (by decide)
  simp only [Message.size, sizeofPid, maxMsgSize]
  omega

theorem serverStep {seconds : Nat} (consistent : Consistent state)
    (step : ServerStep state seconds following) : Consistent following := by
  cases step with
  | move next idle idleNext stopped returned safe =>
      apply consistent.moveServer idleNext
      intro ends
      rcases ends with removing | done
      · exact stopped removing
      · exact consistent.ended (.inl (returned done))
  | receive recMsg rest pc queue fits =>
      have starts := consistent.starts
      have stops := consistent.stops
      rw [pc, queue] at starts stops
      exact
        { consistent with
          starts := starts
          stops := stops
          replies := by simp
          taken := by simpa [ServerPc.handling, ServerPc.replying] using fits
          ended := consistent.ended_of_busy (by simp) }
  | refuse recMsg pc start full =>
      have cleared : Consistent (state.setClientNo 0) :=
        { consistent with clientNo := by simp [maxNoOfClients] }
      exact cleared.moveServer ⟨rfl, rfl⟩ (by simp)
  | register recMsg clientNo opened qID pc start below free kept leads =>
      have text := consistent.starts recMsg (by simp [pc, ServerPc.handling]) start
      exact
        { consistent with
          clientNo := below
          slots := by
            intro i client holds
            by_cases same : i = clientNo
            · subst same
              simp only [Function.update_self] at holds ⊢
              cases holds
              exact leads text
            · simp only [Function.update_of_ne same] at holds ⊢
              rcases kept with rfl | rfl
              · exact consistent.slots i client holds
              · exact (consistent.slots i client holds).append _
          starts := by
            intro message member
            apply consistent.starts
            exact List.mem_append_right _ (by simpa [ServerPc.handling] using member)
          stops := by
            intro message member
            apply consistent.stops
            exact List.mem_append_right _ (by simpa [ServerPc.handling] using member)
          replies := by
            intro i message reply _
            cases reply
            simp
          taken := by
            simp only [ServerPc.handling, ServerPc.replying, List.nil_append,
              List.mem_singleton, forall_eq]
            exact fits_decimal recMsg below
          ended := consistent.ended_of_busy (by simp) }
  | serverEnd recMsg pc ends =>
      have ended : Consistent state.setServerEnd :=
        { consistent with ended := fun _ => .inr rfl }
      exact ended.moveServer ⟨rfl, rfl⟩ (by simp)
  | release recMsg pc stop found =>
      have freed := consistent.freeSlot (state.server.lookup recMsg.pid)
        (by rw [pc]; rfl)
      exact freed.moveServer ⟨rfl, rfl⟩ (by simp)
  | releaseBeyond | crash | fail | replyBeyond =>
      exact consistent.moveServer ⟨rfl, rfl⟩ (by simp)
  | answer recMsg msg pc answered =>
      exact
        { consistent with
          starts := by
            intro message member
            apply consistent.starts
            exact List.mem_append_right _ (by simpa [ServerPc.handling] using member)
          stops := by
            intro message member
            apply consistent.stops
            exact List.mem_append_right _ (by simpa [ServerPc.handling] using member)
          replies := by
            intro i message reply below
            cases reply
            exact state.server.pid_lookup below
          taken := by
            simp only [State.moveServer_server_pc, ServerPc.handling, ServerPc.replying,
              List.nil_append, List.mem_singleton, forall_eq]
            exact fits_answer (consistent.taken recMsg (by simp [pc, ServerPc.handling]))
              answered
          ended := consistent.ended_of_busy (by simp) }
  | deliver i recMsg client queue pc below found here =>
      have delivered : Consistent (state.setRecMsgq client (enqueueReply queue recMsg)) := by
        apply consistent.setRecMsgq
        · intro messages held message member
          cases held
          rcases mem_enqueueReply.mp member with earlier | rfl
          · exact consistent.inboxes client queue here message earlier
          · exact consistent.taken message (by simp [pc, ServerPc.replying])
        · simp
      exact (delivered.setLog client _).moveServer ⟨rfl, rfl⟩ (by simp)
  | remove pc =>
      have stopped := consistent.ended (.inl pc)
      have removed : Consistent { state.setQueue [] with queueExists := false } :=
        { consistent with
          starts := by
            intro message member
            apply consistent.starts
            exact List.mem_append_left _ (by simpa using member)
          stops := by
            intro message member
            apply consistent.stops
            exact List.mem_append_left _ (by simpa using member)
          ended := fun _ => stopped }
      exact removed.moveServer ⟨rfl, rfl⟩ (fun _ => stopped)

/-- A client changes on its own. -/
theorem setClient (consistent : Consistent state) {index : Fin options.noOfClients}
    {next : Client options} (sound : next.Sound index)
    (alive : (state.client index).pc ≠ .returned)
    (remembered : (state.client index).interrupted = true → next.interrupted = true) :
    Consistent (state.setClient index next) :=
  { consistent with
    stops := by
      intro message member stop
      have interrupted := consistent.stops message member stop
      simp only [State.setClient_client]
      by_cases same : message.pid = index
      · rw [same, Function.update_self]
        exact remembered (same ▸ interrupted)
      · rwa [Function.update_of_ne same]
    clients := by
      intro other
      simp only [State.setClient_client]
      by_cases same : other = index
      · subst same
        rwa [Function.update_self]
      · rw [Function.update_of_ne same]
        exact consistent.clients other
    closed := by
      intro other removed
      have returned := consistent.closed other removed
      have different : other ≠ index := by
        intro same
        exact alive (same ▸ returned)
      simp only [State.setClient_client]
      rwa [Function.update_of_ne different] }

/-- A client sends START only at its start, with the identifier of its queue. -/
theorem start_text {index : Fin options.noOfClients} {message : Message options}
    (consistent : Consistent state) (sends : Sends options index (state.client index).pc message)
    (start : message.mType = .start) :
    message.msg = decimal (options.recMsgqID message.pid) := by
  have request := (consistent.clients index).request
  generalize (state.client index).pc = clientPc at sends request
  cases sends with
  | start => rfl
  | request mMsg => exact absurd start (request message rfl).2.1
  | stop => cases start

/-- A client that sends STOP has been interrupted. -/
theorem stop_interrupted {index : Fin options.noOfClients} {message : Message options}
    (consistent : Consistent state) (sends : Sends options index (state.client index).pc message)
    (stop : message.mType = .stop) :
    ((state.setClient index (state.client index).resume).client message.pid).interrupted =
      true := by
  have sound := consistent.clients index
  generalize pc : (state.client index).pc = clientPc at sends
  cases sends with
  | start => cases stop
  | request mMsg => exact absurd stop (sound.request message pc).2.2
  | stop =>
      simp only [State.setClient_client, stopMessage, Function.update_self,
        Client.resume_interrupted]
      exact sound.interrupted_of_sendStop pc

theorem alive_of_sends {index : Fin options.noOfClients} {clientPc : ClientPc options}
    {message : Message options} (sends : Sends options index clientPc message) :
    clientPc ≠ .returned := by
  cases sends <;> simp

theorem alive_of_receives {clientPc : ClientPc options} (receives : Receives clientPc) :
    clientPc ≠ .returned := by
  cases receives <;> simp

theorem alive_of_localStep {index : Fin options.noOfClients} {client next : Client options}
    (step : LocalStep index client next) : client.pc ≠ .returned := by
  cases step <;> simp [*]

theorem clientStep {index : Fin options.noOfClients} (consistent : Consistent state)
    (step : ClientStep state index following) : Consistent following := by
  have sound := consistent.clients index
  cases step with
  | send message sends here =>
      have resumed := consistent.setClient (sound.resume_sends sends) (alive_of_sends sends)
        (remembered_resume _)
      exact
        { resumed with
          starts := by
            intro other member start
            have either : other ∈ state.server.pc.handling ++ state.queue ∨
                other = message := by
              simpa [or_assoc] using member
            rcases either with earlier | rfl
            · exact consistent.starts other earlier start
            · exact consistent.start_text sends start
          stops := by
            intro other member stop
            have either : other ∈ state.server.pc.handling ++ state.queue ∨
                other = message := by
              simpa [or_assoc] using member
            rcases either with earlier | rfl
            · exact resumed.stops other earlier stop
            · exact consistent.stop_interrupted sends stop }
  | sendFails message sends gone =>
      exact consistent.setClient (sound.resume_sends sends) (alive_of_sends sends)
        (remembered_resume _)
  | receive message rest receives arrived fits =>
      have resumed := consistent.setClient (sound.resume_receives receives)
        (alive_of_receives receives) (remembered_resume _)
      have taken : Consistent ((state.setClient index (state.client index).resume).setRecMsgq
          index (some rest)) := by
        apply resumed.setRecMsgq
        · intro messages held item member
          cases held
          exact consistent.inboxes index _ arrived item (by simp [member])
        · simp
      exact taken.setLog index _
  | receiveFails receives fails awake =>
      exact consistent.setClient (sound.resume_receives receives)
        (alive_of_receives receives) (remembered_resume _)
  | move next moves =>
      exact consistent.setClient (sound.localStep moves) (alive_of_localStep moves)
        (by rw [moves.interrupted]; exact id)
  | close pc =>
      have returned := consistent.setClient
        (Client.Sound.returned index (state.client index)) (by simp [pc]) id
      exact returned.setRecMsgq (by simp) (by simp)

theorem interruption {index : Fin options.noOfClients} {interrupts : Bool}
    {next : Client options} (consistent : Consistent state)
    (interruption : Interruption state index interrupts next) :
    Consistent (state.setClient index next) := by
  have sound := (consistent.clients index).interrupt
  cases interruption with
  | noted alive => exact consistent.setClient sound alive fun _ => rfl
  | read pc =>
      exact consistent.setClient (sound.resume_getline pc) (by simp [pc])
        fun _ => Client.resume_interrupted _
  | send message sends =>
      exact consistent.setClient (sound.resume_sends sends) (alive_of_sends sends)
        fun _ => Client.resume_interrupted _
  | receive receives empty =>
      exact consistent.setClient (sound.resume_receives receives) (alive_of_receives receives)
        fun _ => Client.resume_interrupted _

theorem interruptServer {interrupts : Bool} (consistent : Consistent state)
    (interruption : ServerInterruption state interrupts following) : Consistent following := by
  have stopped : Consistent state.setServerStop :=
    { consistent with ended := fun _ => .inl rfl }
  cases interruption with
  | noted => exact stopped
  | send => exact stopped.moveServer ⟨rfl, rfl⟩ (by simp)

theorem next {action : Action options} (consistent : Consistent state)
    (taken : (system options).next state action = some following) : Consistent following := by
  cases action with
  | server seconds =>
      exact consistent.serverStep (serverStep_cases consistent.clientNo taken)
  | interruptServer interrupts =>
      exact consistent.interruptServer (interruptServer_cases taken)
  | client index => exact consistent.clientStep (clientStep_cases taken)
  | interruptClient index interrupts =>
      rcases interruptClient_cases taken with ⟨next, interruption, rfl⟩
      exact consistent.interruption interruption

end Consistent

theorem consistent {state : State options} (reachable : (system options).Reachable state) :
    Consistent state :=
  reachable.invariant Consistent (.initial options) fun _ _ _ holds _ taken => holds.next taken

end OsExercises.MessageServer
