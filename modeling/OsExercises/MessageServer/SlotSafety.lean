import OsExercises.MessageServer.Conversations

/-! # The slot table stays within its bounds

The switch uses the slot that the lookup by pid has found and does not check that
it has found one. It has, as long as no client whose START was refused or lost
gets past the wait for its registration: such a client has no slot, and sends STOP
or a request all the same. -/

namespace OsExercises.MessageServer

open OsExercises

variable {options : Options}

/-- No access to `clientMsgQs` is out of bounds, now or in the rest of the switch. -/
structure InBounds (state : State options) : Prop where
  never : state.server.pc ≠ .outOfBounds
  clientNo : state.server.clientNo < maxNoOfClients
  lookup : ∀ recMsg, state.server.pc = .handle recMsg → recMsg.mType ≠ .start →
    recMsg.mType ≠ .serverEnd → state.server.lookup recMsg.pid < maxNoOfClients
  reply : ∀ i recMsg, state.server.pc = .reply i recMsg → i < maxNoOfClients

/-- The condition on runs: a SIGINT ends a client's wait for its registration
reply only when its pid has a slot or its START is still with the server, and no
START meets a full table unless its sender waits. -/
def KeepsStrangersWaiting (state : State options) : Action options → Prop
  | .interruptClient index true =>
      (state.client index).pc = .awaitStart →
        Registered state.server.clientMsgQs index ∨
          ∃ message ∈ state.pending index, message.mType = .start
  | .server _ =>
      match state.server.pc with
      | .handle recMsg =>
          recMsg.mType = .start → Full state.server.clientMsgQs →
            (state.client recMsg.pid).pc = .awaitStart
      | _ => True
  | _ => True

instance (state : State options) :
    ∀ action, Decidable (KeepsStrangersWaiting state action)
  | .interruptClient index true => inferInstanceAs (Decidable (_ → _ ∨ _))
  | .server _ =>
      match pc : state.server.pc with
      | .handle recMsg =>
          decidable_of_iff (recMsg.mType = .start → Full state.server.clientMsgQs →
            (state.client recMsg.pid).pc = .awaitStart) (by simp [KeepsStrangersWaiting, pc])
      | .receive | .reply _ _ | .testStop | .removeQueue | .returned | .crashed
      | .outOfBounds => isTrue (by simp [KeepsStrangersWaiting, pc])
  | .interruptClient _ false | .interruptServer _ | .client _ => isTrue trivial

/-- Behind the STOP of the client. -/
def ClientPc.Past : ClientPc options → Prop
  | .testStopAgain | .awaitStop | .removeQueue | .returned => True
  | _ => False

/-- Why the server will know the client whose message it handles next. -/
inductive Standing (state : State options) (index : Fin options.noOfClients) : Prop
  | before (pc : (state.client index).pc = .sendStart) (none : state.pending index = [])
  /-- START was refused or not sent, and the client still waits -/
  | refused (pc : (state.client index).pc = .awaitStart) (none : state.pending index = [])
      (silent : state.replying index = []) (empty : (state.recMsgq index).getD [] = [])
  | registering (message : Message options) (rest : List (Message options))
      (first : state.pending index = message :: rest) (start : message.mType = .start)
  | registered (known : Registered state.server.clientMsgQs index)
  | past (pc : (state.client index).pc.Past) (none : state.pending index = [])
  /-- nothing can be sent any more -/
  | removed (gone : state.queueExists = false) (none : state.pending index = [])

/-- STOP is the last message of a client. -/
def StopLast (state : State options) (index : Fin options.noOfClients) : Prop :=
  ∀ front message rest, state.pending index = front ++ message :: rest →
    message.mType = .stop → rest = [] ∧ (state.client index).pc.Past

structure Orderly (state : State options) (index : Fin options.noOfClients) : Prop where
  standing : Standing state index
  stopLast : StopLast state index

/-- What the proof carries along a run. -/
structure SlotsSafe (state : State options) : Prop where
  orderly : ∀ index, Orderly state index
  never : state.server.pc ≠ .outOfBounds
  reply : ∀ i recMsg, state.server.pc = .reply i recMsg → i < maxNoOfClients

variable {state following : State options} {index : Fin options.noOfClients}

/-! ## The table -/

theorem Registered.update {clientMsgQs : Nat → ClientInfo options} {i : Nat}
    {info : ClientInfo options} (known : Registered clientMsgQs index)
    (other : (clientMsgQs i).pid ≠ some index) :
    Registered (Function.update clientMsgQs i info) index := by
  rcases known with ⟨slot, below, holds⟩
  have different : slot ≠ i := by
    intro same
    exact other (same ▸ holds)
  exact ⟨slot, below, by rwa [Function.update_of_ne different]⟩

/-- A client whose next message needs a slot has one. -/
theorem Standing.known {message : Message options} {rest : List (Message options)}
    (standing : Standing state index) (first : state.pending index = message :: rest)
    (notStart : message.mType ≠ .start) : Registered state.server.clientMsgQs index := by
  cases standing with
  | registered known => exact known
  | registering other others same start =>
      cases first.symm.trans same
      exact absurd start notStart
  | before _ none | refused _ none | past _ none | removed _ none =>
      cases first.symm.trans none

/-- The client that the server handles a message of. -/
theorem SlotsSafe.lookup (safe : SlotsSafe state) {recMsg : Message options}
    (pc : state.server.pc = .handle recMsg) (notStart : recMsg.mType ≠ .start) :
    Registered state.server.clientMsgQs recMsg.pid := by
  have first := pending_of_handle recMsg.pid pc
  rw [if_pos rfl] at first
  exact (safe.orderly recMsg.pid).standing.known first notStart

/-! ## Steps of the server -/

/-- The messages of a client are where they were, and it may have moved. What
happens to a client without a slot that moves is left to the step. -/
theorem Orderly.moved (orderly : Orderly state index)
    (pending : following.pending index = state.pending index)
    (queueExists : following.queueExists = state.queueExists)
    (known : Registered state.server.clientMsgQs index →
      Registered following.server.clientMsgQs index)
    (past : (state.client index).pc.Past → (following.client index).pc.Past)
    (before : (state.client index).pc = .sendStart → state.pending index = [] →
      Standing following index)
    (refused : (state.client index).pc = .awaitStart → state.pending index = [] →
      state.replying index = [] → (state.recMsgq index).getD [] = [] →
        Standing following index) : Orderly following index where
  standing := by
    cases orderly.standing with
    | before pc none => exact before pc none
    | refused pc none silent empty => exact refused pc none silent empty
    | registering message rest first start =>
        exact .registering message rest (pending.trans first) start
    | registered here => exact .registered (known here)
    | past pc none => exact .past (past pc) (pending.trans none)
    | removed gone none => exact .removed (queueExists.trans gone) (pending.trans none)
  stopLast := by
    intro front message rest split stop
    rcases orderly.stopLast front message rest (pending.symm.trans split) stop with
      ⟨last, here⟩
    exact ⟨last, past here⟩

/-- The client and its messages are as they were. -/
theorem Orderly.congr (orderly : Orderly state index)
    (client : following.client index = state.client index)
    (recMsgq : following.recMsgq index = state.recMsgq index)
    (pending : following.pending index = state.pending index)
    (replying : following.replying index = state.replying index)
    (queueExists : following.queueExists = state.queueExists)
    (known : Registered state.server.clientMsgQs index →
      Registered following.server.clientMsgQs index) : Orderly following index := by
  apply orderly.moved pending queueExists known
  · exact client ▸ id
  · exact fun pc none => .before (client ▸ pc) (pending.trans none)
  · intro pc none silent empty
    exact .refused (client ▸ pc) (pending.trans none) (replying.trans silent)
      (recMsgq ▸ empty)

/-- STOP stays last when an earlier message has been handled. -/
theorem StopLast.tail {message : Message options} {rest : List (Message options)}
    (stopLast : StopLast state index) (first : state.pending index = message :: rest)
    (after : following.pending index = rest)
    (client : following.client index = state.client index) : StopLast following index := by
  intro front other others split stop
  rw [client]
  apply stopLast (message :: front) other others _ stop
  rw [first, ← after, split]
  rfl

/-- The server has handled a message; only its sender's standing changes. -/
theorem Orderly.handled {recMsg : Message options} (orderly : Orderly state index)
    (same : SameClients state following) (queueExists : following.queueExists = state.queueExists)
    (pc : state.server.pc = .handle recMsg) (done : following.server.pc.handling = [])
    (sends : ∀ reply ∈ following.server.pc.replying, reply.pid = recMsg.pid)
    (known : recMsg.pid ≠ index → Registered state.server.clientMsgQs index →
      Registered following.server.clientMsgQs index)
    (standing : recMsg.pid = index → Standing following index) : Orderly following index := by
  have before := pending_of_handle index pc
  have after : following.pending index = state.queue.filter (·.pid = index) := by
    simp [State.pending, done, same.queue]
  by_cases mine : recMsg.pid = index
  · rw [if_pos mine] at before
    exact
      { standing := standing mine
        stopLast := orderly.stopLast.tail before after (by rw [same.client]) }
  · rw [if_neg mine] at before
    have silent : following.replying index = state.replying index := by
      have none : state.replying index = [] := by
        simp [State.replying, pc, ServerPc.replying]
      have others : following.replying index = [] := by
        apply List.filter_eq_nil_iff.mpr
        intro reply member
        simpa [sends reply member] using mine
      exact others.trans none.symm
    exact orderly.congr (by rw [same.client]) (by rw [same.recMsgq])
      (after.trans before.symm) silent queueExists (known mine)

/-- A reply has been sent or lost; its addressee is known. -/
theorem Orderly.replied {recMsg : Message options} {i : Nat} (orderly : Orderly state index)
    (client : following.client = state.client)
    (recMsgq : recMsg.pid ≠ index → following.recMsgq index = state.recMsgq index)
    (queue : following.queue = state.queue)
    (queueExists : following.queueExists = state.queueExists)
    (clientMsgQs : following.server.clientMsgQs = state.server.clientMsgQs)
    (pc : state.server.pc = .reply i recMsg) (idle : following.server.pc.Idle) :
    Orderly following index := by
  have pending : following.pending index = state.pending index := by
    have before : state.server.pc.handling = [] := by rw [pc]; rfl
    simp [State.pending, idle.1, before, queue]
  have replying := replying_of_reply index pc
  by_cases mine : recMsg.pid = index
  · rw [if_pos mine] at replying
    apply orderly.moved pending queueExists (clientMsgQs ▸ id)
    · exact client ▸ id
    · exact fun pc none => .before (client ▸ pc) (pending.trans none)
    · intro _ _ silent
      cases silent.symm.trans replying
  · rw [if_neg mine] at replying
    have silent : following.replying index = [] := by simp [State.replying, idle.2]
    exact orderly.congr (by rw [client]) (recMsgq mine) pending
      (silent.trans replying.symm) queueExists (clientMsgQs ▸ id)

theorem Orderly.serverStep {seconds : Nat} (safe : SlotsSafe state)
    (consistent : Consistent state)
    (turns : ∀ client, (state.conversation client).Paced IsAnswer)
    (allowed : KeepsStrangersWaiting state (.server seconds))
    (step : ServerStep state seconds following) (index : Fin options.noOfClients) :
    Orderly following index := by
  have orderly := safe.orderly index
  cases step with
  | move next idle idleNext =>
      refine orderly.congr rfl rfl ?_ ?_ rfl id
      · simp [State.pending, idle.1, idleNext.1]
      · simp [State.replying, idle.2, idleNext.2]
  | receive recMsg rest pc queue fits =>
      refine orderly.congr rfl rfl ?_ ?_ rfl id
      · simp [State.pending, pc, queue, ServerPc.handling]
      · simp [State.replying, pc, ServerPc.replying]
  | refuse recMsg pc start full =>
      refine orderly.handled ⟨rfl, rfl, rfl, rfl⟩ rfl pc rfl ?_ ?_ ?_
      · simp [ServerPc.replying]
      · exact fun _ => id
      · intro mine
        subst mine
        have first := pending_of_handle recMsg.pid pc
        rw [if_pos rfl] at first
        simp only [KeepsStrangersWaiting, pc] at allowed
        have waits := allowed start full
        have notGone : (state.client recMsg.pid).stage ≠ .gone := by
          simp [Client.stage, waits]
        have alone := (turns recMsg.pid).inFlight (.inl notGone)
        simp only [State.conversation, first, List.length_cons] at alone
        have queue := List.eq_nil_of_length_eq_zero (Nat.le_zero.mp (by omega :
          (state.queue.filter (·.pid = recMsg.pid)).length ≤ 0))
        have inbox := List.eq_nil_of_length_eq_zero (Nat.le_zero.mp (by omega :
          ((state.recMsgq recMsg.pid).getD []).length ≤ 0))
        refine .refused waits ?_ rfl inbox
        simp [State.pending, ServerPc.handling, queue]
  | register recMsg clientNo opened qID pc start below free kept leads =>
      refine orderly.handled ⟨rfl, rfl, rfl, rfl⟩ rfl pc rfl ?_ ?_ ?_
      · simp [ServerPc.replying]
      · exact fun _ known => known.update (by simp [free])
      · intro mine
        subst mine
        exact .registered ⟨clientNo, below, by simp⟩
  | serverEnd recMsg pc ends =>
      refine orderly.handled ⟨rfl, rfl, rfl, rfl⟩ rfl pc rfl ?_ ?_ ?_
      · simp [ServerPc.replying]
      · exact fun _ => id
      · intro mine
        subst mine
        exact .registered (safe.lookup pc (by simp [ends]))
  | release recMsg pc stop found =>
      refine orderly.handled ⟨rfl, rfl, rfl, rfl⟩ rfl pc rfl ?_ ?_ ?_
      · simp [ServerPc.replying]
      · intro other known
        apply known.update
        rw [state.server.pid_lookup found]
        simpa using other
      · intro mine
        subst mine
        have first := pending_of_handle recMsg.pid pc
        rw [if_pos rfl] at first
        rcases orderly.stopLast [] recMsg _ first stop with ⟨last, past⟩
        exact .past past (by simp [State.pending, ServerPc.handling, last])
  | releaseBeyond recMsg pc stop unknown =>
      have known := safe.lookup pc (by simp [stop])
      rw [← Server.lookup_lt_iff] at known
      omega
  | crash recMsg pc request missing =>
      refine orderly.handled ⟨rfl, rfl, rfl, rfl⟩ rfl pc rfl ?_ ?_ ?_
      · simp [ServerPc.replying]
      · exact fun _ => id
      · intro mine
        subst mine
        exact .registered (safe.lookup pc request.1)
  | answer recMsg msg pc answered =>
      refine orderly.handled ⟨rfl, rfl, rfl, rfl⟩ rfl pc rfl ?_ ?_ ?_
      · simp [ServerPc.replying]
      · exact fun _ => id
      · intro mine
        subst mine
        refine .registered (safe.lookup pc ?_)
        intro start
        rw [start] at answered
        cases answered
  | fail i recMsg pc | replyBeyond i recMsg pc =>
      exact orderly.replied rfl (fun _ => rfl) rfl rfl rfl pc ⟨rfl, rfl⟩
  | deliver i recMsg client queue pc below found here =>
      have addressee := consistent.recipient_eq pc below found
      subst addressee
      refine orderly.replied rfl ?_ rfl rfl rfl pc ⟨rfl, rfl⟩
      intro other
      simp [Function.update_of_ne (Ne.symm other)]
  | remove pc =>
      have none (client : Fin options.noOfClients) :
          ({ state.setQueue [] with queueExists := false }.moveServer .returned).pending
            client = [] := by
        simp [State.pending, ServerPc.handling]
      exact
        { standing := .removed rfl (none index)
          stopLast := by
            intro front message rest split
            rw [none] at split
            simp at split }

/-! ## Steps of the clients -/

theorem pending_send (state : State options) {message : Message options}
    (mine : message.pid = index) (log : Log options) (client : Client options) :
    (((state.setClient index client).setQueue (state.queue ++ [message])).setLog index
      log).pending index = state.pending index ++ [message] := by
  simp [State.pending, List.filter_append, mine]

/-- A client that has a slot, or a START on its way, sends another message. -/
theorem Standing.behind {message : Message options} (standing : Standing state index)
    (here : state.queueExists = true)
    (pending : following.pending index = state.pending index ++ [message])
    (known : Registered state.server.clientMsgQs index →
      Registered following.server.clientMsgQs index)
    (started : (state.client index).pc ≠ .sendStart)
    (answered : (state.client index).pc ≠ .awaitStart)
    (notPast : ¬ (state.client index).pc.Past) : Standing following index := by
  cases standing with
  | registering first rest same start =>
      exact .registering first _ (by rw [pending, same]; rfl) start
  | registered slot => exact .registered (known slot)
  | before pc => exact absurd pc started
  | refused pc => exact absurd pc answered
  | past pc => exact absurd pc notPast
  | removed gone => cases here.symm.trans gone

/-- A message of a client that has not sent STOP goes behind the earlier ones. -/
theorem StopLast.send {message : Message options} (stopLast : StopLast state index)
    (notPast : ¬ (state.client index).pc.Past)
    (pending : following.pending index = state.pending index ++ [message])
    (past : message.mType = .stop → (following.client index).pc.Past) :
    StopLast following index := by
  intro front other rest split stop
  rcases List.eq_nil_or_concat rest with rfl | ⟨others, last, rfl⟩
  · have ends := pending.symm.trans split
    rcases List.append_inj' ends rfl with ⟨_, same⟩
    cases same
    exact ⟨rfl, past stop⟩
  · have ends : state.pending index ++ [message] = (front ++ other :: others) ++ [last] := by
      rw [← pending, split]
      simp
    rcases List.append_inj' ends rfl with ⟨earlier, _⟩
    exact absurd (stopLast front other others earlier stop).2 notPast

theorem Orderly.send {message : Message options} (orderly : Orderly state index)
    (consistent : Consistent state) (here : state.queueExists = true)
    (sends : Sends options index (state.client index).pc message) (log : Log options) :
    Orderly (((state.setClient index (state.client index).resume).setQueue
      (state.queue ++ [message])).setLog index log) index := by
  have request := (consistent.clients index).request
  have standing := orderly.standing
  have stopLast := orderly.stopLast
  generalize pc : (state.client index).pc = clientPc at sends request
  cases sends with
  | start =>
      have mine : (startMessage options index).pid = index := rfl
      have pending := pending_send state mine log (state.client index).resume
      refine ⟨?_, stopLast.send (by simp [pc, ClientPc.Past]) pending (by simp [startMessage])⟩
      cases standing with
      | registering message rest first start =>
          exact .registering message _ (by rw [pending, first]; rfl) start
      | registered known => exact .registered known
      | before _ none | refused _ none | past _ none | removed _ none =>
          exact .registering (startMessage options index) [] (by rw [pending, none]; rfl) rfl
  | request =>
      rcases request message rfl with ⟨mine, _, notStop⟩
      have pending := pending_send state mine log (state.client index).resume
      refine ⟨standing.behind here pending id ?_ ?_ ?_, stopLast.send ?_ pending ?_⟩
      · simp [pc]
      · simp [pc]
      · simp [pc, ClientPc.Past]
      · simp [pc, ClientPc.Past]
      · exact fun stop => absurd stop notStop
  | stop =>
      have mine : (stopMessage index).pid = index := rfl
      have pending := pending_send state mine log (state.client index).resume
      refine ⟨standing.behind here pending id ?_ ?_ ?_, stopLast.send ?_ pending (fun _ => ?_)⟩
      · simp [pc]
      · simp [pc]
      · simp [pc, ClientPc.Past]
      · simp [pc, ClientPc.Past]
      · simp [Client.resume, pc, ClientPc.Past]

/-- Behind STOP a client stays there. -/
theorem LocalStep.past {client next : Client options} (step : LocalStep index client next)
    (past : client.pc.Past) : next.pc.Past := by
  cases step with
  | noLastWait | lastWait => trivial
  | leaveLoop pc | enterLoop pc | endOfFile pc | crash _ _ pc | wrongOperation _ _ pc
  | serverEnd _ _ _ pc | request _ _ _ _ pc | noWait pc | wait pc | unregister pc
  | noUnregister pc =>
      rw [pc] at past
      exact past.elim

theorem LocalStep.not_start {client next : Client options} (step : LocalStep index client next) :
    client.pc ≠ .sendStart ∧ client.pc ≠ .awaitStart := by
  cases step <;> simp [*]

theorem Client.resume_past (client : Client options) (past : client.pc.Past) :
    client.resume.pc.Past := by
  cases pc : client.pc <;> simp_all [Client.resume, ClientPc.Past]

theorem Orderly.clientStep (orderly : Orderly state index) (consistent : Consistent state)
    (step : ClientStep state index following) : Orderly following index := by
  cases step with
  | send message sends here => exact orderly.send consistent here sends _
  | sendFails message sends gone =>
      refine orderly.moved rfl rfl id ?_ ?_ ?_
      · simpa using Client.resume_past (state.client index)
      · exact fun _ none => .removed gone none
      · exact fun _ none _ _ => .removed gone none
  | receive message rest receives arrived fits =>
      refine orderly.moved rfl rfl id ?_ ?_ ?_
      · simpa using Client.resume_past (state.client index)
      · intro pc
        rw [pc] at receives
        cases receives
      · intro _ _ _ empty
        simp [arrived] at empty
  | receiveFails receives fails awake =>
      refine orderly.moved rfl rfl id ?_ ?_ ?_
      · simpa using Client.resume_past (state.client index)
      · intro pc
        rw [pc] at receives
        cases receives
      · intro _ _ _ empty
        cases held : state.recMsgq index with
        | none =>
            exact absurd (consistent.closed index held)
              (Consistent.alive_of_receives receives)
        | some queue =>
            rw [held] at empty awake
            exact absurd (congrArg some empty) awake
  | move next moves =>
      refine orderly.moved rfl rfl id ?_ ?_ ?_
      · simpa using moves.past
      · exact fun pc => absurd pc moves.not_start.1
      · exact fun pc => absurd pc moves.not_start.2
  | close pc =>
      refine orderly.moved rfl rfl id ?_ ?_ ?_
      · simp [ClientPc.Past]
      · exact fun other => by cases pc.symm.trans other
      · exact fun other => by cases pc.symm.trans other

theorem Orderly.interruption {interrupts : Bool} {next : Client options}
    (orderly : Orderly state index) (turns : (state.conversation index).Paced IsAnswer)
    (allowed : KeepsStrangersWaiting state (.interruptClient index interrupts))
    (interruption : Interruption state index interrupts next) :
    Orderly (state.setClient index next) index := by
  cases interruption with
  | noted alive =>
      refine orderly.moved rfl rfl id ?_ ?_ ?_
      · simp
      · exact fun pc none => .before (by simpa using pc) none
      · exact fun pc none silent empty => .refused (by simpa using pc) none silent empty
  | read pc =>
      refine orderly.moved rfl rfl id ?_ ?_ ?_
      · simpa using Client.resume_past (state.client index).interrupt
      · exact fun other => by cases pc.symm.trans other
      · exact fun other => by cases pc.symm.trans other
  | send message sends =>
      refine orderly.moved rfl rfl id ?_ ?_ ?_
      · simpa using Client.resume_past (state.client index).interrupt
      · intro pc none
        have ready : (state.client index).stage = .ready := by simp [Client.stage, pc]
        rcases turns.at_rest ready with ⟨_, silent, empty⟩
        exact .refused (by simp [Client.resume, pc]) none silent empty
      · intro pc
        rw [pc] at sends
        cases sends
  | receive receives empty =>
      refine orderly.moved rfl rfl id ?_ ?_ ?_
      · simpa using Client.resume_past (state.client index).interrupt
      · intro pc
        rw [pc] at receives
        cases receives
      · intro pc none _ _
        rcases allowed pc with known | ⟨message, member, _⟩
        · exact .registered known
        · rw [none] at member
          cases member

/-- A step of one client does not change the standing of the others. -/
theorem Orderly.others {other : Fin options.noOfClients} (orderly : Orderly state other)
    (same : following.conversation other = state.conversation other)
    (client : following.client other = state.client other)
    (recMsgq : following.recMsgq other = state.recMsgq other)
    (queueExists : following.queueExists = state.queueExists)
    (server : following.server = state.server) : Orderly following other :=
  orderly.congr client recMsgq (congrArg Conversation.pending same)
    (congrArg Conversation.replying same) queueExists (server ▸ id)

/-- What a step of a client leaves alone. -/
theorem clientStep_frame (step : ClientStep state index following) :
    following.server = state.server ∧ following.queueExists = state.queueExists ∧
      ∀ other, other ≠ index → following.client other = state.client other ∧
        following.recMsgq other = state.recMsgq other := by
  cases step <;> exact ⟨rfl, rfl, fun other different => by simp [different]⟩

/-! ## Runs -/

theorem SlotsSafe.initial (options : Options) : SlotsSafe (MessageServer.initial options) where
  orderly index :=
    { standing := .before rfl rfl
      stopLast := by
        intro front message rest split
        have none : (MessageServer.initial options).pending index = [] := rfl
        rw [none] at split
        simp at split }
  never := by simp [MessageServer.initial]
  reply := by simp [MessageServer.initial]

theorem SlotsSafe.serverStep {seconds : Nat} (safe : SlotsSafe state)
    (consistent : Consistent state)
    (turns : ∀ client, (state.conversation client).Paced IsAnswer)
    (allowed : KeepsStrangersWaiting state (.server seconds))
    (step : ServerStep state seconds following) : SlotsSafe following := by
  have orderly := fun index => Orderly.serverStep safe consistent turns allowed step index
  refine ⟨orderly, ?_, ?_⟩
  · cases step with
    | move next _ _ _ _ inBounds => exact inBounds.2
    | releaseBeyond recMsg pc stop unknown =>
        have known := safe.lookup pc (by simp [stop])
        rw [← Server.lookup_lt_iff] at known
        omega
    | replyBeyond i recMsg pc beyond =>
        have below := safe.reply i recMsg pc
        omega
    | receive | refuse | register | serverEnd | release | crash | answer | fail | deliver
    | remove => simp
  · intro i message reply
    cases step with
    | move next _ idleNext =>
        have silent := idleNext.2
        simp only [State.moveServer_server_pc] at reply
        rw [reply] at silent
        cases silent
    | register recMsg clientNo opened qID pc start below =>
        cases reply
        exact below
    | answer recMsg msg pc answered =>
        cases reply
        rw [Server.lookup_lt_iff]
        apply safe.lookup pc
        intro start
        rw [start] at answered
        cases answered
    | receive | refuse | serverEnd | release | releaseBeyond | crash | fail | deliver
    | replyBeyond | remove => cases reply

theorem SlotsSafe.next {action : Action options} (safe : SlotsSafe state)
    (reachable : (system options).Reachable state)
    (allowed : KeepsStrangersWaiting state action)
    (taken : (system options).next state action = some following) : SlotsSafe following := by
  have sound := consistent reachable
  have turns := paced reachable
  cases action with
  | server seconds =>
      exact safe.serverStep sound turns allowed (serverStep_cases sound.clientNo taken)
  | interruptServer interrupts =>
      cases interruptServer_cases taken with
      | noted =>
          exact
            { orderly := fun index => (safe.orderly index).congr rfl rfl rfl rfl rfl id
              never := safe.never
              reply := safe.reply }
      | send i recMsg pc =>
          exact
            { orderly := fun index =>
                (safe.orderly index).replied rfl (fun _ => rfl) rfl rfl rfl pc ⟨rfl, rfl⟩
              never := by simp
              reply := by simp }
  | client index =>
      have step := clientStep_cases taken
      rcases clientStep_frame step with ⟨server, queueExists, frame⟩
      refine ⟨fun other => ?_, server ▸ safe.never, server ▸ safe.reply⟩
      by_cases same : other = index
      · subst same
        exact (safe.orderly other).clientStep sound step
      · rcases frame other same with ⟨client, recMsgq⟩
        exact (safe.orderly other).others (conversation_of_clientStep same sound step)
          client recMsgq queueExists server
  | interruptClient index interrupts =>
      rcases interruptClient_cases taken with ⟨next, interruption, rfl⟩
      refine ⟨fun other => ?_, safe.never, safe.reply⟩
      by_cases same : other = index
      · subst same
        exact (safe.orderly other).interruption (turns other) allowed interruption
      · exact (safe.orderly other).congr (by simp [same]) rfl rfl rfl rfl id

theorem slotsSafe {allowed : State options → Action options → Prop}
    (implied : ∀ state action, allowed state action → KeepsStrangersWaiting state action)
    (reachable : (system options).ReachableUnder allowed state) : SlotsSafe state := by
  induction reachable with
  | initial => exact .initial options
  | step earlier permitted taken induction =>
      exact induction.next earlier.reachable (implied _ _ permitted) taken

/-- As long as the condition is met, every access to `clientMsgQs` is within its
bounds, and every message that needs the sender's slot has one. -/
theorem slots_in_bounds (options : Options) {state : State options}
    (reachable : (system options).ReachableUnder KeepsStrangersWaiting state) :
    InBounds state := by
  have safe := slotsSafe (fun _ _ => id) reachable
  have sound := consistent reachable.reachable
  exact
    { never := safe.never
      clientNo := sound.clientNo
      lookup := by
        intro recMsg pc notStart _
        rw [Server.lookup_lt_iff]
        exact safe.lookup pc notStart
      reply := safe.reply }

/-- One client of cw06/zad2 with nothing to read. -/
def oneRegistered : Options := someClients .zad2 1 one_few []

def onlyClient : Fin oneRegistered.noOfClients := ⟨0, by decide⟩

/-- The client has registered, has been interrupted at `getline` and has sent
STOP, which the server has just taken. -/
def unregistering : List (Action oneRegistered) :=
  [.client onlyClient] ++ List.replicate 4 (.server 0) ++
    [.client onlyClient, .client onlyClient, .interruptClient onlyClient true,
      .client onlyClient, .client onlyClient, .client onlyClient, .server 0]

theorem slots_in_bounds_unregistering :
    ((system oneRegistered).after unregistering rfl).server.pc =
        .handle (stopMessage onlyClient) ∧
      InBounds ((system oneRegistered).after unregistering rfl) :=
  ⟨rfl, slots_in_bounds oneRegistered
    (TransitionSystem.after_reachableUnder _ unregistering rfl (by decide))⟩

/-- One client more than there are slots. -/
def elevenClients (program : Program) : Options :=
  someClients program 11 (by norm_num) []

def refusedClient (program : Program) : Fin (elevenClients program).noOfClients :=
  ⟨10, Nat.lt_succ_self 10⟩

/-- All clients start, one after the other. The last one is refused. -/
def elevenStarts (program : Program) : List (Action (elevenClients program)) :=
  (List.finRange (elevenClients program).noOfClients).flatMap fun client =>
    [.client client] ++ List.replicate 4 (.server 0)

/-- A SIGINT ends the wait of the refused client, and its STOP reaches the server. -/
def refusedStops (program : Program) : List (Action (elevenClients program)) :=
  elevenStarts program ++ [.interruptClient (refusedClient program) true] ++
    List.replicate 3 (.client (refusedClient program)) ++ List.replicate 3 (.server 0)

/-- In both programs the STOP of a client that was refused clears `clientMsgQs[10]`. -/
theorem slot_out_of_bounds :
    (∃ state, (system (elevenClients .zad1)).Reachable state ∧ ¬ InBounds state) ∧
      ∃ state, (system (elevenClients .zad2)).Reachable state ∧ ¬ InBounds state := by
  constructor
  · refine ⟨_, (system _).after_reachable (refusedStops .zad1) rfl, ?_⟩
    intro bounds
    exact bounds.never rfl
  · refine ⟨_, (system _).after_reachable (refusedStops .zad2) rfl, ?_⟩
    intro bounds
    exact bounds.never rfl

end OsExercises.MessageServer
