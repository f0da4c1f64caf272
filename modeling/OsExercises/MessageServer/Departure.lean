import OsExercises.MessageServer.SlotSafety

/-! # The departure of a client

A client tells the server that it goes: with the END that it has read, or else with a
STOP behind its loop. The counter `send` decides between the two, and SIGINT may come
before any statement. -/

namespace OsExercises.MessageServer

open OsExercises

variable {options : Options}

/-! ## What a client does -/

inductive Deed (options : Options)
  /-- has read a line -/
  | read (line : Parsed)
  /-- has put a message into the queue of the server -/
  | sent (message : Message options)

/-- The message that a client at `pc` is about to send. -/
def ClientPc.outgoing (index : Fin options.noOfClients) :
    ClientPc options → Option (Message options)
  | .sendStart => some (startMessage options index)
  | .sendRequest mMsg => some mMsg
  | .sendStop => some (stopMessage index)
  | _ => none

/-- The line that `getline` is about to read. -/
def Client.lineRead (client : Client options) : List (Deed options) :=
  match client.pc, client.stdin with
  | .getline, line :: _ => [.read (parse (MessageServer.getline client.buffer line))]
  | _, _ => []

/-- What the next statement of the client does. -/
def clientDeeds (state : State options) (index : Fin options.noOfClients) : List (Deed options) :=
  match (state.client index).pc.outgoing index with
  | some message => if state.queueExists then [.sent message] else []
  | none => (state.client index).lineRead

/-- What the client does in a step of the system. -/
def deeds (index : Fin options.noOfClients) (state : State options) :
    Action options → List (Deed options)
  | .client other => if other = index then clientDeeds state index else []
  | _ => []

def sentMessages (deeds : List (Deed options)) : List (Message options) :=
  deeds.filterMap fun deed =>
    match deed with
    | .read _ => none
    | .sent message => some message

/-- The client has processed an END line. -/
def EndRead (deeds : List (Deed options)) : Prop :=
  ∃ msg, .read (.request .serverEnd msg) ∈ deeds

/-- START and the requests, but no departure. -/
def OnlyRequests (messages : List (Message options)) : Prop :=
  ∀ message ∈ messages, message.mType ≠ .serverEnd ∧ message.mType ≠ .stop

/-- The last message is the departure, and the only one. -/
def Departs (messages : List (Message options)) (departure : MessageType) : Prop :=
  ∃ requests last, messages = requests ++ [last] ∧ OnlyRequests requests ∧
    last.mType = departure

/-- END for an END line, STOP otherwise. -/
structure Departed (deeds : List (Deed options)) : Prop where
  withEnd : EndRead deeds → Departs (sentMessages deeds) .serverEnd
  withStop : ¬ EndRead deeds → Departs (sentMessages deeds) .stop

/-- The sends of the client succeed: the queue is there, and no signal ends the call. -/
def SendsSucceed (index : Fin options.noOfClients) (state : State options) :
    Action options → Prop
  | .client other =>
      other = index → (state.client index).pc.outgoing index ≠ none → state.queueExists = true
  | .interruptClient other interrupts =>
      other = index → interrupts = true → (state.client index).pc.outgoing index = none
  | _ => True

instance (index : Fin options.noOfClients) (state : State options) :
    ∀ action, Decidable (SendsSucceed index state action)
  | .client other =>
      inferInstanceAs (Decidable (other = index →
        (state.client index).pc.outgoing index ≠ none → state.queueExists = true))
  | .interruptClient other interrupts =>
      inferInstanceAs (Decidable (other = index → interrupts = true →
        (state.client index).pc.outgoing index = none))
  | .server _ | .interruptServer _ => isTrue trivial

/-! ## The STOP that is prepared in the loop -/

/-- The loop body with its first test: after a SIGINT it fills in a STOP and sets
`send = 2`, before it looks at the line. -/
def Client.loopBody (client : Client options) (index : Fin options.noOfClients) :
    Client options :=
  if client.stdin ≠ [] ∧ client.clientStop then
    Client.readLine { client with send := 2 } index
  else
    client.readLine index

/-- The operation on the line overwrites both, unless the client crashes on it. -/
theorem loopBody_eq_readLine {client : Client options} {index : Fin options.noOfClients}
    (survives : (client.readLine index).pc ≠ .crashed) :
    client.loopBody index = client.readLine index := by
  unfold Client.loopBody
  split
  · next stopped =>
      cases lines : client.stdin with
      | nil => exact absurd lines stopped.1
      | cons line rest =>
          simp only [Client.readLine, lines] at survives ⊢
          split
          · next crashes =>
              rw [crashes] at survives
              exact absurd rfl survives
          · rfl
          · rfl
          · rfl
  · rfl

/-! ## Where the client stands -/

/-- No departure is announced, and none is sent. -/
def Requesting (deeds : List (Deed options)) : Prop :=
  ¬ EndRead deeds ∧ OnlyRequests (sentMessages deeds)

/-- END was read and sent. -/
def Ended (deeds : List (Deed options)) : Prop :=
  EndRead deeds ∧ Departs (sentMessages deeds) .serverEnd

/-- STOP was sent instead. -/
def Stopped (deeds : List (Deed options)) : Prop :=
  ¬ EndRead deeds ∧ Departs (sentMessages deeds) .stop

/-- What `send` and the flag say at every statement about what the client has done. -/
def Client.Accounts (client : Client options) (deeds : List (Deed options)) : Prop :=
  match client.pc with
  | .sendStart | .awaitStart | .getline => Requesting deeds ∧ client.send = 0
  | .loopTest | .testSend =>
      (Requesting deeds ∧ client.send = 0) ∨
        (Ended deeds ∧ client.clientStop = true ∧ client.send = 1)
  | .sendRequest mMsg =>
      (mMsg.mType ≠ .serverEnd ∧ mMsg.mType ≠ .stop ∧ Requesting deeds ∧ client.send = 1) ∨
        (mMsg.mType = .serverEnd ∧ EndRead deeds ∧ OnlyRequests (sentMessages deeds) ∧
          client.clientStop = true ∧ client.send = 2)
  | .testStop =>
      (Requesting deeds ∧ client.send = 1) ∨
        (Ended deeds ∧ client.clientStop = true ∧ client.send = 2)
  | .awaitReply => Requesting deeds ∧ client.send = 1
  | .sendStop => Requesting deeds
  | .testStopAgain | .awaitStop => Stopped deeds
  | .removeQueue | .returned => Ended deeds ∨ Stopped deeds
  | .crashed => True

section Deeds

variable {deeds : List (Deed options)} {message : Message options}

@[simp] theorem sentMessages_append (first second : List (Deed options)) :
    sentMessages (first ++ second) = sentMessages first ++ sentMessages second :=
  List.filterMap_append

@[simp] theorem sentMessages_sent : sentMessages [.sent message] = [message] := rfl

@[simp] theorem sentMessages_read (line : Parsed) :
    sentMessages [(.read line : Deed options)] = [] := rfl

@[simp] theorem endRead_sent : EndRead (deeds ++ [.sent message]) ↔ EndRead deeds := by
  simp [EndRead]

theorem endRead_request {msg : Text} :
    EndRead (deeds ++ [.read (.request .serverEnd msg)]) :=
  ⟨msg, by simp⟩

theorem endRead_of_read {line : Parsed} (ordinary : ∀ msg, line ≠ .request .serverEnd msg) :
    EndRead (deeds ++ [.read line]) ↔ EndRead deeds := by
  unfold EndRead
  constructor
  · intro read
    rcases read with ⟨msg, member⟩
    rcases List.mem_append.mp member with earlier | last
    · exact ⟨msg, earlier⟩
    · cases List.mem_singleton.mp last
      exact absurd rfl (ordinary msg)
  · intro read
    rcases read with ⟨msg, member⟩
    exact ⟨msg, List.mem_append_left _ member⟩

theorem Requesting.read {line : Parsed} (requesting : Requesting deeds)
    (ordinary : ∀ msg, line ≠ .request .serverEnd msg) :
    Requesting (deeds ++ [.read line]) := by
  rw [Requesting, endRead_of_read ordinary]
  simpa [Requesting] using requesting

theorem Requesting.send (requesting : Requesting deeds)
    (request : message.mType ≠ .serverEnd ∧ message.mType ≠ .stop) :
    Requesting (deeds ++ [.sent message]) := by
  refine ⟨by simpa using requesting.1, ?_⟩
  intro other member
  simp only [sentMessages_append, sentMessages_sent, List.mem_append, List.mem_singleton]
    at member
  rcases member with earlier | rfl
  · exact requesting.2 other earlier
  · exact request

theorem departs_send {departure : MessageType} (requests : OnlyRequests (sentMessages deeds))
    (last : message.mType = departure) :
    Departs (sentMessages (deeds ++ [.sent message])) departure :=
  ⟨sentMessages deeds, message, by simp, requests, last⟩

theorem Requesting.stop (requesting : Requesting deeds) (index : Fin options.noOfClients) :
    Stopped (deeds ++ [.sent (stopMessage index)]) :=
  ⟨by simpa using requesting.1, departs_send requesting.2 rfl⟩

theorem Ended.departed (ended : Ended deeds) : Departed deeds where
  withEnd _ := ended.2
  withStop unread := absurd ended.1 unread

theorem Stopped.departed (stopped : Stopped deeds) : Departed deeds where
  withEnd read := absurd read stopped.1
  withStop _ := stopped.2

end Deeds

/-! ## Steps -/

namespace Client.Accounts

variable {index : Fin options.noOfClients} {client next : Client options}
variable {deeds : List (Deed options)}

/-- SIGINT only sets the flag. -/
theorem interrupt (accounts : client.Accounts deeds) : client.interrupt.Accounts deeds := by
  cases pc : client.pc with
  | sendRequest mMsg =>
      simp only [Client.Accounts, Client.interrupt, pc] at accounts ⊢
      rcases accounts with requesting | ⟨ends, read, requests, _, send⟩
      · exact .inl requesting
      · exact .inr ⟨ends, read, requests, trivial, send⟩
  | loopTest | testSend | testStop =>
      simp only [Client.Accounts, Client.interrupt, pc] at accounts ⊢
      rcases accounts with requesting | ⟨ended, _, send⟩
      · exact .inl requesting
      · exact .inr ⟨ended, trivial, send⟩
  | sendStart | awaitStart | getline | awaitReply | sendStop | testStopAgain | awaitStop
  | removeQueue | returned =>
      simpa only [Client.Accounts, Client.interrupt, pc] using accounts
  | crashed => simp only [Client.Accounts, Client.interrupt, pc]

theorem resume_getline (accounts : client.Accounts deeds) (pc : client.pc = .getline) :
    client.resume.Accounts deeds := by
  simp only [Client.Accounts, pc] at accounts
  simp only [Client.resume, pc]
  exact .inl accounts

theorem resume_receives (accounts : client.Accounts deeds) (receives : Receives client.pc) :
    client.resume.Accounts deeds := by
  generalize pc : client.pc = clientPc at receives
  cases receives with
  | start =>
      simp only [Client.Accounts, pc] at accounts
      simp only [Client.resume, pc]
      exact .inl accounts
  | reply =>
      simp only [Client.Accounts, pc] at accounts
      simp only [Client.resume, pc]
      exact .inl ⟨accounts.1, by simp [accounts.2]⟩
  | stop =>
      simp only [Client.Accounts, pc] at accounts
      simp only [Client.resume, pc]
      exact .inr accounts

/-- A message is sent where the account has a place for it. -/
theorem resume_sends {message : Message options} (accounts : client.Accounts deeds)
    (sends : Sends options index client.pc message) :
    client.resume.Accounts (deeds ++ [.sent message]) := by
  generalize pc : client.pc = clientPc at sends
  cases sends with
  | start =>
      simp only [Client.Accounts, pc] at accounts
      simp only [Client.resume, pc]
      exact ⟨accounts.1.send (by simp [startMessage]), accounts.2⟩
  | request mMsg =>
      simp only [Client.Accounts, pc] at accounts
      simp only [Client.resume, pc]
      rcases accounts with ⟨request, noStop, requesting, send⟩ | ⟨ends, read, requests, rest⟩
      · exact .inl ⟨requesting.send ⟨request, noStop⟩, send⟩
      · exact .inr ⟨⟨by simpa using read, departs_send requests ends⟩, rest⟩
  | stop =>
      simp only [Client.Accounts, pc] at accounts
      simp only [Client.resume, pc]
      exact accounts.stop index

/-- The operation on the line decides about `send`, whatever the flag says. -/
theorem readLine (accounts : client.Accounts deeds) (pc : client.pc = .getline) :
    (client.readLine index).Accounts (deeds ++ client.lineRead) := by
  simp only [Client.Accounts, pc] at accounts
  rcases accounts with ⟨requesting, send⟩
  cases stdin : client.stdin with
  | nil =>
      simp only [Client.readLine, Client.lineRead, pc, stdin, List.append_nil]
      exact .inl ⟨requesting, send⟩
  | cons line rest =>
      simp only [Client.readLine, Client.lineRead, pc, stdin]
      cases parsed : parse (MessageServer.getline client.buffer line) with
      | crash => trivial
      | wrongOperation => exact .inl ⟨requesting.read (by simp), rfl⟩
      | request mType msg =>
          have noStop := (parse_ne parsed).2
          by_cases ends : mType = .serverEnd
          · subst ends
            exact .inr ⟨rfl, endRead_request, by simpa using requesting.2, rfl, rfl⟩
          · have read : Requesting (deeds ++ [.read (.request mType msg)]) :=
              requesting.read (by simp [ends])
            split
            · next crash => cases crash
            · next wrong => cases wrong
            · next same => exact absurd (Parsed.request.inj same).1 ends
            · next same =>
                cases same
                exact .inl ⟨ends, noStop, read, rfl⟩

/-- The tests of the flag and of `send` around the loop. -/
theorem localStep (accounts : client.Accounts deeds) (step : LocalStep index client next)
    (test : client.pc ≠ .getline) : next.Accounts deeds := by
  cases step with
  | leaveLoop pc stops => simpa only [Client.Accounts, pc] using accounts
  | enterLoop pc continues =>
      simp only [Client.Accounts, pc, continues] at accounts
      rcases accounts with requesting | ⟨_, stops, _⟩
      · exact requesting
      · cases stops
  | noWait pc stops =>
      simp only [Client.Accounts, pc] at accounts
      rcases accounts with ⟨requesting, send⟩ | ⟨ended, _, send⟩
      · exact .inl ⟨requesting, by simp [send]⟩
      · exact .inr ⟨ended, stops, by simp [send]⟩
  | wait pc continues =>
      simp only [Client.Accounts, pc, continues] at accounts
      rcases accounts with requesting | ⟨_, stops, _⟩
      · exact requesting
      · cases stops
  | unregister pc sent =>
      simp only [Client.Accounts, pc, sent] at accounts
      rcases accounts with ⟨requesting, _⟩ | ⟨_, _, impossible⟩
      · exact requesting
      · cases impossible
  | noUnregister pc sent =>
      simp only [Client.Accounts, pc] at accounts
      rcases accounts with ⟨_, zero⟩ | ⟨ended, _⟩
      · exact absurd zero sent
      · exact .inl ended
  | noLastWait pc stops =>
      simp only [Client.Accounts, pc] at accounts
      exact .inr accounts
  | lastWait pc continues => simpa only [Client.Accounts, pc] using accounts
  | endOfFile pc | crash _ _ pc | wrongOperation _ _ pc | serverEnd _ _ _ pc
  | request _ _ _ _ pc => exact absurd pc test

end Client.Accounts

section Steps

variable {state following : State options} {index : Fin options.noOfClients}
variable {events : List (Deed options)}

theorem outgoing_of_sends {clientPc : ClientPc options} {message : Message options}
    (sends : Sends options index clientPc message) : clientPc.outgoing index = some message := by
  cases sends <;> rfl

theorem clientDeeds_of_receives (receives : Receives (state.client index).pc) :
    clientDeeds state index = [] := by
  unfold clientDeeds Client.lineRead
  generalize (state.client index).pc = clientPc at receives
  cases receives <;> rfl

theorem clientDeeds_of_localStep {next : Client options}
    (step : LocalStep index (state.client index) next) :
    clientDeeds state index = (state.client index).lineRead := by
  unfold clientDeeds
  cases step <;> simp [ClientPc.outgoing, *]

theorem lineRead_of_test {client : Client options} (test : client.pc ≠ .getline) :
    client.lineRead = [] := by
  unfold Client.lineRead
  split
  · next pc _ => exact absurd pc test
  · rfl

theorem accounts_clientStep (accounts : (state.client index).Accounts events)
    (succeeds : SendsSucceed index state (.client index))
    (taken : clientStep state index = some following) :
    (following.client index).Accounts (events ++ clientDeeds state index) := by
  cases clientStep_cases taken with
  | send message sends here =>
      have sent : clientDeeds state index = [.sent message] := by
        simp [clientDeeds, outgoing_of_sends sends, here]
      rw [sent]
      simpa using accounts.resume_sends sends
  | sendFails message sends gone =>
      have here := succeeds rfl (by simp [outgoing_of_sends sends])
      rw [gone] at here
      cases here
  | receive message rest receives =>
      rw [clientDeeds_of_receives receives, List.append_nil]
      simpa using accounts.resume_receives receives
  | receiveFails receives =>
      rw [clientDeeds_of_receives receives, List.append_nil]
      simpa using accounts.resume_receives receives
  | move next moves =>
      rw [clientDeeds_of_localStep moves]
      by_cases pc : (state.client index).pc = .getline
      · simp only [clientStep, pc, Option.some.injEq] at taken
        rw [← taken]
        simpa using accounts.readLine pc
      · rw [lineRead_of_test pc, List.append_nil]
        simpa using accounts.localStep moves pc
  | close pc =>
      have nothing : clientDeeds state index = [] := by
        simp [clientDeeds, Client.lineRead, ClientPc.outgoing, pc]
      rw [nothing, List.append_nil]
      simpa [Client.Accounts, pc] using accounts

theorem accounts_interruption {interrupts : Bool} {next : Client options}
    (accounts : (state.client index).Accounts events)
    (succeeds : SendsSucceed index state (.interruptClient index interrupts))
    (interruption : Interruption state index interrupts next) : next.Accounts events := by
  cases interruption with
  | noted => exact accounts.interrupt
  | read pc => exact accounts.interrupt.resume_getline pc
  | send message sends =>
      have silent := succeeds rfl rfl
      rw [outgoing_of_sends sends] at silent
      cases silent
  | receive receives => exact accounts.interrupt.resume_receives receives

/-- The server does nothing to a client but answer it. -/
theorem serverStep_client {seconds : Nat} (step : ServerStep state seconds following) :
    following.client = state.client := by
  cases step <;> rfl

theorem accounts_next {action : Action options} (consistent : Consistent state)
    (accounts : (state.client index).Accounts events)
    (succeeds : SendsSucceed index state action)
    (taken : (system options).next state action = some following) :
    (following.client index).Accounts (events ++ deeds index state action) := by
  cases action with
  | server seconds =>
      have same := serverStep_client (serverStep_cases consistent.clientNo taken)
      rw [same]
      simpa [deeds] using accounts
  | interruptServer interrupts =>
      have same : following.client = state.client := by
        cases interruptServer_cases taken <;> rfl
      rw [same]
      simpa [deeds] using accounts
  | client other =>
      by_cases mine : other = index
      · subst mine
        simpa [deeds] using accounts_clientStep accounts succeeds taken
      · have same := ((clientStep_frame (clientStep_cases taken)).2.2 index (Ne.symm mine)).1
        rw [same]
        simpa [deeds, mine] using accounts
  | interruptClient other interrupts =>
      rcases interruptClient_cases taken with ⟨next, interruption, rfl⟩
      by_cases mine : other = index
      · subst mine
        simpa [deeds] using accounts_interruption accounts succeeds interruption
      · simpa [deeds, Function.update_of_ne (Ne.symm mine)] using accounts

end Steps

/-! ## Runs -/

/-- In every run, with SIGINT at any moment, the client's account is right. -/
theorem accounts (options : Options) (index : Fin options.noOfClients)
    {current : State options × List (Deed options)}
    (reachable : ((system options).reporting (deeds index)).ReachableUnder
      (fun current action => SendsSucceed index current.1 action) current) :
    (current.1.client index).Accounts current.2 := by
  apply reachable.report_invariant (fun state events => (state.client index).Accounts events)
    (fun _ => consistent)
  · exact ⟨⟨by simp [EndRead], by simp [sentMessages, OnlyRequests]⟩, rfl⟩
  · intro state events action following sound holds succeeds taken
    exact accounts_next sound holds succeeds taken

/-- The STOP that a client behind its loop has still to send. -/
def Client.farewell (client : Client options) (index : Fin options.noOfClients) :
    List (Deed options) :=
  match client.pc with
  | .testSend => if client.send = 0 then [.sent (stopMessage index)] else []
  | .sendStop => [.sent (stopMessage index)]
  | _ => []

/-- The client goes on alone until it has returned, and has done `total` then. -/
def Finishes (index : Fin options.noOfClients) (state : State options)
    (events total : List (Deed options)) : Prop :=
  ∃ steps final,
    ((system options).reporting (deeds index)).run (state, events)
        (List.replicate steps (.client index)) = some (final, total) ∧
      (final.client index).pc = .returned

section Finish

variable {state following : State options} {index : Fin options.noOfClients}
variable {events total : List (Deed options)}

theorem Finishes.step (taken : clientStep state index = some following)
    (finishes : Finishes index following (events ++ clientDeeds state index) total) :
    Finishes index state events total := by
  rcases finishes with ⟨steps, final, evaluated, returned⟩
  refine ⟨steps + 1, final, ?_, returned⟩
  have next : ((system options).reporting (deeds index)).next (state, events) (.client index) =
      some (following, events ++ clientDeeds state index) :=
    TransitionSystem.reporting_next_eq_some.mpr ⟨taken, by simp [deeds]⟩
  rw [List.replicate_succ, TransitionSystem.run, next]
  exact evaluated

theorem Finishes.silent_step (silent : (state.client index).pc.outgoing index = none)
    (test : (state.client index).pc ≠ .getline)
    (taken : clientStep state index = some following)
    (finishes : Finishes index following events total) : Finishes index state events total := by
  have nothing : clientDeeds state index = [] := by
    rw [clientDeeds, silent, lineRead_of_test test]
  exact .step taken (by rwa [nothing, List.append_nil])

theorem finishes_removeQueue (pc : (state.client index).pc = .removeQueue) :
    Finishes index state events events := by
  apply Finishes.silent_step (by simp [pc, ClientPc.outgoing]) (by simp [pc])
    (by simp only [clientStep, pc]; rfl)
  exact ⟨0, _, rfl, by simp⟩

theorem finishes_testStopAgain (pc : (state.client index).pc = .testStopAgain)
    (stops : (state.client index).clientStop = true) : Finishes index state events events := by
  apply Finishes.silent_step (by simp [pc, ClientPc.outgoing]) (by simp [pc])
    (by simp only [clientStep, pc, stops]; rfl)
  exact finishes_removeQueue (by simp)

theorem finishes_sendStop (pc : (state.client index).pc = .sendStop)
    (stops : (state.client index).clientStop = true) (here : state.queueExists = true)
    (room : hasRoom state.queue (stopMessage index) = true) :
    Finishes index state events (events ++ [.sent (stopMessage index)]) := by
  have sent : clientDeeds state index = [.sent (stopMessage index)] := by
    simp [clientDeeds, ClientPc.outgoing, pc, here]
  apply Finishes.step
    (by simp only [clientStep, pc, clientSend, sendBlocks, here, room]; rfl)
  rw [sent]
  exact finishes_testStopAgain (by simp [Client.resume, pc]) (by simp [Client.resume, pc, stops])

theorem finishes_testSend (pc : (state.client index).pc = .testSend)
    (stops : (state.client index).clientStop = true) (here : state.queueExists = true)
    (room : hasRoom state.queue (stopMessage index) = true) :
    Finishes index state events (events ++ (state.client index).farewell index) := by
  by_cases unsent : (state.client index).send = 0
  · simp only [Client.farewell, pc, if_pos unsent]
    apply Finishes.silent_step (by simp [pc, ClientPc.outgoing]) (by simp [pc])
      (by simp only [clientStep, pc, unsent]; rfl)
    exact finishes_sendStop (by simp) (by simpa using stops) here room
  · simp only [Client.farewell, pc, if_neg unsent, List.append_nil]
    apply Finishes.silent_step (by simp [pc, ClientPc.outgoing]) (by simp [pc])
      (by simp only [clientStep, pc, if_neg unsent]; rfl)
    exact finishes_removeQueue (by simp)

end Finish

/-- Behind the loop the client has departed, up to a STOP that it is about to send. -/
theorem Client.Accounts.departed {client : Client options} {events : List (Deed options)}
    (accounts : client.Accounts events) (index : Fin options.noOfClients)
    (left : client.pc.Leaving ∨ client.pc = .returned) :
    Departed (events ++ client.farewell index) := by
  cases pc : client.pc with
  | testSend =>
      simp only [Client.Accounts, pc] at accounts
      rcases accounts with ⟨requesting, send⟩ | ⟨ended, _, send⟩
      · simp only [Client.farewell, pc, send, if_true]
        exact (requesting.stop index).departed
      · simpa [Client.farewell, pc, send] using ended.departed
  | sendStop =>
      simp only [Client.Accounts, pc] at accounts
      simp only [Client.farewell, pc]
      exact (accounts.stop index).departed
  | testStopAgain | awaitStop =>
      simp only [Client.Accounts, pc] at accounts
      simpa [Client.farewell, pc] using accounts.departed
  | removeQueue | returned =>
      simp only [Client.Accounts, pc] at accounts
      simp only [Client.farewell, pc, List.append_nil]
      rcases accounts with ended | stopped
      · exact ended.departed
      · exact stopped.departed
  | sendStart | awaitStart | loopTest | getline | sendRequest | testStop | awaitReply
  | crashed => simp [ClientPc.Leaving, pc] at left

/-- Behind its loop a client goes on to its end alone, as soon as the queue has room. -/
theorem finishes {state : State options} {events : List (Deed options)}
    {index : Fin options.noOfClients} (consistent : Consistent state)
    (left : (state.client index).pc.Leaving) (here : state.queueExists = true)
    (room : hasRoom state.queue (stopMessage index) = true) :
    Finishes index state events (events ++ (state.client index).farewell index) := by
  have sound := consistent.clients index
  have stops := sound.leaving left
  cases pc : (state.client index).pc with
  | testSend => exact finishes_testSend pc stops here room
  | sendStop => simpa [Client.farewell, pc] using finishes_sendStop pc stops here room
  | testStopAgain => simpa [Client.farewell, pc] using finishes_testStopAgain pc stops
  | awaitStop => exact absurd pc sound.noLastWait
  | removeQueue => simpa [Client.farewell, pc] using finishes_removeQueue pc
  | sendStart | awaitStart | loopTest | getline | sendRequest | testStop | awaitReply
  | returned | crashed => simp [ClientPc.Leaving, pc] at left

/-- In every run in which its sends succeed, with SIGINT at any moment: a client that has
left its loop departs once, with END or with STOP. -/
theorem client_departs (options : Options) (index : Fin options.noOfClients)
    {state : State options} {events : List (Deed options)}
    (reachable : ((system options).reporting (deeds index)).ReachableUnder
      (fun current action => SendsSucceed index current.1 action) (state, events)) :
    ((state.client index).pc = .returned → Departed events) ∧
      ((state.client index).pc.Leaving →
        Departed (events ++ (state.client index).farewell index) ∧
          (state.queueExists = true → hasRoom state.queue (stopMessage index) = true →
            Finishes index state events (events ++ (state.client index).farewell index))) := by
  have kept := accounts options index reachable
  have sound := consistent reachable.of_reporting.reachable
  constructor
  · intro returned
    simpa [Client.farewell, returned] using kept.departed index (.inr returned)
  · intro left
    exact ⟨kept.departed index (.inl left), finishes sound left⟩

def timing : Options := someClients .zad1 1 one_few [['T', 'I', 'M', 'E', '\n']]

def timer : Fin timing.noOfClients := ⟨0, Nat.one_pos⟩

/-- SIGINT ends the wait for the reply. -/
def interruptedWait : List (Action timing) :=
  [.client timer] ++ List.replicate 4 (.server 0) ++ List.replicate 5 (.client timer) ++
    [.interruptClient timer true] ++ List.replicate 5 (.client timer)

/-- The states of the system and the deeds of its client. -/
def timingReports : TransitionSystem (State timing × List (Deed timing)) (Action timing) :=
  (system timing).reporting (deeds timer)

theorem client_departs_interrupted :
    ((timingReports.after interruptedWait rfl).1.client timer).pc = .returned ∧
      (sentMessages (timingReports.after interruptedWait rfl).2).map Message.mType =
        [.start, .time, .stop] ∧
      Departed (timingReports.after interruptedWait rfl).2 :=
  ⟨rfl, rfl, (client_departs timing timer
    (timingReports.after_reachableUnder interruptedWait rfl (by decide))).1 rfl⟩

end OsExercises.MessageServer
