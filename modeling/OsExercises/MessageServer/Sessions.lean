import Mathlib.Data.Fintype.Card
import OsExercises.MessageServer.Capacity
import OsExercises.MessageServer.Departure
import OsExercises.MessageServer.Waiting

/-! # Sessions

Where nobody is told to stop, what a client asks depends on nothing but what it reads, and every
registered client has one slot through which it is reached. -/

namespace OsExercises.MessageServer

open OsExercises

variable {options : Options} {state following : State options} {index : Fin options.noOfClients}

/-- Nobody receives a SIGINT. -/
def Quiet (_ : State options) : Action options → Prop
  | .server _ | .client _ => True
  | .interruptServer _ | .interruptClient _ _ => False

instance (state : State options) : ∀ action, Decidable (Quiet state action)
  | .server _ | .client _ => isTrue trivial
  | .interruptServer _ | .interruptClient _ _ => isFalse id

/-! ## What the clients read -/

/-- What a client makes of the lines that it has not read. -/
def script : Text → List Text → List Parsed
  | _, [] => []
  | buffer, line :: rest =>
      parse (getline buffer line) :: script (cutFirstWord (getline buffer line)) rest

def Parsed.requestOf (index : Fin options.noOfClients) : Parsed → Option (Message options)
  | .request mType msg => some ⟨mType, index, msg⟩
  | .crash | .wrongOperation => none

/-- The requests that the client will still make. -/
def Client.requests (index : Fin options.noOfClients) (client : Client options) :
    List (Message options) :=
  (script client.buffer client.stdin).filterMap (Parsed.requestOf index)

/-- The server takes the message and answers it. -/
structure Message.Served (message : Message options) : Prop where
  goesOn : message.mType ≠ .serverEnd ∧ message.mType ≠ .stop
  wellFormed : message.WellFormed
  fits : message.Fits

/-- The client and the server survive the line. -/
def Parsed.Served (index : Fin options.noOfClients) : Parsed → Prop
  | .crash => False
  | .wrongOperation => True
  | .request mType msg => (⟨mType, index, msg⟩ : Message options).Served

/-- No limit is reached, and no line ends a process. -/
structure Modest (options : Options) : Prop where
  slots : options.noOfClients ≤ maxNoOfClients
  bytes : options.program = .zad1 → maxMsgSize ≤ options.msgQbytes
  descriptors : options.program = .zad2 → options.noOfClients ≤ options.openMax
  lines : ∀ index, ∀ parsed ∈ script ((initial options).client index).buffer (options.stdin index),
    parsed.Served index

theorem startMessage_served (index : Fin options.noOfClients) :
    (startMessage options index).Served where
  goesOn := by simp [startMessage]
  wellFormed := by simp [Message.WellFormed, startMessage]
  fits := startMessage_fits index

/-! ## The clients -/

/-- The client has not begun to leave. -/
def ClientPc.AtWork : ClientPc options → Prop
  | .sendStart | .awaitStart | .loopTest | .getline | .sendRequest _ | .testStop
  | .awaitReply => True
  | .testSend | .sendStop | .testStopAgain | .awaitStop | .removeQueue | .returned
  | .crashed => False

/-- The client asks what it reads. -/
structure Attends (index : Fin options.noOfClients) (client : Client options)
    (log : Log options) : Prop where
  atWork : client.pc.AtWork
  continues : client.clientStop = false
  undisturbed : client.interrupted = false
  lines : ∀ parsed ∈ script client.buffer client.stdin, parsed.Served index
  outgoing : ∀ message ∈ client.pc.outgoing index, message.Served
  asks : log.asked ++ (client.pc.outgoing index).toList ++ client.requests index =
    startMessage options index :: ((initial options).client index).requests index

/-- What a client does on its own. -/
inductive ReadStep (index : Fin options.noOfClients) (client : Client options) :
    Client options → Prop
  | enterLoop (pc : client.pc = .loopTest) :
      ReadStep index client { client with pc := .getline }
  | endOfFile (pc : client.pc = .getline) (stdin : client.stdin = []) :
      ReadStep index client { client with pc := .loopTest }
  | wrongOperation {line : Text} {rest : List Text} (pc : client.pc = .getline)
      (stdin : client.stdin = line :: rest)
      (parsed : parse (getline client.buffer line) = .wrongOperation) :
      ReadStep index client
        { client with
          pc := .loopTest
          send := 0
          buffer := cutFirstWord (getline client.buffer line)
          stdin := rest }
  | request {line : Text} {rest : List Text} {mType : MessageType} {msg : Text}
      (pc : client.pc = .getline) (stdin : client.stdin = line :: rest)
      (parsed : parse (getline client.buffer line) = .request mType msg) :
      ReadStep index client
        { client with
          pc := .sendRequest ⟨mType, index, msg⟩
          send := 1
          buffer := cutFirstWord (getline client.buffer line)
          stdin := rest }
  | wait (pc : client.pc = .testStop) : ReadStep index client { client with pc := .awaitReply }

inductive AskStep (state : State options) (index : Fin options.noOfClients) :
    State options → Prop
  | send {message : Message options}
      (outgoing : (state.client index).pc.outgoing index = some message) :
      AskStep state index
        (((state.setClient index (state.client index).resume).setQueue
          (state.queue ++ [message])).setLog index ((state.log index).ask message))
  | receive {message : Message options} {rest : List (Message options)}
      (waiting : (state.client index).pc = .awaitStart ∨ (state.client index).pc = .awaitReply)
      (arrived : state.recMsgq index = some (message :: rest)) :
      AskStep state index
        (((state.setClient index (state.client index).resume).setRecMsgq index (some rest)).setLog
          index { state.log index with received := (state.log index).received ++ [message] })
  | read {next : Client options} (step : ReadStep index (state.client index) next) :
      AskStep state index (state.setClient index next)

theorem askStep_cases (attends : Attends index (state.client index) (state.log index))
    (here : state.queueExists = true) (open' : (state.recMsgq index).isSome)
    (fits : ∀ queue, state.recMsgq index = some queue → ∀ message ∈ queue, message.Fits)
    (taken : clientStep state index = some following) : AskStep state index following := by
  have atWork := attends.atWork
  have continues : ¬ (state.client index).clientStop = true := by simp [attends.continues]
  have sends {message : Message options}
      (outgoing : (state.client index).pc.outgoing index = some message)
      (sent : clientSend state index message = some following) :
      AskStep state index following := by
    simp only [clientSend, here, if_true, Option.ite_none_left_eq_some, Option.some.injEq] at sent
    exact sent.2 ▸ .send outgoing
  have receives
      (waiting : (state.client index).pc = .awaitStart ∨ (state.client index).pc = .awaitReply)
      (received : clientReceive state index = some following) :
      AskStep state index following := by
    rcases Option.isSome_iff_exists.mp open' with ⟨queue, held⟩
    cases queue with
    | nil => simp [clientReceive, held] at received
    | cons message rest =>
        have taken := fits _ held message List.mem_cons_self
        simp only [clientReceive, held, if_pos taken, Option.some.injEq] at received
        exact received ▸ .receive waiting held
  cases pc : (state.client index).pc with
  | sendStart =>
      simp only [clientStep, pc] at taken
      exact sends (by rw [pc]; rfl) taken
  | sendRequest mMsg =>
      simp only [clientStep, pc] at taken
      exact sends (by rw [pc]; rfl) taken
  | awaitStart =>
      simp only [clientStep, pc] at taken
      exact receives (.inl pc) taken
  | awaitReply =>
      simp only [clientStep, pc] at taken
      exact receives (.inr pc) taken
  | loopTest =>
      simp only [clientStep, pc, if_neg continues, Option.some.injEq] at taken
      exact taken ▸ .read (.enterLoop pc)
  | testStop =>
      simp only [clientStep, pc, if_neg continues, Option.some.injEq] at taken
      exact taken ▸ .read (.wait pc)
  | getline =>
      simp only [clientStep, pc, Option.some.injEq] at taken
      refine taken ▸ .read ?_
      have lines := attends.lines
      unfold Client.readLine
      split
      · next stdin => exact .endOfFile pc stdin
      · next line rest stdin =>
          simp only [stdin, script, List.mem_cons, forall_eq_or_imp] at lines
          have served := lines.1
          simp only
          split
          · next crashes =>
              rw [crashes] at served
              exact served.elim
          · next parsed => exact .wrongOperation pc stdin parsed
          · next parsed =>
              rw [parsed] at served
              exact absurd rfl served.goesOn.1
          · next parsed => exact .request pc stdin parsed
  | testSend | sendStop | testStopAgain | awaitStop | removeQueue | returned | crashed =>
      rw [pc] at atWork
      exact atWork.elim

/-- No client begins again. -/
theorem Client.resume_sendStart {client : Client options} (unsent : client.resume.pc = .sendStart) :
    client.pc = .sendStart := by
  cases pc : client.pc <;> simp [Client.resume, pc] at unsent ⊢

theorem ReadStep.not_sendStart {client next : Client options} (step : ReadStep index client next) :
    next.pc ≠ .sendStart := by
  cases step <;> simp

namespace Attends

variable {client next : Client options} {log : Log options}

theorem initial (modest : Modest options) (index : Fin options.noOfClients) :
    Attends index ((initial options).client index) ((MessageServer.initial options).log index) where
  atWork := trivial
  continues := rfl
  undisturbed := rfl
  lines := modest.lines index
  outgoing := by
    intro message outgoing
    cases outgoing
    exact startMessage_served index
  asks := rfl

theorem read (attends : Attends index client log) (step : ReadStep index client next) :
    Attends index next log := by
  have lines := attends.lines
  have asks := attends.asks
  simp only [Client.requests] at asks
  cases step with
  | enterLoop pc | endOfFile pc | wait pc =>
      exact
        { attends with
          atWork := trivial
          outgoing := by simp [ClientPc.outgoing]
          asks := by simpa [Client.requests, pc, ClientPc.outgoing] using asks }
  | wrongOperation pc stdin parsed =>
      rw [stdin, script] at lines asks
      exact
        { attends with
          atWork := trivial
          lines := fun later member => lines later (List.mem_cons_of_mem _ member)
          outgoing := by simp [ClientPc.outgoing]
          asks := by
            simpa [Client.requests, pc, ClientPc.outgoing, parsed, Parsed.requestOf,
              List.filterMap_cons] using asks }
  | request pc stdin parsed =>
      rw [stdin, script] at lines asks
      exact
        { attends with
          atWork := trivial
          lines := fun later member => lines later (List.mem_cons_of_mem _ member)
          outgoing := by
            intro message outgoing
            cases outgoing
            have served := lines _ List.mem_cons_self
            rwa [parsed] at served
          asks := by
            simpa [Client.requests, pc, ClientPc.outgoing, parsed, Parsed.requestOf] using asks }

theorem send {message : Message options} (attends : Attends index client log)
    (outgoing : client.pc.outgoing index = some message) :
    Attends index client.resume (log.ask message) := by
  have asks := attends.asks
  have asked : (log.ask message).asked = log.asked ++ [message] := by
    have served := attends.outgoing message outgoing
    unfold Log.ask
    split
    · next stop => exact absurd stop served.goesOn.2
    · rfl
  rw [outgoing] at asks
  cases pc : client.pc with
  | sendStart | sendRequest mMsg =>
      simp only [Client.resume, pc]
      exact
        { attends with
          atWork := trivial
          outgoing := by simp [ClientPc.outgoing]
          asks := by simpa [asked, ClientPc.outgoing, Client.requests] using asks }
  | sendStop =>
      have atWork := attends.atWork
      rw [pc] at atWork
      exact atWork.elim
  | awaitStart | loopTest | getline | testStop | awaitReply | testSend | testStopAgain | awaitStop
  | removeQueue | returned | crashed =>
      rw [pc] at outgoing
      cases outgoing

theorem receive {received : List (Message options)} (attends : Attends index client log)
    (waiting : client.pc = .awaitStart ∨ client.pc = .awaitReply) :
    Attends index client.resume { log with received := received } := by
  have asks := attends.asks
  rcases waiting with pc | pc <;> simp only [Client.resume, pc]
  all_goals exact
    { attends with
      atWork := trivial
      outgoing := by simp [ClientPc.outgoing]
      asks := by simpa [pc, ClientPc.outgoing, Client.requests] using asks }

end Attends

/-! ## The slot table -/

/-- Every registered client has one slot, and can be reached through it. -/
structure Table (state : State options) : Prop where
  distinct : ∀ i j pid, i < maxNoOfClients → j < maxNoOfClients →
    (state.server.clientMsgQs i).pid = some pid → (state.server.clientMsgQs j).pid = some pid →
    i = j
  leads : ∀ i pid, i < maxNoOfClients → (state.server.clientMsgQs i).pid = some pid →
    recipient options state.server.opened (state.server.clientMsgQs i).qID = some pid
  opened : state.server.opened.Nodup
  known : ∀ pid ∈ state.server.opened, Registered state.server.clientMsgQs pid
  fresh : ∀ pid, Registered state.server.clientMsgQs pid → (state.client pid).pc ≠ .sendStart ∧
    ∀ message ∈ state.pending pid, message.mType ≠ .start

namespace Table

theorem initial (options : Options) : Table (initial options) where
  distinct := by simp [MessageServer.initial, noClient]
  leads := by simp [MessageServer.initial, noClient]
  opened := List.nodup_nil
  known := by simp [MessageServer.initial]
  fresh := by simp [Registered, MessageServer.initial, noClient]

/-- While a client is still to be registered there is a free slot. -/
theorem not_full (table : Table state) (slots : options.noOfClients ≤ maxNoOfClients)
    (unknown : ¬ Registered state.server.clientMsgQs index) :
    ¬ Full state.server.clientMsgQs := by
  intro full
  have occupied (i : Fin maxNoOfClients) :
      ∃ pid, (state.server.clientMsgQs i).pid = some pid :=
    Option.ne_none_iff_exists'.mp (full i i.isLt)
  choose pid holds using occupied
  have injective : Function.Injective pid := by
    intro i j same
    exact Fin.ext (table.distinct i j (pid i) i.isLt j.isLt (holds i) (same ▸ holds j))
  have missed (i : Fin maxNoOfClients) : pid i ≠ index :=
    fun same => unknown ⟨i, i.isLt, same ▸ holds i⟩
  have few := Fintype.card_lt_of_injective_of_notMem pid injective (b := index)
    (fun member => member.elim fun i same => missed i same)
  simp only [Fintype.card_fin] at few
  omega

/-- There is a descriptor left for it. -/
theorem opened_lt (table : Table state)
    (unknown : ¬ Registered state.server.clientMsgQs index) :
    state.server.opened.length < options.noOfClients := by
  have another : (index :: state.server.opened).Nodup :=
    List.nodup_cons.mpr ⟨fun member => unknown (table.known index member), table.opened⟩
  have few := another.length_le_card
  rwa [Fintype.card_fin, List.length_cons] at few

/-- The table is as it was, and no START has been sent. -/
theorem congr (table : Table state)
    (clientMsgQs : following.server.clientMsgQs = state.server.clientMsgQs)
    (opened : following.server.opened = state.server.opened)
    (pc : ∀ pid, (following.client pid).pc = .sendStart → (state.client pid).pc = .sendStart)
    (pending : ∀ pid, ∀ message ∈ following.pending pid, message.mType = .start →
      message ∈ state.pending pid ∨ (state.client pid).pc = .sendStart) : Table following where
  distinct := by
    rw [clientMsgQs]
    exact table.distinct
  leads := by
    rw [clientMsgQs, opened]
    exact table.leads
  opened := opened ▸ table.opened
  known := by
    rw [clientMsgQs, opened]
    exact table.known
  fresh := by
    intro pid registered
    rw [clientMsgQs] at registered
    rcases table.fresh pid registered with ⟨started, none⟩
    refine ⟨fun unsent => started (pc pid unsent), fun message member start => ?_⟩
    rcases pending pid message member start with earlier | unsent
    · exact none message earlier start
    · exact started unsent

end Table

/-- More descriptors lead to the same clients. -/
theorem recipient_append {opened : List (Fin options.noOfClients)} {qID : Int}
    (found : recipient options opened qID = some index) (another : Fin options.noOfClients) :
    recipient options (opened ++ [another]) qID = some index := by
  unfold recipient at found ⊢
  split at found
  · exact found
  · split at found
    · next nonneg =>
        rcases List.getElem?_eq_some_iff.mp found with ⟨inside, _⟩
        rw [if_pos nonneg, List.getElem?_append_left inside]
        exact found
    · cases found

/-- A client whose queue is there, and can be opened, is reached. -/
theorem openQueue_leads {recMsg : Message options} (here : (state.recMsgq recMsg.pid).isSome)
    (room : options.program = .zad2 → state.server.opened.length < options.openMax)
    (text : recMsg.msg = decimal (options.recMsgqID recMsg.pid)) :
    ∃ opened qID,
      openQueue state recMsg =
        ({ state with server := { state.server with opened := opened } }, qID) ∧
      (opened = state.server.opened ∨ opened = state.server.opened ++ [recMsg.pid]) ∧
      recipient options opened qID = some recMsg.pid := by
  cases program : options.program with
  | zad1 =>
      refine ⟨state.server.opened, stringToInt recMsg.msg, by simp [openQueue, program], .inl rfl,
        ?_⟩
      refine Leads.recipient_zad1 program ?_
      rw [text, stringToInt_decimal (options.recMsgqID_lt recMsg.pid)]
      simp [Leads, program]
  | zad2 =>
      refine ⟨state.server.opened ++ [recMsg.pid], state.server.opened.length, ?_, .inr rfl, ?_⟩
      · simp [openQueue, program, here, room program, State.addDescriptor]
      · simp [recipient, program]

end OsExercises.MessageServer
