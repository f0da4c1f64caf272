import OsExercises.MessageServer.Consistency

/-! # Messages that cannot be received

`msgsnd` is given the size of a pid and a text, `msgrcv` the size of the longest
text alone. As long as the clients leave room for the pid, every message at the head
of a queue can be received; a longer one stays there. -/

namespace OsExercises.MessageServer

open OsExercises

variable {options : Options} {state following : State options}

/-- The condition on runs: a request that is sent to the queue has at most 251
characters. -/
def SendsShort (state : State options) : Action options → Prop
  | .client index =>
      match (state.client index).pc with
      | .sendRequest mMsg =>
          state.queueExists = true → mMsg.msg.length < maxMsgSize - sizeofPid
      | _ => True
  | _ => True

instance (state : State options) : ∀ action, Decidable (SendsShort state action)
  | .client index =>
      match pc : (state.client index).pc with
      | .sendRequest mMsg =>
          decidable_of_iff
            (state.queueExists = true → mMsg.msg.length < maxMsgSize - sizeofPid)
            (by simp [SendsShort, pc])
      | .sendStart | .awaitStart | .loopTest | .getline | .testStop | .awaitReply | .testSend
      | .sendStop | .testStopAgain | .awaitStop | .removeQueue | .returned | .crashed =>
          isTrue (by simp [SendsShort, pc])
  | .server _ | .interruptServer _ | .interruptClient _ _ => isTrue trivial

/-- Wherever a queue holds messages, the next `msgrcv` takes the first of them. -/
structure Unjammed (state : State options) : Prop where
  queue : ∀ recMsg rest seconds, state.queue = recMsg :: rest →
    serverStep (state.moveServer .receive) seconds =
      some ((state.setQueue rest).moveServer (.handle recMsg))
  replies : ∀ client reply rest, state.recMsgq client = some (reply :: rest) →
    ∃ following, clientReceive state client = some following ∧
      following.recMsgq client = some rest ∧
      (following.log client).received = (state.log client).received ++ [reply]

/-! ## What is sent fits -/

theorem Message.fits_of_short {message : Message options}
    (short : message.msg.length < maxMsgSize - sizeofPid) : message.Fits := by
  intro _
  simp only [Message.size, maxMsgSize, sizeofPid] at short ⊢
  omega

theorem startMessage_fits (index : Fin options.noOfClients) :
    (startMessage options index).Fits := by
  have small : ((options.recMsgqID index : Nat) : Int).natAbs ≤ 2 ^ 31 := by
    have below := options.recMsgqID_lt index
    omega
  have digits : (startMessage options index).msg.length ≤ 11 := length_decimal small
  apply Message.fits_of_short
  simp only [maxMsgSize, sizeofPid]
  omega

theorem stopMessage_fits (index : Fin options.noOfClients) :
    (stopMessage index : Message options).Fits :=
  Message.fits_of_short (by simp [stopMessage, maxMsgSize, sizeofPid])

theorem sends_fits {index : Fin options.noOfClients} {message : Message options}
    (short : SendsShort state (.client index)) (here : state.queueExists = true)
    (sends : Sends options index (state.client index).pc message) : message.Fits := by
  simp only [SendsShort] at short
  generalize (state.client index).pc = pc at sends short
  cases sends with
  | start => exact startMessage_fits index
  | request mMsg => exact Message.fits_of_short (short here)
  | stop => exact stopMessage_fits index

/-! ## Runs -/

/-- Every message in the queue of the server can be received. -/
def QueueFits (state : State options) : Prop :=
  ∀ message ∈ state.queue, message.Fits

theorem QueueFits.serverStep {seconds : Nat} (fits : QueueFits state)
    (step : ServerStep state seconds following) : QueueFits following := by
  cases step with
  | receive recMsg rest pc queue =>
      intro message member
      exact fits message (queue ▸ List.mem_cons_of_mem _ member)
  | remove =>
      intro message member
      simp at member
  | move | refuse | register | serverEnd | release | releaseBeyond | crash | answer | fail
  | deliver | replyBeyond => exact fits

theorem QueueFits.clientStep {index : Fin options.noOfClients} (fits : QueueFits state)
    (short : SendsShort state (.client index)) (step : ClientStep state index following) :
    QueueFits following := by
  cases step with
  | send message sends here =>
      intro other member
      have either : other ∈ state.queue ∨ other = message := by simpa using member
      rcases either with earlier | rfl
      · exact fits other earlier
      · exact sends_fits short here sends
  | sendFails | receive | receiveFails | move | close => exact fits

theorem QueueFits.interruptServer {interrupts : Bool} (fits : QueueFits state)
    (interruption : ServerInterruption state interrupts following) : QueueFits following := by
  cases interruption with
  | noted | send => exact fits

theorem QueueFits.next {action : Action options} (fits : QueueFits state)
    (sound : Consistent state) (short : SendsShort state action)
    (taken : (system options).next state action = some following) : QueueFits following := by
  cases action with
  | server seconds => exact fits.serverStep (serverStep_cases sound.clientNo taken)
  | interruptServer interrupts => exact fits.interruptServer (interruptServer_cases taken)
  | client index => exact fits.clientStep short (clientStep_cases taken)
  | interruptClient index interrupts =>
      rcases interruptClient_cases taken with ⟨next, _, rfl⟩
      exact fits

theorem queueFits (reachable : (system options).ReachableUnder SendsShort state) :
    QueueFits state := by
  apply reachable.invariant_of QueueFits (fun _ reachable => consistent reachable)
  · intro message member
    cases member
  · intro current action following sound fits short taken
    exact fits.next sound short taken

/-- In runs with short requests no message blocks a queue. -/
theorem never_jammed (options : Options) {state : State options}
    (reachable : (system options).ReachableUnder SendsShort state) : Unjammed state where
  queue := by
    intro recMsg rest seconds queue
    have fits := queueFits reachable recMsg (queue ▸ List.mem_cons_self)
    simp [serverStep, queue, fits, State.setQueue, State.moveServer]
  replies := by
    intro client reply rest held
    have fits := (consistent reachable.reachable).inboxes client _ held reply
      List.mem_cons_self
    simp only [clientReceive, held, if_pos fits]
    exact ⟨_, rfl, by simp, by simp⟩

/-- The clients read one line each: MIRROR and as many letters as given. -/
def mirrorOf (letters : Nat) : Options :=
  someClients .zad1 1 one_few
    [['M', 'I', 'R', 'R', 'O', 'R', ' '] ++ List.replicate letters 'a' ++ ['\n']]

def mirroring (letters : Nat) : Fin (mirrorOf letters).noOfClients := ⟨0, Nat.one_pos⟩

/-- The client registers and sends its line. -/
def requested (letters : Nat) : List (Action (mirrorOf letters)) :=
  [.client (mirroring letters)] ++ List.replicate 4 (.server 0) ++
    List.replicate 4 (.client (mirroring letters))

theorem never_jammed_requested :
    ((system (mirrorOf 2)).after (requested 2) rfl).queue =
        [⟨.mirror, mirroring 2, ['a', 'a']⟩] ∧
      Unjammed ((system (mirrorOf 2)).after (requested 2) rfl) :=
  ⟨rfl, never_jammed (mirrorOf 2)
    (TransitionSystem.after_reachableUnder _ (requested 2) rfl (by decide))⟩

/-- A client has sent a text of 252 letters. -/
def jammed : State (mirrorOf 252) :=
  (system (mirrorOf 252)).after (requested 252) (by decide +kernel)

/-- A text of 252 letters fits into a message, but is never received. -/
theorem queue_jammed :
    (system (mirrorOf 252)).Reachable jammed ∧
      (∀ message ∈ jammed.queue, message.msg.length + 1 ≤ maxMsgSize) ∧ ¬ Unjammed jammed := by
  have queue : jammed.queue = [⟨.mirror, mirroring 252, List.replicate 252 'a'⟩] := by
    decide +kernel
  have kept : (serverStep (jammed.moveServer .receive) 0).map State.queue ≠ some [] := by
    decide +kernel
  refine ⟨(system _).after_reachable (requested 252) _, ?_, ?_⟩
  · rw [queue]
    decide +kernel
  · intro unjammed
    exact kept (congrArg (Option.map State.queue) (unjammed.queue _ _ 0 queue))

end OsExercises.MessageServer
