import OsExercises.MessageServer.Matching
import OsExercises.MessageServer.SlotSafety

/-! # No client waits for nothing

As long as every START finds a free slot, a client that waits has a message on its
way. A START that is refused is taken from the queue without a reply: the server
prints that there is no room, and the client waits for ever. -/

namespace OsExercises.MessageServer

open OsExercises

variable {options : Options} {state following : State options}

/-- The requests with operands have both of them. -/
def Message.WellFormed (message : Message options) : Prop :=
  message.mType = .add ∨ message.mType = .mul ∨ message.mType = .sub ∨ message.mType = .div →
    (operands message.msg).isSome

instance (message : Message options) : Decidable message.WellFormed :=
  inferInstanceAs (Decidable (_ → _))

/-- Runs on which nobody receives a SIGINT, END does not reach the server and the
requests are well formed. -/
def Undisturbed (state : State options) : Action options → Prop
  | .server _ =>
      match state.server.pc with
      | .handle recMsg => recMsg.mType ≠ .serverEnd ∧ recMsg.WellFormed
      | _ => True
  | .client _ => True
  | .interruptServer _ | .interruptClient _ _ => False

/-- The condition on runs: no START is handled while all slots are occupied. -/
def FindsRoom (state : State options) : Action options → Prop
  | .server _ =>
      match state.server.pc with
      | .handle recMsg => recMsg.mType = .start → ¬ Full state.server.clientMsgQs
      | _ => True
  | _ => True

instance (state : State options) : ∀ action, Decidable (Undisturbed state action)
  | .server _ =>
      match pc : state.server.pc with
      | .handle recMsg =>
          decidable_of_iff (recMsg.mType ≠ .serverEnd ∧ recMsg.WellFormed)
            (by simp [Undisturbed, pc])
      | .receive | .reply _ _ | .testStop | .removeQueue | .returned | .crashed
      | .outOfBounds => isTrue (by simp [Undisturbed, pc])
  | .client _ => isTrue trivial
  | .interruptServer _ | .interruptClient _ _ => isFalse id

instance (state : State options) : ∀ action, Decidable (FindsRoom state action)
  | .server _ =>
      match pc : state.server.pc with
      | .handle recMsg =>
          decidable_of_iff (recMsg.mType = .start → ¬ Full state.server.clientMsgQs)
            (by simp [FindsRoom, pc])
      | .receive | .reply _ _ | .testStop | .removeQueue | .returned | .crashed
      | .outOfBounds => isTrue (by simp [FindsRoom, pc])
  | .interruptServer _ | .client _ | .interruptClient _ _ => isTrue trivial

/-- A message of the client is in the server's queue, is being processed, or has
been answered into the private queue. -/
def Expects (state : State options) (client : Fin options.noOfClients) : Prop :=
  (∃ message ∈ state.queue, message.pid = client) ∨
    (∃ message ∈ state.server.pc.handling ++ state.server.pc.replying,
      message.pid = client) ∨
    ∃ reply rest, state.recMsgq client = some (reply :: rest)

/-- A client is in `msgrcv` after its START or after a request. -/
def Waits (state : State options) (client : Fin options.noOfClients) : Prop :=
  (state.client client).pc = .awaitStart ∨ (state.client client).pc = .awaitReply

/-! ## Undisturbed runs -/

/-- Nobody has been told to stop. -/
structure Calm (state : State options) : Prop where
  clients : ∀ client, (state.client client).interrupted = false
  serverStop : state.server.serverStop = false
  serverEnd : state.server.serverEnd = false

theorem Calm.setClient {index : Fin options.noOfClients} {next : Client options}
    (calm : Calm state) (same : next.interrupted = (state.client index).interrupted) :
    Calm (state.setClient index next) :=
  { calm with
    clients := by
      intro other
      simp only [State.setClient_client]
      by_cases mine : other = index
      · rw [mine, Function.update_self, same]
        exact calm.clients index
      · rw [Function.update_of_ne mine]
        exact calm.clients other }

theorem Calm.serverStep {seconds : Nat} (calm : Calm state)
    (allowed : Undisturbed state (.server seconds))
    (step : ServerStep state seconds following) : Calm following := by
  cases step with
  | serverEnd recMsg pc ends =>
      simp only [Undisturbed, pc] at allowed
      exact absurd ends allowed.1
  | move | receive | refuse | register | release | releaseBeyond | crash | answer | fail
  | deliver | replyBeyond | remove => exact ⟨calm.clients, calm.serverStop, calm.serverEnd⟩

theorem Calm.clientStep {index : Fin options.noOfClients} (calm : Calm state)
    (step : ClientStep state index following) : Calm following := by
  have resumed := calm.setClient (Client.resume_interrupted (state.client index))
  cases step with
  | send | sendFails | receive | receiveFails =>
      exact ⟨resumed.clients, resumed.serverStop, resumed.serverEnd⟩
  | move next moves => exact calm.setClient moves.interrupted
  | close =>
      have returned : Calm (state.setClient index
          { state.client index with pc := .returned }) := calm.setClient rfl
      exact ⟨returned.clients, returned.serverStop, returned.serverEnd⟩

theorem Calm.next {action : Action options} (calm : Calm state) (sound : Consistent state)
    (allowed : Undisturbed state action)
    (taken : (system options).next state action = some following) : Calm following := by
  cases action with
  | server seconds =>
      exact calm.serverStep allowed (serverStep_cases sound.clientNo taken)
  | client index => exact calm.clientStep (clientStep_cases taken)
  | interruptServer | interruptClient => exact allowed.elim

/-! ## Losses -/

/-- The server does not crash on a well-formed request. -/
theorem Message.WellFormed.answer_ne_none {message : Message options}
    (wellFormed : message.WellFormed)
    (request : message.mType ≠ .start ∧ message.mType ≠ .serverEnd ∧ message.mType ≠ .stop)
    (seconds : Nat) :
    answer options.library seconds message.mType message.msg ≠ none := by
  unfold Message.WellFormed at wellFormed
  cases mType : message.mType <;> simp [mType] at request wellFormed
  all_goals simp [answer, Option.ne_none_iff_isSome, wellFormed]

/-- In zad1 a reply only fails to reach a client that has removed its queue. -/
theorem Consistent.gone_of_unreachable {i : Nat} {recMsg : Message options}
    (zad1 : options.program = .zad1) (sound : Consistent state)
    (pc : state.server.pc = .reply i recMsg) (below : i < maxNoOfClients)
    (nobody : ∀ client queue,
      recipient options state.server.opened (state.server.clientMsgQs i).qID = some client →
        state.recMsgq client ≠ some queue) :
    (state.client recMsg.pid).stage = .gone := by
  have leads := sound.slots i recMsg.pid (sound.replies i recMsg pc below)
  have removed : state.recMsgq recMsg.pid = none := by
    cases held : state.recMsgq recMsg.pid with
    | none => rfl
    | some queue => exact absurd held (nobody _ queue (leads.recipient_zad1 zad1))
  simp [Client.stage, sound.closed recMsg.pid removed]

/-- On the runs considered, only a client that is gone can lose a message. -/
theorem LossCause.gone {action : Action options} {index : Fin options.noOfClients}
    (zad1 : options.program = .zad1) (cause : LossCause state index action)
    (calm : Calm state) (sound : Consistent state) (safe : SlotsSafe state)
    (undisturbed : Undisturbed state action) (room : FindsRoom state action) :
    (state.client index).stage = .gone := by
  have running : ¬ (state.server.serverStop = true ∨ state.server.serverEnd = true) := by
    simp [calm.serverStop, calm.serverEnd]
  cases cause with
  | refused seconds recMsg pc mine start full =>
      simp only [FindsRoom, pc] at room
      exact absurd full (room start)
  | ended seconds recMsg pc ends =>
      simp only [Undisturbed, pc] at undisturbed
      exact absurd ends undisturbed.1
  | stopped seconds recMsg pc mine stop =>
      have interrupted := sound.stops recMsg (by simp [pc, ServerPc.handling]) stop
      rw [calm.clients] at interrupted
      cases interrupted
  | crashed seconds recMsg pc request missing =>
      simp only [Undisturbed, pc] at undisturbed
      exact absurd missing (undisturbed.2.answer_ne_none request seconds)
  | unreachable seconds i recMsg pc mine below nobody =>
      exact mine ▸ sound.gone_of_unreachable zad1 pc below nobody
  | beyond seconds i recMsg pc beyond =>
      have below := safe.reply i recMsg pc
      omega
  | removed seconds pc => exact absurd (sound.ended (.inl pc)) running
  | unsent gone => exact absurd (sound.ended (.inr (.inr gone))) running
  | signalled | interrupted => exact undisturbed.elim

/-! ## Runs -/

theorem keepsStrangersWaiting_of_room (state : State options) (action : Action options)
    (allowed : Undisturbed state action ∧ FindsRoom state action) :
    KeepsStrangersWaiting state action := by
  rcases allowed with ⟨undisturbed, room⟩
  cases action with
  | server seconds =>
      cases pc : state.server.pc with
      | handle recMsg =>
          simp only [FindsRoom, pc] at room
          simp only [KeepsStrangersWaiting, pc]
          exact fun start full => absurd full (room start)
      | receive | reply | testStop | removeQueue | returned | crashed | outOfBounds =>
          simp [KeepsStrangersWaiting, pc]
  | interruptServer => exact undisturbed.elim
  | client => trivial
  | interruptClient => exact undisturbed.elim

theorem calm_and_awaited (zad1 : options.program = .zad1)
    (reachable : (system options).ReachableUnder
      (fun state action => Undisturbed state action ∧ FindsRoom state action) state) :
    Calm state ∧ ∀ client, (state.conversation client).Awaited := by
  induction reachable with
  | initial =>
      refine ⟨⟨fun _ => rfl, rfl, rfl⟩, fun client => ?_⟩
      intro waiting
      cases waiting
  | @step current following action earlier permitted taken induction =>
      have sound := consistent earlier.reachable
      have safe := slotsSafe keepsStrangersWaiting_of_room earlier
      refine ⟨induction.1.next sound permitted.1 taken, fun client => ?_⟩
      cases advances sound (paced earlier.reachable client) taken with
      | unchanged same => exact same ▸ induction.2 client
      | serves step => exact (induction.2 client).serves step
      | loses step cause =>
          exact Conversation.Awaited.loses
            (cause.gone zad1 induction.1 sound safe permitted.1 permitted.2) step

theorem Waits.stage {client : Fin options.noOfClients} (waits : Waits state client) :
    (state.client client).stage = .waiting := by
  rcases waits with pc | pc <;> simp [Client.stage, pc]

/-- What is on its way in the conversation of a client is somewhere in the system. -/
theorem expects_of_awaited {client : Fin options.noOfClients}
    (awaited : (state.conversation client).Awaited) (waits : Waits state client) :
    Expects state client := by
  rcases awaited waits.stage with pending | replying | inbox
  · rcases List.exists_mem_of_ne_nil _ pending with ⟨message, member⟩
    rcases List.mem_filter.mp member with ⟨either, mine⟩
    rcases List.mem_append.mp either with handled | queued
    · exact .inr (.inl ⟨message, List.mem_append_left _ handled, by simpa using mine⟩)
    · exact .inl ⟨message, queued, by simpa using mine⟩
  · rcases List.exists_mem_of_ne_nil _ replying with ⟨message, member⟩
    rcases List.mem_filter.mp member with ⟨replied, mine⟩
    exact .inr (.inl ⟨message, List.mem_append_right _ replied, by simpa using mine⟩)
  · apply Or.inr
    apply Or.inr
    cases held : state.recMsgq client with
    | none => simp [State.conversation, held] at inbox
    | some queue =>
        cases queue with
        | nil => simp [State.conversation, held] at inbox
        | cons reply rest => exact ⟨reply, rest, rfl⟩

/-- In undisturbed runs of cw06/zad1 on which every START finds a free slot, a
client that waits has a message on its way. -/
theorem no_client_waits_in_vain (options : Options) (zad1 : options.program = .zad1)
    {state : State options}
    (reachable : (system options).ReachableUnder
      (fun state action => Undisturbed state action ∧ FindsRoom state action) state)
    (client : Fin options.noOfClients) (waits : Waits state client) : Expects state client :=
  expects_of_awaited ((calm_and_awaited zad1 reachable).2 client) waits

theorem no_client_waits_in_vain_mirrored :
    Waits mirrored firstMirror ∧ Expects mirrored firstMirror :=
  ⟨.inr rfl, no_client_waits_in_vain twoMirrors rfl
    (TransitionSystem.after_reachableUnder _ _ rfl (by decide)) firstMirror (.inr rfl)⟩

/-- The client that finds no room waits, and nothing will ever come. -/
theorem client_waits_in_vain :
    ∃ state client,
      (system (elevenClients .zad1)).ReachableUnder Undisturbed state ∧
        Waits state client ∧ ¬ Expects state client := by
  refine ⟨_, refusedClient .zad1,
    TransitionSystem.after_reachableUnder _ (elevenStarts .zad1) rfl (by decide +kernel),
    .inl rfl, ?_⟩
  have queue : ((system (elevenClients .zad1)).after (elevenStarts .zad1) rfl).queue = [] := rfl
  have idle : ((system (elevenClients .zad1)).after (elevenStarts .zad1) rfl).server.pc =
    .testStop := rfl
  have empty : ((system (elevenClients .zad1)).after (elevenStarts .zad1) rfl).recMsgq
    (refusedClient .zad1) = some [] := rfl
  intro expects
  rcases expects with ⟨message, member, _⟩ | ⟨message, member, _⟩ | ⟨reply, rest, held⟩
  · rw [queue] at member
    cases member
  · rw [idle] at member
    cases member
  · rw [empty] at held
    cases held

end OsExercises.MessageServer
