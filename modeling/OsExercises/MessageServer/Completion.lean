import OsExercises.Foundation.Termination
import OsExercises.Foundation.Totals
import OsExercises.MessageServer.Service

/-! # Every line is answered

Besides the polls of the server and of the clients that have come to the end of their input, every
run without a signal ends. The clients have then read all their lines, and have received an answer
to each request. -/

namespace OsExercises.MessageServer

open OsExercises

variable {options : Options} {state following : State options} {index : Fin options.noOfClients}

/-- The server finds its queue empty, or a client the end of its input. -/
def Polls (state : State options) : Action options → Prop
  | .server _ =>
      state.queue = [] ∧ (state.server.pc = .receive ∨ state.server.pc = .testStop)
  | .client index =>
      (state.client index).stdin = [] ∧
        ((state.client index).pc = .loopTest ∨ (state.client index).pc = .getline)
  | .interruptServer _ | .interruptClient _ _ => False

instance (state : State options) : ∀ action, Decidable (Polls state action)
  | .server _ => inferInstanceAs (Decidable (_ ∧ (_ ∨ _)))
  | .client _ => inferInstanceAs (Decidable (_ ∧ (_ ∨ _)))
  | .interruptServer _ | .interruptClient _ _ => isFalse id

/-! ## What is left to do -/

/-- A message that is sent counts the statements of the server. -/
def ClientPc.rank : ClientPc options → Nat
  | .sendStart | .sendRequest _ => 9
  | .testStop => 3
  | .awaitStart | .awaitReply => 2
  | _ => 0

def Client.rank (client : Client options) : Nat :=
  10 * client.stdin.length + client.pc.rank +
    if client.pc = .loopTest ∧ client.stdin ≠ [] then 1 else 0

/-- With a message in the queue the server goes on to take it. -/
def Server.rank (server : Server options) (queue : List (Message options)) : Nat :=
  match server.pc with
  | .handle _ => 3
  | .reply _ _ => 2
  | .testStop => if queue = [] then 0 else 1
  | _ => 0

def State.rank (state : State options) : Nat :=
  total Client.rank state.client + 4 * state.queue.length + state.server.rank state.queue

/-- No run has more steps than this, the polls aside. -/
def mostSteps (options : Options) : Nat :=
  ∑ index, (10 * (options.stdin index).length + 9)

theorem rank_initial (options : Options) : (initial options).rank = mostSteps options := by
  simp [State.rank, Server.rank, initial, total, Client.rank, ClientPc.rank, mostSteps]

/-- The server's rank changes little when a message is queued. -/
theorem Server.rank_append (server : Server options) (queue : List (Message options))
    (message : Message options) :
    server.rank (queue ++ [message]) ≤ server.rank queue + 1 := by
  unfold Server.rank
  cases server.pc with
  | testStop =>
      simp only [List.append_eq_nil_iff, List.cons_ne_self, and_false, if_false]
      omega
  | receive | handle | reply | removeQueue | returned | crashed | outOfBounds => simp

theorem serve_rank {seconds : Nat} (step : ServeStep state following) :
    following.rank ≤ state.rank ∧
      (¬ Polls state (.server seconds) → following.rank < state.rank) := by
  cases step with
  | poll pc empty =>
      refine ⟨?_, fun busy => absurd ⟨empty, .inl pc⟩ busy⟩
      simp [State.rank, Server.rank, pc, empty]
  | receive pc queue =>
      simp [State.rank, Server.rank, pc, queue]
      omega
  | again pc =>
      by_cases empty : state.queue = []
      · refine ⟨?_, fun busy => absurd ⟨empty, .inr pc⟩ busy⟩
        simp [State.rank, Server.rank, pc, empty]
      · simp [State.rank, Server.rank, pc, empty]
  | register pc | answer pc =>
      simp [State.rank, Server.rank, pc]
  | deliver pc =>
      simp only [State.rank, Server.rank, pc, State.moveServer_client, State.setLog_client,
        State.setRecMsgq_client, State.moveServer_queue, State.setLog_queue,
        State.setRecMsgq_queue, State.moveServer_server_pc]
      split <;> omega

theorem read_rank {next : Client options} (step : ReadStep index (state.client index) next) :
    next.rank ≤ (state.client index).rank ∧
      (¬ Polls state (.client index) → next.rank < (state.client index).rank) := by
  have of_lt (lower : next.rank < (state.client index).rank) :
      next.rank ≤ (state.client index).rank ∧
        (¬ Polls state (.client index) → next.rank < (state.client index).rank) :=
    ⟨Nat.le_of_lt lower, fun _ => lower⟩
  cases step with
  | enterLoop pc =>
      by_cases ended : (state.client index).stdin = []
      · refine ⟨?_, fun busy => absurd ⟨ended, .inl pc⟩ busy⟩
        simp [Client.rank, ClientPc.rank, pc, ended]
      · simp [Client.rank, ClientPc.rank, pc, ended]
  | endOfFile pc ended =>
      refine ⟨?_, fun busy => absurd ⟨ended, .inr pc⟩ busy⟩
      simp [Client.rank, ClientPc.rank, pc, ended]
  | wrongOperation pc stdin =>
      refine of_lt ?_
      simp only [Client.rank, ClientPc.rank, pc, stdin, List.length_cons, reduceCtorEq, false_and,
        if_false]
      split <;> omega
  | request pc stdin =>
      refine of_lt ?_
      simp only [Client.rank, ClientPc.rank, pc, stdin, List.length_cons, reduceCtorEq, false_and,
        if_false]
      omega
  | wait pc =>
      refine of_lt ?_
      simp [Client.rank, ClientPc.rank, pc]

/-- A client goes on, and the queue has so many messages more. -/
theorem rank_setClient (state : State options) (index : Fin options.noOfClients)
    (next : Client options) :
    total Client.rank (Function.update state.client index next) +
      (state.client index).rank = total Client.rank state.client + next.rank :=
  total_update Client.rank state.client index next

theorem resume_rank_send {client : Client options} {message : Message options}
    (atWork : client.pc.AtWork) (outgoing : client.pc.outgoing index = some message) :
    client.resume.rank + 6 ≤ client.rank := by
  cases pc : client.pc with
  | sendStart | sendRequest => simp [Client.rank, Client.resume, ClientPc.rank, pc]
  | sendStop =>
      rw [pc] at atWork
      exact atWork.elim
  | awaitStart | loopTest | getline | testStop | awaitReply | testSend | testStopAgain | awaitStop
  | removeQueue | returned | crashed =>
      rw [pc] at outgoing
      cases outgoing

theorem resume_rank_receive {client : Client options}
    (waiting : client.pc = .awaitStart ∨ client.pc = .awaitReply) :
    client.resume.rank < client.rank := by
  rcases waiting with pc | pc
  all_goals
    simp only [Client.rank, Client.resume, ClientPc.rank, pc, reduceCtorEq, false_and, if_false,
      true_and]
    split <;> omega

theorem ask_rank (atWork : (state.client index).pc.AtWork) (step : AskStep state index following) :
    following.rank ≤ state.rank ∧
      (¬ Polls state (.client index) → following.rank < state.rank) := by
  cases step with
  | @send message outgoing =>
      have moved := rank_setClient state index (state.client index).resume
      have lower := resume_rank_send atWork outgoing
      have server := state.server.rank_append state.queue message
      have less : State.rank (((state.setClient index (state.client index).resume).setQueue
          (state.queue ++ [message])).setLog index ((state.log index).ask message)) <
          state.rank := by
        simp only [State.rank, State.setLog_client, State.setQueue_client, State.setClient_client,
          State.setLog_queue, State.setQueue_queue, State.setLog_server, State.setQueue_server,
          State.setClient_server, List.length_append, List.length_singleton]
        omega
      exact ⟨Nat.le_of_lt less, fun _ => less⟩
  | @receive message rest waiting arrived =>
      have moved := rank_setClient state index (state.client index).resume
      have lower := resume_rank_receive waiting
      have less : State.rank (((state.setClient index (state.client index).resume).setRecMsgq
          index (some rest)).setLog index
            { state.log index with received := (state.log index).received ++ [message] }) <
          state.rank := by
        simp only [State.rank, State.setLog_client, State.setRecMsgq_client,
          State.setClient_client, State.setLog_queue, State.setRecMsgq_queue,
          State.setClient_queue, State.setLog_server, State.setRecMsgq_server,
          State.setClient_server]
        omega
      exact ⟨Nat.le_of_lt less, fun _ => less⟩
  | @read next step =>
      have moved := rank_setClient state index next
      rcases read_rank step with ⟨same, lower⟩
      simp only [State.rank, State.setClient_client, State.setClient_queue,
        State.setClient_server]
      refine ⟨by omega, fun busy => ?_⟩
      have less := lower busy
      omega

theorem descends (modest : Modest options) :
    (system options).Descends Quiet Polls State.rank := by
  intro current action following reachable quiet taken
  have known := known modest reachable
  cases action with
  | server seconds =>
      exact serve_rank
        (known.serving.serveStep_cases modest known.consistent known.turns known.safe taken)
  | client index =>
      have attends := known.serving.clients index
      exact ask_rank attends.atWork (askStep_cases attends known.serving.here
        (known.serving.inboxes index) (known.consistent.inboxes index) taken)
  | interruptServer | interruptClient => exact quiet.elim

/-! ## What is left to happen -/

section Halted

variable (modest : Modest options) (known : Known state)
variable (halted : (system options).Halted Quiet Polls state)
include known halted

theorem halted_server (modest : Modest options) :
    state.queue = [] ∧ state.server.pc.Idle := by
  have atWork := known.serving.atWork
  have disabled (busy : ¬ Polls state (.server 0)) : serverStep state 0 = none :=
    halted (.server 0) trivial busy
  cases pc : state.server.pc with
  | receive =>
      refine ⟨?_, rfl, rfl⟩
      cases queue : state.queue with
      | nil => rfl
      | cons recMsg rest =>
          have served := known.serving.messages recMsg (by simp [queue])
          have stuck := disabled (by simp [Polls, queue])
          simp [serverStep, pc, queue, served.fits] at stuck
  | handle recMsg =>
      have stuck := disabled (by simp [Polls, pc])
      simp [serverStep, pc] at stuck
  | reply i recMsg =>
      have stuck := disabled (by simp [Polls, pc])
      rcases known.serving.reply_cases modest known.consistent known.turns pc
        (known.safe.reply i recMsg pc) with ⟨delivered, replied, _⟩
      simp [serverStep, pc, replied] at stuck
  | testStop =>
      refine ⟨?_, rfl, rfl⟩
      by_contra something
      have stuck := disabled (by simp [Polls, something])
      simp [serverStep, pc] at stuck
  | removeQueue | returned | crashed | outOfBounds =>
      rw [pc] at atWork
      exact atWork.elim

theorem halted_client (modest : Modest options) (index : Fin options.noOfClients) :
    (state.client index).stdin = [] ∧
      ((state.client index).pc = .loopTest ∨ (state.client index).pc = .getline) := by
  rcases halted_server known halted modest with ⟨queue, idle⟩
  have attends := known.serving.clients index
  have atWork := attends.atWork
  have disabled (busy : ¬ Polls state (.client index)) : clientStep state index = none :=
    halted (.client index) trivial busy
  have sends {message : Message options}
      (outgoing : (state.client index).pc.outgoing index = some message) :
      clientSend state index message ≠ none := by
    have room := hasRoom_nil modest (attends.outgoing message outgoing).fits
    simp [clientSend, sendBlocks, queue, room, known.serving.here]
  have receives (waiting : (state.client index).stage = .waiting) :
      clientReceive state index ≠ none := by
    have pending : state.pending index = [] := by simp [State.pending, queue, idle.1]
    have replying : state.replying index = [] := by simp [State.replying, idle.2]
    rcases Option.isSome_iff_exists.mp (known.serving.inboxes index) with ⟨inbox, held⟩
    rcases known.serving.awaited index waiting with some | some | some
    · exact absurd pending some
    · exact absurd replying some
    · cases inbox with
      | nil => simp [State.conversation, held] at some
      | cons message rest =>
          simp only [clientReceive, held]
          split <;> simp
  cases pc : (state.client index).pc with
  | loopTest | getline =>
      refine ⟨?_, by simp⟩
      by_contra more
      have stuck := disabled (by simp [Polls, more])
      simp [clientStep, pc] at stuck
  | sendStart | sendRequest mMsg =>
      have stuck := disabled (by simp [Polls, pc])
      simp only [clientStep, pc] at stuck
      exact absurd stuck (sends (by rw [pc]; rfl))
  | awaitStart | awaitReply =>
      have stuck := disabled (by simp [Polls, pc])
      simp only [clientStep, pc] at stuck
      exact absurd stuck (receives (by simp [Client.stage, pc]))
  | testStop =>
      have stuck := disabled (by simp [Polls, pc])
      simp [clientStep, pc] at stuck
  | testSend | sendStop | testStopAgain | awaitStop | removeQueue | returned | crashed =>
      rw [pc] at atWork
      exact atWork.elim

end Halted

/-- The client has read all its lines, has made the requests that are in them, and has received
the answers. -/
structure Finished (state : State options) (index : Fin options.noOfClients) : Prop where
  stdin : (state.client index).stdin = []
  asked : (state.log index).asked =
    startMessage options index :: ((initial options).client index).requests index
  answered : List.Forall₂ IsAnswer (state.log index).asked (state.log index).received

/-- Without a SIGINT, with a slot for every client and with lines that are requests, every client
gets an answer to each of its lines: besides the polls a run has a bounded number of steps, and
every run goes on until nothing but polls is left; then all clients have finished. -/
theorem every_line_answered (options : Options) (modest : Modest options) :
    (∀ actions final, (system options).run (initial options) actions = some final →
      (system options).AllowedAlong Quiet (initial options) actions →
      (system options).busySteps Polls (initial options) actions ≤ mostSteps options) ∧
      (∀ state, (system options).ReachableUnder Quiet state →
        ∃ final, (system options).LeadsUnder Quiet state final ∧
          (system options).Halted Quiet Polls final) ∧
      ∀ state, (system options).ReachableUnder Quiet state →
        (system options).Halted Quiet Polls state →
        state.queue = [] ∧ ∀ index, Finished state index := by
  refine ⟨?_, ?_, ?_⟩
  · intro actions final evaluated quiet
    have bounded := (descends modest).busySteps_le .initial quiet evaluated
    change (system options).busySteps Polls (initial options) actions + final.rank ≤
      (initial options).rank at bounded
    rw [rank_initial] at bounded
    omega
  · intro state reachable
    have rests (state : State options) (_ : (system options).ReachableUnder Quiet state) :
        ∃ later, (system options).LeadsUnder Quiet state later ∧ True :=
      ⟨state, .refl, trivial⟩
    rcases (descends modest).halts_at rests reachable with ⟨final, leads, _, halted⟩
    exact ⟨final, leads, halted⟩
  · intro state reachable halted
    have known := known modest reachable
    refine ⟨(halted_server known halted modest).1, fun index => ?_⟩
    rcases halted_client known halted modest index with ⟨stdin, pc⟩
    have attends := known.serving.clients index
    have ready : (state.client index).stage = .ready := by
      rcases pc with pc | pc <;> simp [Client.stage, pc, attends.continues]
    have asks := attends.asks
    have outgoing : (state.client index).pc.outgoing index = none := by
      rcases pc with pc | pc <;> rw [pc] <;> rfl
    exact
      { stdin := stdin
        asked := by simpa [outgoing, Client.requests, stdin, script] using asks
        answered := (known.turns index).all_answered ready }

theorem modest_twoMirrors : Modest twoMirrors where
  slots := by decide
  bytes _ := by decide
  descriptors := by
    intro zad2
    cases zad2
  lines := by
    intro index parsed member
    have lines : script ((initial twoMirrors).client index).buffer (twoMirrors.stdin index) =
        [.request .mirror ['a', 'b']] := by
      match index with
      | ⟨0, _⟩ | ⟨1, _⟩ => rfl
    rw [lines, List.mem_singleton] at member
    subst member
    exact
      { goesOn := by simp
        wellFormed := by simp [Message.WellFormed]
        fits := fun _ => (by decide : 4 + 2 + 1 ≤ 256) }

/-- Both clients get their answers, also after the first one has got its own. -/
theorem every_line_answered_twoMirrors :
    ∃ final, (system twoMirrors).Leads mirrored final ∧
      ∀ index, Finished final index ∧ (final.log index).received.length = 2 := by
  have reachable : (system twoMirrors).ReachableUnder Quiet mirrored :=
    TransitionSystem.after_reachableUnder _ _ rfl (by decide)
  rcases every_line_answered twoMirrors modest_twoMirrors with ⟨_, ends, rests⟩
  rcases ends mirrored reachable with ⟨final, leads, halted⟩
  refine ⟨final, leads.leads, fun index => ?_⟩
  have finished := (rests final (leads.reachable reachable) halted).2 index
  refine ⟨finished, ?_⟩
  rw [← finished.answered.length_eq, finished.asked]
  match index with
  | ⟨0, _⟩ | ⟨1, _⟩ => rfl

end OsExercises.MessageServer
