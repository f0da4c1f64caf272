import Mathlib.Data.Finset.Card
import OsExercises.MessageServer.SlotSafety

/-! # The descriptors of the server

The server of zad2 opens the private queue of every client that it registers. It has
no `mq_close` for them: at STOP it only frees the slot. -/

namespace OsExercises.MessageServer

open OsExercises

variable {options : Options}

/-- The occupied slots. -/
def occupied (clientMsgQs : Nat → ClientInfo options) : Finset Nat :=
  (Finset.range maxNoOfClients).filter fun i => (clientMsgQs i).pid ≠ none

/-- One open queue for each occupied slot. -/
structure OnePerSlot (server : Server options) : Prop where
  same : server.opened.length = (occupied server.clientMsgQs).card
  bounded : server.opened.length ≤ maxNoOfClients

/-- `mq_open` succeeds for the private queue of the client. -/
def Opens (state : State options) (client : Fin options.noOfClients) : Prop :=
  (state.recMsgq client).isSome ∧ state.server.opened.length < options.openMax

instance (state : State options) (client : Fin options.noOfClients) :
    Decidable (Opens state client) :=
  inferInstanceAs (Decidable (_ ∧ _))

/-- The message leaves the descriptors and the slots in step: no STOP from a client in
the table, and no START that takes a slot without a queue. -/
structure Message.Balanced (recMsg : Message options) (state : State options) : Prop where
  start : recMsg.mType = .start → Full state.server.clientMsgQs ∨ Opens state recMsg.pid
  stop : recMsg.mType = .stop → ¬ Registered state.server.clientMsgQs recMsg.pid

/-- The condition on runs. -/
def HandlesBalanced (state : State options) : Action options → Prop
  | .server _ =>
      match state.server.pc with
      | .handle recMsg => recMsg.Balanced state
      | _ => True
  | _ => True

instance (recMsg : Message options) (state : State options) :
    Decidable (recMsg.Balanced state) :=
  decidable_of_iff
    ((recMsg.mType = .start → Full state.server.clientMsgQs ∨ Opens state recMsg.pid) ∧
      (recMsg.mType = .stop → ¬ Registered state.server.clientMsgQs recMsg.pid))
    ⟨fun both => ⟨both.1, both.2⟩, fun balanced => ⟨balanced.start, balanced.stop⟩⟩

instance (state : State options) : ∀ action, Decidable (HandlesBalanced state action)
  | .server _ =>
      match pc : state.server.pc with
      | .handle recMsg =>
          decidable_of_iff (recMsg.Balanced state) (by simp [HandlesBalanced, pc])
      | .receive | .reply _ _ | .testStop | .removeQueue | .returned | .crashed
      | .outOfBounds => isTrue (by simp [HandlesBalanced, pc])
  | .interruptServer _ | .client _ | .interruptClient _ _ => isTrue trivial

/-! ## Updates of the table -/

section Table

variable {clientMsgQs : Nat → ClientInfo options} {i : Nat}

theorem occupied_register (pid : Fin options.noOfClients) (qID : Int)
    (below : i < maxNoOfClients) :
    occupied (Function.update clientMsgQs i ⟨some pid, qID⟩) =
      insert i (occupied clientMsgQs) := by
  ext slot
  by_cases here : slot = i
  · subst here
    simp [occupied, below]
  · simp [occupied, here]

theorem occupied_release :
    occupied (Function.update clientMsgQs i (noClient options)) =
      (occupied clientMsgQs).erase i := by
  ext slot
  by_cases here : slot = i
  · subst here
    rw [occupied, Finset.mem_filter]
    simp [noClient]
  · simp [occupied, here]

theorem card_occupied_le (clientMsgQs : Nat → ClientInfo options) :
    (occupied clientMsgQs).card ≤ maxNoOfClients := by
  have part := Finset.card_filter_le (Finset.range maxNoOfClients)
    fun i => (clientMsgQs i).pid ≠ none
  simpa [occupied] using part

theorem card_register (pid : Fin options.noOfClients) (qID : Int)
    (below : i < maxNoOfClients) (free : (clientMsgQs i).pid = none) :
    (occupied (Function.update clientMsgQs i ⟨some pid, qID⟩)).card =
      (occupied clientMsgQs).card + 1 := by
  rw [occupied_register pid qID below]
  exact Finset.card_insert_of_notMem (by simp [occupied, free])

theorem card_release {pid : Fin options.noOfClients} (below : i < maxNoOfClients)
    (taken : (clientMsgQs i).pid = some pid) :
    (occupied (Function.update clientMsgQs i (noClient options))).card + 1 =
      (occupied clientMsgQs).card := by
  rw [occupied_release]
  exact Finset.card_erase_add_one (by simp [occupied, below, taken])

end Table

theorem onePerSlot_iff (server : Server options) :
    OnePerSlot server ↔ server.opened.length = (occupied server.clientMsgQs).card := by
  constructor
  · intro accounted
    exact accounted.same
  · intro same
    exact ⟨same, same.trans_le (card_occupied_le server.clientMsgQs)⟩

/-- The account is about the table and the descriptors only. -/
theorem OnePerSlot.kept {server following : Server options} (accounted : OnePerSlot server)
    (table : following.clientMsgQs = server.clientMsgQs)
    (opened : following.opened = server.opened) : OnePerSlot following := by
  constructor
  · rw [opened, table]
    exact accounted.same
  · rw [opened]
    exact accounted.bounded

/-! ## The switch -/

section Handle

variable {state : State options} {recMsg : Message options}

/-- A START takes a slot, and a descriptor if `mq_open` succeeds. -/
theorem handleStart_zad2 (zad2 : options.program = .zad2)
    (sound : state.server.clientNo < maxNoOfClients)
    (room : ¬ Full state.server.clientMsgQs) :
    ∃ i qID, i < maxNoOfClients ∧ (state.server.clientMsgQs i).pid = none ∧
      (handleStart state recMsg).server.clientMsgQs =
        Function.update state.server.clientMsgQs i ⟨some recMsg.pid, qID⟩ ∧
      (handleStart state recMsg).server.opened =
        if Opens state recMsg.pid then state.server.opened ++ [recMsg.pid]
        else state.server.opened := by
  rcases findFree_eq_some state.server.clientMsgQs sound with ⟨result, found, slot⟩
  unfold handleStart
  rw [found]
  cases slot with
  | full occupied => exact absurd occupied room
  | free clientNo flag below early free =>
      simp only [if_neg early, openQueue, zad2]
      by_cases opens : Opens state recMsg.pid
      · have both := opens
        unfold Opens at both
        rw [if_pos both, if_pos opens]
        exact ⟨clientNo, _, below, free, rfl, rfl⟩
      · have fails := opens
        unfold Opens at fails
        rw [if_neg fails, if_neg opens]
        exact ⟨clientNo, _, below, free, rfl, rfl⟩

/-- A START that is refused touches neither. -/
theorem handleStart_full (sound : state.server.clientNo < maxNoOfClients)
    (full : Full state.server.clientMsgQs) :
    (handleStart state recMsg).server.clientMsgQs = state.server.clientMsgQs ∧
      (handleStart state recMsg).server.opened = state.server.opened := by
  rcases findFree_eq_some state.server.clientMsgQs sound with ⟨result, found, slot⟩
  unfold handleStart
  rw [found]
  cases slot with
  | full => exact ⟨rfl, rfl⟩
  | free clientNo flag below early free => exact absurd free (full clientNo below)

theorem onePerSlot_start (zad2 : options.program = .zad2)
    (sound : state.server.clientNo < maxNoOfClients) (accounted : OnePerSlot state.server) :
    OnePerSlot (handleStart state recMsg).server ↔
      Full state.server.clientMsgQs ∨ Opens state recMsg.pid := by
  have same := accounted.same
  rw [onePerSlot_iff]
  by_cases full : Full state.server.clientMsgQs
  · have unchanged := @handleStart_full options state recMsg sound full
    rw [unchanged.1, unchanged.2]
    exact ⟨fun _ => .inl full, fun _ => same⟩
  · rcases @handleStart_zad2 options state recMsg zad2 sound full with
      ⟨i, qID, below, free, table, opened⟩
    rw [table, opened, card_register recMsg.pid qID below free]
    by_cases opens : Opens state recMsg.pid
    · simp [opens, same]
    · simp [opens, full, same]

/-- A STOP frees a slot and closes nothing. -/
theorem onePerSlot_stop (seconds : Nat) (stop : recMsg.mType = .stop)
    (accounted : OnePerSlot state.server) :
    OnePerSlot (handle state seconds recMsg).server ↔
      ¬ Registered state.server.clientMsgQs recMsg.pid := by
  have same := accounted.same
  rw [onePerSlot_iff, ← Server.lookup_lt_iff]
  by_cases found : state.server.lookup recMsg.pid < maxNoOfClients
  · have freed := card_release found (state.server.pid_lookup found)
    simp only [handle, stop, if_pos found]
    constructor
    · intro kept
      simp only [State.moveServer_server_opened, State.setSlot_server_opened,
        State.moveServer_server_clientMsgQs, State.setSlot_server_clientMsgQs] at kept
      omega
    · intro unknown
      exact absurd found unknown
  · simpa [handle, stop, found] using same

theorem onePerSlot_handle (zad2 : options.program = .zad2) (seconds : Nat)
    (sound : state.server.clientNo < maxNoOfClients) (accounted : OnePerSlot state.server) :
    OnePerSlot (handle state seconds recMsg).server ↔ recMsg.Balanced state := by
  cases mType : recMsg.mType with
  | start =>
      simp only [handle, mType]
      rw [onePerSlot_start zad2 sound accounted]
      exact ⟨fun either => ⟨fun _ => either, by simp [mType]⟩, fun balanced => balanced.start mType⟩
  | stop =>
      rw [onePerSlot_stop seconds mType accounted]
      exact ⟨fun unknown => ⟨by simp [mType], fun _ => unknown⟩,
        fun balanced => balanced.stop mType⟩
  | serverEnd =>
      have balanced : recMsg.Balanced state := ⟨by simp [mType], by simp [mType]⟩
      simp only [handle, mType, balanced, iff_true]
      exact accounted.kept rfl rfl
  | mirror | add | mul | sub | div | time =>
      have balanced : recMsg.Balanced state := ⟨by simp [mType], by simp [mType]⟩
      simp only [handle, mType, balanced, iff_true]
      split
      · exact accounted.kept rfl rfl
      · exact accounted.kept rfl rfl

end Handle

/-! ## Steps -/

section Steps

variable {state following : State options}

/-- Outside the switch the server touches neither the table nor the descriptors. -/
theorem ServerStep.kept {seconds : Nat} (step : ServerStep state seconds following)
    (elsewhere : ∀ recMsg, state.server.pc ≠ .handle recMsg) :
    following.server.clientMsgQs = state.server.clientMsgQs ∧
      following.server.opened = state.server.opened := by
  cases step with
  | move | receive | fail | deliver | replyBeyond | remove => exact ⟨rfl, rfl⟩
  | refuse recMsg pc | register recMsg _ _ _ pc | serverEnd recMsg pc | release recMsg pc
  | releaseBeyond recMsg pc | crash recMsg pc | answer recMsg _ pc =>
      exact absurd pc (elsewhere recMsg)

/-- From a balanced state a step leads to a balanced one exactly when the message that
it handles is balanced. -/
theorem onePerSlot_next {action : Action options} (zad2 : options.program = .zad2)
    (consistent : Consistent state) (accounted : OnePerSlot state.server)
    (taken : (system options).next state action = some following) :
    OnePerSlot following.server ↔ HandlesBalanced state action := by
  cases action with
  | server seconds =>
      cases pc : state.server.pc with
      | handle recMsg =>
          have same : handle state seconds recMsg = following := by
            have taken : serverStep state seconds = some following := taken
            simpa [serverStep, pc] using taken
          rw [← same, onePerSlot_handle zad2 seconds consistent.clientNo accounted]
          simp [HandlesBalanced, pc]
      | receive | reply | testStop | removeQueue | returned | crashed | outOfBounds =>
          have kept := (serverStep_cases consistent.clientNo taken).kept (by simp [pc])
          simp only [HandlesBalanced, pc, iff_true]
          exact accounted.kept kept.1 kept.2
  | interruptServer interrupts =>
      simp only [HandlesBalanced, iff_true]
      cases interruptServer_cases taken with
      | noted => exact accounted.kept rfl rfl
      | send => exact accounted.kept rfl rfl
  | client index =>
      have same := (clientStep_frame (clientStep_cases taken)).1
      simp only [HandlesBalanced, iff_true]
      exact accounted.kept (by rw [same]) (by rw [same])
  | interruptClient index interrupts =>
      simp only [HandlesBalanced, iff_true]
      rcases interruptClient_cases taken with ⟨next, _, rfl⟩
      exact accounted.kept rfl rfl

end Steps

/-! ## Runs -/

/-- As long as the messages are balanced, there is one open queue for each occupied slot.
The first message that is not puts an end to it. -/
theorem one_queue_per_slot (options : Options) (zad2 : options.program = .zad2)
    {state : State options}
    (reachable : (system options).ReachableUnder HandlesBalanced state) :
    OnePerSlot state.server ∧
      ∀ action following, (system options).next state action = some following →
        (OnePerSlot following.server ↔ HandlesBalanced state action) := by
  have accounted : OnePerSlot state.server := by
    apply reachable.invariant_of (fun state => OnePerSlot state.server)
      (fun _ reachable => consistent reachable)
    · rw [onePerSlot_iff]
      simp [system, initial, occupied, noClient]
    · intro current action following sound holds balanced taken
      exact (onePerSlot_next zad2 sound holds taken).mpr balanced
  refine ⟨accounted, ?_⟩
  intro action following taken
  exact onePerSlot_next zad2 (consistent reachable.reachable) accounted taken

def silentClient : Options := someClients .zad2 1 one_few []

def leaver : Fin silentClient.noOfClients := ⟨0, Nat.one_pos⟩

/-- The client registers and learns its number. -/
def joining : List (Action silentClient) :=
  [.client leaver] ++ List.replicate 4 (.server 0) ++ [.client leaver]

/-- SIGINT, STOP, and the server frees the slot. -/
def leaving : List (Action silentClient) :=
  joining ++ [.interruptClient leaver false] ++ List.replicate 3 (.client leaver) ++
    List.replicate 2 (.server 0)

theorem one_queue_per_slot_joined :
    ((system silentClient).after joining rfl).server.opened = [leaver] ∧
      OnePerSlot ((system silentClient).after joining rfl).server :=
  ⟨rfl, (one_queue_per_slot silentClient rfl
    (TransitionSystem.after_reachableUnder _ joining rfl (by decide))).1⟩

/-- The queue of a client that has gone is still open. -/
theorem queue_kept_open :
    (system silentClient).Reachable ((system silentClient).after leaving rfl) ∧
      (occupied ((system silentClient).after leaving rfl).server.clientMsgQs).card = 0 ∧
      ((system silentClient).after leaving rfl).server.opened.length = 1 ∧
      ¬ OnePerSlot ((system silentClient).after leaving rfl).server := by
  refine ⟨TransitionSystem.after_reachable _ leaving rfl, by decide, rfl, ?_⟩
  intro accounted
  exact absurd accounted.same (by decide)

end OsExercises.MessageServer
