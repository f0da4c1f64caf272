import Mathlib.Data.Finset.Erase
import Mathlib.Data.Finset.Insert
import OsExercises.MessageServer.Steps

/-! # Registration

The server handles START and STOP messages while everything else goes on around
it. As long as pids register and leave in turn, the table holds the registered
pids, one slot each. -/

namespace OsExercises.MessageServer

open OsExercises

variable {options : Options}

/-- The server goes on to answer the message it has just handled. -/
def Replies (state : State options) : Prop :=
  state.server.pc.replying ≠ []

instance (state : State options) : Decidable (Replies state) :=
  inferInstanceAs (Decidable (_ ≠ _))

/-- The START and STOP messages that the server has handled, with the pids that it
has accepted and not stopped since. A pid sends START while it is not registered,
and STOP while it is. Between two messages everything but the table and
`client_no` may change. -/
inductive Handled (options : Options) :
    List (Message options) → Finset (Fin options.noOfClients) → State options → Prop
  | nothing : Handled options [] ∅ (initial options)
  | elsewhere {messages : List (Message options)}
      {registered : Finset (Fin options.noOfClients)} {state : State options}
      (following : State options) :
      Handled options messages registered state →
      following.server.clientMsgQs = state.server.clientMsgQs →
      following.server.clientNo = state.server.clientNo →
      Handled options messages registered following
  | accepted {messages : List (Message options)}
      {registered : Finset (Fin options.noOfClients)} {state : State options}
      (seconds : Nat) (recMsg : Message options) :
      Handled options messages registered state → state.server.pc = .handle recMsg →
      recMsg.mType = .start → recMsg.pid ∉ registered →
      Replies (handle state seconds recMsg) →
      Handled options (messages ++ [recMsg]) (insert recMsg.pid registered)
        (handle state seconds recMsg)
  | refused {messages : List (Message options)}
      {registered : Finset (Fin options.noOfClients)} {state : State options}
      (seconds : Nat) (recMsg : Message options) :
      Handled options messages registered state → state.server.pc = .handle recMsg →
      recMsg.mType = .start → recMsg.pid ∉ registered →
      ¬ Replies (handle state seconds recMsg) →
      Handled options (messages ++ [recMsg]) registered (handle state seconds recMsg)
  | stopped {messages : List (Message options)}
      {registered : Finset (Fin options.noOfClients)} {state : State options}
      (seconds : Nat) (recMsg : Message options) :
      Handled options messages registered state → state.server.pc = .handle recMsg →
      recMsg.mType = .stop → recMsg.pid ∈ registered →
      Handled options (messages ++ [recMsg]) (registered.erase recMsg.pid)
        (handle state seconds recMsg)

/-- The table holds the registered pids and no others, each in one slot. -/
structure Holds (clientMsgQs : Nat → ClientInfo options)
    (registered : Finset (Fin options.noOfClients)) : Prop where
  slot : ∀ pid ∈ registered, ∃! i, i < maxNoOfClients ∧ (clientMsgQs i).pid = some pid
  known : ∀ i pid, i < maxNoOfClients → (clientMsgQs i).pid = some pid → pid ∈ registered

/-- What happens to a START. -/
structure StartHandled (state following : State options) (recMsg : Message options) :
    Prop where
  /-- The scan for a free slot ends. -/
  terminates : ∃ result, findFree state.server.clientMsgQs scanFuel state.server.clientNo 0 =
    some result
  refused : ¬ Replies following ↔ Full state.server.clientMsgQs
  /-- A refused START changes no slot. -/
  kept : ¬ Replies following → following.server.clientMsgQs = state.server.clientMsgQs
  /-- An accepted START takes a free slot and changes no other. -/
  taken : Replies following → ∃ i qID, i < maxNoOfClients ∧
    (state.server.clientMsgQs i).pid = none ∧
    following.server.clientMsgQs =
      Function.update state.server.clientMsgQs i ⟨recMsg.pid, qID⟩

/-! ## Updates of the table -/

namespace Holds

variable {clientMsgQs : Nat → ClientInfo options}
variable {registered : Finset (Fin options.noOfClients)} {pid : Fin options.noOfClients}

theorem empty : Holds (fun _ => noClient options) ∅ where
  slot := by simp
  known := by simp [noClient]

theorem insert (holds : Holds clientMsgQs registered) (fresh : pid ∉ registered) {i : Nat}
    (qID : Int) (below : i < maxNoOfClients) (free : (clientMsgQs i).pid = none) :
    Holds (Function.update clientMsgQs i ⟨some pid, qID⟩) (insert pid registered) where
  slot := by
    intro other member
    by_cases same : other = pid
    · subst same
      refine ⟨i, ⟨below, by simp⟩, ?_⟩
      intro slot found
      by_contra different
      rw [Function.update_of_ne different] at found
      exact fresh (holds.known slot other found.1 found.2)
    · have earlier := (Finset.mem_insert.mp member).resolve_left same
      rcases holds.slot other earlier with ⟨slot, ⟨inside, here⟩, unique⟩
      have apart : slot ≠ i := by
        intro meets
        rw [meets, free] at here
        cases here
      refine ⟨slot, ⟨inside, by rw [Function.update_of_ne apart]; exact here⟩, ?_⟩
      intro another found
      by_cases meets : another = i
      · subst meets
        simp only [Function.update_self, Option.some.injEq] at found
        exact absurd found.2.symm same
      · rw [Function.update_of_ne meets] at found
        exact unique another found
  known := by
    intro slot other inside here
    by_cases meets : slot = i
    · subst meets
      simp only [Function.update_self, Option.some.injEq] at here
      simp [here]
    · rw [Function.update_of_ne meets] at here
      exact Finset.mem_insert_of_mem (holds.known slot other inside here)

theorem erase (holds : Holds clientMsgQs registered) (member : pid ∈ registered) {i : Nat}
    (below : i < maxNoOfClients) (here : (clientMsgQs i).pid = some pid) :
    Holds (Function.update clientMsgQs i (noClient options)) (registered.erase pid) where
  slot := by
    intro other remains
    rcases Finset.mem_erase.mp remains with ⟨different, earlier⟩
    rcases holds.slot other earlier with ⟨slot, ⟨inside, found⟩, unique⟩
    have apart : slot ≠ i := by
      intro meets
      rw [meets, here] at found
      exact different (Option.some.inj found).symm
    refine ⟨slot, ⟨inside, by rw [Function.update_of_ne apart]; exact found⟩, ?_⟩
    intro another occupied
    by_cases meets : another = i
    · subst meets
      simp [noClient] at occupied
    · rw [Function.update_of_ne meets] at occupied
      exact unique another occupied
  known := by
    intro slot other inside found
    by_cases meets : slot = i
    · subst meets
      simp [noClient] at found
    · rw [Function.update_of_ne meets] at found
      refine Finset.mem_erase.mpr ⟨?_, holds.known slot other inside found⟩
      intro same
      subst same
      rcases holds.slot other member with ⟨own, _, unique⟩
      exact meets ((unique slot ⟨inside, found⟩).trans (unique i ⟨below, here⟩).symm)

end Holds

/-! ## Runs -/

/-- The switch at START: refused, or a slot is taken. -/
inductive StartCase (state : State options) (recMsg : Message options) :
    State options → Prop
  | refuse (full : Full state.server.clientMsgQs) :
      StartCase state recMsg ((state.setClientNo 0).moveServer .testStop)
  | register (following : State options) (i : Nat) (qID : Int) (reply : Message options)
      (below : i < maxNoOfClients) (free : (state.server.clientMsgQs i).pid = none)
      (pc : following.server.pc = .reply i reply)
      (table : following.server.clientMsgQs =
        Function.update state.server.clientMsgQs i ⟨some recMsg.pid, qID⟩)
      (clientNo : following.server.clientNo = i) : StartCase state recMsg following

theorem startCase {state : State options} {recMsg : Message options} (seconds : Nat)
    (sound : state.server.clientNo < maxNoOfClients)
    (pc : state.server.pc = .handle recMsg) (start : recMsg.mType = .start) :
    StartCase state recMsg (handle state seconds recMsg) := by
  have step := handle_cases sound seconds pc
  generalize handle state seconds recMsg = following at step ⊢
  cases step with
  | refuse other same _ full => exact .refuse full
  | register other i opened qID same _ below free =>
      rw [pc] at same
      cases same
      exact .register _ i qID _ below free rfl rfl rfl
  | move next idle => simp [pc, ServerPc.Idle, ServerPc.handling] at idle
  | receive _ _ same | fail _ _ same | deliver _ _ _ _ same | replyBeyond _ _ same
  | remove same =>
      rw [pc] at same
      cases same
  | serverEnd other same other' | release other same other'
  | releaseBeyond other same other' | crash other same other' | answer other _ same other' =>
      rw [pc] at same
      cases same
      simp [start, answer] at other'

theorem startHandled {state : State options} {recMsg : Message options} (seconds : Nat)
    (sound : state.server.clientNo < maxNoOfClients)
    (pc : state.server.pc = .handle recMsg) (start : recMsg.mType = .start) :
    StartHandled state (handle state seconds recMsg) recMsg := by
  have terminates : ∃ result,
      findFree state.server.clientMsgQs scanFuel state.server.clientNo 0 = some result := by
    rcases findFree_eq_some state.server.clientMsgQs sound with ⟨result, found, _⟩
    exact ⟨result, found⟩
  have step := startCase seconds sound pc start
  generalize handle state seconds recMsg = following at step ⊢
  cases step with
  | refuse full =>
      have silent : ¬ Replies ((state.setClientNo 0).moveServer .testStop) := fun replies =>
        replies rfl
      exact
        { terminates := terminates
          refused := ⟨fun _ => full, fun _ => silent⟩
          kept := fun _ => rfl
          taken := fun replies => absurd replies silent }
  | register _ i qID reply below free replyPc table =>
      have replies : Replies following := by simp [Replies, replyPc, ServerPc.replying]
      exact
        { terminates := terminates
          refused := ⟨fun silent => absurd replies silent, fun full => absurd free (full i below)⟩
          kept := fun silent => absurd replies silent
          taken := fun _ => ⟨i, qID, below, free, table⟩ }

/-- What the server carries from message to message. -/
theorem holds {messages : List (Message options)}
    {registered : Finset (Fin options.noOfClients)} {state : State options}
    (handled : Handled options messages registered state) :
    state.server.clientNo < maxNoOfClients ∧ Holds state.server.clientMsgQs registered := by
  induction handled with
  | nothing => exact ⟨by simp [initial, maxNoOfClients], .empty⟩
  | elsewhere following _ table clientNo induction => rw [table, clientNo]; exact induction
  | accepted seconds recMsg _ pc start fresh replies induction =>
      have step := startCase seconds induction.1 pc start
      generalize MessageServer.handle _ seconds recMsg = following at step replies
      cases step with
      | refuse => exact absurd rfl replies
      | register _ i qID reply below free _ table clientNo =>
          rw [table, clientNo]
          exact ⟨below, induction.2.insert fresh qID below free⟩
  | refused seconds recMsg _ pc start fresh silent induction =>
      have step := startCase seconds induction.1 pc start
      generalize MessageServer.handle _ seconds recMsg = following at step silent
      cases step with
      | refuse => exact ⟨by simp [maxNoOfClients], induction.2⟩
      | register _ i qID reply _ _ replyPc =>
          simp [Replies, replyPc, ServerPc.replying] at silent
  | @stopped _ registered state seconds recMsg _ pc stop member induction =>
      have found : state.server.lookup recMsg.pid < maxNoOfClients := by
        rw [Server.lookup_lt_iff]
        rcases induction.2.slot recMsg.pid member with ⟨i, here, _⟩
        exact ⟨i, here⟩
      simp only [handle, stop, if_pos found]
      exact ⟨induction.1, induction.2.erase member found (state.server.pid_lookup found)⟩

/-- The table holds the registered pids; the next START is refused when the table
is full, and takes a free slot otherwise. -/
theorem registration {messages : List (Message options)}
    {registered : Finset (Fin options.noOfClients)} {state : State options}
    (handled : Handled options messages registered state) :
    Holds state.server.clientMsgQs registered ∧
      ∀ seconds recMsg, state.server.pc = .handle recMsg → recMsg.mType = .start →
        StartHandled state (handle state seconds recMsg) recMsg :=
  ⟨(holds handled).2, fun seconds _ pc start => startHandled seconds (holds handled).1 pc start⟩

/-! ## A table that fills up -/

/-- The server has taken the message out of its queue. -/
def State.receiving (state : State options) (recMsg : Message options) : State options :=
  state.moveServer (.handle recMsg)

/-- The registered pids and the state after one more message, unless it is out of turn. -/
def serve (current : Finset (Fin options.noOfClients) × State options)
    (recMsg : Message options) : Option (Finset (Fin options.noOfClients) × State options) :=
  let following := handle (current.2.receiving recMsg) 0 recMsg
  if recMsg.mType = .start ∧ recMsg.pid ∉ current.1 then
    some (if Replies following then insert recMsg.pid current.1 else current.1, following)
  else if recMsg.mType = .stop ∧ recMsg.pid ∈ current.1 then
    some (current.1.erase recMsg.pid, following)
  else
    none

theorem Handled.serve {messages : List (Message options)} {recMsg : Message options}
    {registered : Finset (Fin options.noOfClients)} {state : State options}
    {following : Finset (Fin options.noOfClients) × State options}
    (handled : Handled options messages registered state)
    (taken : MessageServer.serve (registered, state) recMsg = some following) :
    Handled options (messages ++ [recMsg]) following.1 following.2 := by
  have received : Handled options messages registered (state.receiving recMsg) :=
    .elsewhere _ handled rfl rfl
  unfold MessageServer.serve at taken
  split at taken
  · next fresh =>
      cases taken
      split
      · next replies => exact .accepted 0 recMsg received rfl fresh.1 fresh.2 replies
      · next silent => exact .refused 0 recMsg received rfl fresh.1 fresh.2 silent
  · split at taken
    · next member =>
        cases taken
        exact .stopped 0 recMsg received rfl member.1 member.2
    · cases taken

theorem Handled.serveAll {messages following : List (Message options)}
    {registered : Finset (Fin options.noOfClients)} {state : State options}
    {final : Finset (Fin options.noOfClients) × State options}
    (handled : Handled options messages registered state)
    (taken : following.foldlM MessageServer.serve (registered, state) = some final) :
    Handled options (messages ++ following) final.1 final.2 := by
  induction following generalizing messages registered state with
  | nil =>
      cases taken
      rwa [List.append_nil]
  | cons recMsg following induction =>
      rw [List.foldlM_cons] at taken
      rcases Option.bind_eq_some_iff.mp taken with ⟨next, served, others⟩
      rw [List.append_cons]
      exact induction (handled.serve served) others

/-- Two clients more than the table has slots. -/
def twelveClients : Options := someClients .zad1 12 (by norm_num) []

def visitor (index : Fin 12) : Fin twelveClients.noOfClients := index

/-- Ten clients register, one of them leaves, the eleventh takes its slot and the twelfth is
refused. -/
def visits : List (Message twelveClients) :=
  ([0, 1, 2, 3, 4, 5, 6, 7, 8, 9].map fun index => startMessage twelveClients (visitor index)) ++
    [stopMessage (visitor 3), startMessage twelveClients (visitor 10),
      startMessage twelveClients (visitor 11)]

def visited : Finset (Fin twelveClients.noOfClients) × State twelveClients :=
  (visits.foldlM serve (∅, initial twelveClients)).get (by decide)

theorem visited_served : visits.foldlM serve (∅, initial twelveClients) = some visited :=
  (Option.some_get _).symm

/-- The client that has left wants to come back. -/
def comingBack : State twelveClients :=
  visited.2.receiving (startMessage twelveClients (visitor 3))

theorem registration_comingBack :
    (∀ index, visitor index ∈ visited.1 ↔ index ≠ 3 ∧ index ≠ 11) ∧
      ¬ Replies (handle comingBack 0 (startMessage twelveClients (visitor 3))) ∧
      Holds comingBack.server.clientMsgQs visited.1 ∧
        StartHandled comingBack (handle comingBack 0 (startMessage twelveClients (visitor 3)))
          (startMessage twelveClients (visitor 3)) := by
  have handled : Handled twelveClients visits visited.1 comingBack :=
    .elsewhere _ (Handled.nothing.serveAll visited_served) rfl rfl
  have registered := registration handled
  exact ⟨by decide, by decide, registered.1, registered.2 0 _ rfl rfl⟩

end OsExercises.MessageServer
