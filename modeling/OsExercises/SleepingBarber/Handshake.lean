import OsExercises.SleepingBarber.Guard

/-! # The handshake

The barber serves one client at a time, and no post on a handshake semaphore
ever reaches another process or another visit than the one it was made for. -/

namespace OsExercises.SleepingBarber

open OsExercises

variable {options : Options} {state : State options}

/-- From the signal of the barber, or the one to the barber, to the post that
the client is leaving. -/
def Client.Engaged (client : Client) : Prop :=
  client.pending = true ∨
    (∃ pc, client.catchSIGUSR1 = some pc ∧ pc ≠ .setShaved) ∨
    client.main ∈ [ClientPc.waitAwake, .wakeUnlock, .postSeated, .waitDone, .postLeaving]

theorem Client.role_of_engaged {client : Client} {role : Role}
    (known : client.role = some role) (engaged : client.Engaged) :
    ∃ turn, role = .engaged turn := by
  rcases engaged with pending | ⟨pc, handling, active⟩ | elsewhere
  · have spins := Client.waits_of_signal known (.inr pending)
    simp only [Client.role, spins, pending] at known
    split at known
    all_goals simp_all
    exact ⟨1, known.symm⟩
  · rcases Client.role_handling known handling with ⟨_, _, _, role⟩
    rw [role]
    cases pc with
    | setShaved => exact absurd rfl active
    | postSeated => exact ⟨1, rfl⟩
    | waitDone => exact ⟨2, rfl⟩
    | postLeaving => exact ⟨3, rfl⟩
  · have awayFromSpin : client.main ≠ .waitShaved := by
      intro spins
      simp [spins] at elsewhere
    rcases Client.role_idle known awayFromSpin with ⟨_, _, _, role⟩
    rw [role]
    simp only [List.mem_cons, List.not_mem_nil, or_false] at elsewhere
    rcases elsewhere with pc | pc | pc | pc | pc <;> simp [pc, ClientPc.role]

/-- At most one client is engaged, the handshake semaphores are binary, every
post is taken by the process and for the visit it was made for, the barber's
shaves and the clients' departures keep step, and no client comes more often
than it was told to. -/
theorem handshake
    (reachable : (system options).ReachableUnder SendsSucceed state) :
    (∀ left right, (state.client left).Engaged → (state.client right).Engaged →
      left = right) ∧
    (state.recMsgSem.length ≤ 1 ∧ state.sendMsgSem.length ≤ 1) ∧
    (∀ exchange ∈ state.log.exchanged, exchange.1 = exchange.2) ∧
    (state.log.completed.length ≤ state.log.left.length ∧
      state.log.left.length ≤ state.log.completed.length + 1) ∧
    (∀ index, (state.log.admitted.countP fun visit => visit.pid = index) ≤
      options.noOfShaves index) := by
  rcases encountered reachable with ⟨encounter, _, sound, refines, _⟩
  refine ⟨?_, ?_, ?_, ?_, ?_⟩
  · intro left right leftEngaged rightEngaged
    rcases Client.role_of_engaged (refines.role left) leftEngaged with ⟨leftTurn, leftRole⟩
    rcases Client.role_of_engaged (refines.role right) rightEngaged with
      ⟨rightTurn, rightRole⟩
    rcases sound.meeting.of_engaged rightRole with ⟨_, _, only, _⟩
    exact only left leftTurn leftRole
  · rw [refines.recMsgSem, refines.sendMsgSem]
    cases sound.meeting with
    | apart _ _ recEmpty sendEmpty => simp [recEmpty, sendEmpty]
    | together visit turn partner _ _ _ _ _ _ dialogue => exact dialogue.at_most_one.symm
    | parting visit _ _ recOne sendEmpty => simp [recOne, sendEmpty]
  · rw [refines.log]
    exact sound.exchanged
  · rw [refines.log]
    cases sound.meeting with
    | apart _ _ _ _ left => simp [left]
    | together visit turn partner _ _ _ _ _ _ _ left => simp [left]
    | parting visit _ _ _ _ left => simp [left]
  · intro index
    rw [refines.log]
    have counted := sound.counted index
    have shavesLeft := sound.shavesLeft index
    unfold Encounter.visits at counted
    by_cases free : encounter.role index = .free
    · rw [if_pos free] at counted
      omega
    · have positive := shavesLeft free
      rw [if_neg free] at counted
      omega

/-- The client has joined the queue, has been invited and shaved, and has posted
that it is leaving. -/
def parting : State (oneClient .zad1) :=
  let client : Action (oneClient .zad1) := .client ⟨0, by decide⟩
  (system (oneClient .zad1)).after
    (List.replicate 7 client ++ List.replicate 4 .barber ++
      [.deliverSIGUSR1 ⟨0, by decide⟩ false, client] ++ List.replicate 3 .barber ++
      [client, client]) rfl

theorem parting_reachable :
    (system (oneClient .zad1)).ReachableUnder SendsSucceed parting :=
  TransitionSystem.after_reachableUnder _ _ _ (by decide)

theorem handshake_parting :
    (parting.log.left.length = 1 ∧ parting.log.completed.length = 0) ∧
    (∀ left right, (parting.client left).Engaged → (parting.client right).Engaged →
      left = right) ∧
    (parting.recMsgSem.length ≤ 1 ∧ parting.sendMsgSem.length ≤ 1) ∧
    (∀ exchange ∈ parting.log.exchanged, exchange.1 = exchange.2) ∧
    (parting.log.completed.length ≤ parting.log.left.length ∧
      parting.log.left.length ≤ parting.log.completed.length + 1) ∧
    (∀ index, (parting.log.admitted.countP fun visit => visit.pid = index) ≤
      (oneClient .zad1).noOfShaves index) :=
  ⟨⟨rfl, rfl⟩, handshake parting_reachable⟩

/-- Clients are shaved in the order of their admission. -/
theorem shaved_in_order_of_admission
    (reachable : (system options).ReachableUnder SendsSucceed state) :
    state.log.started <+: state.log.admitted := by
  rcases encountered reachable with ⟨encounter, _, sound, refines, _⟩
  rw [refines.log, sound.order]
  exact List.prefix_append _ _

theorem shaved_in_order_of_admission_parting :
    parting.log.started = [⟨⟨0, by decide⟩, 1⟩] ∧
      parting.log.started <+: parting.log.admitted :=
  ⟨rfl, shaved_in_order_of_admission parting_reachable⟩

end OsExercises.SleepingBarber
