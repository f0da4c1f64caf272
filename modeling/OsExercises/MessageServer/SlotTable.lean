import OsExercises.MessageServer.Processes

/-! # The slot table

What the two loops over `clientMsgQs` find, and which client a stored `qID`
leads to. -/

namespace OsExercises.MessageServer

open OsExercises

variable {options : Options} {clientMsgQs : Nat → ClientInfo options}

/-- A slot within the bounds holds the client's pid. -/
def Registered (clientMsgQs : Nat → ClientInfo options)
    (client : Fin options.noOfClients) : Prop :=
  ∃ i, i < maxNoOfClients ∧ (clientMsgQs i).pid = some client

/-- Every slot is occupied. -/
def Full (clientMsgQs : Nat → ClientInfo options) : Prop :=
  ∀ i, i < maxNoOfClients → (clientMsgQs i).pid ≠ none

instance (clientMsgQs : Nat → ClientInfo options) (client : Fin options.noOfClients) :
    Decidable (Registered clientMsgQs client) :=
  inferInstanceAs (Decidable (∃ i, i < maxNoOfClients ∧ _))

instance (clientMsgQs : Nat → ClientInfo options) : Decidable (Full clientMsgQs) :=
  inferInstanceAs (Decidable (∀ i, i < maxNoOfClients → _))

/-! ## The lookup by pid -/

/-- A lookup that ends within its range has found the pid. -/
theorem findClient_found (pid : Fin options.noOfClients) (i remaining : Nat)
    (found : findClient clientMsgQs pid i remaining < i + remaining) :
    (clientMsgQs (findClient clientMsgQs pid i remaining)).pid = some pid := by
  induction remaining generalizing i with
  | zero => exact absurd found (Nat.lt_irrefl i)
  | succ remaining induction =>
      unfold findClient at found ⊢
      split at found
      · next here =>
          rw [if_pos here]
          exact here
      · next elsewhere =>
          rw [if_neg elsewhere]
          exact induction (i + 1) (by omega)

/-- The lookup finds a pid that is there. -/
theorem findClient_lt (pid : Fin options.noOfClients) (i remaining slot : Nat)
    (above : i ≤ slot) (below : slot < i + remaining)
    (holds : (clientMsgQs slot).pid = some pid) :
    findClient clientMsgQs pid i remaining < i + remaining := by
  induction remaining generalizing i with
  | zero => omega
  | succ remaining induction =>
      unfold findClient
      split
      · omega
      · next elsewhere =>
          have later : i ≠ slot := by
            intro same
            exact elsewhere (same ▸ holds)
          have further := induction (i + 1) (by omega) (by omega)
          omega

theorem Server.lookup_lt_iff (server : Server options) (pid : Fin options.noOfClients) :
    server.lookup pid < maxNoOfClients ↔ Registered server.clientMsgQs pid := by
  constructor
  · intro found
    exact ⟨_, found, findClient_found pid 0 maxNoOfClients (by simpa [Server.lookup] using found)⟩
  · intro registered
    rcases registered with ⟨slot, below, holds⟩
    simpa [Server.lookup] using findClient_lt pid 0 maxNoOfClients slot (Nat.zero_le slot)
      (by simpa using below) holds

theorem Server.pid_lookup (server : Server options) {pid : Fin options.noOfClients}
    (found : server.lookup pid < maxNoOfClients) :
    (server.clientMsgQs (server.lookup pid)).pid = some pid :=
  findClient_found pid 0 maxNoOfClients (by simpa [Server.lookup] using found)

/-! ## The search for a free slot -/

/-- What the search ends with: a free slot, or `flag = 2` in a full table. -/
inductive FreeSlot (clientMsgQs : Nat → ClientInfo options) : Nat × Nat → Prop
  | free (clientNo flag : Nat) (below : clientNo < maxNoOfClients) (early : flag ≠ 2)
      (free : (clientMsgQs clientNo).pid = none) : FreeSlot clientMsgQs (clientNo, flag)
  | full (occupied : Full clientMsgQs) : FreeSlot clientMsgQs (0, 2)

/-- The search has seen the slots before `clientNo` in the second pass and all
slots after it. The fuel covers the rest of the passes and the last test. -/
theorem findFree_correct (fuel clientNo flag : Nat) (below : clientNo < maxNoOfClients)
    (passes : flag ≤ 2)
    (second : flag = 1 → ∀ i, i < clientNo → (clientMsgQs i).pid ≠ none)
    (after : flag = 2 → clientNo = 0 ∧ Full clientMsgQs)
    (enough : (2 - flag) * maxNoOfClients < fuel + clientNo) :
    ∃ result, findFree clientMsgQs fuel clientNo flag = some result ∧
      FreeSlot clientMsgQs result := by
  induction fuel generalizing clientNo flag with
  | zero =>
      have finished : flag = 2 := by
        have twice : 2 ≤ flag ∨ flag = 1 ∨ flag = 0 := by omega
        rcases twice with twice | rfl | rfl <;> omega
      have start := (after finished).1
      subst finished
      omega
  | succ fuel induction =>
      unfold findFree
      rw [if_pos below]
      by_cases free : (clientMsgQs clientNo).pid = none
      · rw [if_pos free]
        refine ⟨_, rfl, .free clientNo flag below ?_ free⟩
        intro twice
        rcases after twice with ⟨rfl, full⟩
        exact full 0 below free
      · rw [if_neg free]
        by_cases more : flag < 2
        · rw [if_pos more]
          by_cases last : clientNo + 1 = maxNoOfClients
          · rw [if_pos last]
            apply induction 0 (flag + 1)
            · decide
            · omega
            · intro _ i impossible
              omega
            · intro twice
              refine ⟨rfl, ?_⟩
              intro i inside
              by_cases here : i = clientNo
              · exact here ▸ free
              · exact second (by omega) i (by omega)
            · have one : 2 - flag = (2 - (flag + 1)) + 1 := by omega
              rw [one, Nat.add_one_mul] at enough
              omega
          · rw [if_neg last]
            apply induction (clientNo + 1) flag
            · omega
            · exact passes
            · intro again i earlier
              by_cases here : i = clientNo
              · exact here ▸ free
              · exact second again i (by omega)
            · intro twice
              omega
            · omega
        · rw [if_neg more]
          have twice : flag = 2 := by omega
          rcases after twice with ⟨rfl, full⟩
          exact ⟨_, rfl, twice ▸ .full full⟩

theorem findFree_eq_some (clientMsgQs : Nat → ClientInfo options) {clientNo : Nat}
    (below : clientNo < maxNoOfClients) :
    ∃ result, findFree clientMsgQs scanFuel clientNo 0 = some result ∧
      FreeSlot clientMsgQs result := by
  apply findFree_correct scanFuel clientNo 0 below
  · decide
  · intro impossible
    cases impossible
  · intro impossible
    cases impossible
  · simp only [scanFuel]
    omega

/-! ## Queue identifiers -/

/-- `qID` stands for the client's private queue, or for none. -/
def Leads (options : Options) (opened : List (Fin options.noOfClients))
    (client : Fin options.noOfClients) (qID : Int) : Prop :=
  match options.program with
  | .zad1 => qID = options.recMsgqID client
  | .zad2 => qID = -1 ∨ 0 ≤ qID ∧ opened[qID.toNat]? = some client

variable {opened : List (Fin options.noOfClients)} {client : Fin options.noOfClients}
variable {qID : Int}

theorem Leads.recipient_zad1 (zad1 : options.program = .zad1)
    (leads : Leads options opened client qID) :
    recipient options opened qID = some client := by
  have same : qID = options.recMsgqID client := by simpa [Leads, zad1] using leads
  cases found : recipient options opened qID with
  | none =>
      simp only [MessageServer.recipient, zad1, List.find?_eq_none] at found
      exact absurd same.symm (by simpa using found client (List.mem_finRange client))
  | some other =>
      have matched : (options.recMsgqID other : Int) = qID := by
        simp only [recipient, zad1] at found
        simpa using List.find?_some found
      congr 1
      apply options.recMsgqID_injective zad1
      omega

theorem Leads.recipient {other : Fin options.noOfClients}
    (leads : Leads options opened client qID)
    (found : recipient options opened qID = some other) : other = client := by
  cases program : options.program with
  | zad1 =>
      rw [leads.recipient_zad1 program] at found
      cases found
      rfl
  | zad2 =>
      simp only [MessageServer.recipient, program] at found
      simp only [Leads, program] at leads
      rcases leads with rfl | ⟨nonneg, here⟩
      · simp at found
      · rw [if_pos nonneg, here] at found
        cases found
        rfl

/-- More descriptors change nothing about the earlier ones. -/
theorem Leads.append (leads : Leads options opened client qID)
    (another : Fin options.noOfClients) : Leads options (opened ++ [another]) client qID := by
  unfold Leads at leads ⊢
  split at leads
  · exact leads
  · rcases leads with absent | ⟨nonneg, here⟩
    · exact .inl absent
    · refine .inr ⟨nonneg, ?_⟩
      rcases List.getElem?_eq_some_iff.mp here with ⟨inside, _⟩
      rw [List.getElem?_append_left inside]
      exact here

end OsExercises.MessageServer
