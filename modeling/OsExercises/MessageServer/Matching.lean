import OsExercises.MessageServer.Conversations

/-! # Requests and their answers -/

namespace OsExercises.MessageServer

open OsExercises

variable {options : Options}

/-- The replies to a client match its requests. -/
structure Matched (state : State options) (client : Fin options.noOfClients) : Prop where
  /-- The replies that reach the client answer its requests one by one. -/
  answered : List.Forall₂ IsAnswer
    ((state.log client).asked.take (state.log client).delivered.length)
    (state.log client).delivered
  /-- The client receives the replies that reach it, in their order. -/
  received : (state.log client).received <+: (state.log client).delivered
  /-- There is no request without an answer before the latest. -/
  latest : (state.log client).asked.length ≤ (state.log client).received.length + 1
  /-- The reply that the client takes next answers its latest request. -/
  next : ∀ reply rest, state.recMsgq client = some (reply :: rest) →
    ∃ request, (state.log client).asked.getLast? = some request ∧ IsAnswer request reply
  /-- One message is on its way at most, to the server, with it or back. -/
  alone : (state.client client).interrupted = false →
    (state.pending client).length + (state.replying client).length +
      ((state.recMsgq client).getD []).length ≤ 1

/-- Whatever the other clients do, every message that a client receives answers
its own latest request. -/
theorem replies_match_requests (options : Options) {state : State options}
    (reachable : (system options).Reachable state) (client : Fin options.noOfClients) :
    Matched state client := by
  have turns := paced reachable client
  exact
    { answered := turns.answered
      received := turns.counts.1
      latest := turns.counts.2.2
      next := by
        intro reply rest arrived
        have inbox : (state.conversation client).inbox = reply :: rest := by
          simp [State.conversation, arrived]
        exact (turns.next_answers inbox).2
      alone := fun undisturbed => turns.inFlight (.inr undisturbed) }

/-- Two clients that ask for the reverse of `ab`. -/
def twoMirrors : Options :=
  someClients .zad1 2 (by norm_num) [['M', 'I', 'R', 'R', 'O', 'R', ' ', 'a', 'b', '\n']]

def firstMirror : Fin twoMirrors.noOfClients := ⟨0, by decide⟩

def secondMirror : Fin twoMirrors.noOfClients := ⟨1, by decide⟩

/-- Both clients have registered, and the line of the first one has been answered. -/
def mirrored : State twoMirrors :=
  (system twoMirrors).after
    ([.client firstMirror, .client secondMirror] ++ List.replicate 8 (.server 0) ++
      List.replicate 5 (.client firstMirror) ++ List.replicate 3 (.server 0)) rfl

theorem replies_match_requests_mirrored :
    mirrored.recMsgq firstMirror = some [⟨.mirror, firstMirror, ['b', 'a']⟩] ∧
      Matched mirrored firstMirror :=
  ⟨rfl, replies_match_requests twoMirrors ((system twoMirrors).after_reachable _ rfl)
    firstMirror⟩

end OsExercises.MessageServer
