import OsExercises.Foundation.TransitionSystem

/-! # First-in first-out channels

The purpose of a queue between two parties, without its storage: values are
sent at one end and received at the other. The channel remembers everything
sent and everything received, so that order, loss and duplication can be stated
of whole runs. -/

namespace OsExercises

structure Channel (α : Type u) where
  sent : List α
  held : List α
  received : List α

inductive ChannelAction (α : Type u)
  | send (value : α)
  | receive

/-- A channel holding at most `capacity` values. -/
def channel (α : Type u) (capacity : Nat) :
    TransitionSystem (Channel α) (ChannelAction α) where
  initial := ⟨[], [], []⟩
  next state
    | .send value =>
        if state.held.length < capacity then
          some { state with
            sent := state.sent ++ [value]
            held := state.held ++ [value] }
        else
          none
    | .receive =>
        match state.held with
        | [] => none
        | value :: rest =>
            some { state with held := rest, received := state.received ++ [value] }

namespace Channel

variable {α : Type u} {capacity : Nat}

theorem run_send {state : Channel α} (room : state.held.length < capacity)
    (value : α) :
    (channel α capacity).run state [.send value] =
      some { state with
        sent := state.sent ++ [value]
        held := state.held ++ [value] } := by
  simp [TransitionSystem.run, channel, room]

theorem run_receive {state : Channel α} {value : α} {rest : List α}
    (held : state.held = value :: rest) :
    (channel α capacity).run state [.receive] =
      some { state with held := rest, received := state.received ++ [value] } := by
  simp [TransitionSystem.run, channel, held]

/-- Nothing is lost, duplicated or reordered, and the channel never holds more
than its capacity. -/
theorem fifo {state : Channel α} (reachable : (channel α capacity).Reachable state) :
    state.sent = state.received ++ state.held ∧ state.held.length ≤ capacity := by
  refine reachable.invariant
    (fun state => state.sent = state.received ++ state.held ∧
      state.held.length ≤ capacity) ?_ ?_
  · simp [channel]
  · intro current action following invariant _ taken
    rcases invariant with ⟨order, bounded⟩
    cases action with
    | send value =>
        simp only [channel] at taken
        split at taken
        · next room =>
            cases taken
            exact ⟨by simp [order], by simp; omega⟩
        · cases taken
    | receive =>
        simp only [channel] at taken
        split at taken
        · cases taken
        · next value rest held =>
            cases taken
            rw [held] at order bounded
            exact ⟨by simp [order], Nat.le_of_succ_le bounded⟩

end Channel

end OsExercises
