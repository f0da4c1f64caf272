import Mathlib.Logic.Function.Basic

/-! # Alternating dialogues

Two parties take turns over a pair of channels. The even messages go from the
caller to the callee, the odd ones back, and each party takes every turn: it
sends the message or waits for it. A party can be at most one turn ahead, so at
most one message is on its way, and it is the one the other party waits for. -/

namespace OsExercises

/-- The caller has taken `caller` turns and the callee `callee` turns, with the
messages of the difference on their way. -/
inductive Alternates (message : Nat → α) : Nat → Nat → List α → List α → Prop
  | level (turn : Nat) : Alternates message turn turn [] []
  | callerAhead (turn : Nat) (even : turn % 2 = 0) :
      Alternates message (turn + 1) turn [message turn] []
  | calleeAhead (turn : Nat) (odd : turn % 2 = 1) :
      Alternates message turn (turn + 1) [] [message turn]

namespace Alternates

variable {α : Type u} {message : Nat → α} {caller callee : Nat}
variable {toCallee toCaller rest : List α} {received : α}

theorem caller_sends (dialogue : Alternates message caller callee toCallee toCaller)
    (even : caller % 2 = 0) :
    Alternates message (caller + 1) callee (toCallee ++ [message caller]) toCaller := by
  cases dialogue with
  | level => exact .callerAhead _ even
  | callerAhead => omega
  | calleeAhead => omega

theorem caller_receives
    (dialogue : Alternates message caller callee toCallee (received :: rest))
    (odd : caller % 2 = 1) :
    received = message caller ∧
      Alternates message (caller + 1) callee toCallee rest := by
  cases dialogue with
  | calleeAhead => exact ⟨rfl, .level _⟩

theorem callee_sends (dialogue : Alternates message caller callee toCallee toCaller)
    (odd : callee % 2 = 1) :
    Alternates message caller (callee + 1) toCallee (toCaller ++ [message callee]) := by
  cases dialogue with
  | level => exact .calleeAhead _ odd
  | callerAhead => omega
  | calleeAhead => omega

theorem callee_receives
    (dialogue : Alternates message caller callee (received :: rest) toCaller)
    (even : callee % 2 = 0) :
    received = message callee ∧
      Alternates message caller (callee + 1) rest toCaller := by
  cases dialogue with
  | callerAhead => exact ⟨rfl, .level _⟩

/-- A message to the caller means that the callee is ahead. -/
theorem callee_ahead
    (dialogue : Alternates message caller callee toCallee (received :: rest)) :
    callee = caller + 1 := by
  cases dialogue with
  | calleeAhead => rfl

/-- When the callee is ahead, only its last message is on its way. -/
theorem of_callee_ahead (dialogue : Alternates message caller callee toCallee toCaller)
    (ahead : callee = caller + 1) : toCallee = [] ∧ toCaller = [message caller] := by
  cases dialogue with
  | level => omega
  | callerAhead => omega
  | calleeAhead => exact ⟨rfl, rfl⟩

/-- On the caller's turn to send, the callee is not ahead. -/
theorem callee_le (dialogue : Alternates message caller callee toCallee toCaller)
    (even : caller % 2 = 0) : callee ≤ caller := by
  cases dialogue with
  | level => exact Nat.le_refl _
  | callerAhead => exact Nat.le_succ _
  | calleeAhead => omega

theorem at_most_one (dialogue : Alternates message caller callee toCallee toCaller) :
    toCallee.length ≤ 1 ∧ toCaller.length ≤ 1 := by
  cases dialogue <;> simp

/-- Turns are apart by one at most. -/
theorem close (dialogue : Alternates message caller callee toCallee toCaller) :
    caller ≤ callee + 1 ∧ callee ≤ caller + 1 := by
  cases dialogue <;> omega

/-- The parties never wait for each other: when the caller waits in vain, it is
the callee's turn, and the callee can take it. -/
theorem callee_proceeds (dialogue : Alternates message caller callee toCallee [])
    (waits : caller % 2 = 1) :
    callee % 2 = 1 ∨ toCallee ≠ [] := by
  cases dialogue with
  | level => exact .inl waits
  | callerAhead => exact .inr (by simp)

end Alternates

end OsExercises
