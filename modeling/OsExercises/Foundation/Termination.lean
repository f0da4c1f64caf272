import Mathlib.Order.Lattice.Nat
import OsExercises.Foundation.TransitionSystem

/-! # Runs that end

A rank that every step lowers bounds the length of the runs, so that each of them can be
continued up to a state in which nothing more can happen. A program that polls may make any
number of idle steps in between. -/

namespace OsExercises.TransitionSystem

variable {State : Type u} {Action : Type v}

/-- Only idle steps are allowed and can happen. -/
def Halted (system : TransitionSystem State Action) (allowed idle : State → Action → Prop)
    (state : State) : Prop :=
  ∀ action, allowed state action → ¬ idle state action → system.next state action = none

/-- No allowed step raises the rank, and one that is not idle lowers it. -/
def Descends (system : TransitionSystem State Action) (allowed idle : State → Action → Prop)
    (rank : State → Nat) : Prop :=
  ∀ current action following, system.ReachableUnder allowed current → allowed current action →
    system.next current action = some following →
    rank following ≤ rank current ∧ (¬ idle current action → rank following < rank current)

/-- The number of steps of a run that are not idle. -/
def busySteps (system : TransitionSystem State Action) (idle : State → Action → Prop)
    [∀ state action, Decidable (idle state action)] : State → List Action → Nat
  | _, [] => 0
  | state, action :: actions =>
      (if idle state action then 0 else 1) +
        (system.next state action).elim 0 fun following => system.busySteps idle following actions

/-- Some run whose every step satisfies `allowed` leads from the one state to the other. -/
inductive LeadsUnder (system : TransitionSystem State Action) (allowed : State → Action → Prop) :
    State → State → Prop
  | refl {state : State} : LeadsUnder system allowed state state
  | step {state following final : State} {action : Action} (permitted : allowed state action)
      (taken : system.next state action = some following)
      (later : LeadsUnder system allowed following final) : LeadsUnder system allowed state final

section LeadsUnder

variable {system : TransitionSystem State Action} {allowed : State → Action → Prop}
variable {first second third : State}

theorem LeadsUnder.trans (earlier : system.LeadsUnder allowed first second)
    (later : system.LeadsUnder allowed second third) : system.LeadsUnder allowed first third := by
  induction earlier with
  | refl => exact later
  | step permitted taken _ induction => exact .step permitted taken (induction later)

theorem LeadsUnder.reachable (leads : system.LeadsUnder allowed first second)
    (reachable : system.ReachableUnder allowed first) : system.ReachableUnder allowed second := by
  induction leads with
  | refl => exact reachable
  | step permitted taken _ induction => exact induction (.step reachable permitted taken)

theorem LeadsUnder.leads (leads : system.LeadsUnder allowed first second) :
    system.Leads first second := by
  induction leads with
  | refl => exact .refl system _
  | step _ taken _ induction => exact .step taken induction

end LeadsUnder

section Descends

variable {system : TransitionSystem State Action} {allowed idle : State → Action → Prop}
variable {rank : State → Nat}

theorem Descends.of_lt
    (lower : ∀ current action following, system.Reachable current →
      system.next current action = some following → rank following < rank current) :
    system.Descends (fun _ _ => True) (fun _ _ => False) rank := by
  intro current action following reachable _ taken
  have less := lower current action following reachable taken
  exact ⟨Nat.le_of_lt less, fun _ => less⟩

/-- A run has no more steps, the idle ones aside, than the rank has units. -/
theorem Descends.busySteps_le [∀ state action, Decidable (idle state action)]
    (descends : system.Descends allowed idle rank) {current final : State}
    {actions : List Action} (reachable : system.ReachableUnder allowed current)
    (permitted : system.AllowedAlong allowed current actions)
    (evaluated : system.run current actions = some final) :
    system.busySteps idle current actions + rank final ≤ rank current := by
  induction actions generalizing current with
  | nil =>
      cases evaluated
      simp [busySteps]
  | cons action actions induction =>
      rcases Option.bind_eq_some_iff.mp evaluated with ⟨following, taken, rest⟩
      rcases descends current action following reachable permitted.1 taken with ⟨same, lower⟩
      have later := induction (.step reachable permitted.1 taken) (permitted.2 following taken) rest
      rw [busySteps, taken, Option.elim_some]
      split
      · omega
      · next busy =>
          have less := lower busy
          omega

theorem busySteps_eq_length {current final : State} {actions : List Action}
    (evaluated : system.run current actions = some final) :
    system.busySteps (fun _ _ => False) current actions = actions.length := by
  induction actions generalizing current with
  | nil => rfl
  | cons action actions induction =>
      rcases Option.bind_eq_some_iff.mp evaluated with ⟨following, taken, rest⟩
      rw [busySteps, taken, Option.elim_some, induction rest, if_neg not_false, List.length_cons,
        Nat.add_comm]

/-- Where no step is idle, the rank bounds the length. -/
theorem Descends.length_le_under (descends : system.Descends allowed (fun _ _ => False) rank)
    {current final : State} {actions : List Action}
    (reachable : system.ReachableUnder allowed current)
    (permitted : system.AllowedAlong allowed current actions)
    (evaluated : system.run current actions = some final) :
    actions.length + rank final ≤ rank current := by
  rw [← busySteps_eq_length evaluated]
  exact descends.busySteps_le reachable permitted evaluated

theorem Descends.length_le (descends : system.Descends (fun _ _ => True) (fun _ _ => False) rank)
    {current final : State} {actions : List Action} (reachable : system.Reachable current)
    (evaluated : system.run current actions = some final) :
    actions.length + rank final ≤ rank current :=
  descends.length_le_under reachable (system.allowedAlong_true _ _) evaluated

theorem Descends.rank_le (descends : system.Descends allowed idle rank) {current final : State}
    (reachable : system.ReachableUnder allowed current)
    (leads : system.LeadsUnder allowed current final) : rank final ≤ rank current := by
  induction leads with
  | refl => exact Nat.le_refl _
  | step permitted taken _ induction =>
      exact Nat.le_trans (induction (.step reachable permitted taken))
        (descends _ _ _ reachable permitted taken).1

/-- Where every run can be continued to a state of some kind, every run can be continued to one in
which only idle steps can happen. -/
theorem Descends.halts_at (descends : system.Descends allowed idle rank) {rested : State → Prop}
    (rests : ∀ state, system.ReachableUnder allowed state →
      ∃ later, system.LeadsUnder allowed state later ∧ rested later)
    {current : State} (reachable : system.ReachableUnder allowed current) :
    ∃ final, system.LeadsUnder allowed current final ∧ rested final ∧
      system.Halted allowed idle final := by
  induction bound : rank current using Nat.strongRecOn generalizing current with
  | ind units induction =>
      rcases rests current reachable with ⟨later, leads, resting⟩
      by_cases halted : system.Halted allowed idle later
      · exact ⟨later, leads, resting, halted⟩
      · rcases Classical.not_forall.mp halted with ⟨action, disabled⟩
        rcases Classical.not_imp.mp disabled with ⟨permitted, disabled⟩
        rcases Classical.not_imp.mp disabled with ⟨busy, enabled⟩
        rcases Option.ne_none_iff_exists'.mp enabled with ⟨following, taken⟩
        have laterReachable := leads.reachable reachable
        have same := descends.rank_le reachable leads
        have lower := (descends later action following laterReachable permitted taken).2 busy
        rcases induction (rank following) (by omega) (.step laterReachable permitted taken) rfl with
          ⟨final, onward, resting, halted⟩
        exact ⟨final, leads.trans (.step permitted taken onward), resting, halted⟩

/-- Every run can be continued until only idle steps can happen. -/
theorem Descends.halts (descends : system.Descends (fun _ _ => True) idle rank) {current : State}
    (reachable : system.Reachable current) :
    ∃ final, system.Leads current final ∧ system.Halted (fun _ _ => True) idle final := by
  have rests (state : State) (_ : system.ReachableUnder (fun _ _ => True) state) :
      ∃ later, system.LeadsUnder (fun _ _ => True) state later ∧ True :=
    ⟨state, .refl, trivial⟩
  rcases descends.halts_at rests reachable with ⟨final, leads, _, halted⟩
  exact ⟨final, leads.leads, halted⟩

end Descends

end OsExercises.TransitionSystem
