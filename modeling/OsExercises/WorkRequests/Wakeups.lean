import OsExercises.WorkRequests.Permissions

/-! # Sleeping through a permission

SIGUSR2 ends the `pause()` that it finds the child in. A child that handles it earlier,
after its request and before `pause()`, then waits for a second one. -/

namespace OsExercises.WorkRequests

open OsExercises

variable {N : Nat} {K : Int} {state following : State N}

/-- SIGUSR2 is delivered only to a child that is in `pause()`. -/
def DeliveredInPause (state : State N) : Action N → Prop
  | .interruptChild self => (state.child self).pc = .paused
  | .interruptWait _ => False
  | _ => True

instance (state : State N) (action : Action N) : Decidable (DeliveredInPause state action) := by
  cases action <;> unfold DeliveredInPause <;> infer_instance

/-- The child has run `catchUSR2` and blocks in `pause()` nevertheless. -/
def Child.Sleeps (child : Child) : Prop :=
  0 < child.delivered ∧ child.handler = none ∧ child.pc = .paused

/-- A child that was interrupted by SIGUSR2 has left its `pause()`. -/
def Child.Awake (child : Child) : Prop :=
  0 < child.delivered → child.pc.PastPause

theorem Child.Awake.not_sleeps {child : Child} (awake : child.Awake) : ¬ child.Sleeps := by
  intro sleeps
  rcases sleeps with ⟨delivered, _, pc⟩
  have past := awake delivered
  rw [pc] at past
  exact past

/-! ## Steps -/

theorem awake_setChild {self : Fin N} {child : Child}
    (awake : ∀ other, (state.child other).Awake) (moved : child.Awake) :
    ∀ other, ((state.setChild self child).child other).Awake :=
  (Function.forall_update_iff state.child fun _ child => child.Awake).mpr
    ⟨moved, fun other _ => awake other⟩

theorem awake_killChild {cpid : Fin N} (awake : ∀ other, (state.child other).Awake) :
    ∀ other, ((state.killChild cpid).child other).Awake :=
  awake_setChild awake (awake cpid)

theorem ChildStep.awake {self : Fin N} (step : ChildStep state self following)
    (awake : ∀ other, (state.child other).Awake) : ∀ other, (following.child other).Awake := by
  have before := awake self
  cases step with
  | waitRequest _ pc | sendRequest _ pc | pause _ pc =>
      refine awake_setChild awake fun delivered => ?_
      have past := before delivered
      rw [pc] at past
      exact past.elim
  | waitExit | exit => exact awake_setChild awake fun _ => trivial

theorem AnswerStep.awake {self : Fin N} (step : AnswerStep state self following)
    (awake : ∀ other, (state.child other).Awake) : ∀ other, (following.child other).Awake := by
  cases step with
  | wait | queue | post | leave => exact awake_setChild awake (awake self)

theorem ParentStep.awake (step : ParentStep K state following)
    (awake : ∀ other, (state.child other).Awake) : ∀ other, (following.child other).Awake := by
  cases step with
  | request step =>
      cases step with
      | allow | allowBulk => exact awake_killChild awake
      | record | count | late | last | early | bulkDone | post | leave => exact awake
  | work step => cases step <;> exact awake
  | reap step =>
      cases step with
      | reap => exact awake_setChild awake fun _ => trivial
      | fail | post | leave => exact awake

/-! ## Every run -/

theorem awake (reachable : (system N K).ReachableUnder DeliveredInPause state) (self : Fin N) :
    (state.child self).Awake := by
  refine reachable.invariant (fun state => ∀ self, (state.child self).Awake) ?_ ?_ self
  · intro self delivered
    cases delivered
  intro current action following known permitted taken
  cases action with
  | parent reaped => exact (parentStep_cases taken).awake known
  | interruptParent signal => cases interruptParent_cases taken <;> exact known
  | child self newSig =>
      rcases childStep_cases taken with step | step
      · exact step.awake known
      · exact step.awake known
  | interruptChild self =>
      cases interruptChild_cases taken with
      | resumes =>
          refine awake_setChild known fun _ => ?_
          have paused : (current.child self).pc = .paused := permitted
          simp [Child.deliver, paused, ChildPc.resumed, ChildPc.PastPause]
  | interruptWait self => exact permitted.elim

/-- A child past its `pause()` waits for nothing but the unit of `flag`. -/
theorem goesOn {self : Fin N} (past : (state.child self).pc.PastPause)
    (alive : (state.child self).pc.Alive) (free : 0 < state.flag) :
    (system N K).Enabled state (.child self SIGRTMIN) := by
  have waited : semWait state.flag = some (state.flag - 1) := semWait_eq_some.mpr (by omega)
  change (childStep state self SIGRTMIN).isSome
  rw [childStep]
  rcases handler : (state.child self).handler with _ | pc
  · cases pc : (state.child self).pc with
    | waitExit | exit => simp [childMain, pc, waited]
    | waitRequest | sendRequest | pause | paused | zombie | reaped =>
        rw [pc] at past alive
        first | exact past.elim | exact alive.elim
  · cases pc <;> simp [catchUSR2, waited, SIGRTMIN, SIGRTMAX]

/-- When SIGUSR2 finds every child in its `pause()`, no child sleeps through it: a child
that was permitted is at its last `sem_wait` or further, and takes its next step as soon
as `flag` is free. -/
theorem no_sleeper (N : Nat) (K : Int) {state : State N}
    (reachable : (system N K).ReachableUnder DeliveredInPause state) (self : Fin N) :
    ¬ (state.child self).Sleeps ∧
      (0 < (state.child self).delivered →
        (state.child self).pc.PastPause ∧
          ((state.child self).pc.Alive → 0 < state.flag →
            (system N K).Enabled state (.child self SIGRTMIN))) := by
  have awake := awake reachable self
  refine ⟨awake.not_sleeps, ?_⟩
  intro delivered
  exact ⟨awake delivered, fun alive free => goesOn (awake delivered) alive free⟩

def onlyChild : Fin 1 := ⟨0, Nat.one_pos⟩

/-- The child requests work, and the parent allows it. -/
def permits : List (Action 1) :=
  [.child onlyChild 0, .child onlyChild 0, .interruptParent .usr1] ++
    List.replicate 6 (.parent none)

/-- `catchUSR2` from its first statement to its last. -/
def answers : List (Action 1) :=
  .interruptChild onlyChild :: List.replicate 4 (.child onlyChild SIGRTMIN)

/-- The child is in `pause()` when SIGUSR2 is delivered. -/
def woken : State 1 :=
  (system 1 1).after (permits ++ [.child onlyChild 0] ++ answers) rfl

theorem no_sleeper_woken :
    0 < (woken.child onlyChild).delivered ∧ ¬ (woken.child onlyChild).Sleeps :=
  ⟨by decide, (no_sleeper 1 1
    (TransitionSystem.after_reachableUnder _ _ rfl (by decide +kernel)) onlyChild).1⟩

/-- SIGUSR2 is delivered between the request and `pause()`. -/
def sleeper : State 1 :=
  (system 1 1).after (permits ++ answers ++ [.child onlyChild 0]) rfl

theorem sleeps_through : (system 1 1).Reachable sleeper ∧ (sleeper.child onlyChild).Sleeps :=
  ⟨(system 1 1).after_reachable _ rfl, by decide, rfl, rfl⟩

end OsExercises.WorkRequests
