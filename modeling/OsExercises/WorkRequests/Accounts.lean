import Mathlib.Order.Interval.Finset.Nat
import OsExercises.WorkRequests.Token

/-! # Answers and exits

Every real-time signal that a child has sent is queued, about to be counted, or counted. Every
child that has exited and has not been waited for is announced by a SIGCHLD that is pending, or
that `catchSIGCHLD` has taken before its `wait`. -/

namespace OsExercises.WorkRequests

open OsExercises

variable {N : Nat} {K : Int} {state following : State N}

/-! ## Accounts -/

def CatchUSR2Pc.answered : CatchUSR2Pc → Nat
  | .wait | .queue => 0
  | .post | .done => 1

/-- Whether the child has sent its real-time signal. -/
def Child.answered (child : Child) : Nat :=
  if child.delivered = 0 then 0 else child.handler.elim 1 CatchUSR2Pc.answered

/-- Whether the child has exited and was not waited for. -/
def Child.exited (child : Child) : Nat :=
  if child.pc = .zombie then 1 else 0

def HandlerPc.counting : HandlerPc N → Nat
  | .countWork => 1
  | _ => 0

def HandlerPc.reaping : HandlerPc N → Nat
  | .waitChild => 1
  | _ => 0

/-- How many real-time signals are queued. -/
def Parent.queued (parent : Parent N) : Nat :=
  ∑ number ∈ Finset.Ico SIGRTMIN SIGRTMAX, parent.realTime number

def Parent.answers (parent : Parent N) : Nat :=
  parent.n + parent.queued + parent.handlers.weight HandlerPc.counting

def Parent.exits (parent : Parent N) : Nat :=
  parent.sigchld.instances + parent.handlers.weight HandlerPc.reaping

/-- The statement is one of the handler of the signal. -/
def HandlerPc.Belongs : Signal → HandlerPc N → Prop
  | .usr1, pc => pc ≠ .countWork ∧ pc ≠ .waitChild
  | .realTime _, pc => pc = .countWork ∨ pc = .done
  | .child, pc => pc = .waitChild ∨ pc = .post ∨ pc = .done

/-- `catchUSR2` runs for a signal that was delivered after the request and before the exit. -/
def Child.Entered (child : Child) : Prop :=
  child.handler ≠ none → 0 < child.delivered ∧ (child.pc = .pause ∨ child.pc = .waitExit)

theorem Child.entered_idle {child : Child} (idle : child.handler = none) : child.Entered :=
  fun handling => absurd idle handling

structure Accounts (state : State N) : Prop where
  belongs : state.parent.handlers.All HandlerPc.Belongs
  inRange : ∀ number, number ∉ Finset.Ico SIGRTMIN SIGRTMAX → state.parent.realTime number = 0
  entered : ∀ self, (state.child self).Entered
  answers : state.parent.answers = total Child.answered state.child
  exits : total Child.exited state.child = state.parent.exits

/-- The queue of one real-time signal changes. -/
theorem queued_update (parent : Parent N) {number : Nat} (queued : Nat)
    (inRange : number ∈ Finset.Ico SIGRTMIN SIGRTMAX) :
    ∑ other ∈ Finset.Ico SIGRTMIN SIGRTMAX,
        Function.update parent.realTime number queued other + parent.realTime number =
      parent.queued + queued := by
  rw [Finset.sum_update_of_mem inRange, Parent.queued,
    Finset.sum_eq_add_sum_sdiff_singleton_of_mem inRange]
  omega

/-- SIGUSR2 finds the child after its request and before the end of its `pause()`. -/
theorem Served.resumes {parent : Parent N} {self : Fin N} {child : Child}
    (served : Served K parent self child) (sent : child.usr2.sender = some ()) :
    child.pc.resumed = .pause ∨ child.pc.resumed = .waitExit := by
  have permitted := served.permitted_le
  have delivered := served.delivered
  have resumed := served.resumed
  rw [StandardSignal.instances_eq_one sent] at delivered
  cases pc : child.pc with
  | pause => exact .inl rfl
  | paused => exact .inr rfl
  | waitRequest | sendRequest =>
      simp only [pc, ChildPc.requests] at permitted
      omega
  | waitExit | exit | zombie | reaped =>
      simp only [pc, ChildPc.requests, ChildPc.PastPause, forall_const] at permitted resumed
      omega

namespace Accounts

theorem initial : Accounts (initial N) where
  belongs := HandlerStack.all_empty
  inRange _ _ := rfl
  entered _ := Child.entered_idle rfl
  answers := by
    simp [WorkRequests.initial, Parent.answers, Parent.queued, total, Child.answered]
  exits := by
    simp [WorkRequests.initial, Parent.exits, total, Child.exited]

/-- The parent and one child move. -/
theorem move (accounts : Accounts state) (self : Fin N) (flag : Nat) {parent : Parent N}
    {child : Child} (belongs : parent.handlers.All HandlerPc.Belongs)
    (inRange : ∀ number, number ∉ Finset.Ico SIGRTMIN SIGRTMAX → parent.realTime number = 0)
    (entered : child.Entered)
    (answers : parent.answers + (state.child self).answered =
      state.parent.answers + child.answered)
    (exits : state.parent.exits + child.exited = parent.exits + (state.child self).exited) :
    Accounts (((state.setFlag flag).setParent parent).setChild self child) where
  belongs := belongs
  inRange := inRange
  entered :=
    (Function.forall_update_iff state.child fun _ child => child.Entered).mpr
      ⟨entered, fun other _ => accounts.entered other⟩
  answers := by
    have before := accounts.answers
    have moved := total_update Child.answered state.child self child
    simp only [State.setChild_child, State.setChild_parent, State.setParent_parent] at moved ⊢
    change parent.answers = total Child.answered (Function.update state.child self child)
    omega
  exits := by
    have before := accounts.exits
    have moved := total_update Child.exited state.child self child
    simp only [State.setChild_parent, State.setParent_parent]
    change total Child.exited (Function.update state.child self child) = parent.exits
    omega

/-- The parent moves alone. -/
theorem moveParent (accounts : Accounts state) (flag : Nat) {parent : Parent N}
    (belongs : parent.handlers.All HandlerPc.Belongs)
    (inRange : ∀ number, number ∉ Finset.Ico SIGRTMIN SIGRTMAX → parent.realTime number = 0)
    (answers : parent.answers = state.parent.answers)
    (exits : parent.exits = state.parent.exits) :
    Accounts ((state.setFlag flag).setParent parent) where
  belongs := belongs
  inRange := inRange
  entered := accounts.entered
  answers := answers.trans accounts.answers
  exits := accounts.exits.trans exits.symm

/-- A child moves alone. -/
theorem moveChild (accounts : Accounts state) (self : Fin N) (flag : Nat) {child : Child}
    (entered : child.Entered)
    (answers : child.answered = (state.child self).answered)
    (exits : child.exited = (state.child self).exited) :
    Accounts ((state.setFlag flag).setChild self child) :=
  accounts.move self flag accounts.belongs accounts.inRange entered (by rw [answers])
    (by rw [exits])

theorem killChild (accounts : Accounts state) (cpid : Fin N) : Accounts (state.killChild cpid) :=
  accounts.moveChild cpid state.flag (accounts.entered cpid) rfl rfl

/-- The running handler goes on, and counts or reaps neither before nor after. -/
theorem goOn (accounts : Accounts state) {flag : Nat} {signal : Signal} {pc next : HandlerPc N}
    {parent : Parent N} (running : state.parent.handlers.running = some (signal, pc))
    (handlers : parent.handlers = state.parent.handlers.move next) (n : parent.n = state.parent.n)
    (realTime : parent.realTime = state.parent.realTime)
    (sigchld : parent.sigchld = state.parent.sigchld) (belongs : next.Belongs signal)
    (counting : next.counting = pc.counting) (reaping : next.reaping = pc.reaping) :
    Accounts ((state.setFlag flag).setParent parent) := by
  have counted := HandlerStack.weight_move HandlerPc.counting running next
  have reaped := HandlerStack.weight_move HandlerPc.reaping running next
  refine accounts.moveParent flag ?_ ?_ ?_ ?_
  · rw [handlers]
    exact accounts.belongs.move running belongs
  · rw [realTime]
    exact accounts.inRange
  · simp only [Parent.answers, Parent.queued, handlers, n, realTime]
    omega
  · simp only [Parent.exits, handlers, sigchld]
    omega

/-- The handler returns. -/
theorem leave (accounts : Accounts state) {signal : Signal}
    (running : state.parent.handlers.running = some (signal, .done)) :
    Accounts (state.setParent { state.parent with handlers := state.parent.handlers.leave }) := by
  have counted := HandlerStack.weight_leave HandlerPc.counting running
  have reaped := HandlerStack.weight_leave HandlerPc.reaping running
  refine accounts.moveParent state.flag accounts.belongs.leave accounts.inRange ?_ ?_
  · simpa [Parent.answers, Parent.queued, HandlerPc.counting] using counted
  · simpa [Parent.exits, HandlerPc.reaping] using reaped

/-- What is queued is one of the real-time signals. -/
theorem known (accounts : Accounts state) {number : Nat}
    (pending : 0 < state.parent.realTime number) : number ∈ Finset.Ico SIGRTMIN SIGRTMAX := by
  by_contra outside
  rw [accounts.inRange number outside] at pending
  exact Nat.lt_irrefl 0 pending

/-! ## Steps of the parent -/

theorem requestStep (accounts : Accounts state) (step : RequestStep K state following) :
    Accounts following := by
  cases step with
  | record running _ _ | count running | late running | last running | early running
  | bulkDone running | post running =>
      exact accounts.goOn running rfl rfl rfl rfl (by simp [HandlerPc.Belongs]) rfl rfl
  | allow running =>
      have moved : Accounts (state.setParent (state.parent.move .post)) :=
        accounts.goOn running rfl rfl rfl rfl (by simp [HandlerPc.Belongs]) rfl rfl
      exact moved.killChild _
  | @allowBulk l _ running =>
      have moved : Accounts (state.setParent (state.parent.move (.allowBulk (l + 1)))) :=
        accounts.goOn running rfl rfl rfl rfl (by simp [HandlerPc.Belongs]) rfl rfl
      exact moved.killChild _
  | leave running => exact accounts.leave running

theorem workStep (accounts : Accounts state) (step : WorkStep state following) :
    Accounts following := by
  cases step with
  | main => exact accounts.moveParent _ accounts.belongs accounts.inRange rfl rfl
  | @countWork number running =>
      have counted := HandlerStack.weight_move HandlerPc.counting running .done
      have reaped := HandlerStack.weight_move HandlerPc.reaping running .done
      refine accounts.moveParent state.flag (accounts.belongs.move running (.inr rfl))
        accounts.inRange ?_ ?_
      · simp only [HandlerPc.counting] at counted
        simp only [Parent.answers, Parent.queued, Parent.move]
        omega
      · simp only [HandlerPc.reaping] at reaped
        simp only [Parent.exits, Parent.move]
        omega
  | leave running => exact accounts.leave running

/-- `catchSIGCHLD` finds a child that has exited. -/
theorem catchSIGCHLD {reaped : Option (Fin N)} {pc : HandlerPc N} (accounts : Accounts state)
    (running : state.parent.handlers.running = some (.child, pc))
    (taken : catchSIGCHLD state reaped pc = some following) : Accounts following := by
  cases pc with
  | waitChild =>
      have counted := HandlerStack.weight_move HandlerPc.counting running .post
      have waited := HandlerStack.weight_move HandlerPc.reaping running .post
      have exits := accounts.exits
      simp only [HandlerPc.counting] at counted
      simp only [HandlerPc.reaping] at waited
      cases reaped with
      | some cpid =>
          simp only [WorkRequests.catchSIGCHLD, Option.ite_none_right_eq_some] at taken
          rcases taken with ⟨zombie, same⟩
          cases same
          refine accounts.move cpid state.flag ?_ accounts.inRange ?_ ?_ ?_
          · exact accounts.belongs.move running (.inr (.inl rfl))
          · intro handling
            have entered := accounts.entered cpid handling
            simp [zombie] at entered
          · simp only [Parent.answers, Parent.queued, Parent.move, Child.answered]
            omega
          · simp only [Parent.exits, Parent.move, Child.exited, zombie, if_true, reduceCtorEq,
              if_false]
            omega
      | none =>
          -- there is one: it has been announced
          simp only [WorkRequests.catchSIGCHLD, Option.ite_none_right_eq_some] at taken
          have nobody : total Child.exited state.child = 0 := by
            refine Finset.sum_eq_zero fun cpid _ => ?_
            rw [Child.exited, if_neg (taken.1 cpid)]
          rw [nobody, Parent.exits] at exits
          omega
  | post =>
      cases taken
      exact accounts.goOn running rfl rfl rfl rfl (by simp [HandlerPc.Belongs]) rfl rfl
  | done =>
      cases taken
      exact accounts.leave running
  | record | count | test | allow | allowBulk | countWork => cases taken

theorem parentStep {reaped : Option (Fin N)} (accounts : Accounts state)
    (taken : parentStep K state reaped = some following) : Accounts following := by
  simp only [WorkRequests.parentStep] at taken
  split at taken
  · next pc running => exact accounts.requestStep (catchUSR1_cases running taken)
  · next number pc running => exact accounts.workStep (catchSIGRT_cases running taken)
  · next pc running => exact accounts.catchSIGCHLD running taken
  · next idle => exact accounts.workStep (parentMain_cases idle taken)

/-- A signal starts a handler, and is not queued any more. -/
theorem interruptParent {signal : Signal} (accounts : Accounts state)
    (taken : interruptParent state signal = some following) : Accounts following := by
  simp only [WorkRequests.interruptParent] at taken
  split at taken
  · next unblocked =>
      rcases Option.map_eq_some_iff.mp taken with ⟨⟨entry, parent⟩, delivered, same⟩
      cases same
      cases signal with
      | usr1 =>
          rcases Option.map_eq_some_iff.mp delivered with ⟨cpid, sent, same⟩
          cases same
          refine accounts.moveParent state.flag
            (accounts.belongs.enter unblocked (by simp [HandlerPc.Belongs])) accounts.inRange ?_ ?_
          · simp [Parent.answers, Parent.queued, HandlerPc.counting]
          · simp [Parent.exits, HandlerPc.reaping]
      | realTime number =>
          simp only [Parent.take, Option.ite_none_right_eq_some] at delivered
          rcases delivered with ⟨pending, same⟩
          cases same
          have known := accounts.known pending
          have fewer := queued_update state.parent (state.parent.realTime number - 1)
            known
          refine accounts.moveParent state.flag
            (accounts.belongs.enter unblocked (.inl rfl)) ?_ ?_ ?_
          · intro other outside
            have different : other ≠ number := fun same => outside (same ▸ known)
            exact (Function.update_of_ne different ..).trans (accounts.inRange other outside)
          · simp only [Parent.answers, Parent.queued, HandlerStack.weight_enter,
              HandlerPc.counting] at fewer ⊢
            omega
          · simp [Parent.exits, HandlerPc.reaping]
      | child =>
          rcases Option.map_eq_some_iff.mp delivered with ⟨cpid, sent, same⟩
          cases same
          have pending := StandardSignal.instances_eq_one sent
          refine accounts.moveParent state.flag
            (accounts.belongs.enter unblocked (.inl rfl)) accounts.inRange ?_ ?_
          · simp [Parent.answers, Parent.queued, HandlerPc.counting]
          · simp [Parent.exits, HandlerPc.reaping, pending]
  · cases taken

/-! ## Steps of a child -/

theorem childMain {self : Fin N} (accounts : Accounts state) (token : Token state)
    (step : ChildStep state self following) : Accounts following := by
  cases step with
  | waitRequest idle pc | pause idle pc | waitExit idle pc =>
      exact accounts.moveChild self _ (Child.entered_idle idle) rfl (by simp [Child.exited, pc])
  | sendRequest idle pc =>
      exact accounts.move self state.flag accounts.belongs accounts.inRange
        (Child.entered_idle idle) rfl (by simp [Child.exited, pc, Parent.exits])
  | exit idle pc =>
      have holds : 0 < (state.child self).holds := by simp [Child.holds, pc, ChildPc.holds]
      have nothing := (token.nothing_pending holds).2
      have none := StandardSignal.instances_eq_zero.mpr nothing
      have one : (state.parent.sigchld.post self).instances = 1 :=
        StandardSignal.instances_posted
      refine accounts.move self state.flag accounts.belongs accounts.inRange
        (Child.entered_idle idle) rfl ?_
      simp only [Child.exited, pc, Parent.exits, one, none, if_true, reduceCtorEq, if_false]
      omega

theorem catchUSR2 {self : Fin N} {newSig : Nat} {pc : CatchUSR2Pc} (accounts : Accounts state)
    (handling : (state.child self).handler = some pc)
    (taken : catchUSR2 state self newSig pc = some following) : Accounts following := by
  have entered := accounts.entered self (by rw [handling]; nofun)
  have notYet : (state.child self).delivered ≠ 0 := Nat.ne_of_gt entered.1
  cases pc with
  | wait =>
      simp only [WorkRequests.catchUSR2, Option.map_eq_some_iff] at taken
      rcases taken with ⟨flag, _, rfl⟩
      exact accounts.moveChild self _ (fun _ => entered)
        (by simp [Child.answered, handling, CatchUSR2Pc.answered]) rfl
  | queue =>
      simp only [WorkRequests.catchUSR2, Option.ite_none_right_eq_some] at taken
      rcases taken with ⟨known, same⟩
      cases same
      have inRange : newSig ∈ Finset.Ico SIGRTMIN SIGRTMAX := Finset.mem_Ico.mpr known
      have more := queued_update state.parent (state.parent.realTime newSig + 1) inRange
      refine accounts.move self state.flag accounts.belongs ?_ (fun _ => entered) ?_ rfl
      · intro other outside
        have different : other ≠ newSig := fun same => outside (same ▸ inRange)
        exact (Function.update_of_ne different ..).trans (accounts.inRange other outside)
      · simp only [Parent.answers, Parent.queued, Child.answered, handling, notYet, if_false,
          Option.elim_some, CatchUSR2Pc.answered] at more ⊢
        omega
  | post =>
      cases taken
      exact accounts.moveChild self _ (fun _ => entered)
        (by simp [Child.answered, handling, CatchUSR2Pc.answered]) rfl
  | done =>
      cases taken
      exact accounts.moveChild self state.flag (Child.entered_idle rfl)
        (by simp [Child.answered, handling, CatchUSR2Pc.answered]) rfl

theorem interruptChild {self : Fin N} (accounts : Accounts state)
    (permissions : Permissions K state) (interruption : ChildInterruption state self following) :
    Accounts following := by
  cases interruption with
  | resumes sent idle =>
      have served := permissions.served self
      have once := served.permitted_le.trans (ChildPc.requests_le _)
      have delivered := served.delivered
      rw [StandardSignal.instances_eq_one sent] at delivered
      have first : (state.child self).delivered = 0 := by omega
      refine accounts.moveChild self state.flag (fun _ => ⟨Nat.succ_pos _, ?_⟩) ?_ ?_
      · exact served.resumes sent
      · simp [Child.answered, Child.deliver, first, CatchUSR2Pc.answered]
      · simp only [Child.exited, Child.deliver]
        cases (state.child self).pc <;> rfl

end Accounts

theorem accounts (reachable : (system N K).Reachable state) : Accounts state := by
  refine reachable.invariant_of Accounts (fun _ => orderly) .initial ?_
  intro current action following known accounts _ taken
  rcases known with ⟨token, permissions⟩
  cases action with
  | parent reaped => exact accounts.parentStep taken
  | interruptParent signal => exact accounts.interruptParent taken
  | child self newSig =>
      change childStep current self newSig = some following at taken
      simp only [childStep] at taken
      split at taken
      · next pc handling => exact accounts.catchUSR2 handling taken
      · next idle => exact accounts.childMain token (childMain_cases idle taken)
  | interruptChild self => exact accounts.interruptChild permissions (interruptChild_cases taken)
  | interruptWait self =>
      rcases interruptWait_cases taken with ⟨sent, waits⟩
      exact ((permissions.served self).uninterrupted sent waits).elim

end OsExercises.WorkRequests
