import OsExercises.WorkRequests.Permissions

/-! # The token

The unit of `flag` is passed on: a child takes it to send its request or to exit, a
signal brings it to the parent, and the handler there gives it back. It is never lost
and there is never a second one, so that no signal to the parent is merged. -/

namespace OsExercises.WorkRequests

open OsExercises

variable {N : Nat} {K : Int} {state following : State N}

/-! ## Who holds -/

@[simp] theorem State.holds_setFlag (flag : Nat) : (state.setFlag flag).holds = state.holds := rfl

theorem State.holds_setChild (self : Fin N) (child : Child) :
    (state.setChild self child).holds + (state.child self).holds = state.holds + child.holds := by
  have moved := total_update Child.holds state.child self child
  simp only [State.holds, State.setChild]
  omega

/-- A permission that is sent holds nothing yet. -/
theorem State.holds_killChild (cpid : Fin N) : (state.killChild cpid).holds = state.holds :=
  Nat.add_right_cancel (State.holds_setChild cpid _)

/-- The handlers that give the unit back. -/
def Signal.PassesHold : Signal → Prop
  | .usr1 | .child => True
  | .realTime _ => False

theorem Signal.PassesHold.ne_realTime {signal : Signal} {number : Nat}
    (passes : signal.PassesHold) : signal ≠ .realTime number := by
  intro same
  rw [same] at passes
  exact passes

/-- A handler that passes a hold on goes from one statement to the next. -/
theorem Parent.holds_handler {parent following : Parent N} {signal : Signal}
    {pc next : Option (HandlerPc N)} (passes : signal.PassesHold)
    (usr1 : following.usr1 = parent.usr1) (sigchld : following.sigchld = parent.sigchld)
    (before : parent.handlers.pcOf signal = pc)
    (after : ∀ other, following.handlers.pcOf other =
      if other = signal then next else parent.handlers.pcOf other) :
    following.holds + pc.elim 0 HandlerPc.holds = parent.holds + next.elim 0 HandlerPc.holds := by
  simp only [Parent.holds, usr1, sigchld, after]
  cases signal with
  | usr1 =>
      simp only [before, if_true, reduceCtorEq, if_false]
      omega
  | child =>
      simp only [before, if_true, reduceCtorEq, if_false]
      omega
  | realTime => exact passes.elim

/-- The handlers of the real-time signals hold nothing. -/
theorem Parent.holds_elsewhere {parent following : Parent N}
    (usr1 : following.usr1 = parent.usr1) (sigchld : following.sigchld = parent.sigchld)
    (same : ∀ signal : Signal, signal.PassesHold →
      following.handlers.pcOf signal = parent.handlers.pcOf signal) :
    following.holds = parent.holds := by
  rw [Parent.holds, Parent.holds, usr1, sigchld, same .usr1 trivial, same .child trivial]

/-- There is one unit, and nothing the parent was sent has been merged. -/
structure Token (state : State N) : Prop where
  one : state.flag + state.holds = 1
  requestsKept : state.parent.usr1.merged = 0
  exitsKept : state.parent.sigchld.merged = 0

namespace Token

theorem initial : Token (initial N) where
  one := by
    have nobody : total Child.holds (WorkRequests.initial N).child = 0 :=
      Finset.sum_eq_zero fun _ _ => rfl
    rw [State.holds, nobody]
    rfl
  requestsKept := rfl
  exitsKept := rfl

/-- While a child holds the unit, nothing is pending for the parent. -/
theorem nothing_pending (token : Token state) {self : Fin N}
    (holds : 0 < (state.child self).holds) :
    state.parent.usr1.sender = none ∧ state.parent.sigchld.sender = none := by
  have one := token.one
  have share := le_total Child.holds state.child self
  simp only [State.holds, Parent.holds] at one
  constructor <;> apply StandardSignal.instances_eq_zero.mp <;> omega

/-! ## Steps of a child -/

/-- A child moves, and what it gives or takes it takes from the others or gives to them. -/
theorem moveChild (token : Token state) (self : Fin N) {flag : Nat} {parent : Parent N}
    {child : Child} (requestsKept : parent.usr1.merged = 0)
    (exitsKept : parent.sigchld.merged = 0)
    (balance : flag + parent.holds + child.holds =
      state.flag + state.parent.holds + (state.child self).holds) :
    Token (((state.setFlag flag).setParent parent).setChild self child) where
  one := by
    have one := token.one
    have moved := total_update Child.holds state.child self child
    simp only [State.holds, State.setChild, State.setParent, State.setFlag] at one ⊢
    omega
  requestsKept := requestsKept
  exitsKept := exitsKept

theorem childStep {self : Fin N} (token : Token state) (step : ChildStep state self following) :
    Token following := by
  cases step with
  | waitRequest idle pc free | waitExit idle pc free =>
      refine token.moveChild self token.requestsKept token.exitsKept ?_
      simp only [Child.holds, idle, pc, free, ChildPc.holds, Option.elim]
      omega
  | pause idle pc =>
      refine token.moveChild self token.requestsKept token.exitsKept ?_
      simp only [Child.holds, pc, ChildPc.holds]
  | sendRequest idle pc =>
      have holds : (state.child self).holds = 1 := by simp [Child.holds, idle, pc, ChildPc.holds]
      have nothing := (token.nothing_pending (holds ▸ Nat.one_pos)).1
      have before := StandardSignal.instances_eq_zero.mpr nothing
      refine token.moveChild self
        ((StandardSignal.merged_post nothing).trans token.requestsKept) token.exitsKept ?_
      rw [holds]
      simp only [Parent.holds, Child.holds, idle, before, ChildPc.holds,
        StandardSignal.instances_post nothing, Option.elim]
      omega
  | exit idle pc =>
      have holds : (state.child self).holds = 1 := by simp [Child.holds, idle, pc, ChildPc.holds]
      have nothing := (token.nothing_pending (holds ▸ Nat.one_pos)).2
      have before := StandardSignal.instances_eq_zero.mpr nothing
      refine token.moveChild self token.requestsKept
        ((StandardSignal.merged_post nothing).trans token.exitsKept) ?_
      rw [holds]
      simp only [Parent.holds, Child.holds, idle, before, ChildPc.holds,
        StandardSignal.instances_post nothing, Option.elim]
      omega

theorem answerStep {self : Fin N} (token : Token state)
    (step : AnswerStep state self following) : Token following := by
  cases step with
  | wait handler free =>
      refine token.moveChild self token.requestsKept token.exitsKept ?_
      simp only [Child.holds, handler, free, CatchUSR2Pc.holds, Option.elim]
      omega
  | queue handler | leave handler =>
      refine token.moveChild self token.requestsKept token.exitsKept ?_
      simp [Child.holds, handler, CatchUSR2Pc.holds, Parent.holds]
  | post handler =>
      refine token.moveChild self token.requestsKept token.exitsKept ?_
      simp only [Child.holds, handler, CatchUSR2Pc.holds, Option.elim]
      omega

theorem interruptChild {self : Fin N} (token : Token state)
    (interruption : ChildInterruption state self following) : Token following := by
  cases interruption with
  | resumes sent idle =>
      refine token.moveChild self token.requestsKept token.exitsKept ?_
      simp only [Child.holds, Child.deliver, idle, CatchUSR2Pc.holds, Option.elim]
      cases (state.child self).pc <;> rfl

/-! ## Steps of the parent -/

theorem moveParent (token : Token state) {flag : Nat} {parent : Parent N}
    (requestsKept : parent.usr1.merged = 0) (exitsKept : parent.sigchld.merged = 0)
    (balance : flag + parent.holds = state.flag + state.parent.holds) :
    Token ((state.setFlag flag).setParent parent) where
  one := by
    have one := token.one
    simp only [State.holds, State.setParent, State.setFlag] at one ⊢
    omega
  requestsKept := requestsKept
  exitsKept := exitsKept

/-- A handler goes to a statement with as many holds, or gives one back. -/
theorem moveHandler (token : Token state) {flag : Nat} {parent : Parent N} {signal : Signal}
    {pc : HandlerPc N} {next : Option (HandlerPc N)}
    (running : state.parent.handlers.running = some (signal, pc)) (passes : signal.PassesHold)
    (usr1 : parent.usr1 = state.parent.usr1) (sigchld : parent.sigchld = state.parent.sigchld)
    (after : ∀ other, parent.handlers.pcOf other =
      if other = signal then next else state.parent.handlers.pcOf other)
    (balance : flag + next.elim 0 HandlerPc.holds = state.flag + pc.holds) :
    Token ((state.setFlag flag).setParent parent) := by
  refine token.moveParent ?_ ?_ ?_
  · rw [usr1]
    exact token.requestsKept
  · rw [sigchld]
    exact token.exitsKept
  · have moved := Parent.holds_handler passes usr1 sigchld (HandlerStack.pcOf_running running) after
    simp only [Option.elim] at moved balance
    omega

/-- A permission is sent. -/
theorem kill (token : Token state) (cpid : Fin N) : Token (state.killChild cpid) where
  one := by
    rw [State.holds_killChild]
    exact token.one
  requestsKept := token.requestsKept
  exitsKept := token.exitsKept

theorem requestStep (token : Token state) (step : RequestStep K state following) :
    Token following := by
  cases step with
  | record running | count running | late running | last running | early running
    | bulkDone running | post running =>
      exact token.moveHandler running trivial rfl rfl
        (fun _ => HandlerStack.pcOf_move running _) rfl
  | allow running | allowBulk running =>
      refine kill ?_ _
      exact token.moveHandler running trivial rfl rfl
        (fun _ => HandlerStack.pcOf_move running _) rfl
  | leave running =>
      exact token.moveHandler running trivial rfl rfl
        (fun _ => HandlerStack.pcOf_leave running) rfl

theorem reapStep (token : Token state) (step : ReapStep state following) : Token following := by
  cases step with
  | @reap cpid running zombie =>
      have moved : Token (state.setParent (state.parent.move .post)) :=
        token.moveHandler running trivial rfl rfl
          (fun _ => HandlerStack.pcOf_move running _) rfl
      refine moved.moveChild cpid moved.requestsKept moved.exitsKept ?_
      simp [Child.holds, zombie, ChildPc.holds]
  | fail running | post running =>
      exact token.moveHandler running trivial rfl rfl
        (fun _ => HandlerStack.pcOf_move running _) rfl
  | leave running =>
      exact token.moveHandler running trivial rfl rfl
        (fun _ => HandlerStack.pcOf_leave running) rfl

/-- The parent does what concerns no hold. -/
theorem moveElsewhere (token : Token state) {parent : Parent N}
    (usr1 : parent.usr1 = state.parent.usr1) (sigchld : parent.sigchld = state.parent.sigchld)
    (same : ∀ signal : Signal, signal.PassesHold →
      parent.handlers.pcOf signal = state.parent.handlers.pcOf signal) :
    Token (state.setParent parent) := by
  refine token.moveParent ?_ ?_ ?_
  · rw [usr1]
    exact token.requestsKept
  · rw [sigchld]
    exact token.exitsKept
  · rw [Parent.holds_elsewhere usr1 sigchld same]

theorem workStep (token : Token state) (step : WorkStep state following) : Token following := by
  cases step with
  | main => exact token.moveElsewhere rfl rfl fun _ _ => rfl
  | countWork running =>
      refine token.moveElsewhere rfl rfl fun signal passes => ?_
      exact (HandlerStack.pcOf_move running _).trans (if_neg passes.ne_realTime)
  | leave running =>
      refine token.moveElsewhere rfl rfl fun signal passes => ?_
      exact (HandlerStack.pcOf_leave running).trans (if_neg passes.ne_realTime)

theorem interruptParent (token : Token state)
    (interruption : ParentInterruption state following) : Token following := by
  cases interruption with
  | request unblocked sent entered =>
      refine token.moveParent token.requestsKept token.exitsKept ?_
      have pending := StandardSignal.instances_eq_one sent
      simp [Parent.holds, entered, unblocked, pending, HandlerPc.holds]
      omega
  | work entered =>
      refine token.moveElsewhere rfl rfl fun signal passes => ?_
      exact (entered signal).trans (if_neg passes.ne_realTime)
  | exited unblocked sent entered =>
      refine token.moveParent token.requestsKept token.exitsKept ?_
      have pending := StandardSignal.instances_eq_one sent
      simp [Parent.holds, entered, unblocked, pending, HandlerPc.holds]
      omega

end Token

/-! ## Every run -/

/-- The token and the accounts of the requests need each other: a child in a `sem_wait`
keeps waiting because it is sent no signal, and no request is lost because there is one
token. -/
theorem orderly (reachable : (system N K).Reachable state) :
    Token state ∧ Permissions K state := by
  refine reachable.invariant (fun state => Token state ∧ Permissions K state)
    ⟨.initial, .initial⟩ ?_
  intro current action following known _ taken
  rcases known with ⟨token, permissions⟩
  cases action with
  | parent reaped =>
      cases parentStep_cases taken with
      | request step => exact ⟨token.requestStep step, permissions.requestStep step⟩
      | work step => exact ⟨token.workStep step, permissions.workStep step⟩
      | reap step => exact ⟨token.reapStep step, permissions.reapStep step⟩
  | interruptParent signal =>
      have interruption := interruptParent_cases taken
      exact ⟨token.interruptParent interruption, permissions.interruptParent interruption⟩
  | child self newSig =>
      rcases childStep_cases taken with step | step
      · refine ⟨token.childStep step, permissions.childStep ?_ step⟩
        intro pc
        have holds : 0 < (current.child self).holds := by simp [Child.holds, pc, ChildPc.holds]
        exact (token.nothing_pending holds).1
      · exact ⟨token.answerStep step, permissions.answerStep step⟩
  | interruptChild self =>
      have interruption := interruptChild_cases taken
      exact ⟨token.interruptChild interruption, permissions.interruptChild interruption⟩
  | interruptWait self =>
      rcases interruptWait_cases taken with ⟨sent, waits⟩
      exact ((permissions.served self).uninterrupted sent waits).elim

/-- What is outstanding, what is pending and what has been counted. A second instance of a
pending signal would have been merged. -/
structure Exact (state : State N) : Prop where
  token : state.flag + state.holds = 1
  requestsKept : state.parent.usr1.merged = 0
  exitsKept : state.parent.sigchld.merged = 0
  counted : state.parent.k + state.parent.usr1.instances + state.parent.uncounted =
    state.requests

/-- The requests of all children are those counted, pending and still to be counted. -/
theorem Permissions.counted (permissions : Permissions K state) :
    state.parent.k + state.parent.usr1.instances + state.parent.uncounted = state.requests := by
  have counted : ∑ cpid, state.parent.requesters.count cpid = state.parent.requesters.length := by
    have everyone (cpid : Fin N) (_ : cpid ∈ (state.parent.requesters : Multiset (Fin N))) :
        cpid ∈ Finset.univ := Finset.mem_univ cpid
    simpa using Multiset.sum_count_eq_card everyone
  have pending : ∑ cpid, (if state.parent.usr1.sender = some cpid then 1 else 0) =
      state.parent.usr1.instances := by
    cases sender : state.parent.usr1.sender <;> simp [StandardSignal.instances, sender]
  have uncounted : ∑ cpid, (state.parent.handlers.pcOf .usr1).elim 0
      (HandlerPc.uncountedOf cpid) = state.parent.uncounted := by
    rw [Parent.uncounted]
    rcases state.parent.handlers.pcOf .usr1 with _ | pc
    · simp
    · cases pc <;> simp [HandlerPc.uncountedOf, HandlerPc.uncounted]
  calc state.parent.k + state.parent.usr1.instances + state.parent.uncounted
      _ = ∑ cpid, (state.parent.requesters.count cpid + state.parent.awaiting cpid) := by
        simp only [Parent.awaiting, Finset.sum_add_distrib]
        rw [counted, pending, uncounted, permissions.ordered.counted, Nat.add_assoc]
      _ = state.requests := Finset.sum_congr rfl fun cpid _ => (permissions.served cpid).accounted

/-- In every state before the semaphore is destroyed, its value and the outstanding holds
make one, no signal to the parent has been merged, and `k`, the request that is pending
and the one that `catchUSR1` is about to count are all that have been sent. -/
theorem token_kept {state : State N} (reachable : (system N K).Reachable state) : Exact state := by
  rcases orderly reachable with ⟨token, permissions⟩
  exact
    { token := token.one
      requestsKept := token.requestsKept
      exitsKept := token.exitsKept
      counted := permissions.counted }

/-- The only child has sent its request, and `catchUSR1` has just been entered. -/
def requestTaken : State 1 :=
  (system 1 1).after [.child 0 0, .child 0 0, .interruptParent .usr1] rfl

theorem token_kept_requestTaken : requestTaken.holds = 1 ∧ Exact requestTaken :=
  ⟨by decide +kernel, token_kept ((system 1 1).after_reachable _ rfl)⟩

/-- Between its delivery and `k++` a request is neither pending nor counted. -/
theorem request_taken_uncounted :
    (system 1 1).Reachable requestTaken ∧
      requestTaken.parent.k + requestTaken.parent.usr1.instances ≠ requestTaken.requests :=
  ⟨(system 1 1).after_reachable _ rfl, by decide +kernel⟩

end OsExercises.WorkRequests
