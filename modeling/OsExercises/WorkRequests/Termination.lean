import OsExercises.Foundation.Termination
import OsExercises.WorkRequests.Accounts
import OsExercises.WorkRequests.Releases
import OsExercises.WorkRequests.Wakeups

/-! # How the work ends

Every statement is executed finitely often. What may be left at the end is a process that has
slept through its last signal: a child that handled SIGUSR2 before its `pause()`, or the parent,
where the last signal came between its test and its `pause()`. -/

namespace OsExercises.WorkRequests

open OsExercises

variable {N : Nat} {K : Int} {state following : State N}

/-! ## What is left to do -/

def ChildPc.rank : ChildPc → Nat
  | .waitRequest => 20
  | .sendRequest => 19
  | .pause => 9
  | .paused | .waitExit => 8
  | .exit => 7
  | .zombie | .reaped => 0

def CatchUSR2Pc.rank : CatchUSR2Pc → Nat
  | .wait => 9
  | .queue => 8
  | .post => 2
  | .done => 1

/-- A child that has not been permitted yet will be, once. -/
def Child.rank (child : Child) : Nat :=
  child.pc.rank + if child.permitted = 0 then 11 else
    10 * child.usr2.instances + child.handler.elim 0 CatchUSR2Pc.rank

def HandlerPc.rank : HandlerPc N → Nat
  | .record _ => 6
  | .count _ => 5
  | .test _ => 4
  | .allow _ | .allowBulk _ | .waitChild => 3
  | .countWork | .post => 2
  | .done => 1

def ParentPc.rank : ParentPc → Nat
  | .test => 2
  | .pause => 1
  | .paused | .destroy => 0

/-- A signal that is pending counts the statements of its handler, and those of another round of
`main`. -/
def Parent.rank (parent : Parent N) : Nat :=
  parent.pc.rank + parent.handlers.weight HandlerPc.rank + 9 * parent.usr1.instances +
    6 * parent.sigchld.instances + 5 * parent.queued

def State.rank (state : State N) : Nat :=
  state.parent.rank + total Child.rank state.child

theorem rank_initial (N : Nat) : (initial N).rank = 31 * N + 2 := by
  simp [State.rank, Parent.rank, initial, Parent.queued, total, Child.rank, ChildPc.rank,
    ParentPc.rank]
  omega

/-- A child moves, and the parent has more to do by less. -/
theorem rank_move (flag : Nat) {self : Fin N} {parent : Parent N} {child : Child}
    (lower : parent.rank + child.rank < state.parent.rank + (state.child self).rank) :
    (((state.setFlag flag).setParent parent).setChild self child).rank < state.rank := by
  have moved := total_update Child.rank state.child self child
  simp only [State.rank, State.setChild_parent, State.setParent_parent]
  change parent.rank + total Child.rank (Function.update state.child self child) < _
  omega

theorem rank_moveParent (flag : Nat) {parent : Parent N} (lower : parent.rank < state.parent.rank) :
    ((state.setFlag flag).setParent parent).rank < state.rank :=
  Nat.add_lt_add_right lower _

theorem rank_moveChild (flag : Nat) {self : Fin N} {child : Child}
    (lower : child.rank < (state.child self).rank) :
    ((state.setFlag flag).setChild self child).rank < state.rank :=
  rank_move flag (Nat.add_lt_add_left lower _)

/-! ## Steps of the parent -/

/-- The running handler goes on. -/
theorem rank_goOn {flag : Nat} {signal : Signal} {pc next : HandlerPc N} {parent : Parent N}
    (running : state.parent.handlers.running = some (signal, pc))
    (handlers : parent.handlers = state.parent.handlers.move next)
    (main : parent.pc = state.parent.pc) (usr1 : parent.usr1 = state.parent.usr1)
    (sigchld : parent.sigchld = state.parent.sigchld)
    (realTime : parent.realTime = state.parent.realTime) (lower : next.rank < pc.rank) :
    ((state.setFlag flag).setParent parent).rank < state.rank := by
  have moved := HandlerStack.weight_move HandlerPc.rank running next
  refine rank_moveParent _ ?_
  simp only [Parent.rank, Parent.queued, handlers, main, usr1, sigchld, realTime]
  omega

theorem rank_leave {signal : Signal}
    (running : state.parent.handlers.running = some (signal, .done)) :
    (state.setParent { state.parent with handlers := state.parent.handlers.leave }).rank <
      state.rank := by
  have left := HandlerStack.weight_leave HandlerPc.rank running
  refine rank_moveParent _ ?_
  simp only [Parent.rank, Parent.queued, HandlerPc.rank] at left ⊢
  omega

/-- A child is permitted that was not before. -/
theorem rank_killChild {cpid : Fin N} (accounts : Accounts state)
    (permissions : Permissions K (state.killChild cpid)) :
    (state.killChild cpid).rank < state.rank := by
  have served := permissions.served cpid
  have once := served.permitted_le.trans (ChildPc.requests_le _)
  have delivered := served.delivered
  simp only [State.killChild, State.setChild_child, Function.update_self,
    StandardSignal.instances_posted] at once delivered
  have fresh : (state.child cpid).permitted = 0 := by omega
  have idle : (state.child cpid).handler = none := by
    by_contra handling
    have entered := (accounts.entered cpid handling).1
    omega
  refine rank_moveChild state.flag ?_
  simp [Child.rank, fresh, idle, StandardSignal.instances_posted]

theorem requestStep_rank (accounts : Accounts state) (permissions : Permissions K following)
    (step : RequestStep K state following) : following.rank < state.rank := by
  cases step with
  | record running | count running | late running | last running | early running
  | bulkDone running | post running =>
      exact rank_goOn running rfl rfl rfl rfl rfl (by simp [HandlerPc.rank])
  | @allow cpid running =>
      have moved : Accounts (state.setParent (state.parent.move .post)) :=
        accounts.goOn running rfl rfl rfl rfl (by simp [HandlerPc.Belongs]) rfl rfl
      have lower : (state.setParent (state.parent.move .post)).rank < state.rank :=
        rank_goOn running rfl rfl rfl rfl rfl (by simp [HandlerPc.rank])
      exact (rank_killChild moved permissions).trans lower
  | @allowBulk l cpid running =>
      have moved : Accounts (state.setParent (state.parent.move (.allowBulk (l + 1)))) :=
        accounts.goOn running rfl rfl rfl rfl (by simp [HandlerPc.Belongs]) rfl rfl
      have weight := HandlerStack.weight_move HandlerPc.rank running (.allowBulk (l + 1))
      have same : (state.setParent (state.parent.move (.allowBulk (l + 1)))).rank = state.rank := by
        simp only [State.rank, State.setParent, Parent.rank, Parent.queued, Parent.move,
          HandlerPc.rank] at weight ⊢
        omega
      exact (rank_killChild moved permissions).trans_eq same
  | leave running => exact rank_leave running

theorem catchSIGRT_rank {number : Nat} {pc : HandlerPc N}
    (running : state.parent.handlers.running = some (.realTime number, pc))
    (taken : catchSIGRT state pc = some following) : following.rank < state.rank := by
  cases pc with
  | countWork =>
      cases taken
      exact rank_goOn running rfl rfl rfl rfl rfl (by simp [HandlerPc.rank])
  | done =>
      cases taken
      exact rank_leave running
  | record | count | test | allow | allowBulk | waitChild | post => cases taken

theorem reapStep_rank (step : ReapStep state following) : following.rank < state.rank := by
  cases step with
  | @reap cpid running zombie =>
      have lower : (state.setParent (state.parent.move .post)).rank < state.rank :=
        rank_goOn running rfl rfl rfl rfl rfl (by simp [HandlerPc.rank])
      refine Nat.lt_of_le_of_lt ?_ lower
      have moved := total_update Child.rank state.child cpid
        { state.child cpid with pc := .reaped }
      simp only [Child.rank, zombie, ChildPc.rank] at moved
      simp only [State.rank, State.setChild, State.setParent]
      omega
  | fail running | post running =>
      exact rank_goOn running rfl rfl rfl rfl rfl (by simp [HandlerPc.rank])
  | leave running => exact rank_leave running

theorem parentMain_rank (taken : parentMain state = some following) :
    following.rank < state.rank := by
  cases pc : state.parent.pc with
  | test | pause =>
      simp only [parentMain, pc, Option.some.injEq] at taken
      subst taken
      refine rank_moveParent state.flag ?_
      simp only [Parent.rank, Parent.queued, pc]
      try split
      all_goals simp [ParentPc.rank]
  | paused | destroy =>
      simp only [parentMain, pc] at taken
      cases taken

/-- A handler is entered, and `main` goes on after its `pause()`. -/
theorem interruptParent_rank {signal : Signal} (accounts : Accounts state)
    (taken : interruptParent state signal = some following) : following.rank < state.rank := by
  simp only [interruptParent] at taken
  split at taken
  · next unblocked =>
      rcases Option.map_eq_some_iff.mp taken with ⟨⟨entry, parent⟩, delivered, same⟩
      cases same
      have resumed : state.parent.pc.resumed.rank ≤ state.parent.pc.rank + 2 := by
        cases state.parent.pc <;> decide
      refine rank_moveParent state.flag ?_
      cases signal with
      | usr1 =>
          rcases Option.map_eq_some_iff.mp delivered with ⟨cpid, sent, same⟩
          cases same
          have pending := StandardSignal.instances_eq_one sent
          simp only [Parent.rank, Parent.queued, HandlerStack.weight_enter, HandlerPc.rank,
            StandardSignal.instances_take, pending]
          omega
      | realTime number =>
          simp only [Parent.take, Option.ite_none_right_eq_some] at delivered
          rcases delivered with ⟨pending, same⟩
          cases same
          have fewer := queued_update state.parent (state.parent.realTime number - 1)
            (accounts.known pending)
          simp only [Parent.rank, Parent.queued, HandlerStack.weight_enter, HandlerPc.rank]
            at fewer ⊢
          omega
      | child =>
          rcases Option.map_eq_some_iff.mp delivered with ⟨cpid, sent, same⟩
          cases same
          have pending := StandardSignal.instances_eq_one sent
          simp only [Parent.rank, Parent.queued, HandlerStack.weight_enter, HandlerPc.rank,
            StandardSignal.instances_take, pending]
          omega
  · cases taken

/-! ## Steps of a child -/

theorem childMain_rank {self : Fin N} (step : ChildStep state self following) :
    following.rank < state.rank := by
  cases step with
  | waitRequest _ pc | pause _ pc | waitExit _ pc =>
      refine rank_moveChild _ ?_
      simp [Child.rank, pc, ChildPc.rank]
  | sendRequest _ pc =>
      have pending : (state.parent.usr1.post self).instances = 1 :=
        StandardSignal.instances_posted
      refine rank_move state.flag ?_
      simp only [Parent.rank, Parent.queued, Child.rank, pc, ChildPc.rank]
      omega
  | exit _ pc =>
      have pending : (state.parent.sigchld.post self).instances = 1 :=
        StandardSignal.instances_posted
      refine rank_move state.flag ?_
      simp only [Parent.rank, Parent.queued, Child.rank, pc, ChildPc.rank]
      omega

theorem catchUSR2_rank {self : Fin N} {newSig : Nat} {pc : CatchUSR2Pc} (accounts : Accounts state)
    (permissions : Permissions K state) (handling : (state.child self).handler = some pc)
    (taken : catchUSR2 state self newSig pc = some following) : following.rank < state.rank := by
  have entered := (accounts.entered self (by rw [handling]; nofun)).1
  have delivered := (permissions.served self).delivered
  have permitted : (state.child self).permitted ≠ 0 := by omega
  cases pc with
  | wait =>
      simp only [catchUSR2, Option.map_eq_some_iff] at taken
      rcases taken with ⟨flag, _, rfl⟩
      refine rank_moveChild _ ?_
      simp [Child.rank, handling, permitted, CatchUSR2Pc.rank]
  | queue =>
      simp only [catchUSR2, Option.ite_none_right_eq_some] at taken
      rcases taken with ⟨known, same⟩
      cases same
      have more := queued_update state.parent (state.parent.realTime newSig + 1)
        (Finset.mem_Ico.mpr known)
      refine rank_move state.flag ?_
      simp only [Parent.rank, Parent.queued, Child.rank, handling, permitted, if_false,
        Option.elim_some, CatchUSR2Pc.rank] at more ⊢
      omega
  | post | done =>
      cases taken
      refine rank_moveChild _ ?_
      simp [Child.rank, handling, permitted, CatchUSR2Pc.rank]

theorem interruptChild_rank {self : Fin N} (permissions : Permissions K state)
    (interruption : ChildInterruption state self following) : following.rank < state.rank := by
  cases interruption with
  | resumes sent idle =>
      have pending := StandardSignal.instances_eq_one sent
      have delivered := (permissions.served self).delivered
      have permitted : (state.child self).permitted ≠ 0 := by omega
      have resumed : (state.child self).pc.resumed.rank = (state.child self).pc.rank := by
        cases (state.child self).pc <;> rfl
      refine rank_moveChild state.flag ?_
      simp only [Child.rank, Child.deliver, idle, permitted, pending, resumed, if_false,
        Option.elim_some, Option.elim_none, CatchUSR2Pc.rank, StandardSignal.instances_take]
      omega

/-! ## Every run -/

theorem descends (N : Nat) (K : Int) :
    (system N K).Descends (fun _ _ => True) (fun _ _ => False) State.rank := by
  refine TransitionSystem.Descends.of_lt fun current action following reachable taken => ?_
  have accounts := accounts reachable
  have permissions := (orderly reachable).2
  cases action with
  | parent reaped =>
      have later := (orderly (reachable.step trivial taken)).2
      change parentStep K current reaped = some following at taken
      simp only [parentStep] at taken
      split at taken
      · next running => exact requestStep_rank accounts later (catchUSR1_cases running taken)
      · next running => exact catchSIGRT_rank running taken
      · next running => exact reapStep_rank (catchSIGCHLD_cases running taken)
      · exact parentMain_rank taken
  | interruptParent signal => exact interruptParent_rank accounts taken
  | child self newSig =>
      change childStep current self newSig = some following at taken
      simp only [childStep] at taken
      split at taken
      · next handling => exact catchUSR2_rank accounts permissions handling taken
      · next idle => exact childMain_rank (childMain_cases idle taken)
  | interruptChild self => exact interruptChild_rank permissions (interruptChild_cases taken)
  | interruptWait self =>
      rcases interruptWait_cases taken with ⟨sent, waits⟩
      exact ((permissions.served self).uninterrupted sent waits).elim

end OsExercises.WorkRequests
