import OsExercises.WorkRequests.Releases
import OsExercises.WorkRequests.Termination
import OsExercises.WorkRequests.Wakeups

/-! # Where the work stops

A run can be continued until nothing is pending any more. With K at most N every child has then
been permitted and has answered, so that the parent destroys the semaphore, unless the last signal
came between its test and its `pause()`. With K above N nobody is ever permitted. -/

namespace OsExercises.WorkRequests

open OsExercises

variable {N : Nat} {K : Int} {state following : State N}

/-- No signal is delivered to the parent between its test and its `pause()`. -/
def OutsideWindow (state : State N) : Action N → Prop
  | .interruptParent _ => state.parent.pc ≠ .pause
  | _ => True

/-- Nothing can happen but such a delivery. -/
def Stuck (K : Int) (state : State N) : Prop :=
  (system N K).Halted OutsideWindow (fun _ _ => False) state

section Stuck

variable (stuck : Stuck K state)
include stuck

theorem Stuck.disabled (action : Action N) (allowed : OutsideWindow state action) :
    (system N K).next state action = none :=
  stuck action allowed not_false

/-! ## The parent -/

/-- A handler of the parent that runs goes on. -/
theorem Stuck.idle (belongs : state.parent.handlers.All HandlerPc.Belongs)
    (ordered : Ordered K state.parent) : state.parent.handlers.running = none := by
  rcases running : state.parent.handlers.running with _ | ⟨signal, pc⟩
  · rfl
  · exfalso
    have statement := belongs.running running
    have disabled (reaped : Option (Fin N)) : parentStep K state reaped = none :=
      stuck.disabled (.parent reaped) trivial
    simp only [parentStep, running] at disabled
    cases signal with
    | usr1 =>
        have disabled := disabled none
        cases pc with
        | record | count | test | allow | post | done => cases disabled
        | allowBulk l =>
            simp only [catchUSR1] at disabled
            split at disabled
            · next more =>
                rcases ordered.bulk_filled (HandlerStack.pcOf_running running) more with
                  ⟨cpid, entry⟩
                rw [entry] at disabled
                cases disabled
            · cases disabled
        | countWork => exact statement.1 rfl
        | waitChild => exact statement.2 rfl
    | realTime number =>
        have disabled := disabled none
        rcases statement with rfl | rfl <;> cases disabled
    | child =>
        rcases statement with rfl | rfl | rfl
        · by_cases exited : ∃ cpid, (state.child cpid).pc = .zombie
          · rcases exited with ⟨cpid, zombie⟩
            have disabled := disabled (some cpid)
            simp [catchSIGCHLD, zombie] at disabled
          · have disabled := disabled none
            simp only [catchSIGCHLD] at disabled
            rw [if_pos (not_exists.mp exited)] at disabled
            cases disabled
        · cases disabled none
        · cases disabled none

theorem Stuck.main (idle : state.parent.handlers.running = none) :
    state.parent.pc = .paused ∨ state.parent.pc = .destroy := by
  have disabled : parentStep K state none = none :=
    stuck.disabled (.parent none) trivial
  simp only [parentStep, idle] at disabled
  cases pc : state.parent.pc with
  | paused => exact .inl rfl
  | destroy => exact .inr rfl
  | test | pause =>
      simp only [parentMain, pc] at disabled
      cases disabled

theorem Stuck.take_eq (idle : state.parent.handlers.running = none) (signal : Signal) :
    state.parent.take signal = none := by
  have outside : state.parent.pc ≠ .pause := by
    rcases stuck.main idle with pc | pc <;> simp [pc]
  have disabled : interruptParent state signal = none :=
    stuck.disabled (.interruptParent signal) outside
  have unblocked : ¬ state.parent.handlers.Blocks signal := by
    rw [HandlerStack.blocks_iff, HandlerStack.pcOf_idle idle, not_not]
  simpa [interruptParent, unblocked] using disabled

/-! ## The children -/

/-- A child that holds the unit goes on. -/
theorem Stuck.holds_eq (accounts : Accounts state) (self : Fin N) :
    (state.child self).holds = 0 := by
  have disabled : childStep state self SIGRTMIN = none :=
    stuck.disabled (.child self SIGRTMIN) trivial
  rcases handler : (state.child self).handler with _ | pc
  · simp only [childStep, handler] at disabled
    cases pc : (state.child self).pc with
    | sendRequest | exit =>
        simp only [childMain, pc] at disabled
        cases disabled
    | waitRequest | pause | paused | waitExit | zombie | reaped =>
        simp [Child.holds, handler, pc, ChildPc.holds]
  · have entered := (accounts.entered self (by simp [handler])).2
    simp only [childStep, handler] at disabled
    cases pc with
    | queue | post => cases disabled
    | wait | done =>
        rcases entered with pc | pc <;>
          simp [Child.holds, handler, pc, ChildPc.holds, CatchUSR2Pc.holds]

/-- While `flag` is free, a child that does not wait for a signal goes on. -/
theorem Stuck.child_rests (free : 0 < state.flag) (self : Fin N) :
    (state.child self).handler = none ∧
      ((state.child self).pc = .paused ∨ ¬ (state.child self).pc.Alive) := by
  have disabled : childStep state self SIGRTMIN = none :=
    stuck.disabled (.child self SIGRTMIN) trivial
  have waited : semWait state.flag = some (state.flag - 1) := semWait_eq_some.mpr (by omega)
  rcases handler : (state.child self).handler with _ | pc
  · refine ⟨rfl, ?_⟩
    simp only [childStep, handler] at disabled
    cases pc : (state.child self).pc with
    | paused => exact .inl rfl
    | zombie | reaped => exact .inr not_false
    | waitRequest | sendRequest | pause | waitExit | exit =>
        simp [childMain, pc, waited] at disabled
  · cases pc <;> simp [childStep, handler, catchUSR2, waited, SIGRTMIN, SIGRTMAX] at disabled

theorem Stuck.nothing_sent (self : Fin N) (idle : (state.child self).handler = none)
    (alive : (state.child self).pc.Alive) : (state.child self).usr2.sender = none := by
  have disabled : interruptChild state self = none :=
    stuck.disabled (.interruptChild self) trivial
  by_contra sent
  rcases Option.ne_none_iff_exists'.mp sent with ⟨_, sent⟩
  simp [interruptChild, sent, idle, alive] at disabled

end Stuck

/-! ## What is left in the end -/

/-- Nothing is under way. Every child has requested work, and blocks in `pause()` or has been
waited for. -/
structure AtRest (state : State N) : Prop where
  idle : state.parent.handlers.running = none
  main : state.parent.pc = .paused ∨ state.parent.pc = .destroy
  quiet : ∀ signal, state.parent.take signal = none
  counted : state.parent.k = N
  idleChild : ∀ self, (state.child self).handler = none
  handled : ∀ self, (state.child self).delivered = (state.child self).permitted
  ended : ∀ self, (state.child self).pc = .paused ∨ (state.child self).pc = .reaped
  answers : state.parent.n = total Child.answered state.child

theorem atRest (reachable : (system N K).Reachable state) (stuck : Stuck K state) :
    AtRest state := by
  have accounts := accounts reachable
  rcases orderly reachable with ⟨token, permissions⟩
  have idle := stuck.idle accounts.belongs permissions.ordered
  have quiet := stuck.take_eq idle
  have usr1 : state.parent.usr1.instances = 0 :=
    StandardSignal.instances_eq_zero.mpr (Option.map_eq_none_iff.mp (quiet .usr1))
  have sigchld : state.parent.sigchld.instances = 0 :=
    StandardSignal.instances_eq_zero.mpr (Option.map_eq_none_iff.mp (quiet .child))
  have free : 0 < state.flag := by
    have children : total Child.holds state.child = 0 :=
      Finset.sum_eq_zero fun self _ => stuck.holds_eq accounts self
    have one := token.one
    simp only [State.holds, Parent.holds, usr1, sigchld, HandlerStack.pcOf_idle idle, children,
      Option.elim_none] at one
    omega
  have rests := stuck.child_rests free
  have ended (self : Fin N) :
      (state.child self).pc = .paused ∨ (state.child self).pc = .reaped := by
    have exits := accounts.exits
    have share := le_total Child.exited state.child self
    rw [Parent.exits, sigchld, HandlerStack.weight_idle _ idle] at exits
    rcases (rests self).2 with paused | gone
    · exact .inl paused
    · cases pc : (state.child self).pc with
      | reaped => exact .inr rfl
      | zombie =>
          rw [exits, Child.exited, if_pos pc] at share
          omega
      | waitRequest | sendRequest | pause | paused | waitExit | exit =>
          rw [pc] at gone
          exact absurd trivial gone
  exact
    { idle := idle
      main := stuck.main idle
      quiet := quiet
      counted := by
        have counted := permissions.counted
        have everyone : state.requests = N := by
          have requested (self : Fin N) : (state.child self).pc.requests = 1 := by
            rcases ended self with pc | pc <;> rw [pc] <;> rfl
          simp [State.requests, total, requested]
        rw [usr1, Parent.uncounted, HandlerStack.pcOf_idle idle, everyone] at counted
        exact counted
      idleChild := fun self => (rests self).1
      handled := by
        intro self
        have delivered := (permissions.served self).delivered
        have once := (permissions.served self).permitted_le.trans (ChildPc.requests_le _)
        rcases ended self with paused | reaped
        · have nothing := stuck.nothing_sent self (rests self).1 (by rw [paused]; trivial)
          rw [StandardSignal.instances_eq_zero.mpr nothing] at delivered
          omega
        · have resumed := (permissions.served self).resumed (by rw [reaped]; trivial)
          omega
      ended := ended
      answers := by
        have answers := accounts.answers
        have queued : state.parent.queued = 0 := by
          refine Finset.sum_eq_zero fun number _ => ?_
          have none := quiet (.realTime number)
          simpa [Parent.take] using none
        rw [Parent.answers, queued, HandlerStack.weight_idle _ idle] at answers
        exact answers }

namespace AtRest

variable (rest : AtRest state)
include rest

/-- The last request was counted. -/
theorem permitted_eq (permissions : Permissions K state) (self : Fin N) :
    (state.child self).permitted = if K ≤ N then 1 else 0 := by
  have accounted := (permissions.served self).accounted
  have usr1 : state.parent.usr1.sender = none := Option.map_eq_none_iff.mp (rest.quiet .usr1)
  have requested : (state.child self).pc.requests = 1 := by
    rcases rest.ended self with pc | pc <;> rw [pc] <;> rfl
  have idle := HandlerStack.pcOf_idle rest.idle Signal.usr1
  rw [Parent.awaiting, usr1, idle, requested] at accounted
  have known : self ∈ state.parent.requesters := List.count_pos_iff.mp (by simp at accounted; omega)
  rw [permissions.permitted_eq idle, rest.counted]
  simp [known]

theorem answered_eq (self : Fin N) :
    (state.child self).answered = if (state.child self).permitted = 0 then 0 else 1 := by
  simp [Child.answered, rest.handled self, rest.idleChild self]

end AtRest

/-- What has become of the children when every one of them was permitted. -/
def AllAnswered (state : State N) : Prop :=
  ∀ self, (state.child self).permitted = 1 ∧ (state.child self).delivered = 1 ∧
    ((state.child self).pc = .reaped ∨ (state.child self).Sleeps)

theorem AtRest.allAnswered (rest : AtRest state) (permissions : Permissions K state)
    (atMost : K ≤ N) : AllAnswered state ∧ state.parent.n = N := by
  have permitted (self : Fin N) : (state.child self).permitted = 1 := by
    rw [rest.permitted_eq permissions, if_pos atMost]
  refine ⟨fun self => ⟨permitted self, ?_, ?_⟩, ?_⟩
  · rw [rest.handled self, permitted self]
  · rcases rest.ended self with paused | reaped
    · refine .inr ⟨?_, rest.idleChild self, paused⟩
      rw [rest.handled self, permitted self]
      exact Nat.one_pos
    · exact .inl reaped
  · rw [rest.answers]
    simp [total, rest.answered_eq, permitted]

/-! ## Where `main` is -/

/-- A handler of the parent leaves `main` where it is. -/
theorem handler_main {reaped : Option (Fin N)} {frame : Signal × HandlerPc N}
    (running : state.parent.handlers.running = some frame)
    (taken : parentStep K state reaped = some following) :
    following.parent.pc = state.parent.pc ∧ state.parent.n ≤ following.parent.n := by
  cases parentStep_cases taken with
  | request step => cases step <;> exact ⟨rfl, Nat.le_refl _⟩
  | work step =>
      cases step with
      | main idle =>
          rw [idle] at running
          cases running
      | countWork => exact ⟨rfl, Nat.le_succ _⟩
      | leave => exact ⟨rfl, Nat.le_refl _⟩
  | reap step => cases step <;> exact ⟨rfl, Nat.le_refl _⟩

theorem parentMain_eq (idle : state.parent.handlers.running = none)
    {reaped : Option (Fin N)} (taken : parentStep K state reaped = some following) :
    following.parent.n = state.parent.n ∧ following.parent.handlers = state.parent.handlers ∧
      (following.parent.pc = .pause ∧ state.parent.n ≠ N ∨
        following.parent.pc = .destroy ∧ state.parent.n = N ∨
        following.parent.pc = .paused ∧ state.parent.pc = .pause) := by
  simp only [parentStep, idle] at taken
  cases pc : state.parent.pc with
  | test =>
      simp only [parentMain, pc, Option.some.injEq] at taken
      subst taken
      refine ⟨rfl, rfl, ?_⟩
      by_cases missing : state.parent.n ≠ N
      · exact .inl ⟨if_pos missing, missing⟩
      · exact .inr (.inl ⟨if_neg missing, not_not.mp missing⟩)
  | pause =>
      simp only [parentMain, pc, Option.some.injEq] at taken
      subst taken
      exact ⟨rfl, rfl, .inr (.inr ⟨rfl, rfl⟩)⟩
  | paused | destroy =>
      simp only [parentMain, pc] at taken
      cases taken

theorem interruptParent_main {signal : Signal}
    (taken : interruptParent state signal = some following) :
    following.parent.pc = state.parent.pc.resumed ∧ following.parent.n = state.parent.n := by
  simp only [interruptParent] at taken
  split at taken
  · rcases Option.map_eq_some_iff.mp taken with ⟨⟨entry, parent⟩, delivered, same⟩
    cases same
    refine ⟨rfl, ?_⟩
    cases signal with
    | usr1 | child =>
        rcases Option.map_eq_some_iff.mp delivered with ⟨_, _, same⟩
        cases same
        rfl
    | realTime number =>
        simp only [Parent.take, Option.ite_none_right_eq_some] at delivered
        cases delivered.2
        rfl
  · cases taken

/-- The children leave the parent where it is. -/
theorem child_main {action : Action N} (elsewhere : ∀ reaped, action ≠ .parent reaped)
    (unsignalled : ∀ signal, action ≠ .interruptParent signal)
    (taken : (system N K).next state action = some following) :
    following.parent.pc = state.parent.pc ∧ following.parent.n = state.parent.n ∧
      following.parent.handlers = state.parent.handlers := by
  cases action with
  | parent reaped => exact absurd rfl (elsewhere reaped)
  | interruptParent signal => exact absurd rfl (unsignalled signal)
  | child self newSig =>
      rcases childStep_cases taken with step | step <;> cases step <;> exact ⟨rfl, rfl, rfl⟩
  | interruptChild self =>
      cases interruptChild_cases taken
      exact ⟨rfl, rfl, rfl⟩
  | interruptWait self =>
      simp only [system, interruptWait, Option.ite_none_right_eq_some] at taken
      rcases Option.map_eq_some_iff.mp taken.2 with ⟨pc, _, rfl⟩
      exact ⟨rfl, rfl, rfl⟩

/-- Once `main` has left its loop, all N answers have been counted. -/
theorem destroy_counted (reachable : (system N K).Reachable state) :
    state.parent.pc = .destroy → N ≤ state.parent.n := by
  refine reachable.invariant (fun state => state.parent.pc = .destroy → N ≤ state.parent.n) ?_ ?_
  · intro destroyed
    cases destroyed
  intro current action following counted _ taken destroyed
  by_cases parents : ∃ reaped, action = .parent reaped
  · rcases parents with ⟨reaped, rfl⟩
    rcases running : current.parent.handlers.running with _ | frame
    · rcases parentMain_eq running taken with ⟨n, _, ⟨pc, _⟩ | ⟨_, all⟩ | ⟨pc, _⟩⟩
      · simp [pc] at destroyed
      · omega
      · simp [pc] at destroyed
    · rcases handler_main running taken with ⟨pc, n⟩
      exact (counted (pc ▸ destroyed)).trans n
  · by_cases signals : ∃ signal, action = .interruptParent signal
    · rcases signals with ⟨signal, rfl⟩
      rcases interruptParent_main taken with ⟨pc, n⟩
      have before : current.parent.pc = .destroy := by
        rw [pc] at destroyed
        cases main : current.parent.pc <;> simp [main, ParentPc.resumed] at destroyed ⊢
      exact n ▸ counted before
    · rcases child_main (not_exists.mp parents) (not_exists.mp signals) taken with ⟨pc, n, _⟩
      exact n ▸ counted (pc ▸ destroyed)

/-- The parent has found answers missing, and no signal came since. -/
def Watchful (parent : Parent N) : Prop :=
  parent.pc = .pause ∨ parent.pc = .paused → parent.handlers.running = none ∧ parent.n ≠ N

theorem watchful (reachable : (system N K).ReachableUnder OutsideWindow state) :
    Watchful state.parent := by
  refine reachable.invariant (fun state => Watchful state.parent) ?_ ?_
  · intro waits
    rcases waits with pc | pc <;> cases pc
  intro current action following watchful permitted taken waits
  by_cases parents : ∃ reaped, action = .parent reaped
  · rcases parents with ⟨reaped, rfl⟩
    rcases running : current.parent.handlers.running with _ | frame
    · rcases parentMain_eq running taken with ⟨n, handlers, main⟩
      rw [handlers, n]
      refine ⟨running, ?_⟩
      rcases main with ⟨_, missing⟩ | ⟨pc, _⟩ | ⟨_, pc⟩
      · exact missing
      · simp [pc] at waits
      · exact (watchful (.inl pc)).2
    · rw [(handler_main running taken).1] at waits
      rw [(watchful waits).1] at running
      cases running
  · by_cases signals : ∃ signal, action = .interruptParent signal
    · rcases signals with ⟨signal, rfl⟩
      have outside : current.parent.pc ≠ .pause := permitted
      rw [(interruptParent_main taken).1] at waits
      cases main : current.parent.pc <;> simp [main, ParentPc.resumed] at waits outside
    · rcases child_main (not_exists.mp parents) (not_exists.mp signals) taken with
        ⟨pc, n, handlers⟩
      rw [pc] at waits
      rw [handlers, n]
      exact watchful waits

/-! ## Every run -/

/-- Every run ends. With K at most N it ends in `sem_destroy`, after N answers, or in a `pause()`
of the parent, and then all children have answered nevertheless: the last signal came between the
test and the `pause()`. Where no signal comes there, every run ends in `sem_destroy`. -/
theorem work_ends (N : Nat) (K : Int) (atMost : K ≤ N) :
    (∀ actions final, (system N K).run (initial N) actions = some final →
      actions.length ≤ 31 * N + 2) ∧
      (∀ state, (system N K).Reachable state →
        (system N K).Halted (fun _ _ => True) (fun _ _ => False) state →
        state.parent.n = N ∧
          (state.parent.pc = .destroy ∨ state.parent.pc = .paused ∧ AllAnswered state)) ∧
      ∀ state, (system N K).ReachableUnder OutsideWindow state →
        (system N K).Halted OutsideWindow (fun _ _ => False) state →
        state.parent.n = N ∧ state.parent.pc = .destroy := by
  refine ⟨?_, ?_, ?_⟩
  · intro actions final evaluated
    have bounded := (descends N K).length_le .initial evaluated
    change actions.length + final.rank ≤ (initial N).rank at bounded
    rw [rank_initial] at bounded
    omega
  · intro state reachable halted
    have rest := atRest reachable fun action _ => halted action trivial
    rcases rest.allAnswered (orderly reachable).2 atMost with ⟨answered, all⟩
    rcases rest.main with paused | destroyed
    · exact ⟨all, .inr ⟨paused, answered⟩⟩
    · exact ⟨all, .inl destroyed⟩
  · intro state reachable stuck
    have rest := atRest reachable.reachable stuck
    have all := (rest.allAnswered (orderly reachable.reachable).2 atMost).2
    refine ⟨all, rest.main.resolve_left fun paused => ?_⟩
    exact (watchful reachable (.inr paused)).2 all

/-- The parent tests before the first signal, and blocks after the last one. -/
def sleepsAtTheEnd : List (Action 1) :=
  .parent none :: permits ++ [.parent none, .child onlyChild 0] ++ answers ++
    [.interruptParent (.realTime SIGRTMIN), .parent none, .parent none] ++
    [.child onlyChild 0, .child onlyChild 0, .interruptParent .child, .parent (some onlyChild)] ++
    List.replicate 3 (.parent none)

def lostWakeup : State 1 :=
  (system 1 1).after sleepsAtTheEnd rfl

theorem lostWakeup_halted :
    (system 1 1).Halted (fun _ _ => True) (fun _ _ => False) lostWakeup := by
  have reachable : (system 1 1).Reachable lostWakeup := (system 1 1).after_reachable _ rfl
  intro action _ _
  cases action with
  | parent reaped => rfl
  | interruptParent signal =>
      cases signal with
      | usr1 | child => rfl
      | realTime number =>
          have nothing : lostWakeup.parent.realTime number = 0 := by
            by_cases known : number ∈ Finset.Ico SIGRTMIN SIGRTMAX
            · have handled : ∀ number ∈ Finset.Ico SIGRTMIN SIGRTMAX,
                  lostWakeup.parent.realTime number = 0 := by decide +kernel
              exact handled number known
            · exact (accounts reachable).inRange number known
          have taken : lostWakeup.parent.take (.realTime number) = none :=
            if_neg (by rw [nothing]; decide)
          change interruptParent lostWakeup (.realTime number) = none
          simp [interruptParent, taken]
  | child self newSig | interruptChild self | interruptWait self =>
      rw [Subsingleton.elim self onlyChild]
      rfl

theorem work_ends_one :
    sleepsAtTheEnd.length ≤ 33 ∧ lostWakeup.parent.pc = .paused ∧ lostWakeup.parent.n = 1 := by
  have evaluated : (system 1 1).run (initial 1) sleepsAtTheEnd = some lostWakeup :=
    (system 1 1).run_after sleepsAtTheEnd rfl
  have reachable : (system 1 1).Reachable lostWakeup := (system 1 1).after_reachable _ rfl
  have ends := work_ends 1 1 (by decide)
  exact ⟨ends.1 sleepsAtTheEnd lostWakeup evaluated, rfl,
    (ends.2.1 lostWakeup reachable lostWakeup_halted).1⟩

/-! ## Too few requests -/

/-- No more requests are counted than there are children. -/
theorem Permissions.counted_le (permissions : Permissions K state) : state.parent.k ≤ N := by
  have counted := permissions.counted
  have most : state.requests ≤ N := by
    have once (self : Fin N) : (state.child self).pc.requests ≤ 0 + 1 := ChildPc.requests_le _
    have bounded : total (fun child : Child => child.pc.requests) state.child ≤
        total (fun _ => 0) state.child + Fintype.card (Fin N) * 1 := total_le_add _ _ once
    simpa [State.requests, total] using bounded
  omega

/-- Below the K-th request nobody is released. -/
theorem Permissions.unpermitted (permissions : Permissions K state) (above : N < K)
    (self : Fin N) : (state.child self).permitted = 0 := by
  have few := permissions.counted_le
  have prepared := permissions.ordered.prepared
  have nobody : state.parent.released K = [] := by
    unfold Parent.released released
    split
    · exact if_pos (by omega)
    · next pc =>
        rw [pc] at prepared
        have beyond := prepared.2
        omega
    · next pc =>
        rw [pc] at prepared
        have reached := prepared.1
        omega
    · exact if_pos (by omega)
  rw [(permissions.served self).permitted, nobody]
  rfl

/-- With K above N no child is ever permitted, and no answer counted. Every run ends with all
processes in `pause()`. -/
theorem nobody_permitted (N : Nat) (K : Int) (some : 0 < N) (above : N < K) :
    (∀ state, (system N K).Reachable state →
      state.parent.n = 0 ∧ state.parent.pc ≠ .destroy ∧
        ∀ self, (state.child self).permitted = 0) ∧
      ∀ state, (system N K).Reachable state →
        ∃ final, (system N K).Leads state final ∧ final.parent.pc = .paused ∧
          (∀ self, (final.child self).pc = .paused) ∧
          (system N K).Halted (fun _ _ => True) (fun _ _ => False) final := by
  have never (state : State N) (reachable : (system N K).Reachable state) :
      state.parent.n = 0 ∧ ∀ self, (state.child self).permitted = 0 := by
    have permissions := (orderly reachable).2
    have unpermitted := permissions.unpermitted above
    refine ⟨?_, unpermitted⟩
    have answers := (accounts reachable).answers
    have nobody : total Child.answered state.child = 0 := by
      refine Finset.sum_eq_zero fun self _ => ?_
      have delivered := (permissions.served self).delivered
      rw [unpermitted self] at delivered
      exact if_pos (by omega)
    rw [nobody, Parent.answers] at answers
    omega
  refine ⟨?_, ?_⟩
  · intro state reachable
    rcases never state reachable with ⟨none, unpermitted⟩
    refine ⟨none, fun destroyed => ?_, unpermitted⟩
    have counted := destroy_counted reachable destroyed
    omega
  · intro state reachable
    rcases (descends N K).halts reachable with ⟨final, leads, halted⟩
    have reached := leads.reachable reachable
    have rest := atRest reached fun action _ => halted action trivial
    rcases never final reached with ⟨none, unpermitted⟩
    refine ⟨final, leads, rest.main.resolve_right fun destroyed => ?_, fun self => ?_, halted⟩
    · have counted := destroy_counted reached destroyed
      omega
    · refine (rest.ended self).resolve_right fun reaped => ?_
      have resumed := ((orderly reached).2.served self).resumed (by rw [reaped]; trivial)
      have handled := rest.handled self
      rw [unpermitted self] at handled
      omega

/-- The one child has made its request, and waits for a second one that nobody makes. -/
def oneOfTwo : State 1 :=
  (system 1 2).after
    ([.child onlyChild 0, .child onlyChild 0, .interruptParent .usr1] ++
      List.replicate 5 (.parent none) ++ [.child onlyChild 0]) rfl

theorem nobody_permitted_oneOfTwo :
    oneOfTwo.parent.k = 1 ∧ (oneOfTwo.child onlyChild).permitted = 0 ∧
      ∃ final, (system 1 2).Leads oneOfTwo final ∧ final.parent.pc = .paused :=
  have reachable := (system 1 2).after_reachable _ rfl
  have starves := nobody_permitted 1 2 (by decide) (by decide)
  have ends := starves.2 oneOfTwo reachable
  ⟨rfl, (starves.1 oneOfTwo reachable).2.2 onlyChild,
    ends.imp fun _ known => ⟨known.1, known.2.1⟩⟩

end OsExercises.WorkRequests
