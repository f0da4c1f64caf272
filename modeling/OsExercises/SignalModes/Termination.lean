import OsExercises.Foundation.Termination
import OsExercises.SignalModes.Accounting

/-! # The parent and the child end

At most L data signals are sent, and each lets the two processes execute a few statements. With
`Type` 2 the parent may poll `sentToChild` any number of times in between. In the end both
processes have printed their counts and exited. -/

namespace OsExercises.SignalModes

open OsExercises

variable {options : Options} {state following : State}

/-- With `Type` 2 the parent sleeps until the answers have come. -/
def Polls (options : Options) (state : State) (action : Action) : Prop :=
  action = .parent ∧ state.parent.handlers.running.isNone = true ∧
    (state.parent.pc = .testAll ∨ state.parent.pc = .sleep) ∧ state.parent.sentToChild ≠ options.L

instance (options : Options) (state : State) (action : Action) :
    Decidable (Polls options state action) :=
  inferInstanceAs (Decidable (_ ∧ _ ∧ (_ ∨ _) ∧ _))

/-! ## What is left to do -/

def parentHandlerRank : Option ParentHandlerPc → Nat
  | none | some .exit => 0
  | some .done | some .print => 1
  | some .answer | some .waitChild => 2
  | some .testAll => 3
  | some .countSent => 5
  | some .countReceived => 6

/-- An answer counts the statements of the parent's handler. -/
def childHandlerRank : Option ChildHandlerPc → Nat
  | none | some .exit => 0
  | some .done | some .print => 1
  | some .answer => 9
  | some .count => 10

namespace Parent

/-- Sending the stop signal counts the statements of `catchUSR2`. -/
def mainRank (options : Options) (parent : Parent) : Nat :=
  match parent.pc with
  | .sendData _ | .testAll => 4
  | .sleep => if parent.sentToChild = options.L then 5 else 4
  | .countSent _ | .sendFirst => 5
  | .sendStop => 3
  | .pause => 0

/-- What the parent will still do with the signals sent to it. -/
def handlerRank (parent : Parent) : Nat :=
  parentHandlerRank (parent.handlers.pcOf .data) +
    parentHandlerRank (parent.handlers.pcOf .child) + (if parent.exited then 0 else 1) +
    (7 * parent.inbox.pending .data + 3 * parent.inbox.pending .child)

end Parent

namespace Child

/-- An exit counts the statements of `catchSIGCHLD`. -/
def rank (child : Child) : Nat :=
  childHandlerRank (child.handlers.pcOf .data) + childHandlerRank (child.handlers.pcOf .stop) +
    (if child.exited then 0 else 4) +
    (11 * child.inbox.pending .data + 2 * child.inbox.pending .stop)

end Child

namespace State

def rank (options : Options) (state : State) : Nat :=
  13 * (options.L - state.parent.sent) + state.parent.mainRank options +
    state.parent.handlerRank + state.child.rank

end State

/-- No run has more steps than this, the polls aside. -/
def mostSteps (options : Options) : Nat := 13 * options.L + 10

theorem Parent.mainRank_le (options : Options) (parent : Parent) : parent.mainRank options ≤ 5 := by
  unfold mainRank
  cases parent.pc with
  | sleep =>
      dsimp only
      split <;> decide
  | sendData | countSent | sendFirst | testAll | sendStop | pause => simp

theorem rank_initial (options : Options) :
    (initial options).rank options ≤ mostSteps options := by
  have most := (initial options).parent.mainRank_le options
  have sent : (initial options).parent.sent = 0 := rfl
  have handlers : (initial options).parent.handlerRank = 1 := rfl
  have child : (initial options).child.rank = 4 := rfl
  simp only [State.rank, sent, handlers, child, mostSteps]
  omega

/-! ## What a statement uses up -/

theorem childStep_running (taken : childStep options state = some following) :
    state.child.exited = false := by
  unfold childStep at taken
  split at taken
  · cases taken
  · next running => exact Bool.eq_false_iff.mpr running

theorem parentStep_running (taken : parentStep options state = some following) :
    state.parent.exited = false := by
  unfold parentStep at taken
  split at taken
  · cases taken
  · next running => exact Bool.eq_false_iff.mpr running

theorem childStep_rank (running : state.child.exited = false)
    (step : ChildStep options state following) :
    following.rank options < state.rank options := by
  have other : Signal.data ≠ .child := by decide
  cases step with
  | count running | leave running | print running =>
      simp [State.rank, Child.rank, HandlerStack.pcOf_move running,
        HandlerStack.pcOf_leave running, HandlerStack.pcOf_running running, childHandlerRank]
      try omega
  | answer running =>
      have posted := state.parent.inbox.post_pending_le options.mode .data
      simp [State.rank, Child.rank, Parent.handlerRank, Parent.mainRank,
        HandlerStack.pcOf_move running, HandlerStack.pcOf_running running, childHandlerRank,
        Inbox.post_pending_of_ne _ _ other.symm]
      omega
  | exit handles =>
      have posted := state.parent.inbox.post_pending_le options.mode .child
      simp [State.rank, Child.rank, Parent.handlerRank, Parent.mainRank, running,
        Inbox.post_pending_of_ne _ _ other]
      omega

theorem interruptChild_rank {signal : Signal} (childless : state.child.inbox.pending .child = 0)
    (interruption : ChildInterruption options state signal following) :
    following.rank options < state.rank options := by
  cases interruption with
  | enter handlers unblocked pending first entered =>
      cases signal with
      | data | stop =>
          simp [State.rank, Child.rank, entered, unblocked, childEntry, childHandlerRank]
          omega
      | child =>
          rw [childless] at pending
          exact absurd pending (Nat.lt_irrefl 0)

theorem interruptParent_rank {signal : Signal}
    (unstopped : state.parent.inbox.pending .stop = 0)
    (interruption : ParentInterruption state signal following) :
    following.rank options < state.rank options := by
  cases interruption with
  | enter handlers unblocked pending entered =>
      cases signal with
      | data | child =>
          simp [State.rank, Parent.handlerRank, Parent.mainRank, entered, unblocked, parentEntry,
            parentHandlerRank]
          omega
      | stop =>
          rw [unstopped] at pending
          exact absurd pending (Nat.lt_irrefl 0)

/-- A data signal that is sent uses up one of the L. -/
theorem sendData_rank {parent : Parent} (within : parent.sent ≤ options.L)
    (sent : parent.sent = state.parent.sent + 1)
    (statement : parent.mainRank options + parent.handlerRank ≤
      state.parent.mainRank options + state.parent.handlerRank + 1) :
    ((state.killChild options.mode .data).setParent parent).rank options <
      state.rank options := by
  have posted := state.child.inbox.post_pending_le options.mode .data
  simp [State.rank, Child.rank,
    Inbox.post_pending_of_ne _ _ (show Signal.stop ≠ .data by decide)]
  omega

theorem mainStep_rank (idle : state.parent.handlers.running = none)
    (within : following.parent.sent ≤ options.L) (step : MainStep options state following) :
    following.rank options ≤ state.rank options ∧
      (¬ Polls options state .parent → following.rank options < state.rank options) := by
  have lower (less : following.rank options < state.rank options) :
      following.rank options ≤ state.rank options ∧
        (¬ Polls options state .parent → following.rank options < state.rank options) :=
    ⟨Nat.le_of_lt less, fun _ => less⟩
  cases step with
  | sendData i pc more =>
      refine lower (sendData_rank within rfl ?_)
      simp [Parent.mainRank, Parent.handlerRank, pc]
      omega
  | sendFirst pc =>
      refine lower (sendData_rank within rfl ?_)
      simp [Parent.mainRank, Parent.handlerRank, pc]
      omega
  | leaveLoop i pc all | countSent i pc | stopWaiting pc all =>
      refine lower ?_
      simp [State.rank, Parent.mainRank, Parent.handlerRank, pc]
  | keepWaiting pc missing =>
      refine ⟨?_, fun busy => absurd ⟨rfl, by simp [idle], .inl pc, missing⟩ busy⟩
      simp [State.rank, Parent.mainRank, Parent.handlerRank, pc, missing]
  | wake pc =>
      by_cases all : state.parent.sentToChild = options.L
      · refine lower ?_
        simp [State.rank, Parent.mainRank, Parent.handlerRank, pc, all]
      · refine ⟨?_, fun busy => absurd ⟨rfl, by simp [idle], .inr pc, all⟩ busy⟩
        simp [State.rank, Parent.mainRank, Parent.handlerRank, pc, all]
  | sendStop pc =>
      have posted := state.child.inbox.post_pending_le options.mode .stop
      refine lower ?_
      simp [State.rank, Parent.mainRank, Parent.handlerRank, Child.rank, pc,
        Inbox.post_pending_of_ne _ _ (show Signal.data ≠ .stop by decide)]
      omega

/-- One more signal counted changes at most whether the parent may stop its polls. -/
theorem Parent.mainRank_countSent (options : Options) (parent : Parent)
    (handlers : HandlerStack Signal ParentHandlerPc) :
    { parent with sentToChild := parent.sentToChild + 1, handlers := handlers }.mainRank options ≤
      parent.mainRank options + 1 := by
  unfold mainRank
  cases parent.pc with
  | sleep =>
      dsimp only
      split <;> split <;> omega
  | sendData | countSent | sendFirst | testAll | sendStop | pause => simp

/-- A step of the handler of a data signal. -/
theorem handlerStep_rank {pc : ParentHandlerPc}
    (data : state.parent.handlers.running = some (.data, pc))
    (within : following.parent.sent ≤ options.L)
    (step : ParentHandlerStep options state following) :
    following.rank options < state.rank options := by
  cases step with
  | countReceived next running further =>
      have less : parentHandlerRank (some next) < 6 := by
        rw [further]
        split <;> decide
      simp [State.rank, Parent.mainRank, Parent.handlerRank, HandlerStack.pcOf_move running,
        HandlerStack.pcOf_running running, parentHandlerRank] at less ⊢
      omega
  | countSent _ running =>
      have main := state.parent.mainRank_countSent options
        (state.parent.handlers.move .testAll)
      simp [State.rank, Parent.handlerRank, HandlerStack.pcOf_move running,
        HandlerStack.pcOf_running running, parentHandlerRank]
      omega
  | more _ running | enough _ running | leave running =>
      simp [State.rank, Parent.mainRank, Parent.handlerRank, HandlerStack.pcOf_move running,
        HandlerStack.pcOf_leave running, HandlerStack.pcOf_running running, parentHandlerRank]
  | answer _ running =>
      refine sendData_rank within rfl ?_
      simp [Parent.mainRank, Parent.handlerRank, HandlerStack.pcOf_move running,
        HandlerStack.pcOf_running running, parentHandlerRank]
      omega
  | childExited _ _ running =>
      rw [data] at running
      cases running

theorem waitStep_rank (running : state.parent.exited = false) (step : WaitStep state following) :
    following.rank options < state.rank options := by
  cases step with
  | waitChild handles | print handles =>
      simp [State.rank, Parent.mainRank, Parent.handlerRank, HandlerStack.pcOf_move handles,
        HandlerStack.pcOf_running handles, parentHandlerRank]
  | exit handles => simp [State.rank, Parent.mainRank, Parent.handlerRank, running]

/-! ## Runs -/

theorem descends (started : options.mode = .acknowledged → 0 < options.L) :
    (system options).Descends (fun _ _ => True) (Polls options) (State.rank options) := by
  intro current action following reachable _ taken
  have nextReachable := TransitionSystem.ReachableUnder.step reachable trivial taken
  have within := sent_le started nextReachable
  have lower (less : following.rank options < current.rank options) :
      following.rank options ≤ current.rank options ∧
        (¬ Polls options current action → following.rank options < current.rank options) :=
    ⟨Nat.le_of_lt less, fun _ => less⟩
  cases action with
  | parent =>
      rcases parentStep_cases taken with ⟨idle, step⟩ | step
      · exact mainStep_rank idle within step
      · refine lower ?_
        cases running : current.parent.handlers.running with
        | none => exact absurd running step.busy
        | some frame =>
            rcases frame with ⟨signal, pc⟩
            cases signal with
            | data => exact handlerStep_rank running within step
            | child =>
                refine waitStep_rank ?_ (parentStep_waiting running taken)
                exact parentStep_running taken
            | stop => simp [system, parentStep, running, parentHandler] at taken
  | interruptParent signal =>
      exact lower (interruptParent_rank (parentOrdered reachable).unstopped
        (interruptParent_cases taken))
  | child => exact lower (childStep_rank (childStep_running taken) (childStep_cases taken))
  | interruptChild signal =>
      exact lower (interruptChild_rank (childOrdered reachable).childless
        (interruptChild_cases taken))

/-! ## The end -/

/-- Both processes have printed their counts and exited. -/
structure Ended (state : State) : Prop where
  child : state.child.exited = true ∧ state.child.printed ≠ none
  parent : state.parent.exited = true ∧ state.parent.printed ≠ none

theorem childHandler_ne_none {signal : Signal} {pc : ChildHandlerPc}
    (handles : childHandles signal pc = true) : childHandler options state signal pc ≠ none := by
  cases signal <;> cases pc <;> simp [childHandles] at handles <;>
    simp [childHandler, catchChildUSR1, catchUSR2]

theorem parentHandler_ne_none {signal : Signal} {pc : ParentHandlerPc}
    (handles : parentHandles options.mode signal pc = true) :
    parentHandler options state signal pc ≠ none := by
  cases mode : options.mode <;> cases signal <;> cases pc <;>
    simp_all [parentHandles, parentHandler, catchParentUSR1, catchParent2USR1, catchSIGCHLD]

theorem parentMain_ne_none (busy : state.parent.pc ≠ .pause) :
    parentMain options state ≠ none := by
  cases pc : state.parent.pc with
  | sendData i =>
      simp only [parentMain, pc]
      split <;> simp
  | pause => exact absurd pc busy
  | countSent | sendFirst | testAll | sleep | sendStop => simp [parentMain, pc]

/-- A child that can do nothing has no signal to handle. -/
structure ChildIdle (state : State) : Prop where
  handlers : ∀ signal, state.child.handlers.pcOf signal = none
  data : state.child.inbox.pending .data = 0
  stop : state.child.inbox.pending .stop = 0

structure ParentIdle (state : State) : Prop where
  running : state.parent.handlers.running = none
  pending : ∀ signal, state.parent.inbox.pending signal = 0

/-- With `Type` 2 the parent polls only while the data signal is somewhere. -/
theorem not_polling (reachable : (system options).Reachable state)
    (started : options.mode = .acknowledged → 0 < options.L)
    (child : ChildIdle state) (parent : ParentIdle state)
    (polls : Polls options state .parent) : False := by
  rcases polls with ⟨_, _, pc, missing⟩
  by_cases acknowledged : options.mode = .acknowledged
  · rcases inStage acknowledged (started acknowledged) reachable with ⟨stage, inStage⟩
    have toChild := inStage.toChild
    have toParent := inStage.toParent
    have childPc := inStage.childPc
    have parentPc := inStage.parentPc
    have starting := inStage.starting
    rw [child.data] at toChild
    rw [parent.pending] at toParent
    rw [child.handlers] at childPc
    rw [HandlerStack.pcOf_idle parent.running] at parentPc
    cases stage with
    | starting =>
        have first := starting.mpr trivial
        rcases pc with pc | pc
        all_goals
          rw [first] at pc
          cases pc
    | toChild => cases toChild
    | toParent => cases toParent
    | counting | answering => cases childPc
    | received | recorded | testing | resending => cases parentPc
    | finished => exact missing (inStage.finished trivial)
  · have loop := (looped acknowledged reachable).loop
    rcases pc with pc | pc
    · exact loop.2.1 pc
    · exact loop.2.2 pc

section Halted

variable (reachable : (system options).Reachable state)
variable (halted : (system options).Halted (fun _ _ => True) (Polls options) state)

include reachable halted

theorem child_idle (running : state.child.exited = false) : ChildIdle state := by
  have idle : state.child.handlers.running = none := by
    by_contra busy
    rcases Option.ne_none_iff_exists'.mp busy with ⟨⟨signal, pc⟩, here⟩
    have handles := (childOrdered reachable).handlers signal pc (HandlerStack.pcOf_running here)
    have stuck : childStep options state = none := halted .child trivial (by simp [Polls])
    simp only [childStep, running, here, Bool.false_eq_true, if_false] at stuck
    exact childHandler_ne_none handles stuck
  have handlers := HandlerStack.pcOf_idle idle
  have unblocked (signal : Signal) : ¬ state.child.handlers.Blocks signal := by
    rw [HandlerStack.blocks_iff, handlers]
    simp
  have undelivered (signal : Signal) (first : First options state.child signal) :
      state.child.inbox.pending signal = 0 := by
    have stuck : interruptChild options state signal = none :=
      halted (.interruptChild signal) trivial (by simp [Polls])
    simp only [interruptChild, dif_pos (unblocked signal), running, first] at stuck
    by_contra pending
    simp [Nat.pos_of_ne_zero pending] at stuck
  have data := undelivered .data (fun _ different => by cases different)
  exact
    { handlers := handlers
      data := data
      stop := undelivered .stop fun _ _ => .inl data }

theorem parent_idle (running : state.parent.exited = false) : ParentIdle state := by
  have idle : state.parent.handlers.running = none := by
    by_contra busy
    rcases Option.ne_none_iff_exists'.mp busy with ⟨⟨signal, pc⟩, here⟩
    have handles := (parentOrdered reachable).handlers signal pc (HandlerStack.pcOf_running here)
    have stuck : parentStep options state = none := halted .parent trivial (by simp [Polls, here])
    simp only [parentStep, running, here, Bool.false_eq_true, if_false] at stuck
    exact parentHandler_ne_none handles stuck
  refine ⟨idle, ?_⟩
  intro signal
  have unblocked : ¬ state.parent.handlers.Blocks signal := by
    rw [HandlerStack.blocks_iff, HandlerStack.pcOf_idle idle]
    simp
  have stuck : interruptParent state signal = none :=
    halted (.interruptParent signal) trivial (by simp [Polls])
  simp only [interruptParent, dif_pos unblocked, running] at stuck
  by_contra pending
  simp [Nat.pos_of_ne_zero pending] at stuck

theorem child_exited (started : options.mode = .acknowledged → 0 < options.L) :
    state.child.exited = true := by
  by_contra childRunning
  have childRunning := Bool.eq_false_iff.mpr childRunning
  have child := child_idle reachable halted childRunning
  have parentRunning : state.parent.exited = false := by
    by_contra exited
    have here := (parentOrdered reachable).exited (Bool.of_not_eq_false exited)
    have gone := (parentOrdered reachable).waiting.mp (.inr (by simp [here]))
    rw [childRunning] at gone
    cases gone
  have parent := parent_idle reachable halted parentRunning
  have busy : state.parent.pc ≠ .pause := by
    intro pause
    have stopped := (childOrdered reachable).stopped.mpr pause
    simp [child.stop, child.handlers] at stopped
  have goesOn : parentStep options state ≠ none := by
    simp only [parentStep, parentRunning, parent.running, Bool.false_eq_true, if_false]
    exact parentMain_ne_none busy
  by_cases polls : Polls options state .parent
  · exact not_polling reachable started child parent polls
  · exact goesOn (halted .parent trivial polls)

theorem ended (started : options.mode = .acknowledged → 0 < options.L) : Ended state := by
  have childOrdered := childOrdered reachable
  have parentOrdered := parentOrdered reachable
  have childExited := child_exited reachable halted started
  have parentExited : state.parent.exited = true := by
    by_contra running
    have parent := parent_idle reachable halted (Bool.eq_false_iff.mpr running)
    have waiting := parentOrdered.waiting.mpr childExited
    simp [parent.pending, HandlerStack.pcOf_idle parent.running] at waiting
  exact
    { child := ⟨childExited, childOrdered.exiting (childOrdered.exited childExited)⟩
      parent := ⟨parentExited, parentOrdered.exiting (parentOrdered.exited parentExited)⟩ }

end Halted

/-- Whatever the signals interrupt, both processes get to their ends, after a bounded number of
steps besides the polls of `Type` 2. -/
theorem both_end (options : Options) (started : options.mode = .acknowledged → 0 < options.L) :
    (∀ actions final, (system options).run (initial options) actions = some final →
      (system options).busySteps (Polls options) (initial options) actions ≤ mostSteps options) ∧
    (∀ state, (system options).Reachable state →
      ∃ final, (system options).Leads state final ∧ Ended final) ∧
    ∀ final, (system options).Reachable final →
      (∀ action, ¬ Polls options final action → (system options).next final action = none) →
      Ended final := by
  refine ⟨?_, ?_, fun final reachable halted =>
    ended reachable (fun action _ => halted action) started⟩
  · intro actions final evaluated
    have few := (descends started).busySteps_le .initial
      ((system options).allowedAlong_true _ actions) evaluated
    exact Nat.le_trans (Nat.le_of_add_right_le few) (rank_initial options)
  · intro state reachable
    rcases (descends started).halts reachable with ⟨final, leads, halted⟩
    exact ⟨final, leads, ended (leads.reachable reachable) halted started⟩

/-- The parent sleeps once before the only data signal has come back. -/
def sleepsOnce : List Action :=
  [.parent, .parent, .interruptChild .data, .child, .child, .child, .interruptParent .data] ++
    List.replicate 7 .parent ++ [.interruptChild .stop, .child, .child, .interruptParent .child] ++
    List.replicate 3 .parent

def endedOnce : State :=
  (system oneAcknowledged).after sleepsOnce rfl

theorem both_end_once :
    endedOnce.parent.printed = some (1, 1) ∧ Ended endedOnce ∧
      (system oneAcknowledged).busySteps (Polls oneAcknowledged) (initial oneAcknowledged)
        sleepsOnce ≤ mostSteps oneAcknowledged := by
  have ends := both_end oneAcknowledged (by decide)
  have still (action : Action) : (system oneAcknowledged).next endedOnce action = none := by
    cases action with
    | parent | child => rfl
    | interruptParent signal | interruptChild signal => cases signal <;> rfl
  exact ⟨rfl, ends.2.2 endedOnce ((system oneAcknowledged).after_reachable _ rfl)
    fun action _ => still action, ends.1 sleepsOnce endedOnce rfl⟩

end OsExercises.SignalModes
