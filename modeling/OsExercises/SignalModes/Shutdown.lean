import OsExercises.SignalModes.Steps

/-! # How the processes stop

The stop signal is the last one that the parent sends, the child exits in its handler, and
the parent in the handler of SIGCHLD. Each prints its counts there. -/

namespace OsExercises.SignalModes

open OsExercises

variable {options : Options} {state following : State}

/-- Something is left pending by a signal that is sent. -/
theorem Inbox.post_pending_pos (inbox : Inbox) (mode : Mode) (signal : Signal) :
    0 < (inbox.post mode signal).pending signal := by
  unfold post
  split
  · simp
  · next kept => exact Nat.pos_of_ne_zero (not_or.mp kept).1

/-! ## The child -/

/-- The statements of the child's handlers. -/
def childHandles : Signal → ChildHandlerPc → Bool
  | .data, .count | .data, .answer | .data, .done => true
  | .stop, .print | .stop, .exit => true
  | _, _ => false

structure ChildOrdered (state : State) : Prop where
  handlers : ∀ signal, ∀ pc ∈ state.child.handlers.pcOf signal, childHandles signal pc = true
  /-- Nobody sends SIGCHLD to the child. -/
  childless : state.child.inbox.pending .child = 0
  stopped : 0 < state.child.inbox.pending .stop ∨ state.child.handlers.pcOf .stop ≠ none ↔
    state.parent.pc = .pause
  printed : ∀ recByChild, state.child.printed = some recByChild →
    recByChild ≤ state.child.recByChild
  exiting : state.child.handlers.pcOf .stop = some .exit → state.child.printed ≠ none
  exited : state.child.exited = true → state.child.handlers.pcOf .stop = some .exit

namespace ChildOrdered

theorem initial : ChildOrdered (initial options) := by
  constructor <;> simp [SignalModes.initial, Inbox.empty]
  split <;> simp

/-- A handler of the child that goes on to another of its statements. -/
theorem handlers_move {signal : Signal} {pc next : ChildHandlerPc} (ordered : ChildOrdered state)
    (running : state.child.handlers.running = some (signal, pc))
    (handles : childHandles signal next = true) :
    ∀ other, ∀ pc ∈ (state.child.handlers.move next).pcOf other, childHandles other pc = true := by
  intro other pc
  rw [HandlerStack.pcOf_move running]
  split
  · next same =>
      subst same
      rintro ⟨⟩
      exact handles
  · exact ordered.handlers other pc

theorem handlers_leave {signal : Signal} {pc : ChildHandlerPc} (ordered : ChildOrdered state)
    (running : state.child.handlers.running = some (signal, pc)) :
    ∀ other, ∀ pc ∈ state.child.handlers.leave.pcOf other, childHandles other pc = true := by
  intro other pc
  rw [HandlerStack.pcOf_leave running]
  split
  · rintro ⟨⟩
  · exact ordered.handlers other pc

theorem childStep (ordered : ChildOrdered state) (step : ChildStep options state following) :
    ChildOrdered following := by
  cases step with
  | count running =>
      exact
        { ordered with
          handlers := ordered.handlers_move running rfl
          stopped := by simpa [HandlerStack.pcOf_move running] using ordered.stopped
          printed := fun count printed => Nat.le_succ_of_le (ordered.printed count printed)
          exiting := by simpa [HandlerStack.pcOf_move running] using ordered.exiting
          exited := by simpa [HandlerStack.pcOf_move running] using ordered.exited }
  | answer running =>
      exact
        { ordered with
          handlers := ordered.handlers_move running rfl
          stopped := by simpa [HandlerStack.pcOf_move running] using ordered.stopped
          exiting := by simpa [HandlerStack.pcOf_move running] using ordered.exiting
          exited := by simpa [HandlerStack.pcOf_move running] using ordered.exited }
  | leave running =>
      exact
        { ordered with
          handlers := ordered.handlers_leave running
          stopped := by simpa [HandlerStack.pcOf_leave running] using ordered.stopped
          exiting := by simpa [HandlerStack.pcOf_leave running] using ordered.exiting
          exited := by simpa [HandlerStack.pcOf_leave running] using ordered.exited }
  | print running =>
      have stopped := ordered.stopped
      simp only [HandlerStack.pcOf_running running, ne_eq, reduceCtorEq, not_false_eq_true,
        or_true, true_iff] at stopped
      exact
        { ordered with
          handlers := ordered.handlers_move running rfl
          stopped := by simpa [HandlerStack.pcOf_move running] using stopped
          printed := by simp
          exiting := by simp
          exited := by simp [HandlerStack.pcOf_move running] }
  | exit running =>
      have here := HandlerStack.pcOf_running running
      exact { ordered with exited := fun _ => here }

theorem interruptChild {signal : Signal} (ordered : ChildOrdered state)
    (interruption : ChildInterruption options state signal following) :
    ChildOrdered following := by
  cases interruption with
  | enter handlers unblocked pending first entered =>
      have kept (other : Signal) (different : other ≠ signal) :
          handlers.pcOf other = state.child.handlers.pcOf other := by
        rw [entered, if_neg different]
      have valid (handled : childHandles signal (childEntry signal) = true) (other : Signal) :
          ∀ pc ∈ handlers.pcOf other, childHandles other pc = true := by
        intro pc
        rw [entered]
        split
        · next same =>
            subst same
            rintro ⟨⟩
            exact handled
        · exact ordered.handlers other pc
      cases signal with
      | data =>
          exact
            { ordered with
              handlers := valid rfl
              childless := by simpa using ordered.childless
              stopped := by simpa [entered] using ordered.stopped
              exiting := by simpa [entered] using ordered.exiting
              exited := by simpa [entered] using ordered.exited }
      | stop =>
          have stopped := ordered.stopped.mp (.inl pending)
          have running : state.child.exited = false := by
            by_contra exited
            have here := ordered.exited (Bool.of_not_eq_false exited)
            rw [unblocked] at here
            cases here
          exact
            { ordered with
              handlers := valid rfl
              childless := by simpa using ordered.childless
              stopped := by simp [entered, stopped]
              exiting := by simp [entered, childEntry]
              exited := by simp [running] }
      | child =>
          rw [ordered.childless] at pending
          exact absurd pending (Nat.lt_irrefl 0)

/-- What the parent does concerns the child only where it sends the stop signal. -/
theorem of_parent (ordered : ChildOrdered state) {inbox : Inbox} {parent : Parent}
    (childless : inbox.pending .child = state.child.inbox.pending .child)
    (stopped : 0 < inbox.pending .stop ∨ state.child.handlers.pcOf .stop ≠ none ↔
      parent.pc = .pause) :
    ChildOrdered
      { state with child := { state.child with inbox := inbox }, parent := parent } :=
  { ordered with
    childless := childless.trans ordered.childless
    stopped := stopped }

/-- No step of `main` but the last comes to the `pause`. -/
theorem mainStep (ordered : ChildOrdered state) (step : MainStep options state following) :
    ChildOrdered following := by
  have stopped := ordered.stopped
  cases step with
  | sendData _ pc | sendFirst pc =>
      rw [pc] at stopped
      refine ordered.of_parent (Inbox.post_pending_of_ne _ _ (by decide)) ?_
      simpa [Inbox.post_pending_of_ne _ _ (show Signal.stop ≠ .data by decide)] using stopped
  | leaveLoop _ pc | countSent _ pc | keepWaiting pc | stopWaiting pc | wake pc =>
      rw [pc] at stopped
      refine ordered.of_parent rfl ?_
      simpa using stopped
  | sendStop pc =>
      refine ordered.of_parent (Inbox.post_pending_of_ne _ _ (by decide)) ?_
      simp [Inbox.post_pending_pos]

theorem handlerStep (ordered : ChildOrdered state)
    (step : ParentHandlerStep options state following) : ChildOrdered following := by
  have stopped := ordered.stopped
  cases step with
  | countReceived | countSent | more | enough | leave => exact { ordered with }
  | answer =>
      refine ordered.of_parent (Inbox.post_pending_of_ne _ _ (by decide)) ?_
      simpa [Inbox.post_pending_of_ne _ _ (show Signal.stop ≠ .data by decide)] using stopped
  | childExited parent pc running handlers kept =>
      refine ordered.of_parent rfl ?_
      simpa [kept.2.2.2.2] using stopped

end ChildOrdered

theorem childOrdered (reachable : (system options).Reachable state) : ChildOrdered state := by
  apply reachable.invariant ChildOrdered .initial
  intro current action following ordered _ taken
  cases action with
  | parent =>
      cases parentStep_cases taken with
      | main _ step => exact ordered.mainStep step
      | handler step => exact ordered.handlerStep step
  | interruptParent signal =>
      cases interruptParent_cases taken with
      | enter => exact { ordered with }
  | child => exact ordered.childStep (childStep_cases taken)
  | interruptChild signal => exact ordered.interruptChild (interruptChild_cases taken)

/-! ## The parent -/

/-- The statements of the parent's handlers. -/
def parentHandles (mode : Mode) : Signal → ParentHandlerPc → Bool
  | .data, .countReceived | .data, .done => true
  | .data, .countSent | .data, .testAll | .data, .answer => mode = .acknowledged
  | .child, .waitChild | .child, .print | .child, .exit => true
  | _, _ => false

/-- A statement of `catchSIGCHLD`. -/
inductive WaitStep (state : State) : State → Prop
  | waitChild (running : state.parent.handlers.running = some (.child, .waitChild)) :
      WaitStep state
        (state.setParent { state.parent with handlers := state.parent.handlers.move .print })
  | print (running : state.parent.handlers.running = some (.child, .print)) :
      WaitStep state
        (state.setParent
          { state.parent with
            printed := some (state.parent.sentToChild, state.parent.recByPar)
            handlers := state.parent.handlers.move .exit })
  | exit (running : state.parent.handlers.running = some (.child, .exit)) :
      WaitStep state (state.setParent { state.parent with exited := true })

theorem parentStep_waiting {pc : ParentHandlerPc}
    (running : state.parent.handlers.running = some (.child, pc))
    (taken : parentStep options state = some following) : WaitStep state following := by
  simp only [parentStep, running] at taken
  split at taken
  · cases taken
  · cases pc with
    | waitChild =>
        cases taken
        exact .waitChild running
    | print =>
        cases taken
        exact .print running
    | exit =>
        cases taken
        exact .exit running
    | countReceived | countSent | testAll | answer | done => cases taken

/-- A handler is running where a handler makes a step. -/
theorem ParentHandlerStep.busy (step : ParentHandlerStep options state following) :
    state.parent.handlers.running ≠ none := by
  cases step <;> simp [*]

structure ParentOrdered (options : Options) (state : State) : Prop where
  handlers : ∀ signal, ∀ pc ∈ state.parent.handlers.pcOf signal,
    parentHandles options.mode signal pc = true
  /-- Nobody sends the stop signal to the parent. -/
  unstopped : state.parent.inbox.pending .stop = 0
  waiting : 0 < state.parent.inbox.pending .child ∨ state.parent.handlers.pcOf .child ≠ none ↔
    state.child.exited = true
  exiting : state.parent.handlers.pcOf .child = some .exit → state.parent.printed ≠ none
  exited : state.parent.exited = true → state.parent.handlers.pcOf .child = some .exit

namespace ParentOrdered

theorem initial : ParentOrdered options (initial options) := by
  constructor <;> simp [SignalModes.initial, Inbox.empty]

theorem handlers_move {signal : Signal} {pc next : ParentHandlerPc}
    (ordered : ParentOrdered options state)
    (running : state.parent.handlers.running = some (signal, pc))
    (handles : parentHandles options.mode signal next = true) :
    ∀ other, ∀ pc ∈ (state.parent.handlers.move next).pcOf other,
      parentHandles options.mode other pc = true := by
  intro other pc
  rw [HandlerStack.pcOf_move running]
  split
  · next same =>
      subst same
      rintro ⟨⟩
      exact handles
  · exact ordered.handlers other pc

/-- What concerns data signals only. -/
structure OnlyData (state following : State) : Prop where
  handlers : ∀ signal, signal ≠ .data →
    following.parent.handlers.pcOf signal = state.parent.handlers.pcOf signal
  inbox : ∀ signal, signal ≠ .data →
    following.parent.inbox.pending signal = state.parent.inbox.pending signal
  printed : following.parent.printed = state.parent.printed
  exited : following.parent.exited = state.parent.exited
  child : following.child.exited = state.child.exited

theorem of_onlyData (ordered : ParentOrdered options state) (only : OnlyData state following)
    (valid : ∀ pc ∈ following.parent.handlers.pcOf .data,
      parentHandles options.mode .data pc = true) : ParentOrdered options following where
  handlers signal := by
    by_cases data : signal = .data
    · subst data
      exact valid
    · rw [only.handlers signal data]
      exact ordered.handlers signal
  unstopped := (only.inbox .stop (by decide)).trans ordered.unstopped
  waiting := by
    rw [only.inbox .child (by decide), only.handlers .child (by decide), only.child]
    exact ordered.waiting
  exiting := by
    rw [only.handlers .child (by decide), only.printed]
    exact ordered.exiting
  exited := by
    rw [only.handlers .child (by decide), only.exited]
    exact ordered.exited

/-- The handler of a data signal that goes on to its next statement. -/
theorem moveData (ordered : ParentOrdered options state) {pc next : ParentHandlerPc}
    (running : state.parent.handlers.running = some (.data, pc))
    (handles : parentHandles options.mode .data next = true)
    (handlers : following.parent.handlers = state.parent.handlers.move next)
    (inbox : following.parent.inbox = state.parent.inbox)
    (kept : following.parent.printed = state.parent.printed ∧
      following.parent.exited = state.parent.exited ∧
      following.child.exited = state.child.exited) : ParentOrdered options following := by
  refine ordered.of_onlyData ?_ ?_
  · exact
      { handlers := by
          intro signal different
          rw [handlers, HandlerStack.pcOf_move running, if_neg different]
        inbox := fun _ _ => by rw [inbox]
        printed := kept.1
        exited := kept.2.1
        child := kept.2.2 }
  · rw [handlers]
    exact ordered.handlers_move running handles .data

theorem mainStep (ordered : ParentOrdered options state)
    (step : MainStep options state following) : ParentOrdered options following := by
  cases step with
  | sendData | leaveLoop | countSent | sendFirst | keepWaiting | stopWaiting | wake | sendStop =>
      exact { ordered with }

/-- A step of the handler of a data signal. -/
theorem handlerStep (ordered : ParentOrdered options state) {pc : ParentHandlerPc}
    (data : state.parent.handlers.running = some (.data, pc))
    (step : ParentHandlerStep options state following) : ParentOrdered options following := by
  cases step with
  | countReceived next running further =>
      refine ordered.moveData running ?_ rfl rfl ⟨rfl, rfl, rfl⟩
      rw [further]
      split
      · next acknowledged => simp [parentHandles, acknowledged]
      · rfl
  | countSent acknowledged running | more acknowledged running | answer acknowledged running =>
      exact ordered.moveData running (by simp [parentHandles, acknowledged]) rfl rfl
        ⟨rfl, rfl, rfl⟩
  | enough _ running => exact ordered.moveData running rfl rfl rfl ⟨rfl, rfl, rfl⟩
  | leave running =>
      refine ordered.of_onlyData ?_ ?_
      · exact
          { handlers := by
              intro signal different
              simp only [State.setParent_parent, HandlerStack.pcOf_leave running,
                if_neg different]
            inbox := fun _ _ => rfl
            printed := rfl
            exited := rfl
            child := rfl }
      · simp [HandlerStack.pcOf_leave running]
  | childExited _ _ running =>
      rw [data] at running
      cases running

theorem waitStep (ordered : ParentOrdered options state) (step : WaitStep state following) :
    ParentOrdered options following := by
  have waiting := ordered.waiting
  cases step with
  | waitChild running =>
      have here := HandlerStack.pcOf_running running
      simp only [here, ne_eq, reduceCtorEq, not_false_eq_true, or_true, true_iff] at waiting
      exact
        { ordered with
          handlers := ordered.handlers_move running rfl
          waiting := by simp [HandlerStack.pcOf_move running, waiting]
          exiting := by simp [HandlerStack.pcOf_move running]
          exited := by
            intro exited
            rw [ordered.exited exited] at here
            cases here }
  | print running =>
      have here := HandlerStack.pcOf_running running
      simp only [here, ne_eq, reduceCtorEq, not_false_eq_true, or_true, true_iff] at waiting
      exact
        { ordered with
          handlers := ordered.handlers_move running rfl
          waiting := by simp [HandlerStack.pcOf_move running, waiting]
          exiting := by simp
          exited := by simp [HandlerStack.pcOf_move running] }
  | exit running =>
      have here := HandlerStack.pcOf_running running
      exact { ordered with exited := fun _ => here }

theorem interruptParent {signal : Signal} (ordered : ParentOrdered options state)
    (interruption : ParentInterruption state signal following) :
    ParentOrdered options following := by
  cases interruption with
  | enter handlers unblocked pending entered =>
      cases signal with
      | data =>
          refine ordered.of_onlyData ?_ ?_
          · exact
              { handlers := fun signal different => by
                  simp only [State.setParent_parent, entered, if_neg different]
                inbox := fun signal different => by simp [different]
                printed := rfl
                exited := rfl
                child := rfl }
          · simp [entered, parentEntry, parentHandles]
      | stop =>
          rw [ordered.unstopped] at pending
          exact absurd pending (Nat.lt_irrefl 0)
      | child =>
          have waiting := ordered.waiting.mp (.inl pending)
          exact
            { handlers := by
                intro other pc
                simp only [State.setParent_parent, entered]
                split
                · next same =>
                    subst same
                    rintro ⟨⟩
                    rfl
                · exact ordered.handlers other pc
              unstopped := by simpa using ordered.unstopped
              waiting := by simp [entered, waiting]
              exiting := by simp [entered, parentEntry]
              exited := by
                intro exited
                rw [ordered.exited exited] at unblocked
                cases unblocked }

theorem childStep (ordered : ParentOrdered options state)
    (step : ChildStep options state following) : ParentOrdered options following := by
  cases step with
  | count | leave | print => exact { ordered with }
  | answer =>
      refine ordered.of_onlyData ?_ (ordered.handlers .data)
      exact
        { handlers := fun _ _ => rfl
          inbox := fun _ different => Inbox.post_pending_of_ne _ _ different
          printed := rfl
          exited := rfl
          child := rfl }
  | exit =>
      exact
        { ordered with
          unstopped := (Inbox.post_pending_of_ne _ _ (by decide)).trans ordered.unstopped
          waiting := by simp [Inbox.post_pending_pos] }

end ParentOrdered

theorem parentOrdered (reachable : (system options).Reachable state) :
    ParentOrdered options state := by
  apply reachable.invariant (ParentOrdered options) .initial
  intro current action following ordered _ taken
  cases action with
  | parent =>
      rcases parentStep_cases taken with ⟨_, step⟩ | step
      · exact ordered.mainStep step
      · cases running : current.parent.handlers.running with
        | none => exact absurd running step.busy
        | some frame =>
            rcases frame with ⟨signal, pc⟩
            cases signal with
            | data => exact ordered.handlerStep running step
            | child => exact ordered.waitStep (parentStep_waiting running taken)
            | stop => simp [system, parentStep, running, parentHandler] at taken
  | interruptParent signal => exact ordered.interruptParent (interruptParent_cases taken)
  | child => exact ordered.childStep (childStep_cases taken)
  | interruptChild signal =>
      cases interruptChild_cases taken with
      | enter => exact { ordered with }

end OsExercises.SignalModes
