import OsExercises.SignalModes.Processes

/-! # What the parent and the child do

The statements of both processes, and the delivery of a signal, one case each. -/

namespace OsExercises.SignalModes

open OsExercises

variable {options : Options} {state following : State}

/-! ## Pending signals -/

theorem Inbox.post_pending_of_ne (inbox : Inbox) (mode : Mode) {signal other : Signal}
    (different : other ≠ signal) :
    (inbox.post mode signal).pending other = inbox.pending other := by
  unfold post
  split <;> simp [different]

/-- A signal that is queued, or of which none is pending, is not lost. -/
theorem Inbox.post_eq {inbox : Inbox} {mode : Mode} {signal : Signal}
    (kept : inbox.pending signal = 0 ∨ mode.queues signal = true) :
    inbox.post mode signal =
      { inbox with
        pending := Function.update inbox.pending signal (inbox.pending signal + 1) } :=
  if_pos kept

/-! ## The child -/

inductive ChildStep (options : Options) (state : State) : State → Prop
  | count (running : state.child.handlers.running = some (.data, .count)) :
      ChildStep options state
        (state.setChild
          { state.child with
            recByChild := state.child.recByChild + 1
            handlers := state.child.handlers.move .answer })
  | answer (running : state.child.handlers.running = some (.data, .answer)) :
      ChildStep options state
        ((state.killParent options.mode .data).setChild
          { state.child with
            answered := state.child.answered + 1, handlers := state.child.handlers.move .done })
  | leave (running : state.child.handlers.running = some (.data, .done)) :
      ChildStep options state
        (state.setChild { state.child with handlers := state.child.handlers.leave })
  | print (running : state.child.handlers.running = some (.stop, .print)) :
      ChildStep options state
        (state.setChild
          { state.child with
            printed := some state.child.recByChild, handlers := state.child.handlers.move .exit })
  | exit (running : state.child.handlers.running = some (.stop, .exit)) :
      ChildStep options state
        ((state.killParent options.mode .child).setChild { state.child with exited := true })

theorem childStep_cases (taken : childStep options state = some following) :
    ChildStep options state following := by
  simp only [childStep] at taken
  split at taken
  · cases taken
  · split at taken
    · next signal pc running =>
        cases signal with
        | data =>
            cases pc with
            | count =>
                cases taken
                exact .count running
            | answer =>
                cases taken
                exact .answer running
            | done =>
                cases taken
                exact .leave running
            | print | exit => cases taken
        | stop =>
            cases pc with
            | print =>
                cases taken
                exact .print running
            | exit =>
                cases taken
                exact .exit running
            | count | answer | done => cases taken
        | child => cases taken
    · cases taken

/-- A signal interrupts the child. -/
inductive ChildInterruption (options : Options) (state : State) (signal : Signal) : State → Prop
  | enter (handlers : HandlerStack Signal ChildHandlerPc)
      (unblocked : state.child.handlers.pcOf signal = none)
      (pending : 0 < state.child.inbox.pending signal)
      (first : First options state.child signal)
      (entered : ∀ other, handlers.pcOf other =
        if other = signal then some (childEntry signal) else state.child.handlers.pcOf other) :
      ChildInterruption options state signal
        (state.setChild
          { state.child with inbox := state.child.inbox.take signal, handlers := handlers })

theorem interruptChild_cases {signal : Signal}
    (taken : interruptChild options state signal = some following) :
    ChildInterruption options state signal following := by
  simp only [interruptChild] at taken
  split at taken
  · next unblocked =>
      split at taken
      · next enabled =>
          cases taken
          rw [HandlerStack.blocks_iff, not_not] at unblocked
          exact .enter _ unblocked enabled.2.1 enabled.2.2 fun _ => rfl
      · cases taken
  · cases taken

/-! ## The parent -/

/-- How many data signals have been sent while `main` is in its loop. -/
def ParentPc.sentBefore : ParentPc → Option Nat
  | .sendData i => some i
  | .countSent i => some (i + 1)
  | _ => none

/-- A statement of `main`, which runs while no handler does. -/
inductive MainStep (options : Options) (state : State) : State → Prop
  | sendData (i : Nat) (pc : state.parent.pc = .sendData i) (more : i < options.L) :
      MainStep options state
        ((state.killChild options.mode .data).setParent
          { state.parent with pc := .countSent i, sent := state.parent.sent + 1 })
  | leaveLoop (i : Nat) (pc : state.parent.pc = .sendData i) (all : options.L ≤ i) :
      MainStep options state (state.setParent { state.parent with pc := .sendStop })
  | countSent (i : Nat) (pc : state.parent.pc = .countSent i) :
      MainStep options state
        (state.setParent
          { state.parent with
            pc := .sendData (i + 1), sentToChild := state.parent.sentToChild + 1 })
  | sendFirst (pc : state.parent.pc = .sendFirst) :
      MainStep options state
        ((state.killChild options.mode .data).setParent
          { state.parent with pc := .testAll, sent := state.parent.sent + 1 })
  | keepWaiting (pc : state.parent.pc = .testAll)
      (missing : state.parent.sentToChild ≠ options.L) :
      MainStep options state (state.setParent { state.parent with pc := .sleep })
  | stopWaiting (pc : state.parent.pc = .testAll) (all : state.parent.sentToChild = options.L) :
      MainStep options state (state.setParent { state.parent with pc := .sendStop })
  | wake (pc : state.parent.pc = .sleep) :
      MainStep options state (state.setParent { state.parent with pc := .testAll })
  | sendStop (pc : state.parent.pc = .sendStop) :
      MainStep options state
        ((state.killChild options.mode .stop).setParent { state.parent with pc := .pause })

theorem parentMain_cases (taken : parentMain options state = some following) :
    MainStep options state following := by
  cases pc : state.parent.pc with
  | sendData i =>
      simp only [parentMain, pc] at taken
      split at taken
      · next more =>
          cases taken
          exact .sendData i pc more
      · next all =>
          cases taken
          exact .leaveLoop i pc (Nat.not_lt.mp all)
  | testAll =>
      simp only [parentMain, pc, Option.some.injEq] at taken
      subst taken
      by_cases all : state.parent.sentToChild = options.L
      · rw [if_neg (not_not.mpr all)]
        exact .stopWaiting pc all
      · rw [if_pos all]
        exact .keepWaiting pc all
  | countSent i =>
      simp only [parentMain, pc, Option.some.injEq] at taken
      subst taken
      exact .countSent i pc
  | sendFirst =>
      simp only [parentMain, pc, Option.some.injEq] at taken
      subst taken
      exact .sendFirst pc
  | sleep =>
      simp only [parentMain, pc, Option.some.injEq] at taken
      subst taken
      exact .wake pc
  | sendStop =>
      simp only [parentMain, pc, Option.some.injEq] at taken
      subst taken
      exact .sendStop pc
  | pause => simp [parentMain, pc] at taken

/-- A statement of a handler. -/
inductive ParentHandlerStep (options : Options) (state : State) : State → Prop
  | countReceived (next : ParentHandlerPc)
      (running : state.parent.handlers.running = some (.data, .countReceived))
      (further : next = if options.mode = .acknowledged then .countSent else .done) :
      ParentHandlerStep options state
        (state.setParent
          { state.parent with
            recByPar := state.parent.recByPar + 1
            handlers := state.parent.handlers.move next })
  | countSent (acknowledged : options.mode = .acknowledged)
      (running : state.parent.handlers.running = some (.data, .countSent)) :
      ParentHandlerStep options state
        (state.setParent
          { state.parent with
            sentToChild := state.parent.sentToChild + 1
            handlers := state.parent.handlers.move .testAll })
  | more (acknowledged : options.mode = .acknowledged)
      (running : state.parent.handlers.running = some (.data, .testAll))
      (missing : state.parent.sentToChild ≠ options.L) :
      ParentHandlerStep options state
        (state.setParent
          { state.parent with handlers := state.parent.handlers.move .answer })
  | enough (acknowledged : options.mode = .acknowledged)
      (running : state.parent.handlers.running = some (.data, .testAll))
      (all : state.parent.sentToChild = options.L) :
      ParentHandlerStep options state
        (state.setParent { state.parent with handlers := state.parent.handlers.move .done })
  | answer (acknowledged : options.mode = .acknowledged)
      (running : state.parent.handlers.running = some (.data, .answer)) :
      ParentHandlerStep options state
        ((state.killChild options.mode .data).setParent
          { state.parent with
            sent := state.parent.sent + 1, handlers := state.parent.handlers.move .done })
  | leave (running : state.parent.handlers.running = some (.data, .done)) :
      ParentHandlerStep options state
        (state.setParent { state.parent with handlers := state.parent.handlers.leave })
  | childExited (parent : Parent) (pc : ParentHandlerPc)
      (running : state.parent.handlers.running = some (.child, pc))
      (handlers : parent.handlers.pcOf .data = state.parent.handlers.pcOf .data)
      (kept : parent.inbox = state.parent.inbox ∧ parent.sent = state.parent.sent ∧
        parent.sentToChild = state.parent.sentToChild ∧
        parent.recByPar = state.parent.recByPar ∧ parent.pc = state.parent.pc) :
      ParentHandlerStep options state (state.setParent parent)

theorem catchSIGCHLD_cases {pc : ParentHandlerPc}
    (running : state.parent.handlers.running = some (.child, pc))
    (taken : catchSIGCHLD state pc = some following) :
    ParentHandlerStep options state following := by
  have moved (next : ParentHandlerPc) : (state.parent.handlers.move next).pcOf .data =
      state.parent.handlers.pcOf .data := by
    rw [HandlerStack.pcOf_move running, if_neg (by decide)]
  cases pc with
  | waitChild =>
      cases taken
      exact .childExited _ _ running (moved _) ⟨rfl, rfl, rfl, rfl, rfl⟩
  | print =>
      cases taken
      exact .childExited _ _ running (moved _) ⟨rfl, rfl, rfl, rfl, rfl⟩
  | exit =>
      cases taken
      exact .childExited _ _ running rfl ⟨rfl, rfl, rfl, rfl, rfl⟩
  | countReceived | countSent | testAll | answer | done => cases taken

theorem catchParentUSR1_cases {pc : ParentHandlerPc} (ignores : options.mode ≠ .acknowledged)
    (running : state.parent.handlers.running = some (.data, pc))
    (taken : catchParentUSR1 state pc = some following) :
    ParentHandlerStep options state following := by
  cases pc with
  | countReceived =>
      cases taken
      exact .countReceived _ running (if_neg ignores).symm
  | done =>
      cases taken
      exact .leave running
  | countSent | testAll | answer | waitChild | print | exit => cases taken

theorem catchParent2USR1_cases {pc : ParentHandlerPc}
    (acknowledged : options.mode = .acknowledged)
    (running : state.parent.handlers.running = some (.data, pc))
    (taken : catchParent2USR1 options state pc = some following) :
    ParentHandlerStep options state following := by
  cases pc with
  | countReceived =>
      cases taken
      exact .countReceived _ running (if_pos acknowledged).symm
  | countSent =>
      cases taken
      exact .countSent acknowledged running
  | testAll =>
      cases taken
      by_cases all : state.parent.sentToChild = options.L
      · rw [if_neg (not_not.mpr all)]
        exact .enough acknowledged running all
      · rw [if_pos all]
        exact .more acknowledged running all
  | answer =>
      cases taken
      exact .answer acknowledged running
  | done =>
      cases taken
      exact .leave running
  | waitChild | print | exit => cases taken

theorem parentHandler_cases {signal : Signal} {pc : ParentHandlerPc}
    (running : state.parent.handlers.running = some (signal, pc))
    (taken : parentHandler options state signal pc = some following) :
    ParentHandlerStep options state following := by
  cases signal with
  | data =>
      cases mode : options.mode with
      | acknowledged =>
          simp only [parentHandler, mode] at taken
          exact catchParent2USR1_cases mode running taken
      | standard | realTime =>
          simp only [parentHandler, mode] at taken
          exact catchParentUSR1_cases (by simp [mode]) running taken
  | child => exact catchSIGCHLD_cases running taken
  | stop => cases taken

/-- A statement of the parent. -/
inductive ParentStep (options : Options) (state following : State) : Prop
  | main (idle : state.parent.handlers.running = none)
      (step : MainStep options state following)
  | handler (step : ParentHandlerStep options state following)

theorem parentStep_cases (taken : parentStep options state = some following) :
    ParentStep options state following := by
  simp only [parentStep] at taken
  split at taken
  · cases taken
  · split at taken
    · next signal pc running => exact .handler (parentHandler_cases running taken)
    · next idle => exact .main idle (parentMain_cases taken)

/-- A signal interrupts the parent. -/
inductive ParentInterruption (state : State) (signal : Signal) : State → Prop
  | enter (handlers : HandlerStack Signal ParentHandlerPc)
      (unblocked : state.parent.handlers.pcOf signal = none)
      (pending : 0 < state.parent.inbox.pending signal)
      (entered : ∀ other, handlers.pcOf other =
        if other = signal then some (parentEntry signal)
        else state.parent.handlers.pcOf other) :
      ParentInterruption state signal
        (state.setParent
          { state.parent with inbox := state.parent.inbox.take signal, handlers := handlers })

theorem interruptParent_cases {signal : Signal}
    (taken : interruptParent state signal = some following) :
    ParentInterruption state signal following := by
  simp only [interruptParent] at taken
  split at taken
  · next unblocked =>
      split at taken
      · next enabled =>
          cases taken
          rw [HandlerStack.blocks_iff, not_not] at unblocked
          exact .enter _ unblocked enabled.2 fun _ => rfl
      · cases taken
  · cases taken

end OsExercises.SignalModes
