import OsExercises.SignalModes.Steps

/-! # Real-time signals

With `Type` 3 no signal is lost: what was sent is pending, about to be counted, or
counted. But the stop signal interrupts the handler of a data signal, and is delivered
before the data signals that this handler blocks. -/

namespace OsExercises.SignalModes

open OsExercises

variable {options : Options} {state following : State}

/-- The child has counted and answered every data signal that has been delivered, and
none is pending. -/
def Child.CaughtUp (child : Child) : Prop :=
  child.inbox.pending .data = 0 ∧
    (child.handlers.pcOf .data = none ∨ child.handlers.pcOf .data = some .done)

instance (child : Child) : Decidable child.CaughtUp :=
  inferInstanceAs (Decidable (_ ∧ (_ ∨ _)))

/-- The condition on runs: the stop signal is delivered to a child that has caught up. -/
def StopsLate (state : State) : Action → Prop
  | .interruptChild .stop => state.child.CaughtUp
  | _ => True

instance (state : State) : ∀ action, Decidable (StopsLate state action)
  | .interruptChild .stop => inferInstanceAs (Decidable state.child.CaughtUp)
  | .interruptChild .data | .interruptChild .child | .parent | .child | .interruptParent _ =>
      isTrue trivial

/-- What the child prints is the number of signals sent and answered. -/
def Complete (options : Options) (state : State) : Prop :=
  ∀ recByChild, state.child.printed = some recByChild →
    recByChild = options.L ∧ state.parent.sent = options.L ∧
      state.child.answered = options.L

structure Counted (options : Options) (state : State) : Prop where
  loop : state.parent.pc ≠ .sendFirst
  sent : state.parent.sent = state.parent.pc.sentBefore.getD options.L
  bounded : ∀ count ∈ state.parent.pc.sentBefore, count ≤ options.L
  counted : state.child.inbox.pending .data + state.child.recByChild +
    (if state.child.handlers.pcOf .data = some .count then 1 else 0) = state.parent.sent
  answered : state.child.answered +
    (if state.child.handlers.pcOf .data = some .answer then 1 else 0) = state.child.recByChild
  /-- The stop signal is sent after the loop. -/
  stopSent : 0 < state.child.inbox.pending .stop ∨ state.child.handlers.pcOf .stop ≠ none →
    state.parent.pc.sentBefore = none
  stopped : state.child.handlers.pcOf .stop ≠ none → state.child.CaughtUp
  printed : ∀ recByChild, state.child.printed = some recByChild →
    state.child.handlers.pcOf .stop ≠ none ∧ recByChild = state.child.recByChild

namespace Counted

theorem initial (realTime : options.mode = .realTime) :
    Counted options (initial options) := by
  constructor <;> simp [SignalModes.initial, realTime, ParentPc.sentBefore, Inbox.empty]

/-- When the child has caught up after the loop, the counts are complete. -/
theorem complete_counts (counted : Counted options state)
    (stopped : state.child.handlers.pcOf .stop ≠ none) :
    state.child.recByChild = options.L ∧ state.parent.sent = options.L ∧
      state.child.answered = options.L := by
  have sent := counted.sent
  have count := counted.counted
  have answers := counted.answered
  rw [counted.stopSent (.inr stopped), Option.getD_none] at sent
  rcases counted.stopped stopped with ⟨nothing, idle⟩
  rcases idle with absent | done
  · simp only [absent, nothing, reduceCtorEq, if_false] at count answers
    omega
  · simp only [done, nothing, Option.some.injEq, reduceCtorEq, if_false] at count answers
    omega

/-- While a data signal is being handled, the stop signal has not been delivered. -/
theorem stop_waits (counted : Counted options state) {pc : ChildHandlerPc}
    (here : state.child.handlers.pcOf .data = some pc) (busy : pc ≠ .done) :
    state.child.handlers.pcOf .stop = none := by
  by_contra stopped
  rcases (counted.stopped stopped).2 with absent | done
  · rw [here] at absent
    cases absent
  · rw [here] at done
    exact busy (Option.some.inj done)

theorem childStep (counted : Counted options state) (step : ChildStep options state following) :
    Counted options following := by
  have count := counted.counted
  have answers := counted.answered
  cases step with
  | count running | answer running =>
      have here := HandlerStack.pcOf_running running
      simp only [here, if_true, Option.some.injEq, reduceCtorEq, if_false] at count answers
      have waits := counted.stop_waits here (by simp)
      exact
        { counted with
          counted := by
            simp [HandlerStack.pcOf_move running]
            omega
          answered := by
            simp [HandlerStack.pcOf_move running]
            omega
          stopSent := by simpa [HandlerStack.pcOf_move running] using counted.stopSent
          stopped := by simp [HandlerStack.pcOf_move running, waits]
          printed := by
            intro recByChild printed
            exact absurd waits (counted.printed recByChild printed).1 }
  | leave running =>
      have here := HandlerStack.pcOf_running running
      simp only [here, Option.some.injEq, reduceCtorEq, if_false] at count answers
      exact
        { counted with
          counted := by simpa [HandlerStack.pcOf_leave running] using count
          answered := by simpa [HandlerStack.pcOf_leave running] using answers
          stopSent := by simpa [HandlerStack.pcOf_leave running] using counted.stopSent
          stopped := by
            intro stopped
            simp only [HandlerStack.pcOf_leave running, State.setChild_child] at stopped
            exact ⟨(counted.stopped stopped).1,
              .inl (by simp [HandlerStack.pcOf_leave running])⟩
          printed := by simpa [HandlerStack.pcOf_leave running] using counted.printed }
  | print running =>
      have here := HandlerStack.pcOf_running running
      have stopped : state.child.handlers.pcOf .stop ≠ none := by simp [here]
      exact
        { counted with
          counted := by simpa [HandlerStack.pcOf_move running] using count
          answered := by simpa [HandlerStack.pcOf_move running] using answers
          stopSent := fun _ => counted.stopSent (.inr stopped)
          stopped := by
            intro _
            simpa [Child.CaughtUp, HandlerStack.pcOf_move running] using counted.stopped stopped
          printed := by simp [HandlerStack.pcOf_move running] }
  | exit running => exact { counted with }

theorem interruptChild {signal : Signal} (counted : Counted options state)
    (late : StopsLate state (.interruptChild signal))
    (interruption : ChildInterruption options state signal following) :
    Counted options following := by
  have count := counted.counted
  have answers := counted.answered
  cases interruption with
  | enter handlers unblocked pending first entered =>
      cases signal with
      | data =>
          have waits : state.child.handlers.pcOf .stop = none := by
            by_contra stopped
            have nothing := (counted.stopped stopped).1
            omega
          simp only [unblocked, reduceCtorEq, if_false] at count answers
          exact
            { counted with
              counted := by
                simp [entered, childEntry]
                omega
              answered := by
                simp [entered, childEntry]
                omega
              stopSent := by simpa [entered] using counted.stopSent
              stopped := by simp [entered, waits]
              printed := by
                intro recByChild printed
                exact absurd waits (counted.printed recByChild printed).1 }
      | stop =>
          have caughtUp : state.child.CaughtUp := late
          exact
            { counted with
              counted := by simpa [entered] using count
              answered := by simpa [entered] using answers
              stopSent := fun _ => counted.stopSent (.inl pending)
              stopped := by
                intro _
                simpa [Child.CaughtUp, entered] using caughtUp
              printed := by
                intro recByChild printed
                simpa [entered] using (counted.printed recByChild printed).2 }
      | child =>
          exact
            { counted with
              counted := by simpa [entered] using count
              answered := by simpa [entered] using answers
              stopSent := by simpa [entered] using counted.stopSent
              stopped := by simpa [Child.CaughtUp, entered] using counted.stopped
              printed := by simpa [entered] using counted.printed }

theorem mainStep (counted : Counted options state) (realTime : options.mode = .realTime)
    (step : MainStep options state following) : Counted options following := by
  have sent := counted.sent
  have bounded := counted.bounded
  have queued : (state.child.inbox.post options.mode .data).pending .data =
      state.child.inbox.pending .data + 1 := by
    rw [Inbox.post_eq (.inr (by simp [Mode.queues, realTime]))]
    simp
  have other (signal different : Signal) (apart : different ≠ signal) :
      (state.child.inbox.post options.mode signal).pending different =
        state.child.inbox.pending different := Inbox.post_pending_of_ne _ _ apart
  cases step with
  | sendData i pc more =>
      have waits : ¬ (0 < state.child.inbox.pending .stop ∨
          state.child.handlers.pcOf .stop ≠ none) := by
        intro stopSent
        have atEnd := counted.stopSent stopSent
        simp [pc, ParentPc.sentBefore] at atEnd
      simp only [not_or, ne_eq, not_not] at waits
      simp only [pc, ParentPc.sentBefore, Option.getD_some] at sent
      exact
        { counted with
          loop := by simp
          sent := by simp [ParentPc.sentBefore, sent]
          bounded := by
            simp [ParentPc.sentBefore]
            omega
          counted := by
            have count := counted.counted
            simp only [State.setParent_child, State.setParent_parent, State.killChild_child_inbox,
              State.killChild_child_recByChild, State.killChild_child_handlers, queued]
            omega
          stopSent := by simp [other .data .stop (by decide), waits]
          stopped := by simp [waits]
          printed := counted.printed }
  | leaveLoop i pc all =>
      have bound := bounded i (by simp [pc, ParentPc.sentBefore])
      simp only [pc, ParentPc.sentBefore, Option.getD_some] at sent
      exact
        { counted with
          loop := by simp
          sent := by simp [ParentPc.sentBefore, sent]; omega
          bounded := by simp [ParentPc.sentBefore]
          stopSent := by simp [ParentPc.sentBefore] }
  | countSent i pc =>
      simp only [pc, ParentPc.sentBefore] at sent bounded
      exact
        { counted with
          loop := by simp
          sent := sent
          bounded := bounded
          stopSent := by
            intro stopSent
            have atEnd := counted.stopSent stopSent
            simp [pc, ParentPc.sentBefore] at atEnd }
  | sendFirst pc => exact absurd pc counted.loop
  | keepWaiting pc | stopWaiting pc | wake pc =>
      simp only [pc, ParentPc.sentBefore] at sent
      exact
        { counted with
          loop := by simp
          sent := sent
          bounded := by simp [ParentPc.sentBefore]
          stopSent := by simp [ParentPc.sentBefore] }
  | sendStop pc =>
      simp only [pc, ParentPc.sentBefore] at sent
      exact
        { counted with
          loop := by simp
          sent := sent
          bounded := by simp [ParentPc.sentBefore]
          counted := by simpa [other .stop .data (by decide)] using counted.counted
          stopSent := by simp [ParentPc.sentBefore]
          stopped := by
            simpa [Child.CaughtUp, other .stop .data (by decide)] using counted.stopped }

theorem handlerStep (counted : Counted options state) (realTime : options.mode = .realTime)
    (step : ParentHandlerStep options state following) : Counted options following := by
  cases step with
  | countReceived | leave => exact { counted with }
  | countSent acknowledged | more acknowledged | enough acknowledged | answer acknowledged =>
      rw [realTime] at acknowledged
      cases acknowledged
  | childExited parent pc running handlers kept =>
      rcases kept with ⟨_, sent, _, _, main⟩
      exact
        { counted with
          loop := by simpa [main] using counted.loop
          sent := by simpa [main, sent] using counted.sent
          bounded := by simpa [main] using counted.bounded
          counted := by simpa [sent] using counted.counted
          stopSent := by simpa [main] using counted.stopSent }

end Counted

theorem counted (realTime : options.mode = .realTime)
    (reachable : (system options).ReachableUnder StopsLate state) : Counted options state := by
  apply reachable.invariant (Counted options) (.initial realTime)
  intro current action following counted late taken
  cases action with
  | parent =>
      cases parentStep_cases taken with
      | main _ step => exact counted.mainStep realTime step
      | handler step => exact counted.handlerStep realTime step
  | interruptParent signal =>
      cases interruptParent_cases taken with
      | enter => exact { counted with }
  | child => exact counted.childStep (childStep_cases taken)
  | interruptChild signal => exact counted.interruptChild late (interruptChild_cases taken)

/-- With `Type` 3, a child that has caught up when the stop signal is delivered prints
L, and has sent as many answers. -/
theorem nothing_lost (options : Options) (realTime : options.mode = .realTime) {state : State}
    (reachable : (system options).ReachableUnder StopsLate state) : Complete options state := by
  have counted := counted realTime reachable
  intro recByChild printed
  rcases counted.printed recByChild printed with ⟨stopped, same⟩
  rcases counted.complete_counts stopped with ⟨received, sent, answered⟩
  exact ⟨same.trans received, sent, answered⟩

def oneRealTime : Options where
  mode := .realTime
  L := 1

/-- The parent sends its signal and the stop signal. -/
def sendsBoth : List Action := List.replicate 4 .parent

/-- The child handles one signal after the other. -/
def inTurn : State :=
  (system oneRealTime).after
    (sendsBoth ++ [.interruptChild .data, .child, .child, .child, .interruptChild .stop, .child])
    rfl

theorem nothing_lost_inTurn : inTurn.child.printed = some 1 ∧ Complete oneRealTime inTurn :=
  ⟨rfl, nothing_lost oneRealTime rfl
    (TransitionSystem.after_reachableUnder _ _ rfl (by decide))⟩

/-- The stop signal interrupts the handler of the data signal at its first statement. -/
def interrupted : State :=
  (system oneRealTime).after
    (sendsBoth ++ [.interruptChild .data, .interruptChild .stop, .child]) rfl

/-- The child prints 0, and leaves before it has counted and answered the signal. -/
theorem signal_lost :
    (system oneRealTime).Reachable interrupted ∧ interrupted.child.printed = some 0 ∧
      ¬ Complete oneRealTime interrupted := by
  refine ⟨(system oneRealTime).after_reachable _ rfl, rfl, ?_⟩
  intro complete
  exact absurd (complete 0 rfl).1 (by decide)

end OsExercises.SignalModes
