import OsExercises.SignalModes.Acknowledged
import OsExercises.SignalModes.Shutdown

/-! # Where the signals are

In each of the three modes a data signal that was sent has been counted, is about to be
counted, is pending, or was merged into one that was pending. The same holds of the answers,
so that the three printed numbers can be compared. -/

namespace OsExercises.SignalModes

open OsExercises

variable {options : Options} {state following : State}

/-! ## Pending signals -/

namespace Inbox

variable (inbox : Inbox) (mode : Mode) (signal : Signal)

/-- What is sent is pending or lost. -/
theorem post_instances :
    (inbox.post mode signal).pending signal + (inbox.post mode signal).merged signal =
      inbox.pending signal + inbox.merged signal + 1 := by
  unfold post
  split
  · simp only [Function.update_self]
    omega
  · simp only [Function.update_self]
    omega

theorem post_merged_of_ne {other : Signal} (different : other ≠ signal) :
    (inbox.post mode signal).merged other = inbox.merged other := by
  unfold post
  split <;> simp [different]

theorem post_merged_of_queues (queues : mode.queues signal = true) :
    (inbox.post mode signal).merged = inbox.merged := by
  rw [post_eq (.inr queues)]

theorem post_pending_le_one (single : mode.queues signal = false)
    (few : inbox.pending signal ≤ 1) : (inbox.post mode signal).pending signal ≤ 1 := by
  unfold post
  split
  · next free =>
      rcases free with free | queues
      · simp [free]
      · rw [single] at queues
        cases queues
  · exact few

theorem post_pending_le :
    (inbox.post mode signal).pending signal ≤ inbox.pending signal + 1 := by
  unfold post
  split <;> simp

end Inbox

/-! ## The balance -/

/-- Whether the handler of the data signal is at the statement. -/
def stands [DecidableEq Pc] (handlers : HandlerStack Signal Pc) (pc : Pc) : Nat :=
  if handlers.pcOf .data = some pc then 1 else 0

structure Balanced (options : Options) (state : State) : Prop where
  counted : state.child.recByChild + stands state.child.handlers .count +
    (state.child.inbox.pending .data + state.child.inbox.merged .data) = state.parent.sent
  answered : state.child.answered + stands state.child.handlers .answer = state.child.recByChild
  received : state.parent.recByPar + stands state.parent.handlers .countReceived +
    (state.parent.inbox.pending .data + state.parent.inbox.merged .data) = state.child.answered
  /-- Real-time signals are queued. -/
  kept : options.mode = .realTime →
    state.child.inbox.merged .data = 0 ∧ state.parent.inbox.merged .data = 0
  single : options.mode ≠ .realTime →
    state.child.inbox.pending .data ≤ 1 ∧ state.parent.inbox.pending .data ≤ 1

namespace Balanced

theorem initial : Balanced options (initial options) := by
  constructor <;> simp [SignalModes.initial, Inbox.empty, stands]

/-- The data signal that the parent sends. -/
theorem post_child (balanced : Balanced options state) :
    (options.mode = .realTime → (state.child.inbox.post options.mode .data).merged .data = 0) ∧
      (options.mode ≠ .realTime →
        (state.child.inbox.post options.mode .data).pending .data ≤ 1) := by
  constructor
  · intro realTime
    rw [Inbox.post_merged_of_queues _ _ _ (by simp [Mode.queues, realTime])]
    exact (balanced.kept realTime).1
  · intro standard
    exact Inbox.post_pending_le_one _ _ _ (by simp [Mode.queues, standard])
      (balanced.single standard).1

theorem post_parent (balanced : Balanced options state) :
    (options.mode = .realTime → (state.parent.inbox.post options.mode .data).merged .data = 0) ∧
      (options.mode ≠ .realTime →
        (state.parent.inbox.post options.mode .data).pending .data ≤ 1) := by
  constructor
  · intro realTime
    rw [Inbox.post_merged_of_queues _ _ _ (by simp [Mode.queues, realTime])]
    exact (balanced.kept realTime).2
  · intro standard
    exact Inbox.post_pending_le_one _ _ _ (by simp [Mode.queues, standard])
      (balanced.single standard).2

theorem childStep (balanced : Balanced options state)
    (step : ChildStep options state following) : Balanced options following := by
  have counted := balanced.counted
  have answered := balanced.answered
  have received := balanced.received
  cases step with
  | count running =>
      have here := HandlerStack.pcOf_running running
      simp only [stands, here, Option.some.injEq, reduceCtorEq, if_true, if_false]
        at counted answered
      exact
        { balanced with
          counted := by
            simp [stands, HandlerStack.pcOf_move running]
            omega
          answered := by
            simp [stands, HandlerStack.pcOf_move running]
            omega }
  | answer running =>
      have here := HandlerStack.pcOf_running running
      simp only [stands, here, Option.some.injEq, reduceCtorEq, if_true, if_false]
        at counted answered
      have instances := state.parent.inbox.post_instances options.mode .data
      exact
        { counted := by
            simp [stands, HandlerStack.pcOf_move running]
            omega
          answered := by
            simp [stands, HandlerStack.pcOf_move running]
            omega
          received := by
            simp only [State.setChild_parent, State.setChild_child, State.killParent_parent_inbox,
              State.killParent_parent_recByPar, State.killParent_parent_handlers]
            omega
          kept := fun realTime =>
            ⟨(balanced.kept realTime).1, balanced.post_parent.1 realTime⟩
          single := fun standard =>
            ⟨(balanced.single standard).1, balanced.post_parent.2 standard⟩ }
  | leave running =>
      have here := HandlerStack.pcOf_running running
      simp only [stands, here, Option.some.injEq, reduceCtorEq, if_false] at counted answered
      exact
        { balanced with
          counted := by simpa [stands, HandlerStack.pcOf_leave running] using counted
          answered := by simpa [stands, HandlerStack.pcOf_leave running] using answered }
  | print running =>
      exact
        { balanced with
          counted := by simpa [stands, HandlerStack.pcOf_move running] using counted
          answered := by simpa [stands, HandlerStack.pcOf_move running] using answered }
  | exit running =>
      have other : Signal.data ≠ .child := by decide
      exact
        { balanced with
          received := by
            simpa [Inbox.post_pending_of_ne _ _ other, Inbox.post_merged_of_ne _ _ _ other]
              using received
          kept := by simpa [Inbox.post_merged_of_ne _ _ _ other] using balanced.kept
          single := by simpa [Inbox.post_pending_of_ne _ _ other] using balanced.single }

theorem interruptChild {signal : Signal} (balanced : Balanced options state)
    (interruption : ChildInterruption options state signal following) :
    Balanced options following := by
  have counted := balanced.counted
  have answered := balanced.answered
  cases interruption with
  | enter handlers unblocked pending first entered =>
      by_cases data : signal = .data
      · subst data
        simp only [stands, unblocked, reduceCtorEq, if_false] at counted answered
        exact
          { balanced with
            counted := by
              simp [stands, entered, childEntry]
              omega
            answered := by simpa [stands, entered, childEntry] using answered
            single := by
              intro standard
              have few := balanced.single standard
              simp
              omega }
      · have other := Ne.symm data
        exact
          { balanced with
            counted := by simpa [stands, entered, other] using counted
            answered := by simpa [stands, entered, other] using answered
            single := by simpa [other] using balanced.single }

/-- A data signal that is sent is on the balance of the child. -/
theorem sendData (balanced : Balanced options state) (parent : Parent)
    (sent : parent.sent = state.parent.sent + 1) (inbox : parent.inbox = state.parent.inbox)
    (recByPar : parent.recByPar = state.parent.recByPar)
    (handlers : stands parent.handlers .countReceived =
      stands state.parent.handlers .countReceived) :
    Balanced options ((state.killChild options.mode .data).setParent parent) := by
  have counted := balanced.counted
  have instances := state.child.inbox.post_instances options.mode .data
  exact
    { counted := by
        simp only [State.setParent_child, State.setParent_parent, State.killChild_child_inbox,
          State.killChild_child_recByChild, State.killChild_child_handlers, sent]
        omega
      answered := balanced.answered
      received := by simpa [inbox, recByPar, handlers] using balanced.received
      kept := by
        intro realTime
        refine ⟨balanced.post_child.1 realTime, ?_⟩
        simpa [inbox] using (balanced.kept realTime).2
      single := by
        intro standard
        refine ⟨balanced.post_child.2 standard, ?_⟩
        simpa [inbox] using (balanced.single standard).2 }

theorem mainStep (balanced : Balanced options state)
    (step : MainStep options state following) : Balanced options following := by
  cases step with
  | sendData i pc more => exact balanced.sendData _ rfl rfl rfl rfl
  | sendFirst pc => exact balanced.sendData _ rfl rfl rfl rfl
  | leaveLoop | countSent | keepWaiting | stopWaiting | wake => exact { balanced with }
  | sendStop pc =>
      have other : Signal.data ≠ .stop := by decide
      exact
        { balanced with
          counted := by
            simpa [Inbox.post_pending_of_ne _ _ other, Inbox.post_merged_of_ne _ _ _ other]
              using balanced.counted
          kept := by simpa [Inbox.post_merged_of_ne _ _ _ other] using balanced.kept
          single := by simpa [Inbox.post_pending_of_ne _ _ other] using balanced.single }

theorem handlerStep (balanced : Balanced options state)
    (step : ParentHandlerStep options state following) : Balanced options following := by
  have received := balanced.received
  cases step with
  | countReceived next running further =>
      have elsewhere : next ≠ .countReceived := by
        rw [further]
        split <;> decide
      simp only [stands, HandlerStack.pcOf_running running, if_true] at received
      exact
        { balanced with
          received := by
            simp [stands, HandlerStack.pcOf_move running, elsewhere]
            omega }
  | countSent _ running | more _ running | enough _ running =>
      simp only [stands, HandlerStack.pcOf_running running, Option.some.injEq, reduceCtorEq,
        if_false] at received
      exact
        { balanced with
          received := by simpa [stands, HandlerStack.pcOf_move running] using received }
  | answer _ running =>
      refine balanced.sendData _ rfl rfl rfl ?_
      simp [stands, HandlerStack.pcOf_move running, HandlerStack.pcOf_running running]
  | leave running =>
      simp only [stands, HandlerStack.pcOf_running running, Option.some.injEq, reduceCtorEq,
        if_false] at received
      exact
        { balanced with
          received := by simpa [stands, HandlerStack.pcOf_leave running] using received }
  | childExited parent pc running handlers kept =>
      rcases kept with ⟨inbox, sent, _, recByPar, _⟩
      exact
        { counted := by simpa [sent] using balanced.counted
          answered := balanced.answered
          received := by simpa [stands, handlers, inbox, recByPar] using received
          kept := by simpa [inbox] using balanced.kept
          single := by simpa [inbox] using balanced.single }

theorem interruptParent {signal : Signal} (balanced : Balanced options state)
    (interruption : ParentInterruption state signal following) :
    Balanced options following := by
  have received := balanced.received
  cases interruption with
  | enter handlers unblocked pending entered =>
      by_cases data : signal = .data
      · subst data
        simp only [stands, unblocked, reduceCtorEq, if_false] at received
        exact
          { balanced with
            received := by
              simp [stands, entered, parentEntry]
              omega
            single := by
              intro standard
              have few := balanced.single standard
              simp
              omega }
      · have other := Ne.symm data
        exact
          { balanced with
            received := by simpa [stands, entered, other] using received
            single := by simpa [other] using balanced.single }

end Balanced

theorem balanced (reachable : (system options).Reachable state) : Balanced options state := by
  apply reachable.invariant (Balanced options) .initial
  intro current action following balanced _ taken
  cases action with
  | parent =>
      cases parentStep_cases taken with
      | main _ step => exact balanced.mainStep step
      | handler step => exact balanced.handlerStep step
  | interruptParent signal => exact balanced.interruptParent (interruptParent_cases taken)
  | child => exact balanced.childStep (childStep_cases taken)
  | interruptChild signal => exact balanced.interruptChild (interruptChild_cases taken)

/-! ## How many signals are sent -/

/-- A signal that the loop has sent and not yet counted. -/
def ParentPc.uncounted : ParentPc → Nat
  | .countSent _ => 1
  | _ => 0

/-- What the loop of `Type` 1 and `Type` 3 has sent. -/
structure Looped (options : Options) (state : State) : Prop where
  loop : state.parent.pc ≠ .sendFirst ∧ state.parent.pc ≠ .testAll ∧ state.parent.pc ≠ .sleep
  sent : state.parent.sent = state.parent.pc.sentBefore.getD options.L
  bounded : ∀ count ∈ state.parent.pc.sentBefore, count ≤ options.L
  counted : state.parent.sentToChild + state.parent.pc.uncounted = state.parent.sent

namespace Looped

theorem initial (ignores : options.mode ≠ .acknowledged) : Looped options (initial options) := by
  constructor <;> simp [SignalModes.initial, ignores, ParentPc.sentBefore, ParentPc.uncounted]

theorem sent_le (looped : Looped options state) : state.parent.sent ≤ options.L := by
  rw [looped.sent]
  cases before : state.parent.pc.sentBefore with
  | none => exact Nat.le_refl _
  | some count => exact looped.bounded count before

theorem mainStep (looped : Looped options state) (step : MainStep options state following) :
    Looped options following := by
  rcases looped with ⟨loop, sent, bounded, counted⟩
  cases step with
  | sendData i pc more =>
      simp only [pc, ParentPc.sentBefore, ParentPc.uncounted, Option.getD_some] at sent counted
      exact
        { loop := by simp
          sent := by simp [ParentPc.sentBefore, sent]
          bounded := by
            simp [ParentPc.sentBefore]
            omega
          counted := by
            simp [ParentPc.uncounted]
            omega }
  | leaveLoop i pc all =>
      have within := bounded i (by simp [pc, ParentPc.sentBefore])
      simp only [pc, ParentPc.sentBefore, ParentPc.uncounted, Option.getD_some] at sent counted
      exact
        { loop := by simp
          sent := by
            simp [ParentPc.sentBefore]
            omega
          bounded := by simp [ParentPc.sentBefore]
          counted := counted }
  | countSent i pc =>
      simp only [pc, ParentPc.sentBefore, ParentPc.uncounted] at sent bounded counted
      exact
        { loop := by simp
          sent := sent
          bounded := bounded
          counted := counted }
  | sendFirst pc => exact absurd pc loop.1
  | keepWaiting pc | stopWaiting pc => exact absurd pc loop.2.1
  | wake pc => exact absurd pc loop.2.2
  | sendStop pc =>
      simp only [pc, ParentPc.sentBefore, ParentPc.uncounted] at sent counted
      exact
        { loop := by simp
          sent := sent
          bounded := by simp [ParentPc.sentBefore]
          counted := counted }

theorem handlerStep (looped : Looped options state) (ignores : options.mode ≠ .acknowledged)
    (step : ParentHandlerStep options state following) : Looped options following := by
  cases step with
  | countReceived | leave => exact { looped with }
  | countSent acknowledged | more acknowledged | enough acknowledged | answer acknowledged =>
      exact absurd acknowledged ignores
  | childExited parent pc running handlers kept =>
      rcases kept with ⟨_, sent, sentToChild, _, main⟩
      exact
        { loop := by simpa [main] using looped.loop
          sent := by simpa [main, sent] using looped.sent
          bounded := by simpa [main] using looped.bounded
          counted := by simpa [main, sent, sentToChild] using looped.counted }

end Looped

theorem looped (ignores : options.mode ≠ .acknowledged)
    (reachable : (system options).Reachable state) : Looped options state := by
  apply reachable.invariant (Looped options) (.initial ignores)
  intro current action following looped _ taken
  cases action with
  | parent =>
      cases parentStep_cases taken with
      | main _ step => exact looped.mainStep step
      | handler step => exact looped.handlerStep ignores step
  | interruptParent signal =>
      cases interruptParent_cases taken with
      | enter => exact { looped with }
  | child =>
      cases childStep_cases taken with
      | count | answer | leave | print | exit => exact { looped with }
  | interruptChild signal =>
      cases interruptChild_cases taken with
      | enter => exact { looped with }

/-- The signal that goes back and forth with `Type` 2 has been sent at most L times. -/
theorem InStage.sent_le {stage : Stage} (inStage : InStage options state stage)
    (balanced : Balanced options state) : state.parent.sent ≤ options.L := by
  have counted := balanced.counted
  have bounded := inStage.bounded
  have kept := (inStage.kept .data (by decide)).1
  have counting : stands state.child.handlers .count = if stage = .counting then 1 else 0 := by
    have here := inStage.childPc
    unfold stands
    cases handler : state.child.handlers.pcOf .data with
    | none => cases stage <;> simp_all [Stage.childPc]
    | some pc => cases stage <;> cases pc <;> simp_all [Stage.childPc]
  rw [counting, inStage.toChild, kept] at counted
  cases stage <;> simp [Stage.missing] at counted bounded <;> omega

theorem sent_le (started : options.mode = .acknowledged → 0 < options.L)
    (reachable : (system options).Reachable state) : state.parent.sent ≤ options.L := by
  by_cases acknowledged : options.mode = .acknowledged
  · rcases inStage acknowledged (started acknowledged) reachable with ⟨stage, inStage⟩
    exact inStage.sent_le (balanced reachable)
  · exact (looped acknowledged reachable).sent_le

/-- When the stop signal has been sent, all data signals have been. -/
theorem sentToChild_of_pause (started : options.mode = .acknowledged → 0 < options.L)
    (reachable : (system options).Reachable state) (pause : state.parent.pc = .pause) :
    state.parent.sentToChild = options.L := by
  by_cases acknowledged : options.mode = .acknowledged
  · rcases inStage acknowledged (started acknowledged) reachable with ⟨stage, inStage⟩
    exact inStage.finished (inStage.stopped (.inr pause))
  · have looped := looped acknowledged reachable
    have counted := looped.counted
    rw [looped.sent, pause] at counted
    exact counted

/-- When the child has exited, the parent is done with its loop. -/
theorem pause_of_exited (reachable : (system options).Reachable state)
    (exited : state.child.exited = true) : state.parent.pc = .pause := by
  have ordered := childOrdered reachable
  refine ordered.stopped.mp (.inr ?_)
  simp [ordered.exited exited]

/-! ## What is printed -/

/-- The parent prints L, and not more answers than it has counted. -/
def ParentPrints (options : Options) (state : State) : Prop :=
  ∀ counts, state.parent.printed = some counts →
    counts.1 = options.L ∧ counts.2 ≤ state.parent.recByPar

namespace ParentPrints

/-- A step of the handler of a data signal prints nothing. -/
theorem handlerStep (prints : ParentPrints options state) {pc : ParentHandlerPc}
    (data : state.parent.handlers.running = some (.data, pc))
    (step : ParentHandlerStep options state following) : ParentPrints options following := by
  cases step with
  | countReceived =>
      intro counts printed
      rcases prints counts printed with ⟨sent, received⟩
      exact ⟨sent, Nat.le_succ_of_le received⟩
  | countSent | more | enough | answer | leave => exact prints
  | childExited _ _ running =>
      rw [data] at running
      cases running

theorem waitStep (prints : ParentPrints options state)
    (sent : state.parent.handlers.pcOf .child ≠ none → state.parent.sentToChild = options.L)
    (step : WaitStep state following) : ParentPrints options following := by
  cases step with
  | waitChild | exit => exact prints
  | print running =>
      have here := HandlerStack.pcOf_running running
      rintro counts ⟨⟩
      exact ⟨sent (by simp [here]), Nat.le_refl _⟩

end ParentPrints

theorem parentPrints (started : options.mode = .acknowledged → 0 < options.L)
    (reachable : (system options).Reachable state) : ParentPrints options state := by
  have finished (current : State) (reachable : (system options).Reachable current)
      (handles : current.parent.handlers.pcOf .child ≠ none) :
      current.parent.sentToChild = options.L := by
    have exited := (parentOrdered reachable).waiting.mp (.inr handles)
    exact sentToChild_of_pause started reachable (pause_of_exited reachable exited)
  refine reachable.invariant_of (ParentPrints options) finished ?_ ?_
  · intro counts printed
    cases printed
  · intro current action following known prints _ taken
    cases action with
    | parent =>
        rcases parentStep_cases taken with ⟨_, step⟩ | step
        · cases step <;> exact prints
        · cases running : current.parent.handlers.running with
          | none => exact absurd running step.busy
          | some frame =>
              rcases frame with ⟨signal, pc⟩
              cases signal with
              | data => exact prints.handlerStep running step
              | child => exact prints.waitStep known (parentStep_waiting running taken)
              | stop => simp [system, parentStep, running, parentHandler] at taken
    | interruptParent signal =>
        cases interruptParent_cases taken with
        | enter => exact prints
    | child =>
        cases childStep_cases taken with
        | count | answer | leave | print | exit => exact prints
    | interruptChild signal =>
        cases interruptChild_cases taken with
        | enter => exact prints

/-- No signal and no answer is made up or counted twice, and what is missing from the printed
counts is pending or was lost to a pending signal. -/
structure Accounted (options : Options) (state : State) : Prop extends
    Balanced options state where
  sent : state.parent.sent ≤ options.L
  childPrinted : ∀ recByChild, state.child.printed = some recByChild →
    recByChild ≤ state.child.recByChild
  parentPrinted : ∀ sentToChild recByPar,
    state.parent.printed = some (sentToChild, recByPar) →
      sentToChild = options.L ∧ recByPar ≤ state.parent.recByPar

/-- In each mode the counts are accounted for at every moment, whatever the signals interrupt.
With `Type` 2 and L = 0 the signals would go back and forth for ever. -/
theorem accounted (options : Options) (started : options.mode = .acknowledged → 0 < options.L)
    {state : State} (reachable : (system options).Reachable state) : Accounted options state :=
  { balanced reachable with
    sent := sent_le started reachable
    childPrinted := (childOrdered reachable).printed
    parentPrinted := fun _ _ printed => parentPrints started reachable _ printed }

def twoStandard : Options where
  mode := .standard
  L := 2

/-- The second data signal is merged into the first. -/
def mergedOnce : State :=
  (system twoStandard).after
    (List.replicate 6 .parent ++
      [.interruptChild .data, .child, .child, .child, .interruptParent .data, .parent, .parent,
        .interruptChild .stop, .child, .child, .interruptParent .child, .parent, .parent])
    rfl

theorem accounted_mergedOnce :
    mergedOnce.child.printed = some 1 ∧ mergedOnce.parent.printed = some (2, 1) ∧
      mergedOnce.child.inbox.merged .data = 1 ∧ Accounted twoStandard mergedOnce :=
  ⟨rfl, rfl, rfl,
    accounted twoStandard (by decide) ((system twoStandard).after_reachable _ rfl)⟩

end OsExercises.SignalModes
