import OsExercises.SignalModes.Steps

/-! # Acknowledged signals

With `Type` 2 a single data signal goes back and forth between the parent and the
child, and the stop signal is sent when it has done so L times. The invariant follows
the signal from stage to stage. -/

namespace OsExercises.SignalModes

open OsExercises

variable {options : Options} {state following : State}

/-- Where the data signal is. -/
inductive Stage
  /-- not sent yet -/
  | starting
  | toChild
  /-- in the child's handler, before `recByChild++` -/
  | counting
  | answering
  | toParent
  /-- in the parent's handler, before `recByPar++` -/
  | received
  /-- before `sentToChild++` -/
  | recorded
  | testing
  | resending
  /-- not sent any more -/
  | finished
  deriving DecidableEq

namespace Stage

def Starting : Stage → Prop
  | .starting => True
  | _ => False

def Finished : Stage → Prop
  | .finished => True
  | _ => False

/-- What the child's handler is about to do with the signal. -/
def childPc : Stage → Option ChildHandlerPc
  | .counting => some .count
  | .answering => some .answer
  | _ => none

def parentPc : Stage → Option ParentHandlerPc
  | .received => some .countReceived
  | .recorded => some .countSent
  | .testing => some .testAll
  | .resending => some .answer
  | _ => none

/-- The child has counted the signal, the parent has not. -/
def ahead : Stage → Nat
  | .answering | .toParent | .received => 1
  | _ => 0

/-- The parent has counted the signal as received, and not yet as sent. -/
def unsent : Stage → Nat
  | .recorded => 1
  | _ => 0

/-- The child has the signal still to count. -/
def missing : Stage → Nat
  | .starting | .toChild | .counting | .resending => 1
  | _ => 0

end Stage

structure InStage (options : Options) (state : State) (stage : Stage) : Prop where
  notLoop : state.parent.pc.sentBefore = none
  starting : state.parent.pc = .sendFirst ↔ stage.Starting
  toChild : state.child.inbox.pending .data = if stage = .toChild then 1 else 0
  toParent : state.parent.inbox.pending .data = if stage = .toParent then 1 else 0
  childPc : (state.child.handlers.pcOf .data).filter (· ≠ .done) = stage.childPc
  parentPc : (state.parent.handlers.pcOf .data).filter (· ≠ .done) = stage.parentPc
  ahead : state.child.recByChild = state.parent.recByPar + stage.ahead
  unsent : state.parent.recByPar = state.parent.sentToChild + stage.unsent
  bounded : state.child.recByChild + stage.missing ≤ options.L
  finished : stage.Finished → state.parent.sentToChild = options.L
  stopped : state.parent.pc = .sendStop ∨ state.parent.pc = .pause → stage.Finished
  stopSent : 0 < state.child.inbox.pending .stop ∨ state.child.handlers.pcOf .stop ≠ none →
    state.parent.pc = .pause
  printed : ∀ recByChild, state.child.printed = some recByChild → recByChild = options.L
  kept : ∀ signal, signal ≠ .child →
    state.child.inbox.merged signal = 0 ∧ state.parent.inbox.merged signal = 0

namespace InStage

variable {stage : Stage}

theorem initial (acknowledged : options.mode = .acknowledged) (positive : 0 < options.L) :
    InStage options (initial options) .starting := by
  constructor <;>
    simp [SignalModes.initial, acknowledged, ParentPc.sentBefore, Inbox.empty, Stage.childPc,
      Stage.parentPc, Stage.ahead, Stage.unsent, Stage.missing, Stage.Starting, Stage.Finished]
  omega

/-! ### The stage shows in the handlers and in the pending signals -/

theorem of_childPc (inStage : InStage options state stage) {pc : ChildHandlerPc}
    (running : state.child.handlers.running = some (.data, pc)) (busy : pc ≠ .done) :
    stage.childPc = some pc := by
  rw [← inStage.childPc, HandlerStack.pcOf_running running]
  simp [busy]

theorem of_parentPc (inStage : InStage options state stage) {pc : ParentHandlerPc}
    (running : state.parent.handlers.running = some (.data, pc)) (busy : pc ≠ .done) :
    stage.parentPc = some pc := by
  rw [← inStage.parentPc, HandlerStack.pcOf_running running]
  simp [busy]

/-- While the parent handles no data signal, the signal is elsewhere. -/
theorem parentPc_none (inStage : InStage options state stage)
    (absent : state.parent.handlers.pcOf .data = none) : stage.parentPc = none := by
  rw [← inStage.parentPc, absent]
  rfl

/-- When the signals sent have all come back, the last one is not on its way. -/
theorem finished_of_sent (inStage : InStage options state stage) (outside : stage.parentPc = none)
    (sent : state.parent.sentToChild = options.L) : stage.Finished := by
  have ahead := inStage.ahead
  have unsent := inStage.unsent
  have bounded := inStage.bounded
  cases stage with
  | starting | toChild | counting | answering | toParent =>
      simp only [Stage.ahead, Stage.unsent, Stage.missing] at ahead unsent bounded
      omega
  | received | recorded | testing | resending => cases outside
  | finished => trivial

/-- A data signal that is sent to the child finds none pending. -/
theorem post_data (inStage : InStage options state stage) (elsewhere : stage ≠ .toChild) :
    state.child.inbox.post options.mode .data =
      { state.child.inbox with pending := Function.update state.child.inbox.pending .data 1 } := by
  have nothing := inStage.toChild
  rw [if_neg elsewhere] at nothing
  rw [Inbox.post_eq (.inl nothing), nothing]

theorem post_answer (inStage : InStage options state stage) (elsewhere : stage ≠ .toParent) :
    state.parent.inbox.post options.mode .data =
      { state.parent.inbox with
        pending := Function.update state.parent.inbox.pending .data 1 } := by
  have nothing := inStage.toParent
  rw [if_neg elsewhere] at nothing
  rw [Inbox.post_eq (.inl nothing), nothing]

/-! ### Steps -/

theorem childStep (inStage : InStage options state stage)
    (step : ChildStep options state following) :
    ∃ next, InStage options following next := by
  have ahead := inStage.ahead
  have bounded := inStage.bounded
  cases step with
  | count running =>
      have here := inStage.of_childPc running (by simp)
      cases stage <;> cases here
      refine ⟨.answering, ?_⟩
      exact
        { inStage with
          childPc := by simp [HandlerStack.pcOf_move running, Stage.childPc]
          ahead := by
            simp only [Stage.ahead, State.setChild_child, State.setChild_parent] at ahead ⊢
            omega
          bounded := by
            simp only [Stage.missing, State.setChild_child] at bounded ⊢
            omega
          stopSent := by simpa [HandlerStack.pcOf_move running] using inStage.stopSent
          finished := by simp [Stage.Finished] }
  | answer running =>
      have here := inStage.of_childPc running (by simp)
      cases stage <;> cases here
      have posted := inStage.post_answer (by simp)
      refine ⟨.toParent, ?_⟩
      exact
        { inStage with
          toParent := by simp [posted]
          childPc := by simp [HandlerStack.pcOf_move running, Stage.childPc]
          stopSent := by simpa [HandlerStack.pcOf_move running] using inStage.stopSent
          finished := by simp [Stage.Finished]
          kept := by simpa [posted] using inStage.kept }
  | leave running =>
      have idle : none = stage.childPc := by
        rw [← inStage.childPc, HandlerStack.pcOf_running running]
        rfl
      refine ⟨stage, ?_⟩
      exact
        { inStage with
          childPc := by simpa [HandlerStack.pcOf_leave running] using idle
          stopSent := by simpa [HandlerStack.pcOf_leave running] using inStage.stopSent }
  | print running =>
      have stopSent := inStage.stopSent (.inr (by simp [HandlerStack.pcOf_running running]))
      have finished := inStage.stopped (.inr stopSent)
      refine ⟨stage, ?_⟩
      exact
        { inStage with
          childPc := by simpa [HandlerStack.pcOf_move running] using inStage.childPc
          stopSent := fun _ => stopSent
          printed := by
            intro recByChild printed
            have sent := inStage.finished finished
            have unsent := inStage.unsent
            cases stage <;> cases finished
            cases printed
            simp only [Stage.ahead, Stage.unsent] at ahead unsent
            omega }
  | exit running =>
      have other (signal : Signal) (different : signal ≠ .child) :
          (state.parent.inbox.post options.mode .child).merged signal =
            state.parent.inbox.merged signal := by
        unfold Inbox.post
        split <;> simp [different]
      refine ⟨stage, ?_⟩
      exact
        { inStage with
          toParent := by
            simpa [Inbox.post_pending_of_ne _ _ (show Signal.data ≠ .child by decide)] using
              inStage.toParent
          kept := by
            intro signal different
            refine ⟨(inStage.kept signal different).1, ?_⟩
            simpa [other signal different] using (inStage.kept signal different).2 }

theorem interruptChild {signal : Signal} (inStage : InStage options state stage)
    (interruption : ChildInterruption options state signal following) :
    ∃ next, InStage options following next := by
  cases interruption with
  | enter handlers unblocked pending first entered =>
      cases signal with
      | data =>
          have here := inStage.toChild
          cases stage <;> simp only [reduceCtorEq, if_false, if_true] at here <;>
            first | omega | skip
          refine ⟨.counting, ?_⟩
          exact
            { inStage with
              toChild := by simp [here]
              childPc := by simp [entered, childEntry, Stage.childPc]
              stopSent := by simpa [entered] using inStage.stopSent
              finished := by simp [Stage.Finished] }
      | stop =>
          refine ⟨stage, ?_⟩
          exact
            { inStage with
              toChild := by simpa using inStage.toChild
              childPc := by simpa [entered] using inStage.childPc
              stopSent := fun _ => inStage.stopSent (.inl pending) }
      | child =>
          refine ⟨stage, ?_⟩
          exact
            { inStage with
              toChild := by simpa using inStage.toChild
              childPc := by simpa [entered] using inStage.childPc
              stopSent := by simpa [entered] using inStage.stopSent }

theorem mainStep (inStage : InStage options state stage)
    (idle : state.parent.handlers.running = none) (step : MainStep options state following) :
    ∃ next, InStage options following next := by
  have outside := inStage.parentPc_none (HandlerStack.pcOf_idle idle _)
  have notLoop := inStage.notLoop
  cases step with
  | sendData i pc | leaveLoop i pc | countSent i pc => simp [pc, ParentPc.sentBefore] at notLoop
  | sendFirst pc =>
      have here := inStage.starting.mp pc
      cases stage <;> cases here
      have posted := inStage.post_data (by simp)
      refine ⟨.toChild, ?_⟩
      exact
        { inStage with
          notLoop := rfl
          starting := by simp [Stage.Starting]
          toChild := by simp [posted]
          stopped := by simp
          stopSent := by
            intro stopSent
            have pause := inStage.stopSent (by simpa [posted] using stopSent)
            rw [pc] at pause
            cases pause
          kept := by simpa [posted] using inStage.kept }
  | keepWaiting pc | wake pc =>
      refine ⟨stage, ?_⟩
      have started := inStage.starting
      have stopSent := inStage.stopSent
      simp only [pc, reduceCtorEq, false_iff] at started stopSent
      exact
        { inStage with
          notLoop := rfl
          starting := by simpa using started
          stopped := by simp
          stopSent := by simpa using stopSent }
  | stopWaiting pc all =>
      have finished := inStage.finished_of_sent outside all
      have started := inStage.starting
      have stopSent := inStage.stopSent
      simp only [pc, reduceCtorEq, false_iff] at started stopSent
      refine ⟨stage, ?_⟩
      exact
        { inStage with
          notLoop := rfl
          starting := by simpa using started
          stopped := fun _ => finished
          stopSent := by simpa using stopSent }
  | sendStop pc =>
      have finished := inStage.stopped (.inl pc)
      have started := inStage.starting
      simp only [pc, reduceCtorEq, false_iff] at started
      have nothing : state.child.inbox.pending .stop = 0 := by
        by_contra pending
        have pause := inStage.stopSent (.inl (Nat.pos_of_ne_zero pending))
        rw [pc] at pause
        cases pause
      have posted : state.child.inbox.post options.mode .stop =
          { state.child.inbox with
            pending := Function.update state.child.inbox.pending .stop 1 } := by
        rw [Inbox.post_eq (.inl nothing), nothing]
      refine ⟨stage, ?_⟩
      exact
        { inStage with
          notLoop := rfl
          starting := by simpa using started
          toChild := by simpa [posted] using inStage.toChild
          stopped := fun _ => finished
          stopSent := by simp
          kept := by simpa [posted] using inStage.kept }

theorem handlerStep (inStage : InStage options state stage)
    (acknowledged : options.mode = .acknowledged)
    (step : ParentHandlerStep options state following) :
    ∃ next, InStage options following next := by
  have ahead := inStage.ahead
  have unsent := inStage.unsent
  have bounded := inStage.bounded
  cases step with
  | countReceived next running further =>
      have here := inStage.of_parentPc running (by simp)
      cases stage <;> cases here
      rw [if_pos acknowledged] at further
      refine ⟨.recorded, ?_⟩
      exact
        { inStage with
          parentPc := by simp [HandlerStack.pcOf_move running, further, Stage.parentPc]
          ahead := by
            simp only [Stage.ahead, State.setParent_child, State.setParent_parent] at ahead ⊢
            omega
          unsent := by
            simp only [Stage.unsent, State.setParent_parent] at unsent ⊢
            omega
          finished := by simp [Stage.Finished] }
  | countSent _ running =>
      have here := inStage.of_parentPc running (by simp)
      cases stage <;> cases here
      refine ⟨.testing, ?_⟩
      exact
        { inStage with
          parentPc := by simp [HandlerStack.pcOf_move running, Stage.parentPc]
          unsent := by
            simp only [Stage.unsent, State.setParent_parent] at unsent ⊢
            omega
          finished := by simp [Stage.Finished] }
  | more _ running missing =>
      have here := inStage.of_parentPc running (by simp)
      cases stage <;> cases here
      refine ⟨.resending, ?_⟩
      exact
        { inStage with
          parentPc := by simp [HandlerStack.pcOf_move running, Stage.parentPc]
          bounded := by
            simp only [Stage.ahead, Stage.unsent, Stage.missing, State.setParent_child] at *
            omega
          finished := by simp [Stage.Finished] }
  | enough _ running all =>
      have here := inStage.of_parentPc running (by simp)
      cases stage <;> cases here
      refine ⟨.finished, ?_⟩
      exact
        { inStage with
          parentPc := by simp [HandlerStack.pcOf_move running, Stage.parentPc]
          finished := fun _ => all
          stopped := fun _ => trivial }
  | answer _ running =>
      have here := inStage.of_parentPc running (by simp)
      cases stage <;> cases here
      have posted := inStage.post_data (by simp)
      refine ⟨.toChild, ?_⟩
      exact
        { inStage with
          toChild := by simp [posted]
          parentPc := by simp [HandlerStack.pcOf_move running, Stage.parentPc]
          stopSent := by simpa [posted] using inStage.stopSent
          finished := by simp [Stage.Finished]
          kept := by simpa [posted] using inStage.kept }
  | leave running =>
      have idle : none = stage.parentPc := by
        rw [← inStage.parentPc, HandlerStack.pcOf_running running]
        rfl
      refine ⟨stage, ?_⟩
      exact
        { inStage with
          parentPc := by simpa [HandlerStack.pcOf_leave running] using idle }
  | childExited parent pc running handlers kept =>
      rcases kept with ⟨inbox, _, sentToChild, recByPar, main⟩
      refine ⟨stage, ?_⟩
      exact
        { inStage with
          notLoop := by simpa [main] using inStage.notLoop
          starting := by simpa [main] using inStage.starting
          toParent := by simpa [inbox] using inStage.toParent
          parentPc := by simpa [handlers] using inStage.parentPc
          ahead := by simpa [recByPar] using ahead
          unsent := by simpa [recByPar, sentToChild] using unsent
          finished := by simpa [sentToChild] using inStage.finished
          stopped := by simpa [main] using inStage.stopped
          stopSent := by simpa [main] using inStage.stopSent
          kept := by simpa [inbox] using inStage.kept }

theorem interruptParent {signal : Signal} (inStage : InStage options state stage)
    (interruption : ParentInterruption state signal following) :
    ∃ next, InStage options following next := by
  cases interruption with
  | enter handlers unblocked pending entered =>
      cases signal with
      | data =>
          have here := inStage.toParent
          cases stage <;> simp only [reduceCtorEq, if_false, if_true] at here <;>
            first | omega | skip
          refine ⟨.received, ?_⟩
          exact
            { inStage with
              toParent := by simp [here]
              parentPc := by simp [entered, parentEntry, Stage.parentPc]
              finished := by simp [Stage.Finished] }
      | stop | child =>
          refine ⟨stage, ?_⟩
          exact
            { inStage with
              toParent := by simpa using inStage.toParent
              parentPc := by simpa [entered] using inStage.parentPc }

end InStage

theorem inStage (acknowledged : options.mode = .acknowledged) (positive : 0 < options.L)
    (reachable : (system options).Reachable state) : ∃ stage, InStage options state stage := by
  refine reachable.invariant (fun state => ∃ stage, InStage options state stage)
    ⟨_, .initial acknowledged positive⟩ ?_
  intro current action following known _ taken
  rcases known with ⟨stage, inStage⟩
  cases action with
  | parent =>
      cases parentStep_cases taken with
      | main idle step => exact inStage.mainStep idle step
      | handler step => exact inStage.handlerStep acknowledged step
  | interruptParent signal => exact inStage.interruptParent (interruptParent_cases taken)
  | child => exact inStage.childStep (childStep_cases taken)
  | interruptChild signal => exact inStage.interruptChild (interruptChild_cases taken)

/-- The counters agree up to the signal on its way, and no signal is lost. -/
structure Exact (options : Options) (state : State) : Prop where
  inFlight : state.child.inbox.pending .data + state.parent.inbox.pending .data ≤ 1
  ahead : state.parent.recByPar ≤ state.child.recByChild ∧
    state.child.recByChild ≤ state.parent.recByPar + 1
  /-- outside `catchParent2USR1` -/
  acknowledged : state.parent.handlers.pcOf .data = none →
    state.parent.sentToChild = state.parent.recByPar
  stopped : 0 < state.child.inbox.pending .stop ∨ state.child.handlers.pcOf .stop ≠ none →
    state.child.recByChild = options.L ∧ state.parent.recByPar = options.L ∧
      state.parent.sentToChild = options.L
  printed : ∀ recByChild, state.child.printed = some recByChild → recByChild = options.L
  kept : ∀ signal, signal ≠ .child →
    state.child.inbox.merged signal = 0 ∧ state.parent.inbox.merged signal = 0

/-- With `Type` 2 every signal is counted, and the stop signal comes after the last. -/
theorem every_signal_counted (options : Options) (acknowledged : options.mode = .acknowledged)
    (positive : 0 < options.L) {state : State} (reachable : (system options).Reachable state) :
    Exact options state := by
  rcases inStage acknowledged positive reachable with ⟨stage, inStage⟩
  have ahead := inStage.ahead
  have unsent := inStage.unsent
  have below : stage.ahead ≤ 1 := by cases stage <;> decide
  exact
    { inFlight := by
        rw [inStage.toChild, inStage.toParent]
        cases stage <;> decide
      ahead := by omega
      acknowledged := by
        intro absent
        have outside := inStage.parentPc_none absent
        have counted : stage.unsent = 0 := by
          cases stage <;> first | rfl | cases outside
        omega
      stopped := by
        intro stopped
        have finished := inStage.stopped (.inr (inStage.stopSent stopped))
        have sent := inStage.finished finished
        cases stage <;> cases finished
        simp only [Stage.ahead, Stage.unsent] at ahead unsent
        omega
      printed := inStage.printed
      kept := inStage.kept }

def oneAcknowledged : Options where
  mode := .acknowledged
  L := 1

/-- The only signal has come back, and the stop signal has been delivered. -/
def acknowledgedOnce : State :=
  (system oneAcknowledged).after
    ([.parent, .interruptChild .data, .child, .child, .interruptParent .data] ++
      List.replicate 6 .parent ++ [.interruptChild .stop])
    rfl

theorem every_signal_counted_once :
    acknowledgedOnce.child.handlers.pcOf .stop = some .print ∧
      Exact oneAcknowledged acknowledgedOnce :=
  ⟨rfl, every_signal_counted oneAcknowledged rfl (by decide)
    ((system oneAcknowledged).after_reachable _ rfl)⟩

end OsExercises.SignalModes
