import OsExercises.WorkRequests.Processes

/-! # What the parent and its children do

The statements of the processes, and the delivery of a signal, one case each. -/

namespace OsExercises.WorkRequests

open OsExercises

variable {N : Nat} {K : Int} {state following : State N}

/-! ## Children -/

inductive ChildStep (state : State N) (self : Fin N) : State N → Prop
  | waitRequest {flag : Nat} (idle : (state.child self).handler = none)
      (pc : (state.child self).pc = .waitRequest) (free : state.flag = flag + 1) :
      ChildStep state self
        ((state.setFlag flag).setChild self { state.child self with pc := .sendRequest })
  | sendRequest (idle : (state.child self).handler = none)
      (pc : (state.child self).pc = .sendRequest) :
      ChildStep state self
        ((state.setParent { state.parent with usr1 := state.parent.usr1.post self }).setChild self
          { state.child self with pc := .pause })
  | pause (idle : (state.child self).handler = none) (pc : (state.child self).pc = .pause) :
      ChildStep state self (state.setChild self { state.child self with pc := .paused })
  | waitExit {flag : Nat} (idle : (state.child self).handler = none)
      (pc : (state.child self).pc = .waitExit) (free : state.flag = flag + 1) :
      ChildStep state self
        ((state.setFlag flag).setChild self { state.child self with pc := .exit })
  | exit (idle : (state.child self).handler = none) (pc : (state.child self).pc = .exit) :
      ChildStep state self
        ((state.setParent
          { state.parent with sigchld := state.parent.sigchld.post self }).setChild self
          { state.child self with pc := .zombie })

theorem childMain_cases {self : Fin N} (idle : (state.child self).handler = none)
    (taken : childMain state self = some following) : ChildStep state self following := by
  cases pc : (state.child self).pc with
  | waitRequest =>
      simp only [childMain, pc] at taken
      rcases Option.map_eq_some_iff.mp taken with ⟨flag, waited, same⟩
      cases same
      exact .waitRequest idle pc (semWait_eq_some.mp waited)
  | sendRequest =>
      simp only [childMain, pc] at taken
      cases taken
      exact .sendRequest idle pc
  | pause =>
      simp only [childMain, pc] at taken
      cases taken
      exact .pause idle pc
  | waitExit =>
      simp only [childMain, pc] at taken
      rcases Option.map_eq_some_iff.mp taken with ⟨flag, waited, same⟩
      cases same
      exact .waitExit idle pc (semWait_eq_some.mp waited)
  | exit =>
      simp only [childMain, pc] at taken
      cases taken
      exact .exit idle pc
  | paused | zombie | reaped =>
      simp only [childMain, pc] at taken
      cases taken

/-- The steps of `catchUSR2`. -/
inductive AnswerStep (state : State N) (self : Fin N) : State N → Prop
  | wait {flag : Nat} (handler : (state.child self).handler = some .wait)
      (free : state.flag = flag + 1) :
      AnswerStep state self
        ((state.setFlag flag).setChild self { state.child self with handler := some .queue })
  | queue {realTime : Nat → Nat} (handler : (state.child self).handler = some .queue) :
      AnswerStep state self
        ((state.setParent { state.parent with realTime := realTime }).setChild self
          { state.child self with handler := some .post })
  | post (handler : (state.child self).handler = some .post) :
      AnswerStep state self
        ((state.setFlag (state.flag + 1)).setChild self
          { state.child self with handler := some .done })
  | leave (handler : (state.child self).handler = some .done) :
      AnswerStep state self (state.setChild self { state.child self with handler := none })

theorem childStep_cases {self : Fin N} {newSig : Nat}
    (taken : childStep state self newSig = some following) :
    ChildStep state self following ∨ AnswerStep state self following := by
  simp only [childStep] at taken
  cases handler : (state.child self).handler with
  | none =>
      rw [handler] at taken
      exact .inl (childMain_cases handler taken)
  | some pc =>
      rw [handler] at taken
      refine .inr ?_
      cases pc with
      | wait =>
          rcases Option.map_eq_some_iff.mp taken with ⟨flag, waited, same⟩
          cases same
          exact .wait handler (semWait_eq_some.mp waited)
      | queue =>
          simp only [catchUSR2] at taken
          split at taken
          · cases taken
            exact .queue handler
          · cases taken
      | post =>
          cases taken
          exact .post handler
      | done =>
          cases taken
          exact .leave handler

/-- SIGUSR2 interrupts a child, which goes on at `pc` after its handler. -/
inductive ChildInterruption (state : State N) (self : Fin N) : State N → Prop
  | resumes (sent : (state.child self).usr2.sender = some ())
      (idle : (state.child self).handler = none) :
      ChildInterruption state self
        (state.setChild self ((state.child self).deliver (state.child self).pc.resumed))

theorem interruptChild_cases {self : Fin N}
    (taken : interruptChild state self = some following) :
    ChildInterruption state self following := by
  simp only [interruptChild] at taken
  split at taken
  · next enabled =>
      cases taken
      exact .resumes enabled.1 enabled.2.1
  · cases taken

/-- A `sem_wait` is interrupted only in front of one of the two holds. -/
theorem interruptWait_cases {self : Fin N} (taken : interruptWait state self = some following) :
    (state.child self).usr2.sender = some () ∧
      ((state.child self).pc = .waitRequest ∨ (state.child self).pc = .waitExit) := by
  simp only [interruptWait] at taken
  split at taken
  · next enabled =>
      refine ⟨enabled.1, ?_⟩
      rcases Option.map_eq_some_iff.mp taken with ⟨next, interrupted, _⟩
      cases pc : (state.child self).pc with
      | waitRequest => exact .inl rfl
      | waitExit => exact .inr rfl
      | sendRequest | pause | paused | exit | zombie | reaped =>
          rw [pc] at interrupted
          cases interrupted
  · cases taken

/-! ## The parent -/

/-- The steps of `catchUSR1`. -/
inductive RequestStep (K : Int) (state : State N) : State N → Prop
  | record {cpid : Fin N} {childBuf : Nat → Option (Fin N)}
      (running : state.parent.handlers.running = some (.usr1, .record cpid))
      (recorded : state.parent.k < K → childBuf state.parent.k = some cpid)
      (kept : ∀ l, l ≠ state.parent.k → childBuf l = state.parent.childBuf l) :
      RequestStep K state
        (state.setParent { state.parent.move (.count cpid) with childBuf := childBuf })
  | count {cpid : Fin N} (running : state.parent.handlers.running = some (.usr1, .count cpid)) :
      RequestStep K state
        (state.setParent
          { state.parent.move (.test cpid) with
            k := state.parent.k + 1, requesters := state.parent.requesters ++ [cpid] })
  | late {cpid : Fin N} (running : state.parent.handlers.running = some (.usr1, .test cpid))
      (above : state.parent.k > K) :
      RequestStep K state (state.setParent (state.parent.move (.allow cpid)))
  | last {cpid : Fin N} (running : state.parent.handlers.running = some (.usr1, .test cpid))
      (reached : state.parent.k = K) :
      RequestStep K state (state.setParent (state.parent.move (.allowBulk 0)))
  | early {cpid : Fin N} (running : state.parent.handlers.running = some (.usr1, .test cpid))
      (below : state.parent.k < K) :
      RequestStep K state (state.setParent (state.parent.move .post))
  | allow {cpid : Fin N} (running : state.parent.handlers.running = some (.usr1, .allow cpid)) :
      RequestStep K state ((state.setParent (state.parent.move .post)).killChild cpid)
  | allowBulk {l : Nat} {cpid : Fin N}
      (running : state.parent.handlers.running = some (.usr1, .allowBulk l))
      (more : l < state.parent.k) (entry : state.parent.childBuf l = some cpid) :
      RequestStep K state
        ((state.setParent (state.parent.move (.allowBulk (l + 1)))).killChild cpid)
  | bulkDone {l : Nat} (running : state.parent.handlers.running = some (.usr1, .allowBulk l))
      (all : state.parent.k ≤ l) :
      RequestStep K state (state.setParent (state.parent.move .post))
  | post (running : state.parent.handlers.running = some (.usr1, .post)) :
      RequestStep K state ((state.setFlag (state.flag + 1)).setParent (state.parent.move .done))
  | leave (running : state.parent.handlers.running = some (.usr1, .done)) :
      RequestStep K state
        (state.setParent { state.parent with handlers := state.parent.handlers.leave })

theorem catchUSR1_cases {pc : HandlerPc N}
    (running : state.parent.handlers.running = some (.usr1, pc))
    (taken : catchUSR1 K state pc = some following) : RequestStep K state following := by
  cases pc with
  | record cpid =>
      cases taken
      refine .record running ?_ ?_
      · intro below
        rw [if_pos below, Function.update_self]
      · intro l different
        split
        · exact Function.update_of_ne different ..
        · rfl
  | count cpid =>
      cases taken
      exact .count running
  | test cpid =>
      simp only [catchUSR1, Option.some.injEq] at taken
      subst taken
      split
      · next above => exact .late running above
      · next notAbove =>
          split
          · next reached => exact .last running reached
          · next different => exact .early running (by omega)
  | allow cpid =>
      cases taken
      exact .allow running
  | allowBulk l =>
      simp only [catchUSR1] at taken
      split at taken
      · next more =>
          rcases Option.map_eq_some_iff.mp taken with ⟨cpid, entry, same⟩
          cases same
          exact .allowBulk running more entry
      · next all =>
          cases taken
          exact .bulkDone running (Nat.le_of_not_lt all)
  | post =>
      cases taken
      exact .post running
  | done =>
      cases taken
      exact .leave running
  | countWork | waitChild => cases taken

/-- The steps of `catchSIGRT` and `main`, which leave the requests alone. -/
inductive WorkStep (state : State N) : State N → Prop
  | main {pc : ParentPc} (idle : state.parent.handlers.running = none) :
      WorkStep state (state.setParent { state.parent with pc := pc })
  | countWork {number : Nat}
      (running : state.parent.handlers.running = some (.realTime number, .countWork)) :
      WorkStep state (state.setParent { state.parent.move .done with n := state.parent.n + 1 })
  | leave {number : Nat}
      (running : state.parent.handlers.running = some (.realTime number, .done)) :
      WorkStep state
        (state.setParent { state.parent with handlers := state.parent.handlers.leave })

theorem parentMain_cases (idle : state.parent.handlers.running = none)
    (taken : parentMain state = some following) : WorkStep state following := by
  simp only [parentMain] at taken
  split at taken
  · cases taken
    exact .main idle
  · cases taken
    exact .main idle
  · cases taken
  · cases taken

theorem catchSIGRT_cases {number : Nat} {pc : HandlerPc N}
    (running : state.parent.handlers.running = some (.realTime number, pc))
    (taken : catchSIGRT state pc = some following) : WorkStep state following := by
  cases pc with
  | countWork =>
      cases taken
      exact .countWork running
  | done =>
      cases taken
      exact .leave running
  | record | count | test | allow | allowBulk | waitChild | post => cases taken

/-- The steps of `catchSIGCHLD`. -/
inductive ReapStep (state : State N) : State N → Prop
  | reap {cpid : Fin N} (running : state.parent.handlers.running = some (.child, .waitChild))
      (zombie : (state.child cpid).pc = .zombie) :
      ReapStep state
        ((state.setParent (state.parent.move .post)).setChild cpid
          { state.child cpid with pc := .reaped })
  | fail (running : state.parent.handlers.running = some (.child, .waitChild)) :
      ReapStep state (state.setParent (state.parent.move .post))
  | post (running : state.parent.handlers.running = some (.child, .post)) :
      ReapStep state ((state.setFlag (state.flag + 1)).setParent (state.parent.move .done))
  | leave (running : state.parent.handlers.running = some (.child, .done)) :
      ReapStep state
        (state.setParent { state.parent with handlers := state.parent.handlers.leave })

theorem catchSIGCHLD_cases {reaped : Option (Fin N)} {pc : HandlerPc N}
    (running : state.parent.handlers.running = some (.child, pc))
    (taken : catchSIGCHLD state reaped pc = some following) : ReapStep state following := by
  cases pc with
  | waitChild =>
      cases reaped with
      | some cpid =>
          simp only [catchSIGCHLD] at taken
          split at taken
          · next zombie =>
              cases taken
              exact .reap running zombie
          · cases taken
      | none =>
          simp only [catchSIGCHLD] at taken
          split at taken
          · cases taken
            exact .fail running
          · cases taken
  | post =>
      cases taken
      exact .post running
  | done =>
      cases taken
      exact .leave running
  | record | count | test | allow | allowBulk | countWork => cases taken

/-- What a statement of the parent belongs to. -/
inductive ParentStep (K : Int) (state following : State N) : Prop
  | request (step : RequestStep K state following)
  | work (step : WorkStep state following)
  | reap (step : ReapStep state following)

theorem parentStep_cases {reaped : Option (Fin N)}
    (taken : parentStep K state reaped = some following) : ParentStep K state following := by
  simp only [parentStep] at taken
  split at taken
  · next pc running => exact .request (catchUSR1_cases running taken)
  · next number pc running => exact .work (catchSIGRT_cases running taken)
  · next pc running => exact .reap (catchSIGCHLD_cases running taken)
  · next idle => exact .work (parentMain_cases idle taken)

/-- A signal interrupts the parent. -/
inductive ParentInterruption (state : State N) : State N → Prop
  | request {pc : ParentPc} {handlers : HandlerStack Signal (HandlerPc N)} {cpid : Fin N}
      (unblocked : state.parent.handlers.pcOf .usr1 = none)
      (sent : state.parent.usr1.sender = some cpid)
      (entered : ∀ other, handlers.pcOf other =
        if other = .usr1 then some (.record cpid) else state.parent.handlers.pcOf other) :
      ParentInterruption state
        (state.setParent
          { state.parent with
            pc := pc, handlers := handlers, usr1 := state.parent.usr1.take })
  | work {pc : ParentPc} {handlers : HandlerStack Signal (HandlerPc N)} {number : Nat}
      {realTime : Nat → Nat}
      (entered : ∀ other, handlers.pcOf other =
        if other = .realTime number then some .countWork else state.parent.handlers.pcOf other) :
      ParentInterruption state
        (state.setParent
          { state.parent with pc := pc, handlers := handlers, realTime := realTime })
  | exited {pc : ParentPc} {handlers : HandlerStack Signal (HandlerPc N)} {cpid : Fin N}
      (unblocked : state.parent.handlers.pcOf .child = none)
      (sent : state.parent.sigchld.sender = some cpid)
      (entered : ∀ other, handlers.pcOf other =
        if other = .child then some .waitChild else state.parent.handlers.pcOf other) :
      ParentInterruption state
        (state.setParent
          { state.parent with
            pc := pc, handlers := handlers, sigchld := state.parent.sigchld.take })

theorem interruptParent_cases {signal : Signal}
    (taken : interruptParent state signal = some following) :
    ParentInterruption state following := by
  simp only [interruptParent] at taken
  split at taken
  · next unblocked =>
      have absent := unblocked
      rw [HandlerStack.blocks_iff, not_not] at absent
      rcases Option.map_eq_some_iff.mp taken with ⟨⟨entry, parent⟩, delivered, same⟩
      cases same
      cases signal with
      | usr1 =>
          rcases Option.map_eq_some_iff.mp delivered with ⟨cpid, sent, same⟩
          cases same
          exact .request absent sent fun _ => rfl
      | realTime number =>
          simp only [Parent.take] at delivered
          split at delivered
          · cases delivered
            exact .work fun _ => rfl
          · cases delivered
      | child =>
          rcases Option.map_eq_some_iff.mp delivered with ⟨cpid, sent, same⟩
          cases same
          exact .exited absent sent fun _ => rfl
  · cases taken

end OsExercises.WorkRequests
