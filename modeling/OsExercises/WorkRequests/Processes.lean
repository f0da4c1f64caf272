import Mathlib.Data.Fintype.Basic
import Mathlib.Logic.Function.Basic
import Mathlib.Tactic.Simps.Basic
import OsExercises.Foundation.Exclusion
import OsExercises.Foundation.Handlers
import OsExercises.Foundation.Totals
import OsExercises.Foundation.TransitionSystem

/-! # Work requests

The parent and the N children of cw04/zad2, from the `sem_post` after the fork loop
until the parent destroys the semaphore. A child requests work with SIGUSR1, the parent
allows it with SIGUSR2, first K children at once and then each by itself, and the child
answers with a real-time signal. Sending a signal, each operation on the semaphore and
each statement on a counter are separate steps; `k++` and `n++` are one step each, which
no signal divides. A signal that was sent may be delivered between any two steps, to a
handler of another signal too: the program never sets a `sa_mask`. -/

namespace OsExercises.WorkRequests

open OsExercises

def SIGRTMIN : Nat := 34
def SIGRTMAX : Nat := 64

/-! ## Children -/

/-- The next statement of a child. -/
inductive ChildPc
  /-- `sem_wait(flag)` before the request -/
  | waitRequest
  /-- `kill(getppid(), SIGUSR1)` -/
  | sendRequest
  /-- before `pause()` -/
  | pause
  /-- in `pause()` -/
  | paused
  /-- `sem_wait(flag)` before the exit -/
  | waitExit
  | exit
  | zombie
  | reaped
  deriving DecidableEq

/-- The next statement of `catchUSR2`. -/
inductive CatchUSR2Pc
  | wait
  /-- `sigqueue(siginfo->si_pid, newSig, value)` -/
  | queue
  | post
  | done
  deriving DecidableEq

structure Child where
  pc : ChildPc
  /-- Where `catchUSR2` is, while it runs. -/
  handler : Option CatchUSR2Pc
  /-- SIGUSR2, which only the parent sends. -/
  usr2 : StandardSignal Unit
  /-- How often SIGUSR2 was sent to the child. No step depends on it. -/
  permitted : Nat
  /-- How often it was delivered. No step depends on it. -/
  delivered : Nat

namespace ChildPc

/-- The process is there to be interrupted. -/
def Alive : ChildPc → Prop
  | .zombie | .reaped => False
  | _ => True

instance : DecidablePred Alive := fun pc => by cases pc <;> unfold Alive <;> infer_instance

/-- Where the child is after a signal that found it between two statements, or in
`pause()`, which then returns. -/
def resumed : ChildPc → ChildPc
  | .paused => .waitExit
  | pc => pc

/-- Where the child is when its handler has interrupted a `sem_wait` that blocks: the
call fails, and the program goes on without the unit. -/
def interrupted : ChildPc → Option ChildPc
  | .waitRequest => some .sendRequest
  | .waitExit => some .exit
  | _ => none

end ChildPc

/-! ## The parent -/

inductive Signal
  | usr1
  | realTime (number : Nat)
  | child
  deriving DecidableEq

/-- The next statement of `main` in the parent. -/
inductive ParentPc
  /-- `while (n != N)` -/
  | test
  /-- before `pause()` -/
  | pause
  /-- in `pause()` -/
  | paused
  /-- `sem_destroy(flag)`, where the runs end -/
  | destroy
  deriving DecidableEq

/-- The next statement of a handler of the parent. -/
inductive HandlerPc (N : Nat)
  /-- `if (k < K) { childBuf[k] = cpid; }` -/
  | record (cpid : Fin N)
  /-- `k++` -/
  | count (cpid : Fin N)
  /-- `if (k > K)` and `if (k == K)` -/
  | test (cpid : Fin N)
  /-- `kill(siginfo->si_pid, SIGUSR2)` -/
  | allow (cpid : Fin N)
  /-- the loop with `kill(childBuf[l], SIGUSR2)` -/
  | allowBulk (l : Nat)
  /-- `n++` -/
  | countWork
  /-- `wait(&status)` -/
  | waitChild
  | post
  | done
  deriving DecidableEq

structure Parent (N : Nat) where
  pc : ParentPc
  handlers : HandlerStack Signal (HandlerPc N)
  usr1 : StandardSignal (Fin N)
  sigchld : StandardSignal (Fin N)
  /-- How many instances of each real-time signal are queued. -/
  realTime : Nat → Nat
  n : Nat
  k : Nat
  childBuf : Nat → Option (Fin N)
  /-- Whose requests have been counted, in this order. No step depends on it. -/
  requesters : List (Fin N)

structure State (N : Nat) where
  flag : Nat
  parent : Parent N
  child : Fin N → Child

def initial (N : Nat) : State N where
  flag := 1
  parent :=
    { pc := .test
      handlers := .empty
      usr1 := .empty
      sigchld := .empty
      realTime := fun _ => 0
      n := 0
      k := 0
      childBuf := fun _ => none
      requesters := [] }
  child _ :=
    { pc := .waitRequest
      handler := none
      usr2 := .empty
      permitted := 0
      delivered := 0 }

variable {N : Nat}

namespace State

@[simps] def setFlag (state : State N) (flag : Nat) : State N :=
  { state with flag := flag }

@[simps] def setParent (state : State N) (parent : Parent N) : State N :=
  { state with parent := parent }

@[simps -fullyApplied] def setChild (state : State N) (self : Fin N) (child : Child) : State N :=
  { state with child := Function.update state.child self child }

/-- `kill(cpid, SIGUSR2)` -/
def killChild (state : State N) (cpid : Fin N) : State N :=
  state.setChild cpid
    { state.child cpid with
      usr2 := (state.child cpid).usr2.post ()
      permitted := (state.child cpid).permitted + 1 }

end State

/-! ## Steps of a child -/

/-- One statement of the child's own program. -/
def childMain (state : State N) (self : Fin N) : Option (State N) :=
  let child := state.child self
  match child.pc with
  | .waitRequest =>
      (semWait state.flag).map fun flag =>
        (state.setFlag flag).setChild self { child with pc := .sendRequest }
  | .sendRequest =>
      some <| (state.setParent { state.parent with usr1 := state.parent.usr1.post self }).setChild
        self { child with pc := .pause }
  | .pause => some <| state.setChild self { child with pc := .paused }
  | .waitExit =>
      (semWait state.flag).map fun flag =>
        (state.setFlag flag).setChild self { child with pc := .exit }
  | .exit =>
      some <|
        (state.setParent { state.parent with sigchld := state.parent.sigchld.post self }).setChild
          self { child with pc := .zombie }
  | .paused | .zombie | .reaped => none

/-- One statement of `catchUSR2`. `newSig` is what `rand()` makes of it. -/
def catchUSR2 (state : State N) (self : Fin N) (newSig : Nat) : CatchUSR2Pc → Option (State N)
  | .wait =>
      (semWait state.flag).map fun flag =>
        (state.setFlag flag).setChild self { state.child self with handler := some .queue }
  | .queue =>
      if SIGRTMIN ≤ newSig ∧ newSig < SIGRTMAX then
        let queued := state.parent.realTime newSig + 1
        some <|
          (state.setParent
            { state.parent with
              realTime := Function.update state.parent.realTime newSig queued }).setChild self
            { state.child self with handler := some .post }
      else
        none
  | .post =>
      some <| (state.setFlag (state.flag + 1)).setChild self
        { state.child self with handler := some .done }
  | .done => some <| state.setChild self { state.child self with handler := none }

/-- One statement of a child, of `catchUSR2` while it runs. -/
def childStep (state : State N) (self : Fin N) (newSig : Nat) : Option (State N) :=
  match (state.child self).handler with
  | some pc => catchUSR2 state self newSig pc
  | none => childMain state self

/-- The child as `catchUSR2` interrupts it, to go on at `pc` afterwards. -/
def Child.deliver (child : Child) (pc : ChildPc) : Child :=
  { child with
    pc := pc
    handler := some .wait
    usr2 := child.usr2.take
    delivered := child.delivered + 1 }

/-- SIGUSR2 interrupts the child, which does not block in a `sem_wait`. -/
def interruptChild (state : State N) (self : Fin N) : Option (State N) :=
  let child := state.child self
  if child.usr2.sender = some () ∧ child.handler = none ∧ child.pc.Alive then
    some <| state.setChild self (child.deliver child.pc.resumed)
  else
    none

/-- SIGUSR2 interrupts the child in a `sem_wait` that blocks. -/
def interruptWait (state : State N) (self : Fin N) : Option (State N) :=
  let child := state.child self
  if child.usr2.sender = some () ∧ child.handler = none ∧ state.flag = 0 then
    child.pc.interrupted.map fun pc => state.setChild self (child.deliver pc)
  else
    none

/-! ## Steps of the parent -/

/-- One statement of `main` in the parent. -/
def parentMain (state : State N) : Option (State N) :=
  match state.parent.pc with
  | .test =>
      some <| state.setParent
        { state.parent with pc := if state.parent.n ≠ N then .pause else .destroy }
  | .pause => some <| state.setParent { state.parent with pc := .paused }
  | .paused | .destroy => none

@[simps] def Parent.move (parent : Parent N) (pc : HandlerPc N) : Parent N :=
  { parent with handlers := parent.handlers.move pc }

/-- One statement of `catchUSR1`. An entry of `childBuf` that no request has filled would
be 0, and `kill(0, SIGUSR2)` is not modelled: see `Ordered.bulk_filled`. -/
def catchUSR1 (K : Int) (state : State N) : HandlerPc N → Option (State N)
  | .record cpid =>
      let parent := state.parent
      let childBuf :=
        if parent.k < K then Function.update parent.childBuf parent.k (some cpid)
        else parent.childBuf
      some <| state.setParent { parent.move (.count cpid) with childBuf := childBuf }
  | .count cpid =>
      let parent := state.parent
      some <| state.setParent
        { parent.move (.test cpid) with
          k := parent.k + 1, requesters := parent.requesters ++ [cpid] }
  | .test cpid =>
      let next : HandlerPc N :=
        if state.parent.k > K then .allow cpid
        else if state.parent.k = K then .allowBulk 0
        else .post
      some <| state.setParent (state.parent.move next)
  | .allow cpid => some <| (state.setParent (state.parent.move .post)).killChild cpid
  | .allowBulk l =>
      if l < state.parent.k then
        (state.parent.childBuf l).map fun cpid =>
          (state.setParent (state.parent.move (.allowBulk (l + 1)))).killChild cpid
      else
        some <| state.setParent (state.parent.move .post)
  | .post => some <| (state.setFlag (state.flag + 1)).setParent (state.parent.move .done)
  | .done => some <| state.setParent { state.parent with handlers := state.parent.handlers.leave }
  | _ => none

/-- One statement of `catchSIGRT`. -/
def catchSIGRT (state : State N) : HandlerPc N → Option (State N)
  | .countWork =>
      some <| state.setParent { state.parent.move .done with n := state.parent.n + 1 }
  | .done => some <| state.setParent { state.parent with handlers := state.parent.handlers.leave }
  | _ => none

/-- One statement of `catchSIGCHLD`. `reaped` is the child that `wait` finds; the call may
fail when no child has exited. -/
def catchSIGCHLD (state : State N) (reaped : Option (Fin N)) : HandlerPc N → Option (State N)
  | .waitChild =>
      match reaped with
      | some cpid =>
          if (state.child cpid).pc = .zombie then
            some <| (state.setParent (state.parent.move .post)).setChild cpid
              { state.child cpid with pc := .reaped }
          else
            none
      | none =>
          if ∀ cpid, (state.child cpid).pc ≠ .zombie then
            some <| state.setParent (state.parent.move .post)
          else
            none
  | .post => some <| (state.setFlag (state.flag + 1)).setParent (state.parent.move .done)
  | .done => some <| state.setParent { state.parent with handlers := state.parent.handlers.leave }
  | _ => none

/-- One statement of the parent, of the handler that runs or else of `main`. -/
def parentStep (K : Int) (state : State N) (reaped : Option (Fin N)) : Option (State N) :=
  match state.parent.handlers.running with
  | some (.usr1, pc) => catchUSR1 K state pc
  | some (.realTime _, pc) => catchSIGRT state pc
  | some (.child, pc) => catchSIGCHLD state reaped pc
  | none => parentMain state

/-- The parent without the pending signal, and the first statement of its handler. -/
def Parent.take (parent : Parent N) : Signal → Option (HandlerPc N × Parent N)
  | .usr1 => parent.usr1.sender.map fun cpid =>
      (.record cpid, { parent with usr1 := parent.usr1.take })
  | .realTime number =>
      if 0 < parent.realTime number then
        let queued := parent.realTime number - 1
        some (.countWork,
          { parent with realTime := Function.update parent.realTime number queued })
      else
        none
  | .child => parent.sigchld.sender.map fun _ =>
      (.waitChild, { parent with sigchld := parent.sigchld.take })

def ParentPc.resumed : ParentPc → ParentPc
  | .paused => .test
  | pc => pc

/-- A signal interrupts the parent. -/
def interruptParent (state : State N) (signal : Signal) : Option (State N) :=
  if unblocked : ¬ state.parent.handlers.Blocks signal then
    (state.parent.take signal).map fun (entry, parent) =>
      state.setParent
        { parent with
          pc := state.parent.pc.resumed
          handlers := state.parent.handlers.enter signal entry unblocked }
  else
    none

inductive Action (N : Nat)
  | parent (reaped : Option (Fin N))
  | interruptParent (signal : Signal)
  | child (self : Fin N) (newSig : Nat)
  | interruptChild (self : Fin N)
  | interruptWait (self : Fin N)
  deriving DecidableEq

/-- The parent and its children together. -/
def system (N : Nat) (K : Int) : TransitionSystem (State N) (Action N) where
  initial := initial N
  next state
    | .parent reaped => parentStep K state reaped
    | .interruptParent signal => interruptParent state signal
    | .child self newSig => childStep state self newSig
    | .interruptChild self => interruptChild state self
    | .interruptWait self => interruptWait state self

/-! ## Holds -/

/-- A child holds the request between its first `sem_wait` and its request, and the exit
between its second one and its end. -/
def ChildPc.holds : ChildPc → Nat
  | .sendRequest | .exit => 1
  | _ => 0

def CatchUSR2Pc.holds : CatchUSR2Pc → Nat
  | .queue | .post => 1
  | .wait | .done => 0

def Child.holds (child : Child) : Nat :=
  child.pc.holds + child.handler.elim 0 CatchUSR2Pc.holds

/-- `catchUSR1` and `catchSIGCHLD` hold until their `sem_post`. -/
def HandlerPc.holds : HandlerPc N → Nat
  | .countWork | .done => 0
  | _ => 1

/-- The holds that have been passed on to the parent, with a signal. -/
def Parent.holds (parent : Parent N) : Nat :=
  parent.usr1.instances + parent.sigchld.instances +
    (parent.handlers.pcOf .usr1).elim 0 HandlerPc.holds +
    (parent.handlers.pcOf .child).elim 0 HandlerPc.holds

/-- How many holds are outstanding. -/
def State.holds (state : State N) : Nat :=
  state.parent.holds + total Child.holds state.child

/-! ## Requests -/

/-- The child has sent its request. -/
def ChildPc.requests : ChildPc → Nat
  | .waitRequest | .sendRequest => 0
  | _ => 1

/-- Requests that `catchUSR1` has taken and not counted yet. -/
def HandlerPc.uncounted : HandlerPc N → Nat
  | .record _ | .count _ => 1
  | _ => 0

def Parent.uncounted (parent : Parent N) : Nat :=
  (parent.handlers.pcOf .usr1).elim 0 HandlerPc.uncounted

def State.requests (state : State N) : Nat :=
  total (fun child => child.pc.requests) state.child

end OsExercises.WorkRequests
