import Mathlib.Logic.Function.Basic
import Mathlib.Tactic.Simps.Basic
import OsExercises.Foundation.Handlers
import OsExercises.Foundation.TransitionSystem

/-! # Counting signals

The parent and the child of cw04/zad3, from the `fork` on. The parent sends L data
signals and then a stop signal, in one of three modes; the child counts and answers
them. Sending a signal, counting one and testing a counter are separate steps. A
signal that was sent may be delivered at any later moment, and a handler interrupts
whatever its process does. Nobody sends SIGINT. -/

namespace OsExercises.SignalModes

open OsExercises

/-- `Type` 1, 2 and 3. -/
inductive Mode
  | standard
  | acknowledged
  | realTime
  deriving DecidableEq

structure Options where
  mode : Mode
  L : Nat

inductive Signal
  /-- SIGUSR1, or SIGRTMIN with `Type` 3 -/
  | data
  /-- SIGUSR2, or SIGRTMAX with `Type` 3 -/
  | stop
  /-- SIGCHLD -/
  | child
  deriving DecidableEq

/-- Real-time signals are queued; one standard signal can be pending. -/
def Mode.queues (mode : Mode) : Signal → Bool
  | .data | .stop => mode = .realTime
  | .child => false

/-- The signals pending for a process. -/
structure Inbox where
  pending : Signal → Nat
  /-- How many instances were lost because one was pending. No step depends on it. -/
  merged : Signal → Nat

namespace Inbox

def empty : Inbox := ⟨fun _ => 0, fun _ => 0⟩

/-- One more signal is sent. -/
def post (inbox : Inbox) (mode : Mode) (signal : Signal) : Inbox :=
  if inbox.pending signal = 0 ∨ mode.queues signal then
    { inbox with
      pending := Function.update inbox.pending signal (inbox.pending signal + 1) }
  else
    { inbox with merged := Function.update inbox.merged signal (inbox.merged signal + 1) }

/-- A pending signal is delivered. -/
@[simps] def take (inbox : Inbox) (signal : Signal) : Inbox :=
  { inbox with
    pending := Function.update inbox.pending signal (inbox.pending signal - 1) }

end Inbox

/-- The next statement of `main` in the parent. -/
inductive ParentPc
  /-- the loop with `kill(childPID, SIGUSR1)` or `kill(childPID, SIGRTMIN)` -/
  | sendData (i : Nat)
  /-- `sentToChild++` -/
  | countSent (i : Nat)
  /-- the only `kill(childPID, SIGUSR1)` of `Type` 2 -/
  | sendFirst
  /-- `while (sentToChild != L)` -/
  | testAll
  | sleep
  | sendStop
  | pause
  deriving DecidableEq

/-- The next statement of a handler of the parent. -/
inductive ParentHandlerPc
  /-- `recByPar++` -/
  | countReceived
  /-- `sentToChild++` -/
  | countSent
  /-- `if (sentToChild != L)` -/
  | testAll
  | answer
  | done
  /-- `wait(&status)` -/
  | waitChild
  | print
  | exit
  deriving DecidableEq

/-- The next statement of a handler of the child. -/
inductive ChildHandlerPc
  /-- `recByChild++` -/
  | count
  | answer
  | done
  | print
  | exit
  deriving DecidableEq

structure Parent where
  pc : ParentPc
  handlers : HandlerStack Signal ParentHandlerPc
  inbox : Inbox
  sentToChild : Nat
  recByPar : Nat
  printed : Option (Nat × Nat)
  exited : Bool
  /-- How many data signals the parent has sent. No step depends on it. -/
  sent : Nat

structure Child where
  handlers : HandlerStack Signal ChildHandlerPc
  inbox : Inbox
  recByChild : Nat
  printed : Option Nat
  exited : Bool
  /-- How many answers the child has sent. No step depends on it. -/
  answered : Nat

structure State where
  parent : Parent
  child : Child

def initial (options : Options) : State where
  parent :=
    { pc := if options.mode = .acknowledged then .sendFirst else .sendData 0
      handlers := .empty
      inbox := .empty
      sentToChild := 0
      recByPar := 0
      printed := none
      exited := false
      sent := 0 }
  child :=
    { handlers := .empty
      inbox := .empty
      recByChild := 0
      printed := none
      exited := false
      answered := 0 }

namespace State

@[simps -fullyApplied] def setParent (state : State) (parent : Parent) : State :=
  { state with parent := parent }

@[simps -fullyApplied] def setChild (state : State) (child : Child) : State :=
  { state with child := child }

/-- `kill(childPID, signal)` -/
@[simps -fullyApplied] def killChild (state : State) (mode : Mode) (signal : Signal) : State :=
  { state with child := { state.child with inbox := state.child.inbox.post mode signal } }

/-- `kill(siginfo->si_pid, signo)`, or the SIGCHLD of an exit. -/
@[simps -fullyApplied] def killParent (state : State) (mode : Mode) (signal : Signal) : State :=
  { state with parent := { state.parent with inbox := state.parent.inbox.post mode signal } }

end State

/-! ## The parent -/

/-- One statement of `main` in the parent. -/
def parentMain (options : Options) (state : State) : Option State :=
  let parent := state.parent
  match parent.pc with
  | .sendData i =>
      if i < options.L then
        some <| (state.killChild options.mode .data).setParent
          { parent with pc := .countSent i, sent := parent.sent + 1 }
      else
        some <| state.setParent { parent with pc := .sendStop }
  | .countSent i =>
      some <| state.setParent
        { parent with pc := .sendData (i + 1), sentToChild := parent.sentToChild + 1 }
  | .sendFirst =>
      some <| (state.killChild options.mode .data).setParent
        { parent with pc := .testAll, sent := parent.sent + 1 }
  | .testAll =>
      some <| state.setParent
        { parent with pc := if parent.sentToChild ≠ options.L then .sleep else .sendStop }
  | .sleep => some <| state.setParent { parent with pc := .testAll }
  | .sendStop =>
      some <| (state.killChild options.mode .stop).setParent { parent with pc := .pause }
  | .pause => none

/-- `catchParentUSR1` -/
def catchParentUSR1 (state : State) : ParentHandlerPc → Option State
  | .countReceived =>
      some <| state.setParent
        { state.parent with
          recByPar := state.parent.recByPar + 1, handlers := state.parent.handlers.move .done }
  | .done => some <| state.setParent { state.parent with handlers := state.parent.handlers.leave }
  | _ => none

/-- `catchParent2USR1` -/
def catchParent2USR1 (options : Options) (state : State) : ParentHandlerPc → Option State
  | .countReceived =>
      some <| state.setParent
        { state.parent with
          recByPar := state.parent.recByPar + 1
          handlers := state.parent.handlers.move .countSent }
  | .countSent =>
      some <| state.setParent
        { state.parent with
          sentToChild := state.parent.sentToChild + 1
          handlers := state.parent.handlers.move .testAll }
  | .testAll =>
      some <| state.setParent
        { state.parent with
          handlers := state.parent.handlers.move
            (if state.parent.sentToChild ≠ options.L then .answer else .done) }
  | .answer =>
      some <| (state.killChild options.mode .data).setParent
        { state.parent with
          sent := state.parent.sent + 1, handlers := state.parent.handlers.move .done }
  | .done => some <| state.setParent { state.parent with handlers := state.parent.handlers.leave }
  | _ => none

/-- `catchSIGCHLD`. The child is there to be waited for, and it has exited. -/
def catchSIGCHLD (state : State) : ParentHandlerPc → Option State
  | .waitChild =>
      some <| state.setParent
        { state.parent with handlers := state.parent.handlers.move .print }
  | .print =>
      some <| state.setParent
        { state.parent with
          printed := some (state.parent.sentToChild, state.parent.recByPar)
          handlers := state.parent.handlers.move .exit }
  | .exit => some <| state.setParent { state.parent with exited := true }
  | _ => none

/-- The handler of the signal in the parent. -/
def parentHandler (options : Options) (state : State) :
    Signal → ParentHandlerPc → Option State
  | .data =>
      match options.mode with
      | .acknowledged => catchParent2USR1 options state
      | .standard | .realTime => catchParentUSR1 state
  | .child => catchSIGCHLD state
  | .stop => fun _ => none

/-- The first statement of the parent's handler. -/
def parentEntry : Signal → ParentHandlerPc
  | .data => .countReceived
  | .child => .waitChild
  | .stop => .done

/-- One statement of the parent, of the handler that runs or else of `main`. -/
def parentStep (options : Options) (state : State) : Option State :=
  if state.parent.exited then
    none
  else
    match state.parent.handlers.running with
    | some (signal, pc) => parentHandler options state signal pc
    | none => parentMain options state

/-- A signal interrupts the parent. -/
def interruptParent (state : State) (signal : Signal) : Option State :=
  if unblocked : ¬ state.parent.handlers.Blocks signal then
    if state.parent.exited = false ∧ 0 < state.parent.inbox.pending signal then
      some <| state.setParent
        { state.parent with
          inbox := state.parent.inbox.take signal
          handlers := state.parent.handlers.enter signal (parentEntry signal) unblocked }
    else
      none
  else
    none

/-! ## The child -/

/-- `catchChildUSR1` -/
def catchChildUSR1 (options : Options) (state : State) : ChildHandlerPc → Option State
  | .count =>
      some <| state.setChild
        { state.child with
          recByChild := state.child.recByChild + 1, handlers := state.child.handlers.move .answer }
  | .answer =>
      some <| (state.killParent options.mode .data).setChild
        { state.child with
          answered := state.child.answered + 1, handlers := state.child.handlers.move .done }
  | .done => some <| state.setChild { state.child with handlers := state.child.handlers.leave }
  | _ => none

/-- `catchUSR2` -/
def catchUSR2 (options : Options) (state : State) : ChildHandlerPc → Option State
  | .print =>
      some <| state.setChild
        { state.child with
          printed := some state.child.recByChild, handlers := state.child.handlers.move .exit }
  | .exit =>
      some <| (state.killParent options.mode .child).setChild { state.child with exited := true }
  | _ => none

/-- The handler of the signal in the child. -/
def childHandler (options : Options) (state : State) : Signal → ChildHandlerPc → Option State
  | .data => catchChildUSR1 options state
  | .stop => catchUSR2 options state
  | .child => fun _ => none

def childEntry : Signal → ChildHandlerPc
  | .data => .count
  | .stop => .print
  | .child => .done

/-- One statement of the child. Its `main` only waits for signals. -/
def childStep (options : Options) (state : State) : Option State :=
  if state.child.exited then
    none
  else
    match state.child.handlers.running with
    | some (signal, pc) => childHandler options state signal pc
    | none => none

/-- A real-time signal waits for those with lower numbers that are pending and not
blocked. SIGRTMIN has the lowest number, SIGRTMAX the highest. -/
def First (options : Options) (child : Child) (signal : Signal) : Prop :=
  options.mode = .realTime → signal = .stop →
    child.inbox.pending .data = 0 ∨ child.handlers.Blocks .data

instance (options : Options) (child : Child) (signal : Signal) :
    Decidable (First options child signal) :=
  inferInstanceAs (Decidable (_ → _ → _))

/-- A signal interrupts the child. -/
def interruptChild (options : Options) (state : State) (signal : Signal) : Option State :=
  if unblocked : ¬ state.child.handlers.Blocks signal then
    if state.child.exited = false ∧ 0 < state.child.inbox.pending signal ∧
        First options state.child signal then
      some <| state.setChild
        { state.child with
          inbox := state.child.inbox.take signal
          handlers := state.child.handlers.enter signal (childEntry signal) unblocked }
    else
      none
  else
    none

inductive Action
  | parent
  | interruptParent (signal : Signal)
  | child
  | interruptChild (signal : Signal)
  deriving DecidableEq

/-- The parent and the child together. -/
def system (options : Options) : TransitionSystem State Action where
  initial := initial options
  next state
    | .parent => parentStep options state
    | .interruptParent signal => interruptParent state signal
    | .child => childStep options state
    | .interruptChild signal => interruptChild options state signal

end OsExercises.SignalModes
