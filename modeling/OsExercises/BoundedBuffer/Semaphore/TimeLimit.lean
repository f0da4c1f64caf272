import Mathlib.Data.Fintype.Sum
import OsExercises.BoundedBuffer.Semaphore.Termination

/-! # A time limit

With `NK` set, cw09/zad2 sleeps for that long, cancels all its threads, joins them and destroys
the semaphores. The cancellation is asynchronous: a thread ends at any moment after it was
requested, whatever it has locked. -/

namespace OsExercises.BoundedBuffer.Semaphore.TimeLimit

open OsExercises

variable {options : Options} {file : List Text}

/-- Where `main` is after it has started all threads. -/
inductive MainPc
  | sleep
  | cancelProducer (index : Nat)
  | cancelConsumer (index : Nat)
  | joinProducer (index : Nat)
  | joinConsumer (index : Nat)
  | closeSems
  /-- `NK seconds have passed` -/
  | print
  | returned
  deriving DecidableEq

structure State (options : Options) where
  /-- The threads and what they share. Their `main` sleeps. -/
  threads : Semaphore.State options
  main : MainPc
  cancelled : Thread options → Bool
  /-- The threads that the cancellation has ended. -/
  ended : Thread options → Bool

inductive Action (options : Options)
  | producer (index : Fin options.P)
  | consumer (index : Fin options.K)
  /-- A cancelled thread ends. -/
  | ends (thread : Thread options)
  | main

namespace State

/-- The thread has returned, or was cancelled and has ended. -/
def gone (state : State options) (thread : Thread options) : Bool :=
  state.ended thread ||
    match thread with
    | .producer index => state.threads.producers index = .returned
    | .consumer index => state.threads.consumers index = .returned

def moveMain (state : State options) (main : MainPc) : State options :=
  { state with main := main }

def setThreads (state : State options) (threads : Semaphore.State options) : State options :=
  { state with threads := threads }

def endThread (state : State options) (thread : Thread options) : State options :=
  { state with ended := Function.update state.ended thread true }

/-- `pthread_cancel` -/
def cancel (state : State options) (thread : Thread options) : State options :=
  { state with cancelled := Function.update state.cancelled thread true }

end State

/-- One statement of `main`. -/
def mainThread (state : State options) : Option (State options) :=
  match state.main with
  | .sleep => some <| state.moveMain (.cancelProducer 0)
  | .cancelProducer index =>
      if present : index < options.P then
        some <| (state.cancel (.producer ⟨index, present⟩)).moveMain (.cancelProducer (index + 1))
      else
        some <| state.moveMain (.cancelConsumer 0)
  | .cancelConsumer index =>
      if present : index < options.K then
        some <| (state.cancel (.consumer ⟨index, present⟩)).moveMain (.cancelConsumer (index + 1))
      else
        some <| state.moveMain (.joinProducer 0)
  | .joinProducer index =>
      if present : index < options.P then
        if state.gone (.producer ⟨index, present⟩) then
          some <| state.moveMain (.joinProducer (index + 1))
        else
          none
      else
        some <| state.moveMain (.joinConsumer 0)
  | .joinConsumer index =>
      if present : index < options.K then
        if state.gone (.consumer ⟨index, present⟩) then
          some <| state.moveMain (.joinConsumer (index + 1))
        else
          none
      else
        some <| state.moveMain .closeSems
  | .closeSems => some <| state.moveMain .print
  | .print => some <| state.moveMain .returned
  | .returned => none

inductive MainStep (state : State options) : State options → Prop
  | wake (pc : state.main = .sleep) : MainStep state (state.moveMain (.cancelProducer 0))
  | cancelProducer (index : Fin options.P) (pc : state.main = .cancelProducer index) :
      MainStep state
        ((state.cancel (.producer index)).moveMain (.cancelProducer (index.val + 1)))
  | producersCancelled {index : Nat} (pc : state.main = .cancelProducer index)
      (all : options.P ≤ index) : MainStep state (state.moveMain (.cancelConsumer 0))
  | cancelConsumer (index : Fin options.K) (pc : state.main = .cancelConsumer index) :
      MainStep state
        ((state.cancel (.consumer index)).moveMain (.cancelConsumer (index.val + 1)))
  | consumersCancelled {index : Nat} (pc : state.main = .cancelConsumer index)
      (all : options.K ≤ index) : MainStep state (state.moveMain (.joinProducer 0))
  | joinProducer (index : Fin options.P) (pc : state.main = .joinProducer index)
      (gone : state.gone (.producer index) = true) :
      MainStep state (state.moveMain (.joinProducer (index.val + 1)))
  | producersJoined {index : Nat} (pc : state.main = .joinProducer index)
      (all : options.P ≤ index) : MainStep state (state.moveMain (.joinConsumer 0))
  | joinConsumer (index : Fin options.K) (pc : state.main = .joinConsumer index)
      (gone : state.gone (.consumer index) = true) :
      MainStep state (state.moveMain (.joinConsumer (index.val + 1)))
  | consumersJoined {index : Nat} (pc : state.main = .joinConsumer index)
      (all : options.K ≤ index) : MainStep state (state.moveMain .closeSems)
  | closeSems (pc : state.main = .closeSems) : MainStep state (state.moveMain .print)
  | print (pc : state.main = .print) : MainStep state (state.moveMain .returned)

theorem mainThread_cases {state following : State options}
    (taken : mainThread state = some following) : MainStep state following := by
  cases pc : state.main with
  | sleep =>
      simp only [mainThread, pc] at taken
      cases taken
      exact .wake pc
  | cancelProducer index =>
      simp only [mainThread, pc] at taken
      split at taken
      · next present =>
          cases taken
          exact .cancelProducer ⟨index, present⟩ pc
      · next absent =>
          cases taken
          exact .producersCancelled pc (Nat.le_of_not_lt absent)
  | cancelConsumer index =>
      simp only [mainThread, pc] at taken
      split at taken
      · next present =>
          cases taken
          exact .cancelConsumer ⟨index, present⟩ pc
      · next absent =>
          cases taken
          exact .consumersCancelled pc (Nat.le_of_not_lt absent)
  | joinProducer index =>
      simp only [mainThread, pc] at taken
      split at taken
      · next present =>
          split at taken
          · next gone =>
              cases taken
              exact .joinProducer ⟨index, present⟩ pc gone
          · cases taken
      · next absent =>
          cases taken
          exact .producersJoined pc (Nat.le_of_not_lt absent)
  | joinConsumer index =>
      simp only [mainThread, pc] at taken
      split at taken
      · next present =>
          split at taken
          · next gone =>
              cases taken
              exact .joinConsumer ⟨index, present⟩ pc gone
          · cases taken
      · next absent =>
          cases taken
          exact .consumersJoined pc (Nat.le_of_not_lt absent)
  | closeSems =>
      simp only [mainThread, pc] at taken
      cases taken
      exact .closeSems pc
  | print =>
      simp only [mainThread, pc] at taken
      cases taken
      exact .print pc
  | returned =>
      simp only [mainThread, pc] at taken
      cases taken

theorem mainThread_frame {state following : State options}
    (taken : mainThread state = some following) :
    following.threads = state.threads ∧ following.ended = state.ended := by
  cases mainThread_cases taken
  all_goals exact ⟨rfl, rfl⟩

/-- All threads together. -/
def system (options : Options) (file : List Text) :
    TransitionSystem (State options) (Action options) where
  initial :=
    { threads := initial options
      main := .sleep
      cancelled := fun _ => false
      ended := fun _ => false }
  next state action :=
    if state.main = .returned then
      none
    else
      match action with
      | .producer index =>
          if state.ended (.producer index) then none
          else
            (pStartRoutine file state.threads index).map state.setThreads
      | .consumer index =>
          if state.ended (.consumer index) then none
          else
            (cStartRoutine state.threads index).map state.setThreads
      | .ends thread =>
          if state.cancelled thread ∧ ¬ state.gone thread then
            some (state.endThread thread)
          else
            none
      | .main => mainThread state

/-! ## The threads do what they do without a limit -/

variable {state following : State options}

/-- Until they end the threads run as in the program without cancellation. -/
theorem simulates_unlimited (timed : options.NK ≠ 0) (file : List Text) :
    (system options file).Simulates (fun _ _ => True) (Semaphore.system options file)
      (fun state threads => threads = state.threads ∧ threads.main = .sleep) where
  initially := ⟨rfl, if_neg timed⟩
  answered := by
    intro current action following threads _ _ related _ taken
    rcases related with ⟨same, asleep⟩
    subst same
    have running : current.threads.main ≠ .returned := by
      rw [asleep]
      nofun
    simp only [system] at taken
    split at taken
    · cases taken
    · cases action with
      | producer index =>
          dsimp only at taken
          split at taken
          · cases taken
          · rcases Option.map_eq_some_iff.mp taken with ⟨next, statement, rfl⟩
            refine ⟨[.producer index], next, TransitionSystem.run_single ?_, rfl, ?_⟩
            · simpa only [Semaphore.system, if_neg running] using statement
            · rw [pStartRoutine_main statement, asleep]
      | consumer index =>
          dsimp only at taken
          split at taken
          · cases taken
          · rcases Option.map_eq_some_iff.mp taken with ⟨next, statement, rfl⟩
            refine ⟨[.consumer index], next, TransitionSystem.run_single ?_, rfl, ?_⟩
            · simpa only [Semaphore.system, if_neg running] using statement
            · rw [cStartRoutine_main statement, asleep]
      | ends thread =>
          dsimp only at taken
          split at taken
          · cases taken
            exact ⟨[], _, rfl, rfl, asleep⟩
          · cases taken
      | main =>
          have kept : following.threads = current.threads := (mainThread_frame taken).1
          exact ⟨[], _, rfl, kept.symm, asleep⟩

theorem threads_reachable (timed : options.NK ≠ 0)
    (reachable : (system options file).Reachable state) :
    (Semaphore.system options file).Reachable state.threads ∧ state.threads.main = .sleep := by
  rcases (simulates_unlimited timed file).abstraction reachable with
    ⟨threads, threadsReachable, same, asleep⟩
  subst same
  exact ⟨threadsReachable, asleep⟩

namespace MainPc

/-- The threads that `main` has cancelled. -/
def cancelled : MainPc → Thread options → Prop
  | .sleep, _ | .cancelProducer _, .consumer _ => False
  | .cancelProducer index, .producer other => other < index
  | .cancelConsumer index, .consumer other => other < index
  | _, _ => True

/-- The threads that `main` has joined. -/
def joined : MainPc → Thread options → Prop
  | .joinProducer index, .producer other => other < index
  | .joinConsumer index, .consumer other => other < index
  | .joinConsumer _, .producer _ | .closeSems, _ | .print, _ | .returned, _ => True
  | _, _ => False

end MainPc

/-- A thread that `main` has cancelled or joined by this step. -/
theorem MainStep.progress (step : MainStep state following) (thread : Thread options) :
    (following.main.cancelled thread →
      state.main.cancelled thread ∨ following.cancelled thread = true) ∧
      (following.main.joined thread → state.main.joined thread ∨ state.gone thread = true) := by
  cases step
  case cancelProducer index pc =>
    cases thread with
    | producer other =>
        refine ⟨fun cancelled => ?_, nofun⟩
        rcases Nat.lt_or_eq_of_le (Nat.le_of_lt_succ cancelled) with earlier | same
        · exact .inl (by rw [pc]; exact earlier)
        · exact .inr (by rw [Fin.ext same]; exact Function.update_self ..)
    | consumer other => exact ⟨nofun, nofun⟩
  case cancelConsumer index pc =>
    cases thread with
    | producer other => exact ⟨fun _ => .inl (by rw [pc]; trivial), nofun⟩
    | consumer other =>
        refine ⟨fun cancelled => ?_, nofun⟩
        rcases Nat.lt_or_eq_of_le (Nat.le_of_lt_succ cancelled) with earlier | same
        · exact .inl (by rw [pc]; exact earlier)
        · exact .inr (by rw [Fin.ext same]; exact Function.update_self ..)
  all_goals cases thread
  all_goals grind [State.moveMain, MainPc.cancelled, MainPc.joined]

theorem MainStep.cancelled_kept (step : MainStep state following) {thread : Thread options}
    (cancelled : state.cancelled thread = true) : following.cancelled thread = true := by
  cases step
  case cancelProducer | cancelConsumer =>
    simp only [State.moveMain, State.cancel, Function.update_apply, cancelled]
    exact ite_self true
  all_goals exact cancelled

/-- `main` joins threads only after it has cancelled all. -/
structure Orderly (state : State options) : Prop where
  cancelled : ∀ thread, state.main.cancelled thread → state.cancelled thread = true
  joined : ∀ thread, state.main.joined thread → state.gone thread = true

namespace Orderly

theorem main_step (orderly : Orderly state) (taken : mainThread state = some following) :
    Orderly following := by
  have step := mainThread_cases taken
  have same : following.gone = state.gone := by
    unfold State.gone
    rw [(mainThread_frame taken).1, (mainThread_frame taken).2]
  refine ⟨?_, ?_⟩
  · intro thread cancelled
    rcases (step.progress thread).1 cancelled with earlier | now
    · exact step.cancelled_kept (orderly.cancelled thread earlier)
    · exact now
  · intro thread joined
    rw [same]
    rcases (step.progress thread).2 joined with earlier | now
    · exact orderly.joined thread earlier
    · exact now

/-- The other steps leave `main` alone, and a thread that is gone stays so. -/
theorem thread_step (orderly : Orderly state) (main : following.main = state.main)
    (cancelled : following.cancelled = state.cancelled)
    (gone : ∀ thread, state.gone thread = true → following.gone thread = true) :
    Orderly following := by
  refine ⟨?_, ?_⟩
  · rw [main, cancelled]
    exact orderly.cancelled
  · rw [main]
    exact fun thread joined => gone thread (orderly.joined thread joined)

end Orderly

theorem gone_of_producer {index : Fin options.P} {threads : Semaphore.State options}
    (taken : pStartRoutine file state.threads index = some threads) (thread : Thread options)
    (gone : state.gone thread = true) : (state.setThreads threads).gone thread = true := by
  rcases pStartRoutine_frame taken with ⟨consumers, _, others⟩
  cases thread with
  | consumer other =>
      simp only [State.gone, State.setThreads, consumers]
      exact gone
  | producer other =>
      by_cases self : other = index
      · subst self
        have working : state.threads.producers other ≠ .returned := by
          intro atEnd
          simp [pStartRoutine, atEnd] at taken
        simp only [State.gone, working, decide_false, Bool.or_false] at gone
        simp only [State.gone, State.setThreads, gone, Bool.true_or]
      · simp only [State.gone, State.setThreads, others other self]
        exact gone

theorem gone_of_consumer {index : Fin options.K} {threads : Semaphore.State options}
    (taken : cStartRoutine state.threads index = some threads) (thread : Thread options)
    (gone : state.gone thread = true) : (state.setThreads threads).gone thread = true := by
  rcases cStartRoutine_frame taken with ⟨producers, others⟩
  cases thread with
  | producer other =>
      simp only [State.gone, State.setThreads, producers]
      exact gone
  | consumer other =>
      by_cases self : other = index
      · subst self
        have working : state.threads.consumers other ≠ .returned := by
          intro atEnd
          simp [cStartRoutine, atEnd] at taken
        simp only [State.gone, working, decide_false, Bool.or_false] at gone
        simp only [State.gone, State.setThreads, gone, Bool.true_or]
      · simp only [State.gone, State.setThreads, others other self]
        exact gone

theorem gone_of_end (thread other : Thread options) (gone : state.gone other = true) :
    (state.endThread thread).gone other = true := by
  by_cases self : other = thread
  · subst self
    simp [State.gone, State.endThread]
  · simp only [State.gone, State.endThread, Function.update_of_ne self]
    exact gone

theorem orderly (reachable : (system options file).Reachable state) : Orderly state := by
  refine reachable.invariant Orderly ⟨?_, ?_⟩ ?_
  · exact fun thread cancelled => by cases thread <;> cases cancelled
  · exact fun thread joined => by cases thread <;> cases joined
  intro current action following orderly _ taken
  simp only [system] at taken
  split at taken
  · cases taken
  · cases action with
    | producer index =>
        dsimp only at taken
        split at taken
        · cases taken
        · rcases Option.map_eq_some_iff.mp taken with ⟨threads, statement, rfl⟩
          exact orderly.thread_step rfl rfl (gone_of_producer statement)
    | consumer index =>
        dsimp only at taken
        split at taken
        · cases taken
        · rcases Option.map_eq_some_iff.mp taken with ⟨threads, statement, rfl⟩
          exact orderly.thread_step rfl rfl (gone_of_consumer statement)
    | ends thread =>
        dsimp only at taken
        split at taken
        · cases taken
          exact orderly.thread_step rfl rfl (gone_of_end thread)
        · cases taken
    | main => exact orderly.main_step taken

/-! ## Every run ends -/

instance : Fintype (Thread options) :=
  Fintype.ofEquiv (Fin options.P ⊕ Fin options.K)
    { toFun := Sum.elim .producer .consumer
      invFun := fun
        | .producer index => .inl index
        | .consumer index => .inr index
      left_inv := fun thread => by cases thread <;> rfl
      right_inv := fun thread => by cases thread <;> rfl }

theorem card_thread : Fintype.card (Thread options) = options.P + options.K := by
  rw [Fintype.ofEquiv_card, Fintype.card_sum, Fintype.card_fin, Fintype.card_fin]

/-- A thread that has not ended may end. -/
def endRank (ended : Bool) : Nat := if ended then 0 else 1

def mainRank (options : Options) : MainPc → Nat
  | .sleep => 7 + 2 * options.K + 2 * options.P
  | .cancelProducer index => 6 + 2 * options.K + options.P + (options.P - index)
  | .cancelConsumer index => 5 + options.K + options.P + (options.K - index)
  | .joinProducer index => 4 + options.K + (options.P - index)
  | .joinConsumer index => 3 + (options.K - index)
  | .closeSems => 2
  | .print => 1
  | .returned => 0

def State.rank (file : List Text) (state : State options) : Nat :=
  state.threads.rank file + total endRank state.ended + mainRank options state.main

theorem MainStep.rank (step : MainStep state following) :
    mainRank options following.main < mainRank options state.main := by
  cases step
  all_goals
    simp only [State.moveMain, mainRank, *]
    omega

theorem descends (timed : options.NK ≠ 0) (file : List Text) :
    (system options file).Descends (fun _ _ => True) (fun _ _ => False) (State.rank file) := by
  refine .of_lt ?_
  intro current action following reachable taken
  rcases threads_reachable timed reachable with ⟨threads, asleep⟩
  have unlimited := Semaphore.descends options file current.threads
  have running : current.threads.main ≠ .returned := by
    rw [asleep]
    nofun
  simp only [system] at taken
  split at taken
  · cases taken
  · cases action with
    | producer index =>
        dsimp only at taken
        split at taken
        · cases taken
        · rcases Option.map_eq_some_iff.mp taken with ⟨next, statement, rfl⟩
          have lower := (unlimited (.producer index) next threads trivial
            (by simpa only [Semaphore.system, if_neg running] using statement)).2 not_false
          simp only [State.rank, State.setThreads]
          omega
    | consumer index =>
        dsimp only at taken
        split at taken
        · cases taken
        · rcases Option.map_eq_some_iff.mp taken with ⟨next, statement, rfl⟩
          have lower := (unlimited (.consumer index) next threads trivial
            (by simpa only [Semaphore.system, if_neg running] using statement)).2 not_false
          simp only [State.rank, State.setThreads]
          omega
    | ends thread =>
        dsimp only at taken
        split at taken
        · next requested =>
            cases taken
            have working : current.ended thread = false := by
              have notGone := requested.2
              simp only [State.gone, Bool.or_eq_true, not_or, Bool.not_eq_true] at notGone
              exact notGone.1
            have sum := total_update endRank current.ended thread true
            rw [working] at sum
            simp only [State.rank, State.endThread, endRank, if_true, Bool.false_eq_true,
              if_false] at sum ⊢
            omega
        · cases taken
    | main =>
        rcases mainThread_frame taken with ⟨same, ended⟩
        have lower := (mainThread_cases taken).rank
        simp only [State.rank, same, ended]
        omega

/-- How many steps a run can have. -/
def mostSteps (options : Options) (file : List Text) : Nat :=
  Semaphore.mostSteps options file + 3 * options.P + 3 * options.K + 7

theorem rank_initial (options : Options) (file : List Text) :
    (system options file).initial.rank file ≤ mostSteps options file := by
  have threads := Semaphore.rank_initial options file
  have ends : total endRank (system options file).initial.ended = options.P + options.K := by
    simp [total, system, endRank, card_thread]
  have main : mainRank options (system options file).initial.main =
      7 + 2 * options.K + 2 * options.P := rfl
  have same : (system options file).initial.threads = initial options := rfl
  rw [State.rank, ends, main, same, mostSteps]
  omega

end OsExercises.BoundedBuffer.Semaphore.TimeLimit
