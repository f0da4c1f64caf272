import OsExercises.BoundedBuffer.Semaphore.Steps

/-! # Shutdown with semaphores

`someone_is_writing` keeps a post that nobody has waited for, but the posts at
the end of the file can all be used up before `end_time` is set. A consumer that
then tests `end_time` waits for ever. `read_lock` makes the consumers wait one
after the other, so that in runs without such a test no wait is in vain. -/

namespace OsExercises.BoundedBuffer.Semaphore

open OsExercises

variable {options : Options} {file : List Text}

/-- The producer has a post of `someone_is_writing` ahead of it. -/
def ProducerPc.willPost : ProducerPc → Bool
  | .eofUnlockCell | .eofUnlockWrite | .setEndTime | .returned => false
  | _ => true

/-- The consumer has decided to wait for `someone_is_writing`. -/
def ConsumerPc.awaitsWriting : ConsumerPc → Bool
  | .waitUnlockCell | .waitWriting => true
  | _ => false

def ConsumerPc.holdsRead : ConsumerPc → Bool
  | .lockRead | .returned => false
  | _ => true

theorem ConsumerPc.holdsRead_of_awaitsWriting {pc : ConsumerPc}
    (awaits : pc.awaitsWriting = true) : pc.holdsRead = true := by
  cases pc <;> simp_all [ConsumerPc.awaitsWriting, ConsumerPc.holdsRead]

namespace State

def insideRead (state : State options) (index : Fin options.K) : Prop :=
  (state.consumers index).holdsRead = true

/-- All producers have returned and a consumer waits for a post. -/
def Stranded (state : State options) : Prop :=
  (∀ index, state.producers index = .returned) ∧
    state.someoneIsWriting = 0 ∧ ∃ index, state.consumers index = .waitWriting

/-- A post is stored, or a producer will still make one. -/
def PostAhead (state : State options) : Prop :=
  0 < state.someoneIsWriting ∨
    ∃ producer, (state.producers producer).willPost = true

/-- A consumer that finds `end_time` not set has a post to wait for. -/
def TestsInTime (state : State options) : Action options → Prop
  | .consumer index => state.consumers index = .testEnd →
      state.memory.endTime = false → state.PostAhead
  | _ => True

instance (state : State options) : Decidable state.PostAhead :=
  inferInstanceAs (Decidable (_ ∨ ∃ _, _))

instance (state : State options) : ∀ action, Decidable (state.TestsInTime action)
  | .consumer _ => inferInstanceAs (Decidable (_ → _ → _))
  | .producer _ | .main => isTrue trivial

/-- Whoever waits has a post to wait for. -/
def Awaited (state : State options) : Prop :=
  ∀ index, (state.consumers index).awaitsWriting = true → state.PostAhead

end State

/-! ## What a statement does -/

section Steps

variable {state following : State options}

/-- A producer keeps its post ahead, or makes it. -/
theorem pStartRoutine_postAhead {index : Fin options.P}
    (taken : pStartRoutine file state index = some following) :
    state.someoneIsWriting ≤ following.someoneIsWriting ∧
      ((state.producers index).willPost = true →
        (following.producers index).willPost = true ∨
          0 < following.someoneIsWriting) := by
  cases pStartRoutine_cases taken
  all_goals simp_all [ProducerPc.willPost, State.postCell, State.setCellLock]

theorem pStartRoutine_frame {index : Fin options.P}
    (taken : pStartRoutine file state index = some following) :
    following.consumers = state.consumers ∧ following.readLock = state.readLock ∧
      ∀ other, other ≠ index → following.producers other = state.producers other := by
  cases pStartRoutine_cases taken
  all_goals
    simp +contextual [State.moveProducer, State.postCell, State.setCellLock,
      Function.update_of_ne]

theorem cStartRoutine_frame {index : Fin options.K}
    (taken : cStartRoutine state index = some following) :
    following.producers = state.producers ∧
      ∀ other, other ≠ index → following.consumers other = state.consumers other := by
  cases cStartRoutine_cases taken
  all_goals
    simp +contextual [State.moveConsumer, State.postCell, State.setCellLock,
      Function.update_of_ne]

theorem cStartRoutine_readLock {index : Fin options.K}
    (taken : cStartRoutine state index = some following) :
    SemaphoreMove state.readLock following.readLock
      (state.insideRead index) (following.insideRead index) := by
  cases cStartRoutine_cases taken
  all_goals
    simp_all [SemaphoreMove, State.insideRead, State.postCell, State.setCellLock,
      ConsumerPc.holdsRead]

/-- Only the wait uses up a post, and it is over then. -/
theorem cStartRoutine_someoneIsWriting {index : Fin options.K}
    (taken : cStartRoutine state index = some following) :
    following.someoneIsWriting = state.someoneIsWriting ∨
      (state.consumers index = .waitWriting ∧
        following.consumers index = .relockCell) := by
  cases cStartRoutine_cases taken
  all_goals simp_all [State.postCell, State.setCellLock]

theorem cStartRoutine_awaitsWriting {index : Fin options.K}
    (taken : cStartRoutine state index = some following)
    (awaits : (following.consumers index).awaitsWriting = true) :
    (state.consumers index).awaitsWriting = true ∨
      (state.consumers index = .testEnd ∧ state.memory.endTime = false) := by
  cases cStartRoutine_cases taken
  all_goals simp_all [ConsumerPc.awaitsWriting]

/-- One statement of one thread. -/
inductive StepOf (file : List Text) (state following : State options) :
    Action options → Prop
  | producer (index : Fin options.P)
      (statement : pStartRoutine file state index = some following) :
      StepOf file state following (.producer index)
  | consumer (index : Fin options.K)
      (statement : cStartRoutine state index = some following) :
      StepOf file state following (.consumer index)
  | main (main : MainPc) (advanced : following = { state with main := main }) :
      StepOf file state following .main

theorem system_step {action : Action options}
    (taken : (system options file).next state action = some following) :
    StepOf file state following action := by
  simp only [system] at taken
  split at taken
  · cases taken
  · cases action with
    | producer index => exact .producer index taken
    | consumer index => exact .consumer index taken
    | main =>
        rcases Option.map_eq_some_iff.mp taken with ⟨main, _, advanced⟩
        exact .main main advanced.symm

end Steps

/-! ## Runs -/

/-- `read_lock` leaves one consumer at a time. -/
theorem read_excludes {state : State options}
    (reachable : (system options file).Reachable state) :
    Excludes state.readLock state.insideRead := by
  refine reachable.invariant (fun state => Excludes state.readLock state.insideRead)
    ?_ ?_
  · refine Excludes.of_nobody fun index inside => ?_
    simp [State.insideRead, system, initial, ConsumerPc.holdsRead] at inside
  · intro current action following excludes _ taken
    cases system_step taken with
    | producer index statement =>
        rcases pStartRoutine_frame statement with ⟨consumers, readLock, _⟩
        have same : following.insideRead = current.insideRead := by
          unfold State.insideRead
          rw [consumers]
        rw [readLock, same]
        exact excludes
    | consumer index statement =>
        refine excludes.move index (fun other different => ?_)
          (cStartRoutine_readLock statement)
        rw [State.insideRead, (cStartRoutine_frame statement).2 other different,
          State.insideRead]
    | main main advanced =>
        subst advanced
        exact excludes

/-- In runs without a late test, every waiting consumer has a post ahead. -/
theorem awaited {state : State options}
    (reachable : (system options file).ReachableUnder State.TestsInTime state) :
    state.Awaited := by
  refine reachable.invariant_of State.Awaited (fun state => read_excludes) ?_ ?_
  · intro index awaits
    simp [system, initial, ConsumerPc.awaitsWriting] at awaits
  · intro current action following excludes awaited permitted taken
    cases system_step taken with
    | producer index statement =>
        rcases pStartRoutine_frame statement with ⟨consumers, _, others⟩
        rcases pStartRoutine_postAhead statement with ⟨kept, posts⟩
        intro consumer awaits
        rw [consumers] at awaits
        rcases awaited consumer awaits with stored | ⟨producer, ahead⟩
        · exact .inl (Nat.lt_of_lt_of_le stored kept)
        · by_cases self : producer = index
          · subst self
            rcases posts ahead with still | posted
            · exact .inr ⟨producer, still⟩
            · exact .inl posted
          · exact .inr ⟨producer, by rw [others producer self, ahead]⟩
    | consumer index statement =>
        rcases cStartRoutine_frame statement with ⟨producers, others⟩
        intro consumer awaits
        have before : current.PostAhead := by
          by_cases self : consumer = index
          · subst self
            rcases cStartRoutine_awaitsWriting statement awaits with before | ⟨testing, open'⟩
            · exact awaited consumer before
            · exact permitted testing open'
          · rw [others consumer self] at awaits
            exact awaited consumer awaits
        have kept : following.someoneIsWriting = current.someoneIsWriting := by
          rcases cStartRoutine_someoneIsWriting statement with kept | ⟨waiting, woken⟩
          · exact kept
          · -- The consumer that used up a post was the only one to wait.
            by_cases self : consumer = index
            · subst self
              simp [woken, ConsumerPc.awaitsWriting] at awaits
            · rw [others consumer self] at awaits
              exact absurd (excludes.unique consumer index
                (ConsumerPc.holdsRead_of_awaitsWriting awaits)
                (by simp [State.insideRead, waiting, ConsumerPc.holdsRead])) self
        unfold State.PostAhead
        rw [kept, producers]
        exact before
    | main main advanced =>
        subst advanced
        exact awaited

theorem not_stranded {state : State options}
    (reachable : (system options file).ReachableUnder State.TestsInTime state) :
    ¬ state.Stranded := by
  intro stranded
  rcases stranded with ⟨returned, exhausted, index, waiting⟩
  rcases awaited reachable index (by simp [waiting, ConsumerPc.awaitsWriting]) with
    stored | ⟨producer, ahead⟩
  · omega
  · simp [returned producer, ProducerPc.willPost] at ahead

end OsExercises.BoundedBuffer.Semaphore
