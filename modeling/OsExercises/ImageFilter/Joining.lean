import OsExercises.ImageFilter.Result

/-! # Joining the workers

The loop that creates threads stores their handles at every second index, the loop
that joins them reads every index. The two agree on a single thread only. -/

namespace OsExercises.ImageFilter

open OsExercises

variable {Double : Type} {options : Options Double} {state following : State}

/-- `main` is done with the loop that joins the workers. -/
def MainPc.Joined : MainPc → Prop
  | .create _ | .join _ | .killed => False
  | .output _ _ | .returned => True

/-- Handles are stored inside `thread_ar`, the created workers are joined, each once,
and they have finished before the image is written. -/
structure JoinsAll (options : Options Double) (state : State) : Prop where
  inside : ∀ i ∈ state.stored, i < options.threadNo
  handles : ∀ handle ∈ state.joined, ∃ k, handle = some k ∧ state.worker k ≠ .notCreated
  once : state.joined.Nodup
  all : state.main.Joined → ∀ k, state.worker k ≠ .notCreated → some k ∈ state.joined
  finished : state.main.Joined → ∀ k, state.worker k = .notCreated ∨ state.worker k = .returned

/-- A statement of a worker concerns nobody else, unless it ends the process. -/
structure WorkerFrame (state following : State) (k : Nat) : Prop where
  main : following.main = state.main ∨ following.main = .killed
  threadAr : following.threadAr = state.threadAr
  stored : following.stored = state.stored
  joined : following.joined = state.joined
  others : ∀ other, other ≠ k → following.worker other = state.worker other
  running : state.worker k ≠ .notCreated ∧ state.worker k ≠ .returned
  created : following.worker k ≠ .notCreated

theorem WorkerStep.frame {k : Nat} (step : WorkerStep options state k following) :
    WorkerFrame state following k := by
  cases step with
  | readStart pc | readEnd _ pc | enterRow _ _ pc | finish _ _ pc | write _ _ _ _ pc
  | kill _ _ _ pc | leaveRow _ _ _ pc =>
      constructor <;> simp +contextual [pc, Function.update_of_ne]

/-! ## One worker -/

/-- The course of a run with a single worker. -/
inductive Single (state : State) : Prop
  | starting (main : state.main = .create 0) (nobody : ∀ k, state.worker k = .notCreated)
      (stored : state.stored = []) (joined : state.joined = [])
  | working (main : state.main = .create 2 ∨ state.main = .join 0)
      (created : state.worker 0 ≠ .notCreated)
      (others : ∀ k, k ≠ 0 → state.worker k = .notCreated)
      (handle : state.threadAr 0 = some 0) (stored : state.stored = [0])
      (joined : state.joined = [])
  | finished (main : state.main = .join 1 ∨ state.main.Joined)
      (returned : state.worker 0 = .returned)
      (others : ∀ k, k ≠ 0 → state.worker k = .notCreated)
      (stored : state.stored = [0]) (joined : state.joined = [some 0])
  | killed (main : state.main = .killed) (stored : state.stored = [0])
      (joined : state.joined = [])

theorem twiceThreadNo_one (one : options.threadNo = 1) : twiceThreadNo options = 2 := by
  rw [twiceThreadNo_of_lt (by omega), one]
  rfl

namespace Single

theorem workerStep {k : Nat} (single : Single state) (running : ¬ state.main.Ended)
    (step : WorkerStep options state k following) : Single following := by
  have frame := step.frame
  have others (rest : ∀ other, other ≠ 0 → state.worker other = .notCreated) :
      k = 0 ∧ ∀ other, other ≠ 0 → following.worker other = .notCreated := by
    have zero : k = 0 := by
      by_contra different
      exact frame.running.1 (rest k different)
    refine ⟨zero, ?_⟩
    intro other different
    rw [frame.others other (zero ▸ different)]
    exact rest other different
  cases single with
  | starting main nobody => exact absurd (nobody k) frame.running.1
  | working main created rest handle stored joined =>
      rcases others rest with ⟨rfl, untouched⟩
      rcases frame.main with same | killed
      · exact .working (same ▸ main) frame.created untouched (frame.threadAr ▸ handle)
          (frame.stored ▸ stored) (frame.joined ▸ joined)
      · exact .killed killed (frame.stored ▸ stored) (frame.joined ▸ joined)
  | finished main returned rest =>
      rcases others rest with ⟨rfl, _⟩
      exact absurd returned frame.running.2
  | killed main => exact absurd (.inr main) running

theorem mainStep (single : Single state) (one : options.threadNo = 1)
    (step : MainStep options state following) : Single following := by
  have two := twiceThreadNo_one one
  cases single with
  | starting main nobody stored joined =>
      cases step with
      | create i behind pc =>
          rw [main] at pc
          cases pc
          refine .working (.inl rfl) (by simp) ?_ (by simp [one]) (by simp [stored])
            (by simp [joined])
          intro k different
          simp [different, nobody k]
      | startJoining i pc all =>
          rw [main] at pc
          cases pc
          omega
      | join _ _ pc | joinGarbage _ pc | startOutput _ pc | output _ _ _ _ pc =>
          rw [main] at pc
          cases pc
  | working main created others handle stored joined =>
      cases step with
      | create i behind pc more =>
          rcases main with main | main
          all_goals
            rw [main] at pc
            cases pc
          omega
      | startJoining i pc =>
          exact .working (.inr rfl) created others handle stored joined
      | join i k pc more found returned =>
          rcases main with main | main
          all_goals
            rw [main] at pc
            cases pc
          rw [handle] at found
          cases found
          exact .finished (.inl rfl) returned others stored (by simp [joined])
      | joinGarbage i pc more missing =>
          rcases main with main | main
          all_goals
            rw [main] at pc
            cases pc
          rw [handle] at missing
          cases missing
      | startOutput i pc all =>
          rcases main with main | main
          all_goals
            rw [main] at pc
            cases pc
          omega
      | output _ i j next pc =>
          rcases main with main | main
          all_goals
            rw [main] at pc
            cases pc
  | finished main returned others stored joined =>
      cases step with
      | create i _ pc | startJoining i pc => simp [pc, MainPc.Joined] at main
      | join i _ pc more | joinGarbage i pc more =>
          simp only [pc, MainPc.join.injEq, MainPc.Joined, or_false] at main
          omega
      | startOutput i pc => exact .finished (.inr trivial) returned others stored joined
      | output imgOut i j next pc further =>
          refine .finished (.inr ?_) returned others stored joined
          rcases further with ⟨row, column, rfl⟩ | rfl <;> trivial
  | killed main =>
      cases step with
      | create _ _ pc | startJoining _ pc | join _ _ pc | joinGarbage _ pc | startOutput _ pc
      | output _ _ _ _ pc =>
          rw [main] at pc
          cases pc

theorem joinsAll (single : Single state) (one : options.threadNo = 1) :
    JoinsAll options state := by
  cases single with
  | starting main nobody stored joined =>
      constructor <;> simp [main, nobody, stored, joined, MainPc.Joined]
  | working main created others handle stored joined =>
      have busy : ¬ state.main.Joined := by
        rcases main with main | main <;> simp [main, MainPc.Joined]
      constructor <;> simp [stored, joined, busy, one]
  | finished main returned others stored joined =>
      have alone (k : Nat) (created : state.worker k ≠ .notCreated) : k = 0 := by
        by_contra different
        exact created (others k different)
      exact
        { inside := by simp [stored, one]
          handles := by simp [joined, returned]
          once := by simp [joined]
          all := by
            intro _ k created
            rw [joined, alone k created]
            exact List.mem_singleton_self _
          finished := by
            intro _ k
            by_cases created : state.worker k = .notCreated
            · exact .inl created
            · exact .inr (alone k created ▸ returned) }
  | killed main stored joined =>
      constructor <;> simp [main, stored, joined, one, MainPc.Joined]

end Single

theorem single (one : options.threadNo = 1) (reachable : (system options).Reachable state) :
    Single state := by
  apply reachable.invariant Single (.starting rfl (fun _ => rfl) rfl rfl)
  intro current action following single _ taken
  have running : ¬ current.main.Ended := by
    intro ended
    simp only [system, if_pos ended] at taken
    cases taken
  cases system_step taken with
  | main behind step => exact single.mainStep one step
  | worker k step => exact single.workerStep running step

/-! ## Several workers -/

/-- The handle of the last thread is stored after the end of `thread_ar`. -/
theorem exists_storedBeyond (few : options.threadNo < 2 ^ 30) (several : 2 ≤ options.threadNo) :
    ∃ state, (system options).Reachable state ∧ ¬ JoinsAll options state := by
  rcases exists_creating few options.threadNo (Nat.le_refl _) with
    ⟨state, reachable, _, _, stored⟩
  refine ⟨state, reachable, ?_⟩
  intro joins
  have inside := joins.inside _ (stored (by omega))
  omega

/-- No thread is created, and the first join is given what is no handle. -/
theorem exists_joinedGarbage (many : 2 ^ 30 ≤ options.threadNo) :
    ∃ state, (system options).Reachable state ∧ ¬ JoinsAll options state := by
  have noThread : ¬ ((0 : Nat) : Int) < twiceThreadNo options := by
    have negative := twiceThreadNo_neg many
    omega
  have positive := options.threadNo_pos
  have skipped : (system options).next (initial options) (.main none) =
      some ((initial options).moveMain (.join 0)) := by
    simp only [system, MainPc.Ended, mainThread, initial, reduceCtorEq, or_false, if_false,
      if_neg noThread]
  have garbage : (system options).next ((initial options).moveMain (.join 0)) (.main none) =
      some ((((initial options).moveMain (.join 0)).logJoin none).moveMain (.join 1)) := by
    simp [system, MainPc.Ended, mainThread, initial, State.moveMain, positive]
  refine ⟨_, .step (.step .initial trivial skipped) trivial garbage, ?_⟩
  intro joins
  rcases joins.handles none (by simp) with ⟨k, impossible, _⟩
  cases impossible

/-- The workers are all joined before the image is written exactly when there is one. -/
theorem workers_joined (options : Options Double) :
    (∀ state, (system options).Reachable state → JoinsAll options state) ↔
      options.threadNo = 1 := by
  constructor
  · intro always
    by_contra several
    have positive := options.threadNo_pos
    have fails : ∃ state, (system options).Reachable state ∧ ¬ JoinsAll options state := by
      by_cases few : options.threadNo < 2 ^ 30
      · exact exists_storedBeyond few (by omega)
      · exact exists_joinedGarbage (Nat.le_of_not_lt few)
    rcases fails with ⟨state, reachable, broken⟩
    exact broken (always state reachable)
  · intro one state reachable
    exact (single one reachable).joinsAll one

/-- Two workers for two rows of one pixel. -/
def twoRows : Options Int where
  arithmetic := wholeNumbers
  threadNo := 2
  height := 2
  width := 1
  c := 1
  imgInArray x _ := x
  filterArray _ _ := 1
  garbage _ _ := 0
  room := 3
  threadNo_pos := Nat.two_pos
  threadNo_lt := two_lt_int
  height_lt := two_lt_int
  width_pos := Nat.one_pos
  width_lt := one_lt_int
  c_lt := one_int
  room_le := two_le_three

/-- The first worker has finished, `main` has joined it and gone on to the second row
of the image. -/
def tooEarly : State :=
  (system twoRows).after
    (List.replicate 3 (.main none) ++ List.replicate 6 (.worker 0) ++
      List.replicate 5 (.main none))
    (by decide +kernel)

/-- `main` has used `thread_ar[2]`, and reads a row that its worker has still to write. -/
theorem workers_not_joined :
    (system twoRows).Reachable tooEarly ∧ tooEarly.stored = [0, 2] ∧
      tooEarly.main = .output 1 0 ∧ tooEarly.worker 1 = .readStart ∧
      ¬ JoinsAll twoRows tooEarly := by
  have stored : tooEarly.stored = [0, 2] := by decide +kernel
  refine ⟨(system twoRows).after_reachable _ _, stored, by decide +kernel, by decide +kernel, ?_⟩
  intro joins
  exact absurd (joins.inside 2 (by simp [stored])) (by decide)

end OsExercises.ImageFilter
