import OsExercises.Foundation.Averages
import OsExercises.ImageFilter.Result

/-! # What a worker computes

A call of `start_routine` puts the filtered pixels of its rows into `img_out_array`, or
ends the process at the first access outside an image. -/

namespace OsExercises.ImageFilter

open OsExercises

variable {Double : Type} {options : Options Double}

/-! ## The rows of one worker -/

/-- `img_out_array` after `start_routine` for the rows from `start` up to `stop`, if all
accesses are inside the images. -/
def filterRows (options : Options Double) (array : Int → Int → Int) (start stop : Int) :
    Option (Int → Int → Int) :=
  (List.range (stop - start).toNat).foldlM
    (fun array (row : Nat) => sequentialRow options array (start + row) options.width) array

theorem sequentialRow_succ (array : Int → Int → Int) (x : Int) (width : Nat) :
    sequentialRow options array x (width + 1) =
      (sequentialRow options array x width).bind fun row => storePixel options row x width := by
  rw [sequentialRow, List.range_succ, List.foldlM_append]
  simp only [List.foldlM_cons, List.foldlM_nil, Option.bind_eq_bind, Option.pure_def,
    Option.bind_fun_some]
  rfl

theorem filterRows_of_le (array : Int → Int → Int) {start stop : Int} (none : stop ≤ start) :
    filterRows options array start stop = some array := by
  rw [filterRows, Int.toNat_of_nonpos (by omega)]
  rfl

theorem filterRows_succ (array : Int → Int → Int) {start stop : Int} (some : start ≤ stop) :
    filterRows options array start (stop + 1) =
      (filterRows options array start stop).bind fun rows =>
        sequentialRow options rows stop options.width := by
  have count : (stop + 1 - start).toNat = (stop - start).toNat + 1 := by omega
  have last : start + ((stop - start).toNat : Int) = stop := by omega
  rw [filterRows, count, List.range_succ, List.foldlM_append]
  simp only [List.foldlM_cons, List.foldlM_nil, last, Option.bind_eq_bind, Option.pure_def,
    Option.bind_fun_some]
  rfl

/-- What a row that has gone through has put into the image. -/
theorem sequentialRow_apply {array stored : Int → Int → Int} {x : Int} {width : Nat}
    (complete : sequentialRow options array x width = some stored) (row column : Int) :
    if row = x ∧ 0 ≤ column ∧ column < width then
      pixel options row column = some (stored row column)
    else
      stored row column = array row column := by
  induction width generalizing stored with
  | zero =>
      cases complete
      rw [if_neg (by omega)]
  | succ width induction =>
      rw [sequentialRow_succ] at complete
      rcases Option.bind_eq_some_iff.mp complete with ⟨middle, before, store⟩
      rcases storePixel_eq_some.mp store with ⟨_, value, filtered, rfl⟩
      have earlier := induction before
      rw [writePixel_apply]
      by_cases last : row = x ∧ column = width
      · rw [if_pos (by omega), if_pos last, last.1, last.2, filtered]
      · rw [if_neg last]
        by_cases here : row = x ∧ 0 ≤ column ∧ column < width
        · rw [if_pos (by omega)]
          rwa [if_pos here] at earlier
        · rw [if_neg (by omega)]
          rwa [if_neg here] at earlier

theorem filterRows_apply {array filtered : Int → Int → Int} {start stop : Int}
    (complete : filterRows options array start stop = some filtered) (row column : Int) :
    if start ≤ row ∧ row < stop ∧ 0 ≤ column ∧ column < options.width then
      pixel options row column = some (filtered row column)
    else
      filtered row column = array row column := by
  by_cases rows : start ≤ stop
  · induction stop, rows using Int.leInduction generalizing filtered with
    | base =>
        rw [filterRows_of_le array le_rfl] at complete
        cases complete
        rw [if_neg (by omega)]
    | succ stop rows induction =>
        rw [filterRows_succ array rows] at complete
        rcases Option.bind_eq_some_iff.mp complete with ⟨middle, before, stored⟩
        have earlier := induction before
        have row_stored := sequentialRow_apply stored row column
        by_cases last : row = stop ∧ 0 ≤ column ∧ column < options.width
        · rw [if_pos last] at row_stored
          rwa [if_pos (by omega)]
        · rw [if_neg last] at row_stored
          by_cases here : start ≤ row ∧ row < stop ∧ 0 ≤ column ∧ column < options.width
          · rw [if_pos here] at earlier
            rw [if_pos (by omega), row_stored, earlier]
          · rw [if_neg here] at earlier
            rw [if_neg (by omega), row_stored, earlier]
  · rw [filterRows_of_le array (by omega)] at complete
    cases complete
    rw [if_neg (by omega)]

/-- Rows of the image whose pixels are known. -/
theorem filterRows_isSome {value : Int → Int → Int} (array : Int → Int → Int) {start stop : Int}
    (from_start : 0 ≤ start) (up_to : stop ≤ options.height)
    (filtered : ∀ x y, Inside options x y → start ≤ x → x < stop →
      pixel options x y = some (value x y)) :
    ∃ rows, filterRows options array start stop = some rows := by
  have each : ∀ array, ∀ row ∈ List.range (stop - start).toNat,
      sequentialRow options array (start + (row : Nat)) options.width =
        some ((List.range options.width).foldl
          (fun array (y : Nat) => writePixel array (start + row) y (value (start + row) y))
          array) := by
    intro array row member
    apply sequentialRow_eq
    intro y column
    have below := List.mem_range.mp member
    have inside : Inside options (start + row) y := by
      simp only [Inside]
      omega
    exact ⟨inside, filtered _ _ inside (by omega) (by omega)⟩
  exact ⟨_, foldlM_of_some each array⟩

/-! ## Runs of one worker -/

/-- The worker with number `k` has taken steps and nobody else has. -/
structure Alone (options : Options Double) (state : State) (k : Nat) (following : State) :
    Prop where
  run : ∃ count, (system options).run state (List.replicate count (.worker k)) = some following
  main : following.main = state.main

namespace Alone

variable {state middle following : State} {k : Nat}

theorem refl (state : State) (k : Nat) : Alone options state k state where
  run := ⟨0, rfl⟩
  main := rfl

theorem step (taken : startRoutine options state k = some following)
    (running : ¬ state.main.Ended) (still : following.main = state.main) :
    Alone options state k following where
  run := by
    refine ⟨1, ?_⟩
    apply TransitionSystem.run_single
    simp only [system, if_neg running, taken]
  main := still

theorem trans (first : Alone options state k middle) (second : Alone options middle k following) :
    Alone options state k following where
  run := by
    rcases first.run with ⟨firstCount, firstRun⟩
    rcases second.run with ⟨secondCount, secondRun⟩
    refine ⟨firstCount + secondCount, ?_⟩
    rw [List.replicate_add, TransitionSystem.run_append, firstRun]
    exact secondRun
  main := second.main.trans first.main

/-- The worker goes on, and ends the process. -/
theorem kill (alone : Alone options state k middle) (running : ¬ middle.main.Ended)
    (taken : startRoutine options middle k = some (middle.moveMain .killed)) :
    ∃ count final, (system options).run state (List.replicate count (.worker k)) = some final ∧
      final.main = .killed := by
  rcases alone.run with ⟨count, run⟩
  refine ⟨count + 1, middle.moveMain .killed, ?_, rfl⟩
  rw [List.replicate_add, TransitionSystem.run_append, run]
  apply TransitionSystem.run_single
  simp only [system, if_neg running, taken]

end Alone

section Worker

variable {state : State} {k : Nat} (running : ¬ state.main.Ended)

include running

theorem columns_alone {x stop : Int} (pc : state.worker k = .testColumn x 0 stop) {count : Nat}
    (inside : count ≤ options.width) {row : Int → Int → Int}
    (complete : sequentialRow options state.imgOutArray x count = some row) :
    ∃ following, Alone options state k following ∧
      following.worker k = .testColumn x count stop ∧ following.imgOutArray = row := by
  induction count generalizing row with
  | zero =>
      cases complete
      exact ⟨state, .refl state k, pc, rfl⟩
  | succ count induction =>
      rw [sequentialRow_succ] at complete
      rcases Option.bind_eq_some_iff.mp complete with ⟨earlier, before, stored⟩
      rcases induction (by omega) before with ⟨middle, alone, column, written⟩
      have more : (count : Int) < options.width := by omega
      have store : startRoutine options middle k =
          some ((middle.setImgOutArray row).moveWorker k (.testColumn x (count + 1) stop)) := by
        simp only [startRoutine, column, if_pos more, written, stored]
      refine ⟨_, alone.trans (.step store (alone.main ▸ running) rfl), ?_, rfl⟩
      simp

theorem columns_killed {x stop : Int} (pc : state.worker k = .testColumn x 0 stop) {count : Nat}
    (inside : count ≤ options.width)
    (fails : sequentialRow options state.imgOutArray x count = none) :
    ∃ steps final, (system options).run state (List.replicate steps (.worker k)) = some final ∧
      final.main = .killed := by
  induction count with
  | zero => cases fails
  | succ count induction =>
      rw [sequentialRow_succ] at fails
      cases before : sequentialRow options state.imgOutArray x count with
      | none => exact induction (by omega) before
      | some row =>
          rcases columns_alone running pc (by omega) before with ⟨middle, alone, column, written⟩
          have more : (count : Int) < options.width := by omega
          rw [before, Option.bind_some] at fails
          apply alone.kill (alone.main ▸ running)
          simp only [startRoutine, column, if_pos more, written, fails]

/-- The worker goes through a row. -/
theorem row_alone {x stop : Int} (pc : state.worker k = .testRow x stop) (more : x < stop)
    {row : Int → Int → Int}
    (complete : sequentialRow options state.imgOutArray x options.width = some row) :
    ∃ following, Alone options state k following ∧
      following.worker k = .testRow (x + 1) stop ∧ following.imgOutArray = row := by
  have enter : startRoutine options state k =
      some (state.moveWorker k (.testColumn x 0 stop)) := by
    simp only [startRoutine, pc, if_pos more]
  have entered : Alone options state k (state.moveWorker k (.testColumn x 0 stop)) :=
    .step enter running rfl
  have stillRunning : ¬ (state.moveWorker k (.testColumn x 0 stop)).main.Ended := running
  have firstColumn : (state.moveWorker k (.testColumn x 0 stop)).worker k =
      .testColumn x 0 stop := by
    simp
  rcases columns_alone stillRunning firstColumn (le_refl options.width) complete with
    ⟨middle, alone, column, written⟩
  have leave : startRoutine options middle k =
      some (middle.moveWorker k (.testRow (x + 1) stop)) := by
    simp [startRoutine, column]
  have through : Alone options state k middle := entered.trans alone
  refine ⟨_, through.trans (.step leave (through.main ▸ running) rfl), ?_, ?_⟩
  · simp
  · simpa using written

theorem rows_alone {start stop row : Int} (pc : state.worker k = .testRow start stop)
    (from_start : start ≤ row) (up_to : row ≤ stop) {filtered : Int → Int → Int}
    (complete : filterRows options state.imgOutArray start row = some filtered) :
    ∃ following, Alone options state k following ∧
      following.worker k = .testRow row stop ∧ following.imgOutArray = filtered := by
  induction row, from_start using Int.leInduction generalizing filtered with
  | base =>
      rw [filterRows_of_le _ le_rfl] at complete
      cases complete
      exact ⟨state, .refl state k, pc, rfl⟩
  | succ row from_start induction =>
      rw [filterRows_succ _ from_start] at complete
      rcases Option.bind_eq_some_iff.mp complete with ⟨earlier, before, stored⟩
      rcases induction (by omega) before with ⟨middle, alone, rowOf, written⟩
      rw [← written] at stored
      rcases row_alone (alone.main ▸ running) rowOf (by omega) stored with
        ⟨following, further, next, result⟩
      exact ⟨following, alone.trans further, next, result⟩

/-- A worker that runs on its own until it returns leaves `filterRows` of its rows. -/
theorem worker_alone {start stop : Int} (pc : state.worker k = .testRow start stop)
    {filtered : Int → Int → Int}
    (complete : filterRows options state.imgOutArray start stop = some filtered) :
    ∃ following, Alone options state k following ∧ following.worker k = .returned ∧
      following.imgOutArray = filtered := by
  have finish {middle : State} {row : Int} (alone : Alone options state k middle)
      (rowOf : middle.worker k = .testRow row stop) (beyond : stop ≤ row) :
      Alone options state k (middle.moveWorker k .returned) := by
    have last : startRoutine options middle k = some (middle.moveWorker k .returned) := by
      simp only [startRoutine, rowOf, if_neg (Int.not_lt.mpr beyond)]
    exact alone.trans (.step last (alone.main ▸ running) rfl)
  by_cases some : start ≤ stop
  · rcases rows_alone running pc some le_rfl complete with ⟨middle, alone, rowOf, written⟩
    exact ⟨_, finish alone rowOf le_rfl, by simp, by simpa using written⟩
  · rw [filterRows_of_le _ (by omega)] at complete
    cases complete
    exact ⟨_, finish (.refl state k) pc (by omega), by simp, rfl⟩

/-- Where `filterRows` has no result, the worker ends the process. -/
theorem worker_killed {start stop : Int} (pc : state.worker k = .testRow start stop)
    (fails : filterRows options state.imgOutArray start stop = none) :
    ∃ steps final, (system options).run state (List.replicate steps (.worker k)) = some final ∧
      final.main = .killed := by
  have upTo {row : Int} (from_start : start ≤ row) (inside : row ≤ stop)
      (fails : filterRows options state.imgOutArray start row = none) :
      ∃ steps final, (system options).run state (List.replicate steps (.worker k)) = some final ∧
        final.main = .killed := by
    induction row, from_start using Int.leInduction with
    | base =>
        rw [filterRows_of_le _ le_rfl] at fails
        cases fails
    | succ row from_start induction =>
        rw [filterRows_succ _ from_start] at fails
        cases before : filterRows options state.imgOutArray start row with
        | none => exact induction (by omega) before
        | some earlier =>
            rcases rows_alone running pc from_start (by omega) before with
              ⟨middle, alone, rowOf, written⟩
            rw [before, Option.bind_some, ← written] at fails
            have more : row < stop := by omega
            have enter : startRoutine options middle k =
                some (middle.moveWorker k (.testColumn row 0 stop)) := by
              simp only [startRoutine, rowOf, if_pos more]
            have entered := alone.trans (.step enter (alone.main ▸ running) rfl)
            rcases entered.run with ⟨count, run⟩
            have stillRunning :
                ¬ (middle.moveWorker k (.testColumn row 0 stop)).main.Ended :=
              entered.main ▸ running
            have first : (middle.moveWorker k (.testColumn row 0 stop)).worker k =
                .testColumn row 0 stop := by
              simp
            rcases columns_killed stillRunning first le_rfl fails with
              ⟨steps, final, killed, main⟩
            refine ⟨count + steps, final, ?_, main⟩
            rw [List.replicate_add, TransitionSystem.run_append, run]
            exact killed
  by_cases some : start ≤ stop
  · exact upTo some le_rfl fails
  · rw [filterRows_of_le _ (by omega)] at fails
    cases fails

end Worker

end OsExercises.ImageFilter
