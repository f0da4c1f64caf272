import OsExercises.Foundation.Loops
import OsExercises.ImageFilter.Intervals

/-! # The filtered image

Every store of a worker puts the right pixel where it belongs, so the order of the
stores does not matter. When the workers have gone through all rows of the image,
`img_out_array` is what one loop over all rows leaves there.

A worker reads its interval only after its creation. Until then the handle of a later
worker may take the place of it, if the block of `thread_ar` has no room for it. -/

namespace OsExercises.ImageFilter

open OsExercises

variable {Double : Type} {options : Options Double}

/-! ## Stores of pixels -/

theorem writePixel_apply (array : Int → Int → Int) (x y value row column : Int) :
    writePixel array x y value row column =
      if row = x ∧ column = y then value else array row column := by
  unfold writePixel
  by_cases sameRow : row = x
  · subst sameRow
    by_cases sameColumn : column = y
    · subst sameColumn
      simp
    · simp [sameColumn]
  · simp [sameRow]

/-- A loop along a row stores the row. -/
theorem foldl_writePixel_apply (value : Int → Int → Int) (array : Int → Int → Int)
    (x row column : Int) (width : Nat) :
    (List.range width).foldl (fun array (y : Nat) => writePixel array x y (value x y)) array
        row column =
      if row = x ∧ 0 ≤ column ∧ column < width then value row column else array row column := by
  induction width with
  | zero =>
      rw [if_neg (by omega)]
      rfl
  | succ width induction =>
      rw [List.range_succ, List.foldl_append, List.foldl_cons, List.foldl_nil, writePixel_apply,
        induction]
      by_cases last : row = x ∧ column = width
      · rw [if_pos last, if_pos (by omega), last.1, last.2]
      · rw [if_neg last]
        by_cases earlier : row = x ∧ 0 ≤ column ∧ column < width
        · rw [if_pos earlier, if_pos (by omega)]
        · rw [if_neg earlier, if_neg (by omega)]

/-- A loop along a row whose pixels are known. -/
theorem sequentialRow_eq {value : Int → Int → Int} {x : Int} {width : Nat}
    (stores : ∀ y : Nat, y < width → Inside options x y ∧ pixel options x y = some (value x y))
    (array : Int → Int → Int) :
    sequentialRow options array x width =
      some ((List.range width).foldl (fun array (y : Nat) => writePixel array x y (value x y))
        array) := by
  apply foldlM_of_some
  intro array y member
  rcases stores y (List.mem_range.mp member) with ⟨inside, filtered⟩
  rw [storePixel, if_pos inside, filtered, Option.map_some]

/-- Loops along all rows store the whole image. -/
theorem foldl_rows_apply (value : Int → Int → Int) (array : Int → Int → Int) {width : Nat}
    {row column : Int} (columnInside : 0 ≤ column ∧ column < width) {height : Nat}
    (rowInside : 0 ≤ row ∧ row < height) :
    (List.range height).foldl (fun array (x : Nat) =>
        (List.range width).foldl (fun array (y : Nat) => writePixel array x y (value x y)) array)
      array row column = value row column := by
  induction height with
  | zero => omega
  | succ height induction =>
      rw [List.range_succ, List.foldl_append, List.foldl_cons, List.foldl_nil,
        foldl_writePixel_apply]
      by_cases last : row = height
      · rw [if_pos ⟨last, columnInside⟩]
      · rw [if_neg (fun here => last here.1)]
        exact induction (by omega)

/-- When every pixel is known, the loops over all rows go through. -/
theorem sequential_eq {value : Int → Int → Int}
    (filtered : ∀ x y, Inside options x y → pixel options x y = some (value x y)) :
    sequential options = some ((List.range options.height).foldl (fun array (x : Nat) =>
      (List.range options.width).foldl (fun array (y : Nat) => writePixel array x y (value x y))
        array) options.garbage) := by
  apply foldlM_of_some
  intro array x row
  apply sequentialRow_eq
  intro y column
  have inside : Inside options x y := by
    have below := List.mem_range.mp row
    simp only [Inside]
    omega
  exact ⟨inside, filtered x y inside⟩

/-! ## Runs -/

namespace WorkerPc

/-- What the worker has read of its interval, and what it has still to read. -/
def Knows (interval ar : Int × Int) : WorkerPc → Prop
  | .readStart => ar = interval
  | .readEnd start => start = interval.1 ∧ ar = interval
  | .testRow _ stop | .testColumn _ _ stop => stop = interval.2
  | .notCreated | .returned => True

/-- The worker has been at the pixel, if it is in its rows. -/
def Past (limit row column : Int) : WorkerPc → Prop
  | .notCreated | .readStart | .readEnd _ => False
  | .testRow x _ => row < x
  | .testColumn x y _ => row < x ∨ row = x ∧ column < y
  | .returned => row < limit

/-- The worker has still to read from its array. -/
def Reads : WorkerPc → Prop
  | .readStart | .readEnd _ => True
  | .notCreated | .testRow _ _ | .testColumn _ _ _ | .returned => False

theorem Knows.reads {interval ar : Int × Int} {pc : WorkerPc} (knows : pc.Knows interval ar)
    (reads : pc.Reads) : ar = interval := by
  cases pc with
  | readStart => exact knows
  | readEnd start => exact knows.2
  | notCreated | testRow | testColumn | returned => exact reads.elim

end WorkerPc

structure Written (options : Options Double) (state : State) : Prop where
  even : ∀ i, state.main = .create i → i % 2 = 0
  knows : ∀ k, (state.worker k).Knows (interval options (2 * k)) (state.ar k)
  pixels : ∀ k (row column : Int), arStart options (2 * k) ≤ row → 0 ≤ column →
    column < options.width → (state.worker k).Past (arEnd options (2 * k)) row column →
    pixel options row column = some (state.imgOutArray row column)

/-- Each handle is stored inside the block of `thread_ar`. -/
def HandlesFit (options : Options Double) : Prop :=
  2 ^ 30 ≤ options.threadNo ∨ 2 * options.threadNo - 2 < options.room

instance (options : Options Double) : Decidable (HandlesFit options) :=
  inferInstanceAs (Decidable (_ ∨ _))

theorem HandlesFit.inside (fit : HandlesFit options) {i : Nat} (even : i % 2 = 0)
    (more : (i : Int) < twiceThreadNo options) : i < options.room := by
  rcases fit with many | fit
  · have negative := twiceThreadNo_neg many
    omega
  · by_cases few : options.threadNo < 2 ^ 30
    · rw [twiceThreadNo_of_lt few] at more
      omega
    · have negative := twiceThreadNo_neg (Nat.le_of_not_lt few)
      omega

/-- An allocator that hands out 16 bytes at a time, the first 8 of them for itself and the
smallest block with 24 for its user, has room for two workers. -/
theorem handlesFit_of_rounded (rounded : options.room = max 3 (options.threadNo / 2 * 2 + 1)) :
    HandlesFit options ↔ options.threadNo ≤ 2 ∨ 2 ^ 30 ≤ options.threadNo := by
  have positive := options.threadNo_pos
  rw [HandlesFit, rounded]
  omega

namespace Written

variable {state following : State}

theorem initial (options : Options Double) : Written options (initial options) where
  even := by
    intro i create
    cases create
    rfl
  knows _ := trivial
  pixels _ _ _ _ _ _ past := past.elim

/-- A worker moves on without a store, or is created. -/
theorem moveWorker (written : Written options state) {k : Nat} {pc : WorkerPc}
    {ar : Nat → Int × Int} (others : ∀ other, other ≠ k → ar other = state.ar other)
    (knows : pc.Knows (interval options (2 * k)) (ar k))
    (past : ∀ row column : Int, arStart options (2 * k) ≤ row → 0 ≤ column →
      column < options.width → pc.Past (arEnd options (2 * k)) row column →
      (state.worker k).Past (arEnd options (2 * k)) row column) :
    Written options ({ state with ar := ar }.moveWorker k pc) where
  even := written.even
  knows := by
    intro other
    simp only [State.moveWorker_worker, State.moveWorker_ar]
    by_cases same : other = k
    · subst same
      rwa [Function.update_self]
    · rw [Function.update_of_ne same, others other same]
      exact written.knows other
  pixels := by
    intro other row column start left right been
    simp only [State.moveWorker_worker] at been
    by_cases same : other = k
    · subst same
      rw [Function.update_self] at been
      exact written.pixels other row column start left right (past row column start left right been)
    · rw [Function.update_of_ne same] at been
      exact written.pixels other row column start left right been

/-- A worker stores a pixel and moves on by one column. -/
theorem storePixel (written : Written options state) {k : Nat} {x y stop value : Int}
    (pc : state.worker k = .testColumn x y stop) (filtered : pixel options x y = some value) :
    Written options
      ((state.setImgOutArray (writePixel state.imgOutArray x y value)).moveWorker k
        (.testColumn x (y + 1) stop)) where
  even := written.even
  knows := by
    have limit := written.knows k
    rw [pc] at limit
    intro other
    simp only [State.moveWorker_worker, State.setImgOutArray_worker]
    by_cases same : other = k
    · subst same
      rw [Function.update_self]
      exact limit
    · rw [Function.update_of_ne same]
      exact written.knows other
  pixels := by
    intro other row column start left right been
    simp only [State.moveWorker_worker, State.setImgOutArray_worker] at been
    simp only [State.moveWorker_imgOutArray, State.setImgOutArray_imgOutArray]
    rw [writePixel_apply]
    by_cases here : row = x ∧ column = y
    · rw [if_pos here, here.1, here.2, filtered]
    · rw [if_neg here]
      by_cases same : other = k
      · subst same
        rw [Function.update_self] at been
        apply written.pixels other row column start left right
        rw [pc]
        simp only [WorkerPc.Past] at been ⊢
        omega
      · rw [Function.update_of_ne same] at been
        exact written.pixels other row column start left right been

theorem workerStep (written : Written options state) {k : Nat}
    (step : WorkerStep options state k following) : Written options following := by
  have known := written.knows k
  cases step with
  | readStart pc =>
      rw [pc] at known
      simp only [WorkerPc.Knows] at known
      refine written.moveWorker (fun _ _ => rfl) ⟨by rw [known], known⟩ ?_
      exact fun _ _ _ _ _ been => been.elim
  | readEnd start pc =>
      rw [pc] at known
      simp only [WorkerPc.Knows] at known
      have stop : (state.ar k).2 = (interval options (2 * k)).2 := congrArg Prod.snd known.2
      refine written.moveWorker (fun _ _ => rfl) stop ?_
      intro row column from_start _ _ been
      have first := known.1
      simp only [interval] at first
      simp only [WorkerPc.Past] at been
      omega
  | enterRow x stop pc inside =>
      rw [pc] at known
      refine written.moveWorker (fun _ _ => rfl) known ?_
      intro row column _ left _ been
      rw [pc]
      simp only [WorkerPc.Past] at been ⊢
      omega
  | finish x stop pc beyond =>
      rw [pc] at known
      refine written.moveWorker (fun _ _ => rfl) trivial ?_
      intro row column _ _ _ been
      simp only [WorkerPc.Knows, interval] at known
      rw [pc]
      simp only [WorkerPc.Past] at been ⊢
      omega
  | write x y stop value pc inside filtered => exact written.storePixel pc filtered
  | kill => exact ⟨by simp, written.knows, written.pixels⟩
  | leaveRow x y stop pc beyond =>
      rw [pc] at known
      refine written.moveWorker (fun _ _ => rfl) known ?_
      intro row column _ _ right been
      rw [pc]
      simp only [WorkerPc.Past] at been ⊢
      omega

theorem mainStep (written : Written options state) (fit : HandlesFit options)
    (step : MainStep options state following) : Written options following := by
  cases step with
  | create i behind pc more =>
      have even := written.even i pc
      have index : 2 * (i / 2) = i := by omega
      have inside := fit.inside even more
      have moved : Written options ({ state with
          ar := Function.update state.ar (i / 2) (interval options i) }.moveWorker (i / 2)
            .readStart) := by
        apply written.moveWorker
        · intro other different
          rw [Function.update_of_ne different]
        · rw [Function.update_self, index]
          rfl
        · exact fun _ _ _ _ _ been => been.elim
      exact
        { even := by
            intro next same
            cases same
            omega
          knows := by
            intro k
            have known := moved.knows k
            simpa only [State.moveMain_worker, State.moveMain_ar, createThread_worker,
              createThread_ar, overwrittenAr, if_pos inside, State.moveWorker_worker,
              State.moveWorker_ar] using known
          pixels := moved.pixels }
  | startJoining | join | joinGarbage | startOutput =>
      exact ⟨by simp, written.knows, written.pixels⟩
  | output imgOut i j next pc further =>
      refine ⟨?_, written.knows, written.pixels⟩
      intro index create
      simp only [State.moveMain_main] at create
      rcases further with ⟨row, column, same⟩ | same <;> simp [create] at same

end Written

theorem written (fit : HandlesFit options) {state : State}
    (reachable : (system options).Reachable state) : Written options state := by
  apply reachable.invariant (Written options) (.initial options)
  intro current action following written _ taken
  cases system_step taken with
  | main behind step => exact written.mainStep fit step
  | worker k step => exact written.workerStep step

/-! ## The handles -/

/-- `main` can create its threads one after the other, before any of them takes a step. -/
theorem exists_creating (few : options.threadNo < 2 ^ 30) (count : Nat)
    (enough : count ≤ options.threadNo) :
    ∃ state, (system options).Reachable state ∧ state.main = .create (2 * count) ∧
      (∀ k < count, state.worker k = .readStart) ∧
      (0 < count → 2 * (count - 1) ∈ state.stored) := by
  induction count with
  | zero => exact ⟨initial options, .initial, rfl, by simp, by simp⟩
  | succ count induction =>
      rcases induction (by omega) with ⟨state, reachable, main, waiting, _⟩
      have more : ((2 * count : Nat) : Int) < twiceThreadNo options := by
        rw [twiceThreadNo_of_lt few]
        omega
      have taken : (system options).next state (.main none) =
          some ((createThread options state (2 * count) none).moveMain
            (.create (2 * (count + 1)))) := by
        simp only [system, MainPc.Ended, mainThread, main, reduceCtorEq, or_false, if_false,
          if_pos more]
        rfl
      refine ⟨_, .step reachable trivial taken, rfl, ?_, by simp⟩
      intro k earlier
      have half : 2 * count / 2 = count := by omega
      simp only [State.moveMain_worker, createThread_worker, half, Function.update_apply]
      split
      · rfl
      · exact waiting k (by omega)

/-- The handle of the last worker takes the place of the interval of the first one. -/
theorem exists_overwritten (few : options.threadNo < 2 ^ 30)
    (tight : options.room ≤ 2 * options.threadNo - 2) (handle : Int × Int) :
    ∃ state, (system options).Reachable state ∧ state.worker 0 = .readStart ∧
      state.ar 0 = handle := by
  have threads := options.threadNo_pos
  have room := options.room_le
  rcases exists_creating few (options.threadNo - 1) (Nat.sub_le _ _) with
    ⟨state, reachable, main, waiting, _⟩
  have more : ((2 * (options.threadNo - 1) : Nat) : Int) < twiceThreadNo options := by
    rw [twiceThreadNo_of_lt few]
    omega
  have taken : (system options).next state (.main (some (0, handle))) =
      some ((createThread options state (2 * (options.threadNo - 1)) (some (0, handle))).moveMain
        (.create (2 * (options.threadNo - 1) + 2))) := by
    simp only [system, MainPc.Ended, mainThread, main, reduceCtorEq, or_false, if_false,
      if_pos more]
  have behind : ¬ 2 * (options.threadNo - 1) < options.room := by omega
  refine ⟨_, .step reachable trivial taken, ?_, ?_⟩
  · have later : (0 : Nat) ≠ 2 * (options.threadNo - 1) / 2 := by omega
    simp only [State.moveMain_worker, createThread_worker, Function.update_of_ne later]
    exact waiting 0 (by omega)
  · simp only [State.moveMain_ar, createThread_ar, overwrittenAr, if_neg behind, Option.elim_some,
      Function.update_self]

/-! ## The result -/

/-- The workers that `main` creates have finished. -/
def AllReturned (options : Options Double) (state : State) : Prop :=
  ∀ k, Created options k → state.worker k = .returned

/-- The workers share the rows of the image, each of them finds the rows that `main` has
handed to it, and when they have finished the image is the one that a single loop
computes. -/
structure EqualsSequential (options : Options Double) : Prop where
  partitioned : Partitioned options
  handed : ∀ state, (system options).Reachable state → ∀ k, (state.worker k).Reads →
    state.ar k = interval options (2 * k)
  result : ∀ state, (system options).Reachable state → AllReturned options state →
    ∃ array, sequential options = some array ∧
      ∀ x y, Inside options x y → state.imgOutArray x y = array x y

theorem result_of_partitioned (partitioned : Partitioned options) (fit : HandlesFit options)
    {state : State} (reachable : (system options).Reachable state)
    (returned : AllReturned options state) :
    ∃ array, sequential options = some array ∧
      ∀ x y, Inside options x y → state.imgOutArray x y = array x y := by
  have filtered (x y : Int) (inside : Inside options x y) :
      pixel options x y = some (state.imgOutArray x y) := by
    rcases (partitioned.cover x).mpr inside.1 with ⟨k, created, member⟩
    apply (written fit reachable).pixels k x y member.1 inside.2.1 inside.2.2
    rw [returned k created]
    exact member.2
  refine ⟨_, sequential_eq filtered, ?_⟩
  intro x y inside
  exact (foldl_rows_apply state.imgOutArray options.garbage inside.2 inside.1).symm

/-- The workers do what the single loop does exactly when the bounds of their
intervals fit in 32 bits and the block of `thread_ar` has room for the handles. -/
theorem parallel_eq_sequential (options : Options Double) :
    EqualsSequential options ↔ FitsInt options ∧ HandlesFit options := by
  rw [← partitioned_iff]
  constructor
  · intro equal
    refine ⟨equal.partitioned, ?_⟩
    by_contra tight
    simp only [HandlesFit, not_or, Nat.not_le, Nat.not_lt] at tight
    rcases exists_overwritten tight.1 tight.2 (arStart options 0 + 1, 0) with
      ⟨state, reachable, waiting, overwritten⟩
    have handed := equal.handed state reachable 0 (by rw [waiting]; trivial)
    rw [overwritten] at handed
    have start := congrArg Prod.fst handed
    simp only [interval, Nat.mul_zero] at start
    omega
  · intro conditions
    exact
      { partitioned := conditions.1
        handed := fun _ reachable k reads =>
          ((written conditions.2 reachable).knows k).reads reads
        result := fun _ reachable => result_of_partitioned conditions.1 conditions.2 reachable }

/-- Whole numbers in place of `double`. -/
def wholeNumbers : Arithmetic Int where
  zero := 0
  add := (· + ·)
  scale := (· * ·)
  round := id

/-- Three workers for an image of 2147483647 rows of one pixel. -/
def tallImage : Options Int where
  arithmetic := wholeNumbers
  threadNo := 3
  height := 2147483647
  width := 1
  c := 1
  imgInArray _ _ := 0
  filterArray _ _ := 1
  garbage _ _ := 0
  room := 5
  threadNo_pos := by decide
  threadNo_lt := three_lt_int
  height_lt := by decide
  width_pos := Nat.one_pos
  width_lt := one_lt_int
  c_lt := one_int
  room_le := by decide

/-- Three workers for three rows of one pixel. -/
def threeRows : Options Int where
  arithmetic := wholeNumbers
  threadNo := 3
  height := 3
  width := 1
  c := 1
  imgInArray x _ := x
  filterArray _ _ := 1
  garbage _ _ := -1
  room := 3
  threadNo_pos := by decide
  threadNo_lt := three_lt_int
  height_lt := three_lt_int
  width_pos := Nat.one_pos
  width_lt := one_lt_int
  c_lt := one_int
  room_le := by decide

/-- The handle of the third worker lies where the first worker reads its rows. All workers
have returned. -/
def missingRow : State :=
  (system threeRows).after
    (List.replicate 2 (.main none) ++ [.main (some (0, 878081600, 32530))] ++
      List.replicate 3 (.worker 0) ++ List.replicate 6 (.worker 1) ++
      List.replicate 6 (.worker 2))
    (by decide +kernel)

/-- The last worker of the tall image starts at row -715827884, and the first worker of
the small one goes through no row at all. -/
theorem tallImage_differs :
    (arStart tallImage 4 = -715827884 ∧ ¬ EqualsSequential tallImage) ∧
      (system threeRows).Reachable missingRow ∧ missingRow.imgOutArray 0 0 = -1 ∧
        ¬ EqualsSequential threeRows := by
  have reachable : (system threeRows).Reachable missingRow :=
    TransitionSystem.after_reachable _ _ _
  have unset : missingRow.imgOutArray 0 0 = -1 := by decide +kernel
  refine ⟨⟨by decide, ?_⟩, reachable, unset, ?_⟩
  · intro equal
    exact absurd ((partitioned_iff tallImage).mp equal.partitioned) (by decide)
  · intro equal
    have returned : AllReturned threeRows missingRow := by
      have three : ∀ k < 3, missingRow.worker k = .returned := by decide +kernel
      intro k created
      exact three k ((created_iff (by decide)).mp created)
    rcases equal.result missingRow reachable returned with ⟨array, loops, same⟩
    have first : (sequential threeRows).map (fun array => array 0 0) = some 0 := by
      decide +kernel
    rw [loops, Option.map_some, ← same 0 0 (by decide), unset] at first
    exact absurd first (by decide)

end OsExercises.ImageFilter
