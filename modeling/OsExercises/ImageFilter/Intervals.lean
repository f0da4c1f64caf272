import Mathlib.Data.Int.ConditionallyCompleteOrder
import Mathlib.Data.Nat.SuccPred
import Mathlib.Order.CompletePartialOrder
import Mathlib.Order.SuccPred.IntervalSucc
import Mathlib.Tactic.Ring
import OsExercises.ImageFilter.Threads

/-! # The rows of each worker

The worker with number `k` gets the `k`-th block of `height / thread_no` rows, the
last worker all the rows that are left, as long as the product that locates the last
block fits in 32 bits. When it does not, the last block starts at a negative row. -/

namespace OsExercises.ImageFilter

open OsExercises

variable {Double : Type} {options : Options Double}

/-- `main` creates the worker with number `k`. -/
def Created (options : Options Double) (k : Nat) : Prop :=
  ((2 * k : Nat) : Int) < twiceThreadNo options

/-- The rows that `main` hands to the worker. -/
def rows (options : Options Double) (k : Nat) : Set Int :=
  Set.Ico (arStart options (2 * k)) (arEnd options (2 * k))

/-- The rows of a block. -/
def Options.block (options : Options Double) : Nat :=
  options.height / options.threadNo

/-- `thread_no * 2`, and the product that gives the start of the last block, fit in
an `int`; or there are no rows. -/
def FitsInt (options : Options Double) : Prop :=
  options.height = 0 ∨
    (options.threadNo < 2 ^ 30 ∧ options.block * (2 * options.threadNo - 2) < 2 ^ 31)

instance (options : Options Double) : Decidable (FitsInt options) :=
  inferInstanceAs (Decidable (_ ∨ _))

/-! ## Blocks -/

theorem Options.block_mul_le (options : Options Double) :
    options.block * options.threadNo ≤ options.height :=
  Nat.div_mul_le_self _ _

theorem twiceThreadNo_of_lt (few : options.threadNo < 2 ^ 30) :
    twiceThreadNo options = 2 * options.threadNo := by
  rw [twiceThreadNo, int32_of_lt (by omega) (by omega)]
  omega

/-- With so many threads the loop that creates them does nothing. -/
theorem twiceThreadNo_neg (many : 2 ^ 30 ≤ options.threadNo) : twiceThreadNo options < 0 := by
  have below := options.threadNo_lt
  rw [twiceThreadNo, int32_of_ge (by omega) (by omega)]
  omega

theorem created_iff (few : options.threadNo < 2 ^ 30) {k : Nat} :
    Created options k ↔ k < options.threadNo := by
  rw [Created, twiceThreadNo_of_lt few]
  omega

theorem not_created (many : 2 ^ 30 ≤ options.threadNo) (k : Nat) : ¬ Created options k := by
  have negative := twiceThreadNo_neg many
  rw [Created]
  omega

/-- The last block starts before the end of the image. -/
theorem last_block_le (options : Options Double) :
    options.block * (options.threadNo - 1) ≤ options.height :=
  Nat.le_trans (Nat.mul_le_mul_left _ (Nat.sub_le _ _)) options.block_mul_le

theorem arStart_eq {k : Nat} (fits : options.block * (2 * k) < 2 ^ 31) :
    arStart options (2 * k) = (options.block * k : Nat) := by
  have product : int32 ((options.block : Int) * ((2 * k : Nat) : Int)) =
      2 * ((options.block * k : Nat) : Int) := by
    rw [int32_of_lt (by positivity) (by exact_mod_cast fits)]
    push_cast
    ring
  calc arStart options (2 * k)
      = (int32 ((options.block : Int) * ((2 * k : Nat) : Int))).tdiv 2 := rfl
    _ = ((options.block * k : Nat) : Int) := by
        rw [product]
        exact Int.mul_tdiv_cancel_left _ (by decide)

/-- The product wraps around, and half of it is below zero. -/
theorem arStart_neg {k : Nat} (large : 2 ^ 31 ≤ options.block * (2 * k))
    (small : options.block * k < 2 ^ 31) : arStart options (2 * k) < 0 := by
  have double : options.block * (2 * k) = 2 * (options.block * k) := by ring
  have product : int32 ((options.block : Int) * ((2 * k : Nat) : Int)) =
      2 * (((options.block * k : Nat) : Int) - 2 ^ 31) := by
    have cast : (options.block : Int) * ((2 * k : Nat) : Int) =
        ((options.block * (2 * k) : Nat) : Int) := by push_cast; rfl
    rw [cast, int32_of_ge (by omega) (by omega), double]
    push_cast
    ring
  calc arStart options (2 * k)
      = (int32 ((options.block : Int) * ((2 * k : Nat) : Int))).tdiv 2 := rfl
    _ = ((options.block * k : Nat) : Int) - 2 ^ 31 := by
        rw [product]
        exact Int.mul_tdiv_cancel_left _ (by decide)
    _ < 0 := by omega

theorem arEnd_last (few : options.threadNo < 2 ^ 30) :
    arEnd options (2 * (options.threadNo - 1)) = options.height := by
  have positive := options.threadNo_pos
  rw [arEnd, twiceThreadNo_of_lt few, if_pos]
  rw [int32_of_lt (by omega) (by omega)]
  omega

theorem arEnd_other (few : options.threadNo < 2 ^ 30) {k : Nat}
    (other : k + 1 < options.threadNo) :
    arEnd options (2 * k) = (options.block * (k + 1) : Nat) := by
  have inside : options.block * (k + 1) < 2 ^ 31 := by
    have below := options.height_lt
    have blocks := options.block_mul_le
    have earlier : options.block * (k + 1) ≤ options.block * options.threadNo :=
      Nat.mul_le_mul_left _ (by omega)
    omega
  have half : 2 * k / 2 = k := by omega
  rw [arEnd, twiceThreadNo_of_lt few, if_neg, half]
  · change int32 ((options.block : Int) * ((k + 1 : Nat) : Int)) = _
    rw [int32_of_lt (by positivity) (by exact_mod_cast inside)]
    push_cast
    rfl
  · rw [int32_of_lt (by omega) (by omega)]
    omega

/-! ## Consecutive intervals -/

/-- The intervals between consecutive boundaries leave nothing out. -/
theorem exists_interval {α : Type*} [LinearOrder α] (boundary : Nat → α) {x : α} {count : Nat}
    (above : boundary 0 ≤ x) (below : x < boundary count) :
    ∃ k, k < count ∧ x ∈ Set.Ico (boundary k) (boundary (k + 1)) := by
  induction count with
  | zero => exact absurd below (not_lt.mpr above)
  | succ count induction =>
      by_cases earlier : x < boundary count
      · rcases induction earlier with ⟨k, inside, found⟩
        exact ⟨k, Nat.lt_succ_of_lt inside, found⟩
      · exact ⟨count, Nat.lt_succ_self count, not_lt.mp earlier, below⟩

/-- Where the workers' rows begin and end. -/
def boundary (options : Options Double) (k : Nat) : Int :=
  if k < options.threadNo then (options.block * k : Nat) else options.height

theorem boundary_monotone (options : Options Double) : Monotone (boundary options) := by
  apply monotone_nat_of_le_succ
  intro k
  have blocks := options.block_mul_le
  have step : options.block * k ≤ options.block * (k + 1) := Nat.mul_le_mul_left _ (by omega)
  simp only [boundary]
  split
  · next inside =>
      have earlier : options.block * k ≤ options.block * options.threadNo :=
        Nat.mul_le_mul_left _ (by omega)
      split <;> omega
  · next outside => rw [if_neg (by omega)]

/-- The rows are those between two boundaries. -/
theorem rows_eq (few : options.threadNo < 2 ^ 30)
    (fits : options.block * (2 * options.threadNo - 2) < 2 ^ 31) {k : Nat}
    (inside : k < options.threadNo) :
    rows options k = Set.Ico (boundary options k) (boundary options (k + 1)) := by
  have small : options.block * (2 * k) < 2 ^ 31 :=
    Nat.lt_of_le_of_lt (Nat.mul_le_mul_left _ (by omega)) fits
  have stop : arEnd options (2 * k) = boundary options (k + 1) := by
    by_cases last : k + 1 < options.threadNo
    · rw [arEnd_other few last, boundary, if_pos last]
    · have final : k = options.threadNo - 1 := by omega
      rw [boundary, if_neg last, final, arEnd_last few]
  have start : arStart options (2 * k) = boundary options k := by
    rw [arStart_eq small, boundary, if_pos inside]
  rw [rows, start, stop]

/-! ## What the intervals are good for -/

/-- No row is handed out twice, and the rows handed out are those of the image. -/
structure Partitioned (options : Options Double) : Prop where
  disjoint : ∀ k l, Created options k → Created options l → k ≠ l →
    Disjoint (rows options k) (rows options l)
  cover : ∀ x, (∃ k, Created options k ∧ x ∈ rows options k) ↔ 0 ≤ x ∧ x < options.height

theorem partitioned_of_fits (few : options.threadNo < 2 ^ 30)
    (fits : options.block * (2 * options.threadNo - 2) < 2 ^ 31) : Partitioned options where
  disjoint := by
    intro k l created other different
    rw [created_iff few] at created other
    rw [rows_eq few fits created, rows_eq few fits other]
    exact (boundary_monotone options).pairwise_disjoint_on_Ico_succ different
  cover := by
    have first : boundary options 0 = 0 := by simp [boundary, options.threadNo_pos]
    have final : boundary options options.threadNo = options.height := by simp [boundary]
    intro x
    constructor
    · intro handed
      rcases handed with ⟨k, created, member⟩
      rw [created_iff few] at created
      rw [rows_eq few fits created] at member
      have lower := boundary_monotone options (Nat.zero_le k)
      have upper := boundary_monotone options (Nat.succ_le_of_lt created)
      rw [first] at lower
      rw [final] at upper
      exact ⟨le_trans lower member.1, lt_of_lt_of_le member.2 upper⟩
    · intro inside
      rcases exists_interval (boundary options) (first ▸ inside.1) (final ▸ inside.2) with
        ⟨k, created, member⟩
      exact ⟨k, (created_iff few).mpr created, by rwa [rows_eq few fits created]⟩

theorem partitioned_iff (options : Options Double) : Partitioned options ↔ FitsInt options := by
  constructor
  · intro partitioned
    by_contra overflows
    simp only [FitsInt, not_or, not_and, not_lt] at overflows
    have positive : 0 < options.height := Nat.pos_of_ne_zero overflows.1
    by_cases few : options.threadNo < 2 ^ 30
    · -- The last interval contains row -1.
      have threads := options.threadNo_pos
      have below := options.height_lt
      have large : 2 ^ 31 ≤ options.block * (2 * (options.threadNo - 1)) := by
        have same : 2 * (options.threadNo - 1) = 2 * options.threadNo - 2 := by omega
        rw [same]
        exact overflows.2 few
      have negative := arStart_neg large (Nat.lt_of_le_of_lt (last_block_le options) below)
      have member : (-1 : Int) ∈ rows options (options.threadNo - 1) := by
        rw [rows, arEnd_last few]
        exact ⟨by omega, by omega⟩
      have inside := (partitioned.cover (-1)).mp
        ⟨options.threadNo - 1, (created_iff few).mpr (by omega), member⟩
      omega
    · -- There are no workers.
      rcases (partitioned.cover 0).mpr ⟨le_refl 0, by omega⟩ with ⟨k, created, _⟩
      exact not_created (Nat.le_of_not_lt few) k created
  · intro fits
    by_cases few : options.threadNo < 2 ^ 30
    · rcases fits with empty | fits
      · apply partitioned_of_fits few
        simp [Options.block, empty]
      · exact partitioned_of_fits few fits.2
    · have nobody := not_created (Nat.le_of_not_lt few)
      have empty : options.height = 0 := by
        rcases fits with empty | fits
        · exact empty
        · exact absurd fits.1 few
      exact
        { disjoint := fun k _ created => absurd created (nobody k)
          cover := by
            intro x
            constructor
            · intro handed
              rcases handed with ⟨k, created, _⟩
              exact absurd created (nobody k)
            · intro inside
              omega }

end OsExercises.ImageFilter
