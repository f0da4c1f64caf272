import Mathlib.Algebra.BigOperators.Group.Finset.Sigma
import Mathlib.Algebra.Order.Floor.Ring
import Mathlib.Analysis.Convex.Combination
import Mathlib.Data.Rat.Floor

/-! # Weighted averages in loops

Two nested loops add up products of values and weights; the result is rounded to a
whole number. -/

namespace OsExercises

variable {Number : Type*} [AddCommMonoid Number]

theorem foldl_range_add (values : Nat → Number) (count : Nat) (start : Number) :
    (List.range count).foldl (fun s index => s + values index) start =
      start + ∑ index ∈ Finset.range count, values index := by
  induction count with
  | zero => simp
  | succ count induction =>
      rw [List.range_succ, List.foldl_append, induction, List.foldl_cons, List.foldl_nil,
        Finset.sum_range_succ, add_assoc]

/-- Two nested loops with one accumulator. -/
theorem foldl_range_range_add (values : Nat → Nat → Number) (rows columns : Nat)
    (start : Number) :
    (List.range rows).foldl (fun s i => (List.range columns).foldl (fun s j => s + values i j) s)
        start =
      start + ∑ i ∈ Finset.range rows, ∑ j ∈ Finset.range columns, values i j := by
  simp only [foldl_range_add]

theorem sum_range_mul (values : Nat → Number) (rows columns : Nat) :
    ∑ i ∈ Finset.range rows, ∑ j ∈ Finset.range columns, values (i * columns + j) =
      ∑ index ∈ Finset.range (rows * columns), values index := by
  induction rows with
  | zero => simp
  | succ rows induction =>
      rw [Finset.sum_range_succ, induction, Nat.succ_mul, Finset.sum_range_add]

/-- The sum of a list that is read row by row. -/
theorem sum_rows {values : List Number} {rows columns : Nat} {cell : Nat → Nat → Number}
    (length : values.length = rows * columns)
    (cells : ∀ i < rows, ∀ j < columns, values[i * columns + j]? = some (cell i j)) :
    ∑ i ∈ Finset.range rows, ∑ j ∈ Finset.range columns, cell i j = values.sum := by
  have entry : ∀ i ∈ Finset.range rows, ∀ j ∈ Finset.range columns,
      cell i j = values.getD (i * columns + j) 0 := by
    intro i isRow j isColumn
    rw [List.getD_eq_getElem?_getD,
      cells i (Finset.mem_range.mp isRow) j (Finset.mem_range.mp isColumn), Option.getD_some]
  calc ∑ i ∈ Finset.range rows, ∑ j ∈ Finset.range columns, cell i j
      = ∑ i ∈ Finset.range rows, ∑ j ∈ Finset.range columns,
          values.getD (i * columns + j) 0 :=
        Finset.sum_congr rfl fun i isRow => Finset.sum_congr rfl (entry i isRow)
    _ = ∑ index ∈ Finset.range values.length, values.getD index 0 := by
        rw [sum_range_mul fun index => values.getD index 0, length]
    _ = values.sum := by
        rw [Finset.sum_range]
        simp

section Bounds

variable {rows columns : Nat} {values weights : Nat → Nat → ℚ} {lower upper : ℚ}

/-- A weighted average lies between all bounds of the values. -/
theorem weighted_mem_Icc
    (nonneg : ∀ i < rows, ∀ j < columns, 0 ≤ weights i j)
    (unit : ∑ i ∈ Finset.range rows, ∑ j ∈ Finset.range columns, weights i j = 1)
    (bounded : ∀ i < rows, ∀ j < columns, values i j ∈ Set.Icc lower upper) :
    ∑ i ∈ Finset.range rows, ∑ j ∈ Finset.range columns, values i j * weights i j ∈
      Set.Icc lower upper := by
  have average := (convex_Icc lower upper).sum_mem
    (t := Finset.range rows ×ˢ Finset.range columns)
    (w := fun cell => weights cell.1 cell.2) (z := fun cell => values cell.1 cell.2)
    (by
      intro cell member
      rw [Finset.mem_product, Finset.mem_range, Finset.mem_range] at member
      exact nonneg cell.1 member.1 cell.2 member.2)
    (by rw [Finset.sum_product, unit])
    (by
      intro cell member
      rw [Finset.mem_product, Finset.mem_range, Finset.mem_range] at member
      exact bounded cell.1 member.1 cell.2 member.2)
  rw [Finset.sum_product] at average
  simpa only [smul_eq_mul, mul_comm] using average

end Bounds

/-! ## Rounding -/

/-- `round`: half-way cases go away from zero. -/
def roundAway (s : ℚ) : Int :=
  if 0 ≤ s then ⌊s + 1 / 2⌋ else ⌈s - 1 / 2⌉

theorem le_roundAway {lower : Int} {s : ℚ} (bound : lower ≤ s) : lower ≤ roundAway s := by
  unfold roundAway
  split
  · apply Int.le_floor.mpr
    linarith
  · apply Int.le_of_sub_one_lt
    apply Int.lt_ceil.mpr
    push_cast
    linarith

theorem roundAway_le {upper : Int} {s : ℚ} (bound : s ≤ upper) : roundAway s ≤ upper := by
  unfold roundAway
  split
  · apply Int.le_of_lt_add_one
    apply Int.floor_lt.mpr
    push_cast
    linarith
  · apply Int.ceil_le.mpr
    linarith

theorem roundAway_intCast (value : Int) : roundAway value = value :=
  le_antisymm (roundAway_le le_rfl) (le_roundAway le_rfl)

end OsExercises
