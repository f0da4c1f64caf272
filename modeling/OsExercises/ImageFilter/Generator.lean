import Mathlib.Algebra.BigOperators.Intervals
import OsExercises.ImageFilter.Kernels

/-! # The kernel generator

The program filter.c of cw08/zad1. It shuffles the numbers below `c * c` and divides
each of them by their sum. The shuffle is a permutation whatever `rand` returns, so
the weights add up to one, as long as the sum fits in an `int`.

For `d_array`, an array of numbers of type `double`, `malloc` reserves the size of as
many numbers of type `int`, which is half of what the loop that fills it needs. How many
numbers can be stored before memory of another use is destroyed is left open, and so is
what happens then. Rational numbers stand for `double`. -/

namespace OsExercises.ImageFilter

open OsExercises

/-! ## The program

`int` is what an operation on two numbers of type `int` makes of the exact result: `id`
in exact arithmetic, `int32` in the machine. -/

/-- The two stores and the two loads that exchange two cells of `array`. -/
def exchange (array : List Int) (random i : Nat) : Option (List Int) := do
  let tmp ← array[random]?
  let other ← array[i]?
  return (array.set random other).set i tmp

/-- The loop after `srand`. The call of `rand` with number `i` returns `rand i`. -/
def shuffle (rand : Nat → Nat) (c : Int) (array : List Int) : Option (List Int) :=
  (List.range c.toNat).foldlM (fun array i => exchange array (rand i % c.toNat) i) array

/-- `c * (c - 1) / 2.0`: the product is an `int`, the quotient a `double`. -/
def normaliser (int : Int → Int) (c : Int) : ℚ :=
  int (c * int (c - 1)) / 2

/-- The quotient of two numbers of type `double`, if it is a number. -/
def quotient (x y : ℚ) : Option ℚ :=
  if y = 0 then none else some (x / y)

/-- The loop that fills `d_array`, which has room for `room` weights. -/
def fillWeights (int : Int → Int) (room : Nat) (c : Int) (array : List Int) : Option (List ℚ) :=
  (List.range c.toNat).mapM fun i => do
    let value : Int ← array[i]?
    let weight ← quotient value (normaliser int c)
    if i < room then some weight else none

/-- What `main` leaves in its arrays, and the number on the first line of its file. -/
structure Generated where
  size : Int
  array : List Int
  weights : List ℚ

/-- `array` when it has been filled and shuffled; `main` replaces `c` by its square. -/
def shuffled (int : Int → Int) (rand : Nat → Nat) (c : Int) : Option (List Int) :=
  let square := int (c * c)
  shuffle rand square ((List.range square.toNat).map Int.ofNat)

/-- `char buffer[10]` -/
def lineSize : Nat := 10

/-- `main`. The first line of its file goes through the array `buffer`, with its NUL. -/
def generate (int : Int → Int) (rand : Nat → Nat) (room : Nat) (c : Int) : Option Generated := do
  let line := decimal c ++ ['\n']
  if lineSize ≤ line.length then none
  let array ← shuffled int rand c
  let weights ← fillWeights int room (int (c * c)) array
  return { size := c, array := array, weights := weights }

/-! ## The shuffle -/

/-- An exchange inside the array moves its entries around. -/
theorem exchange_perm {array : List Int} {random i : Nat} (randomInside : random < array.length)
    (inside : i < array.length) :
    ∃ exchanged, exchange array random i = some exchanged ∧ exchanged.Perm array := by
  refine ⟨(array.set random array[i]).set i array[random], ?_,
    List.set_set_perm randomInside inside⟩
  rw [exchange, List.getElem?_eq_getElem randomInside, List.getElem?_eq_getElem inside]
  rfl

/-- Exchanges with cells of the array, in any number and order. -/
theorem exchanges_perm (random : Nat → Nat) {indices : List Nat} {array : List Int}
    (randomInside : ∀ i ∈ indices, random i < array.length)
    (inside : ∀ i ∈ indices, i < array.length) :
    ∃ shuffled, indices.foldlM (fun array i => exchange array (random i) i) array =
      some shuffled ∧ shuffled.Perm array := by
  induction indices generalizing array with
  | nil => exact ⟨array, rfl, List.Perm.refl array⟩
  | cons i indices induction =>
      rw [List.forall_mem_cons] at randomInside inside
      rcases exchange_perm randomInside.1 inside.1 with ⟨exchanged, first, permuted⟩
      rw [← permuted.length_eq] at randomInside inside
      rcases induction randomInside.2 inside.2 with ⟨shuffled, others, following⟩
      refine ⟨shuffled, ?_, following.trans permuted⟩
      rw [List.foldlM_cons, first]
      exact others

theorem shuffle_perm (rand : Nat → Nat) {c : Int} {array : List Int}
    (length : array.length = c.toNat) :
    ∃ shuffled, shuffle rand c array = some shuffled ∧ shuffled.Perm array := by
  apply exchanges_perm (fun i => rand i % c.toNat)
  · intro i member
    rw [length]
    exact Nat.mod_lt _ (Nat.zero_lt_of_lt (List.mem_range.mp member))
  · intro i member
    rw [length]
    exact List.mem_range.mp member

/-! ## The weights -/

theorem fillWeights_eq {int : Int → Int} {room : Nat} {c : Int} {array : List Int}
    (length : array.length = c.toNat) (nonzero : normaliser int c ≠ 0) (enough : c.toNat ≤ room) :
    fillWeights int room c array =
      some (array.map fun value : Int => (value : ℚ) / normaliser int c) := by
  have rounds : fillWeights int room c array =
      some ((List.range c.toNat).map fun i => (array.getD i 0 : ℚ) / normaliser int c) := by
    apply mapM_of_some
    intro i member
    have inside := List.mem_range.mp member
    have cell : array[i]? = some (array.getD i 0) := by
      simp [List.getD_eq_getElem?_getD, length, inside]
    simp only [cell, quotient, if_neg nonzero, if_pos (Nat.lt_of_lt_of_le inside enough),
      Option.bind_eq_bind, Option.bind_some]
  have entries : ((List.range c.toNat).map fun i => (array.getD i 0 : ℚ) / normaliser int c) =
      array.map fun value : Int => (value : ℚ) / normaliser int c := by
    apply List.ext_getElem
    · simp [length]
    · intro i _ inside
      simp only [List.length_map] at inside
      simp [List.getD_eq_getElem?_getD, inside]
  rw [rounds, entries]

/-- The last store is inside the room. -/
theorem room_of_fillWeights {int : Int → Int} {room : Nat} {c : Int} {array : List Int}
    {weights : List ℚ} (complete : fillWeights int room c array = some weights) :
    c.toNat ≤ room := by
  by_contra short
  have last : room ∈ List.range c.toNat := List.mem_range.mpr (by omega)
  rcases exists_result complete last with ⟨weight, stored⟩
  rcases Option.bind_eq_some_iff.mp stored with ⟨_, _, stored⟩
  rcases Option.bind_eq_some_iff.mp stored with ⟨_, _, stored⟩
  exact absurd (Option.ite_none_right_eq_some.mp stored).1 (Nat.lt_irrefl room)

/-- The numbers in the array before the shuffle add up to the normaliser. -/
theorem sum_range_ofNat (count : Nat) :
    (((List.range count).map Int.ofNat).map fun value : Int => (value : ℚ)).sum =
      normaliser id count := by
  induction count with
  | zero => simp [normaliser]
  | succ count induction =>
      rw [List.range_succ, List.map_append, List.map_append, List.sum_append, induction]
      simp [normaliser]
      ring

theorem bounds_of_mem {count : Nat} {value : Int}
    (member : value ∈ (List.range count).map Int.ofNat) : 0 ≤ value ∧ value < count := by
  rcases List.mem_map.mp member with ⟨index, inside, equal⟩
  have below := List.mem_range.mp inside
  rw [← equal]
  exact ⟨Int.natCast_nonneg index, Int.ofNat_lt.mpr below⟩

theorem normaliser_id (c : Int) : normaliser id c = (c : ℚ) * (c - 1) / 2 := by
  simp [normaliser]

/-- The largest entry of the array is smaller than the sum of all entries. -/
theorem lt_normaliser {c value : Int} (large : 3 ≤ c) (below : value < c) :
    (value : ℚ) < normaliser id c := by
  have size : (3 : ℚ) ≤ c := by exact_mod_cast large
  have entry : (value : ℚ) ≤ c - 1 := by exact_mod_cast Int.le_sub_one_of_lt below
  rw [normaliser_id]
  nlinarith

theorem normaliser_pos {c : Int} (large : 2 ≤ c) : 0 < normaliser id (c * c) := by
  have cells : 3 ≤ c * c := by nlinarith
  exact_mod_cast lt_normaliser cells (show 0 < c * c by omega)

/-- The array is a permutation and the kernel a weighted average. -/
structure Generated.Normalised (generated : Generated) : Prop where
  permutation : generated.array.Perm
    ((List.range (generated.size * generated.size).toNat).map Int.ofNat)
  length : generated.weights.length = generated.size * generated.size
  inUnit : ∀ weight ∈ generated.weights, 0 ≤ weight ∧ weight < 1
  unit : generated.weights.sum = 1

theorem shuffled_perm {int : Int → Int} (rand : Nat → Nat) {c : Int}
    (square : int (c * c) = c * c) :
    ∃ array, shuffled int rand c = some array ∧
      array.Perm ((List.range (c * c).toNat).map Int.ofNat) := by
  have start : ((List.range (c * c).toNat).map Int.ofNat).length = (c * c).toNat := by simp
  simp only [shuffled, square]
  exact shuffle_perm rand start

/-- The weight of an entry of the array. -/
theorem weight_bounds {c value : Int} (large : 2 ≤ c)
    (entry : value ∈ (List.range (c * c).toNat).map Int.ofNat) :
    0 ≤ (value : ℚ) / normaliser id (c * c) ∧ (value : ℚ) / normaliser id (c * c) < 1 := by
  have cells : 3 ≤ c * c := by nlinarith
  have positive := normaliser_pos large
  have bounds := bounds_of_mem entry
  have below : (value : ℚ) < normaliser id (c * c) := lt_normaliser cells (by omega)
  exact ⟨div_nonneg (Int.cast_nonneg bounds.1) positive.le, (div_lt_one positive).mpr below⟩

/-- The number on the first line has at most eight digits. -/
theorem line_fits_iff {c : Int} (nonneg : 0 ≤ c) :
    (decimal c ++ ['\n']).length < lineSize ↔ c < 10 ^ 8 := by
  rcases Int.eq_ofNat_of_zero_le nonneg with ⟨number, rfl⟩
  have digits := Nat.length_toDigits_le_iff (b := 10) (n := number) (by decide) (by decide : 0 < 8)
  rw [decimal_natCast, List.length_append, List.length_singleton, lineSize]
  have power : ((number : Int) < 10 ^ 8) ↔ number < 10 ^ 8 := by
    exact_mod_cast Iff.rfl
  rw [power, ← digits]
  omega

/-- The kernel of exact arithmetic for a shuffled array. -/
theorem normalised_of_perm {c : Int} (large : 2 ≤ c) {array : List Int}
    (permuted : array.Perm ((List.range (c * c).toNat).map Int.ofNat)) :
    Generated.Normalised
      ⟨c, array, array.map fun value : Int => (value : ℚ) / normaliser id (c * c)⟩ where
  permutation := permuted
  length := by
    have length := permuted.length_eq
    simp only [List.length_map, List.length_range] at length ⊢
    rw [length]
    exact Int.toNat_of_nonneg (mul_self_nonneg c)
  inUnit := by
    intro weight member
    rcases List.mem_map.mp member with ⟨value, entry, equal⟩
    rw [← equal]
    exact weight_bounds large (permuted.mem_iff.mp entry)
  unit := by
    have count : ((c * c).toNat : Int) = c * c := Int.toNat_of_nonneg (mul_self_nonneg c)
    have sum : (array.map fun value : Int => (value : ℚ)).sum = normaliser id (c * c) := by
      rw [(permuted.map _).sum_eq, sum_range_ofNat, count]
    simp only [div_eq_mul_inv, List.sum_map_mul_right, sum]
    exact mul_inv_cancel₀ (normaliser_pos large).ne'

/-- What `main` does in exact arithmetic: it comes to its end if there is room for the weights
and for the first line. -/
theorem generate_exact (rand : Nat → Nat) (room : Nat) {c : Int} (large : 2 ≤ c) :
    ∃ array, array.Perm ((List.range (c * c).toNat).map Int.ofNat) ∧
      ∀ generated, generate id rand room c = some generated ↔
        (c * c ≤ room ∧ c < 10 ^ 8) ∧ generated =
          ⟨c, array, array.map fun value : Int => (value : ℚ) / normaliser id (c * c)⟩ := by
  rcases @shuffled_perm id rand c rfl with ⟨array, shuffle, permuted⟩
  have length : array.length = (c * c).toNat := by
    rw [permuted.length_eq]
    simp
  have filled := @fillWeights_eq id room (c * c) array length (normaliser_pos large).ne'
  refine ⟨array, permuted, ?_⟩
  intro generated
  simp only [generate, shuffle, show id (c * c) = c * c from rfl, Option.bind_eq_bind,
    Option.bind_some, Option.pure_def]
  constructor
  · intro complete
    split at complete
    · cases complete
    · next fits =>
        rcases Option.bind_eq_some_iff.mp complete with ⟨weights, stored, same⟩
        have enough : (c * c).toNat ≤ room := room_of_fillWeights stored
        rw [filled enough, Option.some.injEq] at stored
        cases same
        exact ⟨⟨by omega, (line_fits_iff (by omega)).mp (Nat.lt_of_not_le fits)⟩, by rw [stored]⟩
  · intro conditions
    rcases conditions with ⟨⟨enough, short⟩, rfl⟩
    have fits := (line_fits_iff (by omega)).mpr short
    rw [if_neg (Nat.not_le.mpr fits), filled (by omega), Option.bind_some]

/-- In exact arithmetic a generator that has come to its end has written a normalised
kernel. -/
theorem generated_normalised {rand : Nat → Nat} {room : Nat} {c : Int} (large : 2 ≤ c)
    {generated : Generated} (complete : generate id rand room c = some generated) :
    (generated.size = c ∧ generated.Normalised) ∧ c * c ≤ room ∧ c < 10 ^ 8 := by
  rcases generate_exact rand room large with ⟨array, permuted, exactly⟩
  rcases (exactly generated).mp complete with ⟨conditions, rfl⟩
  exact ⟨⟨rfl, normalised_of_perm large permuted⟩, conditions⟩

/-- Whatever `rand` returns, the kernel of exact arithmetic is normalised exactly when
`d_array` has room for all its weights, and `buffer` for its size. -/
theorem generate_normalised (rand : Nat → Nat) (room : Nat) {c : Int} (large : 2 ≤ c) :
    (∃ generated, generate id rand room c = some generated ∧ generated.size = c ∧
      generated.Normalised) ↔ c * c ≤ room ∧ c < 10 ^ 8 := by
  constructor
  · intro meets
    rcases meets with ⟨generated, complete, _⟩
    exact (generated_normalised large complete).2
  · intro conditions
    rcases generate_exact rand room large with ⟨array, permuted, exactly⟩
    exact ⟨_, (exactly _).mpr ⟨conditions, rfl⟩, rfl, normalised_of_perm large permuted⟩

theorem generate_normalised_two :
    (∃ generated, generate id (fun i => 5 * i + 3) 4 2 = some generated ∧ generated.size = 2 ∧
      generated.Normalised) ↔ (2 : Int) * 2 ≤ (4 : Nat) ∧ (2 : Int) < 10 ^ 8 :=
  generate_normalised (fun i => 5 * i + 3) 4 (by decide)

/-- The room that `malloc` promises: 4 bytes for each weight, which takes 8. -/
def promised (c : Int) : Nat :=
  (c * c).toNat * 4 / 8

/-- It is never enough. -/
theorem promised_short {c : Int} (large : 2 ≤ c) : ¬ c * c ≤ promised c := by
  have cells : 4 ≤ c * c := by nlinarith
  rw [promised]
  omega

theorem generate_overflows :
    ¬ ∃ generated, generate id (fun i => i) (promised 110) 110 = some generated ∧
      generated.size = 110 ∧ generated.Normalised := by
  intro meets
  rcases meets with ⟨generated, complete, _⟩
  exact promised_short (by decide) (generated_normalised (by decide) complete).2.1

/-! ## The normaliser in 32 bits -/

/-- The normaliser is positive and has its mathematical value, so every weight that is
computed is a number between zero and one. -/
structure ExactNormaliser (c : Int) : Prop where
  positive : 0 < normaliser int32 (int32 (c * c))
  value : normaliser int32 (int32 (c * c)) = (c : ℚ) ^ 2 * ((c : ℚ) ^ 2 - 1) / 2
  weights : ∀ rand, ∃ array, shuffled int32 rand c = some array ∧ ∀ value ∈ array,
    ∃ weight, quotient value (normaliser int32 (int32 (c * c))) = some weight ∧
      0 ≤ weight ∧ weight ≤ 1

theorem normaliser_square (c : Int) :
    normaliser id (c * c) = (c : ℚ) ^ 2 * ((c : ℚ) ^ 2 - 1) / 2 := by
  rw [normaliser_id]
  push_cast
  ring

/-- The predecessor of a number that fits also fits, so only the product can overflow. -/
theorem normaliser_int32 {c : Int} (nonneg : 0 ≤ c) (fits : c < 2 ^ 31) :
    normaliser int32 c = (int32 (c * (c - 1)) : ℚ) / 2 := by
  rw [normaliser, int32_of_bounds (by omega) (by omega : c - 1 < 2 ^ 31)]

/-- The normaliser is exact when its product fits in an `int`. -/
theorem normaliser_int32_eq_iff {c : Int} (nonneg : 0 ≤ c) (fits : c < 2 ^ 31) :
    normaliser int32 c = normaliser id c ↔ c * (c - 1) < 2 ^ 31 := by
  have product : 0 ≤ c * (c - 1) := by
    rcases nonneg.eq_or_lt with zero | positive
    · rw [← zero, zero_mul]
    · exact mul_nonneg nonneg (by omega)
  have halves : normaliser int32 c = normaliser id c ↔ int32 (c * (c - 1)) = c * (c - 1) := by
    rw [normaliser_int32 nonneg fits, normaliser, div_left_inj' two_ne_zero, Int.cast_inj]
    rfl
  rw [halves]
  constructor
  · intro equal
    rw [← equal]
    exact int32_lt _
  · intro small
    exact int32_of_lt product small

/-- The product grows with the fourth power of `c`. -/
theorem product_lt_iff {c : Int} (positive : 1 ≤ c) :
    c * c * (c * c - 1) < 2 ^ 31 ↔ c ≤ 215 := by
  constructor
  · intro small
    by_contra large
    have square : 46656 ≤ c * c := by nlinarith
    nlinarith
  · intro small
    have square : c * c ≤ 46225 := by nlinarith
    nlinarith

/-- The normaliser is exact up to a kernel of 215 rows; a kernel of one cell divides by
zero. -/
theorem exactNormaliser_iff {c : Int} (positive : 1 ≤ c) (fits : c * c < 2 ^ 31) :
    ExactNormaliser c ↔ 2 ≤ c ∧ c ≤ 215 := by
  have square : int32 (c * c) = c * c := int32_of_lt (mul_self_nonneg c) fits
  have exactly := normaliser_int32_eq_iff (mul_self_nonneg c) fits
  rw [product_lt_iff positive] at exactly
  constructor
  · intro meets
    constructor
    · by_contra small
      have one : c = 1 := by omega
      have divisor := meets.positive
      rw [one] at divisor
      revert divisor
      simp [normaliser, int32]
    · rw [← exactly, normaliser_square, ← meets.value, square]
  · intro range
    have same := exactly.mpr range.2
    constructor
    · rw [square, same]
      exact normaliser_pos range.1
    · rw [square, same, normaliser_square]
    · intro rand
      rcases shuffled_perm rand square with ⟨array, complete, permuted⟩
      refine ⟨array, complete, ?_⟩
      intro value entry
      have bounds := weight_bounds range.1 (permuted.mem_iff.mp entry)
      rw [square, same]
      exact ⟨_, if_neg (normaliser_pos range.1).ne', bounds.1, bounds.2.le⟩

/-- The largest of the kernels with exact weights. -/
theorem exactNormaliser_iff_largest : ExactNormaliser 215 ↔ 2 ≤ (215 : Int) ∧ (215 : Int) ≤ 215 :=
  exactNormaliser_iff (by decide) (by decide)

/-- A kernel of one cell divides by zero; with 216 rows the normaliser is negative. -/
theorem normaliser_inexact :
    ((1 : Int) * 1 < 2 ^ 31 ∧ normaliser int32 (int32 (1 * 1)) = 0 ∧ ¬ ExactNormaliser 1) ∧
      (216 : Int) * 216 < 2 ^ 31 ∧ normaliser int32 (int32 (216 * 216)) < 0 ∧
        ¬ ExactNormaliser 216 := by
  have zero : normaliser int32 (int32 (1 * 1)) = 0 := by
    simp [normaliser, int32]
  have negative : normaliser int32 (int32 (216 * 216)) < 0 := by
    have product : int32 (int32 (216 * 216) * int32 (int32 (216 * 216) - 1)) = -2118231616 := by
      decide
    rw [normaliser, product]
    norm_num
  refine ⟨⟨by decide, zero, ?_⟩, by decide, negative, ?_⟩
  · intro one
    exact one.positive.ne' zero
  · intro large
    exact large.positive.not_gt negative

/-! ## Filtering with a generated kernel -/

/-- The filter has read the lines of the generator's file row by row. -/
structure UsesKernel (options : Options ℚ) (generated : Generated) : Prop where
  size : options.c = generated.size
  cells : ∀ i < options.c.toNat, ∀ j < options.c.toNat,
    generated.weights[i * options.c.toNat + j]? = some (options.filterArray i j)

theorem UsesKernel.averaging {options : Options ℚ} {generated : Generated}
    (uses : UsesKernel options generated) (nonneg : 0 ≤ generated.size)
    (normalised : generated.Normalised) : Averaging options where
  nonneg := by
    intro i isRow j isColumn
    exact (normalised.inUnit _ (List.mem_of_getElem? (uses.cells i isRow j isColumn))).1
  unit := by
    have length : generated.weights.length = options.c.toNat * options.c.toNat := by
      have square := normalised.length
      rw [← uses.size] at square nonneg
      have size : ((options.c.toNat : Nat) : Int) = options.c := Int.toNat_of_nonneg nonneg
      rw [← size] at square
      exact_mod_cast square
    rw [sum_rows length uses.cells, normalised.unit]

/-- Pixels that are filtered with a generated kernel stay within all bounds of the image. -/
theorem generated_mem_Icc {options : Options ℚ} {generated : Generated} {rand : Nat → Nat}
    {room : Nat} {c : Int} (exactly : options.arithmetic = exactArithmetic)
    (large : 2 ≤ c) (complete : generate id rand room c = some generated)
    (uses : UsesKernel options generated) (fit : IndicesFit options) {lower upper : Int}
    (bounded : ∀ row column : Int, Inside options row column →
      options.imgInArray row column ∈ Set.Icc lower upper)
    {x y : Int} (inside : Inside options x y) :
    ∃ value, pixel options x y = some value ∧ value ∈ Set.Icc lower upper := by
  have normalised := (generated_normalised large complete).1
  have averaging := uses.averaging (by omega) normalised.2
  exact pixel_mem_Icc exactly averaging fit inside bounded

end OsExercises.ImageFilter
