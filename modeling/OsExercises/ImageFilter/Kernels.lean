import Mathlib.Data.Int.Interval
import OsExercises.ImageFilter.Filtering

/-! # Kernels in exact arithmetic

The index formula of `start_routine` comes from a definition that counts the cells of
the kernel from one, and the loops count them from zero. So the kernel is applied one
row and one column too early.

As long as no position is too large for an `int`, the kernel never leaves the image, and
its average never leaves the range of the pixels. Whether a position is positive is
decided with numbers of type `double`, and which one it is with numbers of type `int`: a
position that is too large is read below the image. -/

namespace OsExercises.ImageFilter

open OsExercises

/-- Rational numbers in place of `double`. -/
def exactArithmetic : Arithmetic ℚ where
  zero := 0
  add := (· + ·)
  scale value weight := value * weight
  round := roundAway

/-! ## Indices -/

theorem ceil_half (c : Int) : ⌈(c : ℚ) / 2⌉ = (c + 1) / 2 := by
  have lower : 2 * ((c + 1) / 2) < c + 2 := by omega
  have upper : c ≤ 2 * ((c + 1) / 2) := by omega
  apply Int.ceil_eq_iff.mpr
  constructor
  · have lower : 2 * (((c + 1) / 2 : Int) : ℚ) < c + 2 := by exact_mod_cast lower
    linarith
  · have upper : (c : ℚ) ≤ 2 * (((c + 1) / 2 : Int) : ℚ) := by exact_mod_cast upper
    linarith

section Index

variable {position c : Int} {offset size : Nat}
variable (row : 0 ≤ position ∧ position < size) (small : size < 2 ^ 31)
variable (kernel : c < 2 ^ 31) (cell : offset < c)

include row small kernel cell

/-- The subtraction never overflows, the addition may. -/
theorem clampedIndex_unfold :
    clampedIndex position c offset size =
      if 0 < position - (c + 1) / 2 + offset then
        if int32 (position - (c + 1) / 2 + offset) < size - 1 then
          int32 (position - (c + 1) / 2 + offset)
        else size - 1
      else 0 := by
  have first : int32 (position - (c + 1) / 2) = position - (c + 1) / 2 :=
    int32_of_bounds (by omega) (by omega)
  simp only [clampedIndex, first]

/-- The nested conditionals clamp a position that fits. -/
theorem clampedIndex_eq (fits : position - (c + 1) / 2 + offset < 2 ^ 31) :
    clampedIndex position c offset size =
      max 0 (min ((size : Int) - 1) (position - ⌈(c : ℚ) / 2⌉ + offset)) := by
  have exact_index : int32 (position - (c + 1) / 2 + offset) =
      position - (c + 1) / 2 + offset := int32_of_bounds (by omega) fits
  rw [clampedIndex_unfold row small kernel cell, exact_index, ceil_half]
  split
  · split <;> omega
  · omega

theorem clampedIndex_inside (fits : position - (c + 1) / 2 + offset < 2 ^ 31) :
    0 ≤ clampedIndex position c offset size ∧ clampedIndex position c offset size < size := by
  rw [clampedIndex_eq row small kernel cell fits]
  omega

/-- A position that does not fit becomes negative. -/
theorem clampedIndex_neg (overflows : 2 ^ 31 ≤ position - (c + 1) / 2 + offset) :
    clampedIndex position c offset size < 0 := by
  have wrapped : int32 (position - (c + 1) / 2 + offset) =
      position - (c + 1) / 2 + offset - 2 ^ 32 := int32_of_ge overflows (by omega)
  rw [clampedIndex_unfold row small kernel cell, wrapped, if_pos (by omega), if_pos (by omega)]
  omega

/-- The centre of the kernel is not above the pixel but one step before it. -/
theorem clampedIndex_centre (odd : c % 2 = 1) (centre : (offset : Int) = (c - 1) / 2) :
    clampedIndex position c offset size = max 0 (position - 1) := by
  rw [clampedIndex_eq row small kernel cell (by omega), ceil_half]
  omega

end Index

/-- No position under the kernel is too large for an `int`. -/
def IndicesFit {Double : Type} (options : Options Double) : Prop :=
  options.height + options.c / 2 ≤ 2 ^ 31 + 1 ∧ options.width + options.c / 2 ≤ 2 ^ 31 + 1

instance {Double : Type} (options : Options Double) : Decidable (IndicesFit options) :=
  inferInstanceAs (Decidable (_ ∧ _))

section Indices

variable {Double : Type} {options : Options Double} {x y : Int}

theorem indexI_eq (fit : IndicesFit options) (inside : Inside options x y) {i : Nat}
    (cell : i < options.c.toNat) :
    indexI options x i =
      max 0 (min ((options.height : Int) - 1) (x - ⌈(options.c : ℚ) / 2⌉ + i)) := by
  have rows := fit.1
  have row := inside.1
  exact clampedIndex_eq inside.1 options.height_lt options.c_lt (by omega) (by omega)

theorem indexJ_eq (fit : IndicesFit options) (inside : Inside options x y) {j : Nat}
    (cell : j < options.c.toNat) :
    indexJ options y j =
      max 0 (min ((options.width : Int) - 1) (y - ⌈(options.c : ℚ) / 2⌉ + j)) := by
  have columns := fit.2
  have column := inside.2
  exact clampedIndex_eq inside.2 options.width_lt options.c_lt (by omega) (by omega)

theorem reads_inside (fit : IndicesFit options) (inside : Inside options x y) {i j : Nat}
    (isRow : i < options.c.toNat) (isColumn : j < options.c.toNat) :
    Inside options (indexI options x i) (indexJ options y j) := by
  have row := inside.1
  have column := inside.2
  have rows := fit.1
  have columns := fit.2
  exact ⟨clampedIndex_inside inside.1 options.height_lt options.c_lt (by omega) (by omega),
    clampedIndex_inside inside.2 options.width_lt options.c_lt (by omega) (by omega)⟩

/-- The last cells of the kernel on the last row and column have the largest positions. -/
theorem indicesFit_of_nonneg (height_pos : 0 < options.height) (positive : 1 ≤ options.c)
    (row : 0 ≤ indexI options (options.height - 1) (options.c.toNat - 1))
    (column : 0 ≤ indexJ options (options.width - 1) (options.c.toNat - 1)) :
    IndicesFit options := by
  have width_pos := options.width_pos
  constructor
  · by_contra large
    have negative := @clampedIndex_neg (options.height - 1) options.c (options.c.toNat - 1)
      options.height (by omega) options.height_lt options.c_lt (by omega) (by omega)
    simp only [indexI] at row
    omega
  · by_contra large
    have negative := @clampedIndex_neg (options.width - 1) options.c (options.c.toNat - 1)
      options.width (by omega) options.width_lt options.c_lt (by omega) (by omega)
    simp only [indexJ] at column
    omega

/-! ## Pixels -/

/-- A cell of the kernel on a pixel of the image. -/
theorem addCell_inside {i j : Nat} (inside : Inside options (indexI options x i)
    (indexJ options y j)) (s : Double) :
    addCell options x y i s j = some (options.arithmetic.add s (options.arithmetic.scale
      (options.imgInArray (indexI options x i) (indexJ options y j))
      (options.filterArray i j))) := by
  simp only [addCell, loadPixel, if_pos inside, Option.bind_eq_bind, Option.bind_some,
    Option.pure_def]

theorem pixel_of_reads (reads : ∀ i < options.c.toNat, ∀ j < options.c.toNat,
      Inside options (indexI options x i) (indexJ options y j)) :
    pixel options x y = some (options.arithmetic.round
      ((List.range options.c.toNat).foldl (fun s i => (List.range options.c.toNat).foldl
        (fun s j => options.arithmetic.add s (options.arithmetic.scale
          (options.imgInArray (indexI options x i) (indexJ options y j))
          (options.filterArray i j))) s) options.arithmetic.zero)) := by
  have loops := @foldlM_of_some Nat Double
    (fun s i => (List.range options.c.toNat).foldlM (addCell options x y i) s)
    (List.range options.c.toNat)
    (fun s i => (List.range options.c.toNat).foldl (fun s j =>
      options.arithmetic.add s (options.arithmetic.scale
        (options.imgInArray (indexI options x i) (indexJ options y j))
        (options.filterArray i j))) s)
    (fun s i isRow => foldlM_of_some (fun s j isColumn =>
      addCell_inside (reads i (List.mem_range.mp isRow) j (List.mem_range.mp isColumn)) s) s)
    options.arithmetic.zero
  simp only [pixel, loops, Option.bind_eq_bind, Option.bind_some, Option.pure_def]

/-- A pixel that has been computed has been computed from pixels of the image. -/
theorem reads_of_pixel {value : Int} (filtered : pixel options x y = some value) {i j : Nat}
    (isRow : i < options.c.toNat) (isColumn : j < options.c.toNat) :
    Inside options (indexI options x i) (indexJ options y j) := by
  rcases Option.bind_eq_some_iff.mp filtered with ⟨s, loops, _⟩
  rcases exists_round loops (List.mem_range.mpr isRow) with ⟨_, _, row⟩
  rcases exists_round row (List.mem_range.mpr isColumn) with ⟨_, _, cell⟩
  rcases Option.bind_eq_some_iff.mp cell with ⟨_, load, _⟩
  exact (Option.ite_none_right_eq_some.mp load).1

end Indices

section Pixels

variable {options : Options ℚ} (exactly : options.arithmetic = exactArithmetic)

include exactly

theorem pixel_eq {x y : Int} (reads : ∀ i < options.c.toNat, ∀ j < options.c.toNat,
      Inside options (indexI options x i) (indexJ options y j)) :
    pixel options x y =
      some (roundAway (∑ i ∈ Finset.range options.c.toNat, ∑ j ∈ Finset.range options.c.toNat,
        (options.imgInArray (indexI options x i) (indexJ options y j) : ℚ) *
          options.filterArray i j)) := by
  have loops := foldl_range_range_add
    (fun i j => (options.imgInArray (indexI options x i) (indexJ options y j) : ℚ) *
      options.filterArray i j) options.c.toNat options.c.toNat 0
  rw [zero_add] at loops
  rw [← loops, pixel_of_reads reads, exactly]
  rfl

/-- A kernel with all its weight in one cell copies the pixel that this cell is laid on. -/
theorem pixel_single {x y : Int} (reads : ∀ i < options.c.toNat, ∀ j < options.c.toNat,
      Inside options (indexI options x i) (indexJ options y j))
    {centre : Nat} (inside : centre < options.c.toNat)
    (single : ∀ i < options.c.toNat, ∀ j < options.c.toNat,
      options.filterArray i j = if i = centre ∧ j = centre then 1 else 0) :
    pixel options x y =
      some (options.imgInArray (indexI options x centre) (indexJ options y centre)) := by
  have row : ∀ i < options.c.toNat, i ≠ centre →
      ∑ j ∈ Finset.range options.c.toNat,
        (options.imgInArray (indexI options x i) (indexJ options y j) : ℚ) *
          options.filterArray i j = 0 := by
    intro i isRow other
    apply Finset.sum_eq_zero
    intro j isColumn
    rw [single i isRow j (Finset.mem_range.mp isColumn), if_neg (fun both => other both.1),
      mul_zero]
  have cell : ∀ j < options.c.toNat, j ≠ centre →
      (options.imgInArray (indexI options x centre) (indexJ options y j) : ℚ) *
        options.filterArray centre j = 0 := by
    intro j isColumn other
    rw [single centre inside j isColumn, if_neg (fun both => other both.2), mul_zero]
  rw [pixel_eq exactly reads,
    Finset.sum_eq_single_of_mem centre (Finset.mem_range.mpr inside)
      (fun i member => row i (Finset.mem_range.mp member)),
    Finset.sum_eq_single_of_mem centre (Finset.mem_range.mpr inside)
      (fun j member => cell j (Finset.mem_range.mp member)),
    single centre inside centre inside, if_pos ⟨rfl, rfl⟩, mul_one, roundAway_intCast]

/-- The kernel is a weighted average. -/
structure Averaging (options : Options ℚ) : Prop where
  nonneg : ∀ i < options.c.toNat, ∀ j < options.c.toNat, 0 ≤ options.filterArray i j
  unit : ∑ i ∈ Finset.range options.c.toNat, ∑ j ∈ Finset.range options.c.toNat,
    options.filterArray i j = 1

/-- A weighted average of pixels keeps every bound of the image. -/
theorem pixel_mem_Icc (averaging : Averaging options) (fit : IndicesFit options) {x y : Int}
    (inside : Inside options x y) {lower upper : Int}
    (bounded : ∀ row column : Int, Inside options row column →
      options.imgInArray row column ∈ Set.Icc lower upper) :
    ∃ value, pixel options x y = some value ∧ value ∈ Set.Icc lower upper := by
  have reads : ∀ i < options.c.toNat, ∀ j < options.c.toNat,
      Inside options (indexI options x i) (indexJ options y j) :=
    fun i isRow j isColumn => reads_inside fit inside isRow isColumn
  have cells : ∀ i < options.c.toNat, ∀ j < options.c.toNat,
      (options.imgInArray (indexI options x i) (indexJ options y j) : ℚ) ∈
        Set.Icc (lower : ℚ) upper := by
    intro i isRow j isColumn
    have cell := bounded _ _ (reads i isRow j isColumn)
    exact ⟨Int.cast_le.mpr cell.1, Int.cast_le.mpr cell.2⟩
  have average := weighted_mem_Icc averaging.nonneg averaging.unit cells
  exact ⟨_, pixel_eq exactly reads, le_roundAway average.1, roundAway_le average.2⟩

/-- The rows of a worker go through, and keep every bound of the image. -/
theorem filterRows_mem_Icc (averaging : Averaging options) (fit : IndicesFit options)
    (array : Int → Int → Int) {start stop : Int} (from_start : 0 ≤ start)
    (up_to : stop ≤ options.height) :
    ∃ filtered, filterRows options array start stop = some filtered ∧
      ∀ lower upper : Int, (∀ row column : Int, Inside options row column →
        options.imgInArray row column ∈ Set.Icc lower upper) →
      ∀ x y, Inside options x y → start ≤ x → x < stop →
        filtered x y ∈ Set.Icc lower upper := by
  have reads {x y : Int} (inside : Inside options x y) := pixel_eq exactly
    fun i isRow j isColumn => reads_inside fit inside (i := i) (j := j) isRow isColumn
  rcases filterRows_isSome array from_start up_to (fun x y inside _ _ => reads inside) with
    ⟨filtered, complete⟩
  refine ⟨filtered, complete, ?_⟩
  intro lower upper bounded x y inside first last
  have stored := filterRows_apply complete x y
  rw [if_pos ⟨first, last, inside.2⟩] at stored
  rcases pixel_mem_Icc exactly averaging fit inside bounded with ⟨value, computed, within⟩
  rw [stored, Option.some.injEq] at computed
  rwa [computed]

end Pixels

/-! ## The range of the output -/

structure StaysInRange (options : Options ℚ) : Prop where
  rowClamped : ∀ x y, Inside options x y → ∀ i < options.c.toNat, indexI options x i =
    max 0 (min ((options.height : Int) - 1) (x - ⌈(options.c : ℚ) / 2⌉ + i))
  columnClamped : ∀ x y, Inside options x y → ∀ j < options.c.toNat, indexJ options y j =
    max 0 (min ((options.width : Int) - 1) (y - ⌈(options.c : ℚ) / 2⌉ + j))
  inside : ∀ x y, Inside options x y → ∀ i < options.c.toNat, ∀ j < options.c.toNat,
    Inside options (indexI options x i) (indexJ options y j)
  /-- A stored pixel lies between two pixels of the image. -/
  between : ∀ array (start stop : Int), 0 ≤ start → stop ≤ options.height →
    ∃ filtered, filterRows options array start stop = some filtered ∧
      ∀ x y, Inside options x y → start ≤ x → x < stop →
        ∃ darkX darkY brightX brightY, Inside options darkX darkY ∧
          Inside options brightX brightY ∧ options.imgInArray darkX darkY ≤ filtered x y ∧
          filtered x y ≤ options.imgInArray brightX brightY
  grey : ∀ maxGreyValue : Int,
    (∀ x y, Inside options x y → 0 ≤ options.imgInArray x y ∧
      options.imgInArray x y ≤ maxGreyValue) →
    ∀ array (start stop : Int), 0 ≤ start → stop ≤ options.height →
      ∃ filtered, filterRows options array start stop = some filtered ∧
        ∀ x y, Inside options x y → start ≤ x → x < stop →
          0 ≤ filtered x y ∧ filtered x y ≤ maxGreyValue

theorem exists_extremes {options : Options ℚ} (height_pos : 0 < options.height) :
    ∃ darkX darkY brightX brightY, Inside options darkX darkY ∧ Inside options brightX brightY ∧
      ∀ x y, Inside options x y → options.imgInArray x y ∈
        Set.Icc (options.imgInArray darkX darkY) (options.imgInArray brightX brightY) := by
  let positions := Finset.Ico (0 : Int) options.height ×ˢ Finset.Ico (0 : Int) options.width
  have mem (position : Int × Int) :
      position ∈ positions ↔ Inside options position.1 position.2 := by
    simp only [positions, Finset.mem_product, Finset.mem_Ico, Inside]
  have width_pos := options.width_pos
  have corner : (0, 0) ∈ positions := by
    rw [mem]
    simp only [Inside]
    omega
  rcases positions.exists_min_image (fun position => options.imgInArray position.1 position.2)
    ⟨_, corner⟩ with ⟨dark, darkInside, darkest⟩
  rcases positions.exists_max_image (fun position => options.imgInArray position.1 position.2)
    ⟨_, corner⟩ with ⟨bright, brightInside, brightest⟩
  refine ⟨dark.1, dark.2, bright.1, bright.2, (mem dark).mp darkInside,
    (mem bright).mp brightInside, ?_⟩
  intro x y inside
  have member := (mem (x, y)).mpr inside
  exact ⟨darkest _ member, brightest _ member⟩

theorem Averaging.positive {options : Options ℚ} (averaging : Averaging options) :
    1 ≤ options.c := by
  by_contra none
  have empty : options.c.toNat = 0 := by omega
  have unit := averaging.unit
  rw [empty] at unit
  exact absurd unit (by simp)

/-- The last pixel of the image. -/
theorem inside_last {Double : Type} {options : Options Double} (height_pos : 0 < options.height) :
    Inside options (options.height - 1) (options.width - 1) := by
  have width_pos := options.width_pos
  simp only [Inside]
  omega

/-- The kernel stays inside the image, and its average in the range of the pixels, exactly
when all positions under it fit in 32 bits. -/
theorem filtered_in_range (options : Options ℚ) (exactly : options.arithmetic = exactArithmetic)
    (height_pos : 0 < options.height) (averaging : Averaging options) :
    StaysInRange options ↔ IndicesFit options := by
  have positive := averaging.positive
  constructor
  · intro stays
    have reads := stays.inside _ _ (inside_last height_pos) (options.c.toNat - 1) (by omega)
      (options.c.toNat - 1) (by omega)
    exact indicesFit_of_nonneg height_pos positive reads.1.1 reads.2.1
  · intro fit
    exact
      { rowClamped := fun _ _ inside _ cell => indexI_eq fit inside cell
        columnClamped := fun _ _ inside _ cell => indexJ_eq fit inside cell
        inside := fun _ _ inside _ isRow _ isColumn => reads_inside fit inside isRow isColumn
        between := by
          intro array start stop from_start up_to
          rcases exists_extremes height_pos with
            ⟨darkX, darkY, brightX, brightY, dark, bright, bounded⟩
          rcases filterRows_mem_Icc exactly averaging fit array from_start up_to with
            ⟨filtered, complete, within⟩
          refine ⟨filtered, complete, ?_⟩
          intro x y inside first last
          exact ⟨darkX, darkY, brightX, brightY, dark, bright,
            within _ _ bounded x y inside first last⟩
        grey := by
          intro maxGreyValue bounded array start stop from_start up_to
          rcases filterRows_mem_Icc exactly averaging fit array from_start up_to with
            ⟨filtered, complete, within⟩
          exact ⟨filtered, complete, within 0 maxGreyValue bounded⟩ }

/-- An image of one row under a kernel of equal weights. -/
def evenKernel (width : Nat) (c : Nat) (width_pos : 0 < width) (width_lt : width < 2 ^ 31)
    (c_lt : (c : Int) < 2 ^ 31) : Options ℚ where
  arithmetic := exactArithmetic
  threadNo := 1
  height := 1
  width := width
  c := c
  imgInArray _ y := y
  filterArray _ _ := 1 / (c * c)
  garbage _ _ := 0
  room := 3
  threadNo_pos := Nat.one_pos
  threadNo_lt := one_lt_int
  height_lt := one_lt_int
  width_pos := width_pos
  width_lt := width_lt
  c_lt := c_lt
  room_le := one_le_three

/-- Two pixels under a kernel of four cells. -/
def flatKernel : Options ℚ := evenKernel 2 2 Nat.two_pos two_lt_int (by decide)

theorem filtered_in_range_flat : StaysInRange flatKernel ↔ IndicesFit flatKernel := by
  apply filtered_in_range flatKernel rfl Nat.one_pos
  constructor
  · intro i _ j _
    simp only [flatKernel, evenKernel]
    norm_num
  · simp [flatKernel, evenKernel]

theorem widest_pos : 0 < 2147483647 := by decide

theorem widest_lt : 2147483647 < 2 ^ 31 := by decide

theorem six_int : ((6 : Nat) : Int) < 2 ^ 31 := by decide

/-- A row of 2147483647 pixels under a kernel of 36 cells. -/
def wideImage : Options ℚ := evenKernel 2147483647 6 widest_pos widest_lt six_int

theorem wideImage_averaging : Averaging wideImage where
  nonneg := by
    intro i _ j _
    simp only [wideImage, evenKernel]
    norm_num
  unit := by
    simp [wideImage, evenKernel]

/-- On the last pixel of the row the last column of the kernel is read far below the image. -/
theorem wideImage_leaves :
    Averaging wideImage ∧ indexJ wideImage 2147483646 5 = -2147483648 ∧
      ¬ StaysInRange wideImage := by
  have wrapped : indexJ wideImage 2147483646 5 = -2147483648 := by decide
  refine ⟨wideImage_averaging, wrapped, ?_⟩
  intro stays
  have reads := (stays.inside 0 2147483646 (by decide) 0 (by decide) 5 (by decide)).2.1
  rw [wrapped] at reads
  exact absurd reads (by decide)

/-! ## The centre of the kernel -/

/-- The kernel that is one at its centre cell and zero elsewhere. -/
def CentreKernel (options : Options ℚ) : Prop :=
  ∀ i < options.c.toNat, ∀ j < options.c.toNat, options.filterArray i j =
    if (i : Int) = (options.c - 1) / 2 ∧ (j : Int) = (options.c - 1) / 2 then 1 else 0

/-- Filtering all rows gives the image back. -/
def Unchanged (options : Options ℚ) : Prop :=
  ∃ filtered, filterRows options options.garbage 0 options.height = some filtered ∧
    ∀ x y, Inside options x y → filtered x y = options.imgInArray x y

def Constant (options : Options ℚ) : Prop :=
  ∀ x y, Inside options x y → options.imgInArray x y = options.imgInArray 0 0

section Centre

variable {options : Options ℚ} (exactly : options.arithmetic = exactArithmetic)
variable (positive : 1 ≤ options.c) (odd : options.c % 2 = 1) (centre : CentreKernel options)

include exactly positive odd centre

theorem pixel_centre {x y : Int} (inside : Inside options x y)
    (reads : ∀ i < options.c.toNat, ∀ j < options.c.toNat,
      Inside options (indexI options x i) (indexJ options y j)) :
    pixel options x y = some (options.imgInArray (max 0 (x - 1)) (max 0 (y - 1))) := by
  let middle := ((options.c - 1) / 2).toNat
  have middle_eq : (middle : Int) = (options.c - 1) / 2 := by omega
  have single : ∀ i < options.c.toNat, ∀ j < options.c.toNat,
      options.filterArray i j = if i = middle ∧ j = middle then 1 else 0 := by
    intro i isRow j isColumn
    simp only [centre i isRow j isColumn, ← middle_eq, Int.natCast_inj]
  rw [pixel_single exactly reads (by omega) single, indexI, indexJ,
    clampedIndex_centre inside.1 options.height_lt options.c_lt (by omega) odd middle_eq,
    clampedIndex_centre inside.2 options.width_lt options.c_lt (by omega) odd middle_eq]

/-- What filtering all rows has made of an image. -/
theorem filterRows_centre {filtered : Int → Int → Int}
    (complete : filterRows options options.garbage 0 options.height = some filtered) {x y : Int}
    (inside : Inside options x y) :
    filtered x y = options.imgInArray (max 0 (x - 1)) (max 0 (y - 1)) := by
  have stored := filterRows_apply complete x y
  rw [if_pos ⟨inside.1.1, inside.1.2, inside.2⟩] at stored
  have reads : ∀ i < options.c.toNat, ∀ j < options.c.toNat,
      Inside options (indexI options x i) (indexJ options y j) :=
    fun i isRow j isColumn => reads_of_pixel stored isRow isColumn
  rw [pixel_centre exactly positive odd centre inside reads, Option.some.injEq] at stored
  exact stored.symm

end Centre

/-- Every pixel is reached from the corner by steps along the edges and the diagonals. -/
theorem constant_of_shifted {options : Options ℚ}
    (shifted : ∀ x y, Inside options x y →
      options.imgInArray (max 0 (x - 1)) (max 0 (y - 1)) = options.imgInArray x y) :
    Constant options := by
  have fromCorner (distance : Nat) : ∀ x y, Inside options x y → x ≤ distance → y ≤ distance →
      options.imgInArray x y = options.imgInArray 0 0 := by
    induction distance with
    | zero =>
        intro x y inside row column
        have rowZero : x = 0 := le_antisymm row inside.1.1
        have columnZero : y = 0 := le_antisymm column inside.2.1
        rw [rowZero, columnZero]
    | succ distance induction =>
        intro x y inside row column
        have closer : Inside options (max 0 (x - 1)) (max 0 (y - 1)) := by
          simp only [Inside] at inside ⊢
          omega
        rw [← shifted x y inside]
        exact induction _ _ closer (by omega) (by omega)
  intro x y inside
  exact fromCorner (max x y).toNat x y inside (by omega) (by omega)

/-- The kernel that should change nothing leaves only images of one colour unchanged, and
of these the ones in which all positions under it fit in 32 bits. -/
theorem unchanged_iff_constant (options : Options ℚ)
    (exactly : options.arithmetic = exactArithmetic) (height_pos : 0 < options.height)
    (positive : 1 ≤ options.c) (odd : options.c % 2 = 1) (centre : CentreKernel options) :
    Unchanged options ↔ Constant options ∧ IndicesFit options := by
  constructor
  · intro unchanged
    rcases unchanged with ⟨filtered, complete, same⟩
    constructor
    · apply constant_of_shifted
      intro x y inside
      rw [← filterRows_centre exactly positive odd centre complete inside]
      exact same x y inside
    · have last := inside_last height_pos
      have stored := filterRows_apply complete (options.height - 1) (options.width - 1)
      rw [if_pos ⟨last.1.1, last.1.2, last.2⟩] at stored
      have cell : options.c.toNat - 1 < options.c.toNat := by omega
      have reads := reads_of_pixel stored cell cell
      exact indicesFit_of_nonneg height_pos positive reads.1.1 reads.2.1
  · intro conditions
    rcases conditions with ⟨constant, fit⟩
    have pixels (x y : Int) (inside : Inside options x y) := pixel_centre exactly positive odd
      centre inside fun i isRow j isColumn => reads_inside fit inside (i := i) (j := j) isRow
        isColumn
    rcases filterRows_isSome options.garbage le_rfl le_rfl
      (fun x y inside _ _ => pixels x y inside) with ⟨filtered, complete⟩
    refine ⟨filtered, complete, ?_⟩
    intro x y inside
    have earlier : Inside options (max 0 (x - 1)) (max 0 (y - 1)) := by
      simp only [Inside] at inside ⊢
      omega
    rw [filterRows_centre exactly positive odd centre complete inside, constant _ _ earlier,
      constant x y inside]

/-- A column of a dark and a bright pixel under the kernel with the single weight 1. -/
def darkOverBright : Options ℚ where
  arithmetic := exactArithmetic
  threadNo := 1
  height := 2
  width := 1
  c := 1
  imgInArray x _ := x
  filterArray _ _ := 1
  garbage _ _ := 0
  room := 3
  threadNo_pos := Nat.one_pos
  threadNo_lt := one_lt_int
  height_lt := two_lt_int
  width_pos := Nat.one_pos
  width_lt := one_lt_int
  c_lt := one_int
  room_le := one_le_three

theorem darkOverBright_centre : CentreKernel darkOverBright := by
  intro i isRow j isColumn
  have row : i = 0 := Nat.lt_one_iff.mp isRow
  have column : j = 0 := Nat.lt_one_iff.mp isColumn
  subst row column
  rfl

theorem unchanged_iff_constant_darkOverBright :
    Unchanged darkOverBright ↔ Constant darkOverBright ∧ IndicesFit darkOverBright :=
  unchanged_iff_constant darkOverBright rfl Nat.two_pos le_rfl rfl darkOverBright_centre

/-- The bright pixel becomes dark. -/
theorem darkOverBright_changed :
    CentreKernel darkOverBright ∧ ¬ Unchanged darkOverBright := by
  refine ⟨darkOverBright_centre, ?_⟩
  intro unchanged
  rcases unchanged with ⟨filtered, complete, same⟩
  have inside : Inside darkOverBright 1 0 := by decide
  have copied := filterRows_centre rfl le_rfl rfl darkOverBright_centre complete inside
  rw [same 1 0 inside] at copied
  exact absurd copied (by decide)

end OsExercises.ImageFilter
