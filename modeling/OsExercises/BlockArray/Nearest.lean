import Mathlib.Algebra.Order.Group.Abs
import Mathlib.Algebra.BigOperators.Group.List.Basic
import OsExercises.BlockArray.Library
import OsExercises.Foundation.Minima

/-! # The nearest block

The search for the block whose sum of characters is nearest to that of block `n`. It
starts with the sum of block `n` as the smallest difference so far, and with block 0. -/

namespace OsExercises.BlockArray

open OsExercises

def IsInt (value : Int) : Prop := -(2 ^ 31) ≤ value ∧ value < 2 ^ 31

instance (value : Int) : Decidable (IsInt value) := inferInstanceAs (Decidable (_ ∧ _))

/-- The result of an operation on `int`; `none` is an overflow. -/
def intResult (value : Int) : Option Int :=
  if IsInt value then some value else none

/-- The string at `ar[i]`. -/
def stringAt (ar : List Pointer) (heap : Heap) (i : Nat) : Option Text := do
  let pointer ← ar[i]?
  let block ← heap pointer
  if nul ∈ block then some (cString block) else none

/-- The loop `for (int j = 0; j < strlen(…); j++) sum += …[j]` -/
def addCharacters (sum : Int) : Text → Option Int
  | [] => some sum
  | character :: characters =>
      (intResult (sum + charValue character)).bind fun sum => addCharacters sum characters

def sumAt (ar : List Pointer) (heap : Heap) (i : Nat) : Option Int :=
  (stringAt ar heap i).bind (addCharacters 0)

/-- `abs(tmpsum - sum)` -/
def absDifference (tmpsum sum : Int) : Option Int :=
  (intResult (tmpsum - sum)).bind fun difference => intResult |difference|

/-- The loop over the blocks from `ar[i]` on, with `left` blocks to go. -/
def nearestLoop (n : Nat) (sum : Int) (ar : List Pointer) (heap : Heap) :
    (left i pos : Nat) → (sumdiff : Int) → Option Nat
  | 0, _, pos, _ => some pos
  | left + 1, i, pos, sumdiff => do
      let tmpsum ← sumAt ar heap i
      let difference ← absDifference tmpsum sum
      if difference < sumdiff ∧ i ≠ n then nearestLoop n sum ar heap left (i + 1) i difference
      else nearestLoop n sum ar heap left (i + 1) pos sumdiff

def nearestDynamicSum (n al : Int) (ar : List Pointer) (heap : Heap) : Option Int :=
  if n < 0 ∨ n ≥ al then some (-1)
  else do
    let sum ← sumAt ar heap n.toNat
    let pos ← nearestLoop n.toNat sum ar heap al.toNat 0 0 sum
    some pos

/-! ## Sums -/

/-- The array has these blocks, each with a NUL. -/
structure Holds (ar : List Pointer) (heap : Heap) (blocks : List Text) : Prop where
  allocated : ar.map heap = blocks.map some
  terminated : ∀ block ∈ blocks, nul ∈ block

def stringSum (string : Text) : Int :=
  (string.map charValue).sum

/-- The string of block `i`. -/
def blockString (blocks : List Text) (i : Nat) : Text :=
  cString (blocks.getD i [])

def blockSum (blocks : List Text) (i : Nat) : Int :=
  stringSum (blockString blocks i)

theorem intResult_eq_some_iff {value result : Int} :
    intResult value = some result ↔ IsInt value ∧ result = value := by
  rw [intResult, Option.ite_none_right_eq_some, Option.some.injEq, eq_comm]

/-- The loop forms the sums of all that the string begins with. -/
theorem addCharacters_eq_some_iff {start result : Int} {text : Text} (fits : IsInt start) :
    addCharacters start text = some result ↔
      (∀ k, IsInt (start + stringSum (text.take k))) ∧ result = start + stringSum text := by
  induction text generalizing start with
  | nil =>
      simp only [addCharacters, Option.some.injEq, List.take_nil, stringSum, List.map_nil,
        List.sum_nil, add_zero]
      exact ⟨fun same => ⟨fun _ => fits, same.symm⟩, fun both => both.2.symm⟩
  | cons character text induction =>
      have tail (k : Nat) : start + stringSum ((character :: text).take (k + 1)) =
          start + charValue character + stringSum (text.take k) := by
        simp only [stringSum, List.take_succ_cons, List.map_cons, List.sum_cons, add_assoc]
      have whole : start + stringSum (character :: text) =
          start + charValue character + stringSum text := by
        simp only [stringSum, List.map_cons, List.sum_cons, add_assoc]
      rw [addCharacters, whole]
      constructor
      · intro added
        rcases Option.bind_eq_some_iff.mp added with ⟨next, stepped, rest⟩
        rcases intResult_eq_some_iff.mp stepped with ⟨fitsNext, rfl⟩
        rcases (induction fitsNext).mp rest with ⟨later, same⟩
        refine ⟨?_, same⟩
        intro k
        cases k with
        | zero => simpa [stringSum] using fits
        | succ k => exact tail k ▸ later k
      · intro both
        have later : ∀ k, IsInt (start + charValue character + stringSum (text.take k)) :=
          fun k => tail k ▸ both.1 (k + 1)
        have fitsNext : IsInt (start + charValue character) := by simpa [stringSum] using later 0
        rw [intResult_eq_some_iff.mpr ⟨fitsNext, rfl⟩, Option.bind_some]
        exact (induction fitsNext).mpr ⟨later, both.2⟩

theorem absDifference_eq_some_iff {tmpsum sum difference : Int} :
    absDifference tmpsum sum = some difference ↔
      |tmpsum - sum| < 2 ^ 31 ∧ difference = |tmpsum - sum| := by
  constructor
  · intro computed
    rcases Option.bind_eq_some_iff.mp computed with ⟨signed, subtracted, absolute⟩
    rcases intResult_eq_some_iff.mp subtracted with ⟨_, rfl⟩
    rcases intResult_eq_some_iff.mp absolute with ⟨fits, same⟩
    exact ⟨fits.2, same⟩
  · intro both
    rcases both with ⟨fits, rfl⟩
    have bounds := abs_lt.mp fits
    have nonneg := abs_nonneg (tmpsum - sum)
    have signed : IsInt (tmpsum - sum) := ⟨bounds.1.le, bounds.2⟩
    have absolute : IsInt |tmpsum - sum| := ⟨by omega, fits⟩
    rw [absDifference, intResult_eq_some_iff.mpr ⟨signed, rfl⟩, Option.bind_some]
    exact intResult_eq_some_iff.mpr ⟨absolute, rfl⟩

/-- The sums that the loop over the string forms are of type `int`. -/
def SumsFit (string : Text) : Prop :=
  ∀ k, IsInt (stringSum (string.take k))

theorem charValue_bounds (character : Char) :
    -128 ≤ charValue character ∧ charValue character ≤ 127 := by
  have lower : -((2 ^ 8 : Nat) / 2 : Int) ≤ charValue character := Int.le_bmod (by decide)
  have upper : charValue character < ((2 ^ 8 : Nat) + 1 : Int) / 2 := Int.bmod_lt (by decide)
  omega

theorem stringSum_bounds (text : Text) :
    -128 * (text.length : Int) ≤ stringSum text ∧ stringSum text ≤ 127 * text.length := by
  induction text with
  | nil => simp [stringSum]
  | cons character text induction =>
      have bounds := charValue_bounds character
      rw [stringSum, List.map_cons, List.sum_cons, List.length_cons]
      unfold stringSum at induction
      omega

theorem sumsFit_short {text : Text} (short : text.length < 2 ^ 23) : SumsFit text := by
  intro k
  have bounds := stringSum_bounds (text.take k)
  have length : (text.take k).length ≤ text.length := by
    rw [List.length_take]
    omega
  unfold IsInt
  omega

section Blocks

variable {ar : List Pointer} {heap : Heap} {blocks : List Text}

theorem Holds.length (holds : Holds ar heap blocks) : ar.length = blocks.length := by
  have lengths := congrArg List.length holds.allocated
  rwa [List.length_map, List.length_map] at lengths

theorem Holds.stringAt (holds : Holds ar heap blocks) {i : Nat} (below : i < blocks.length) :
    stringAt ar heap i = some (blockString blocks i) := by
  have belowAr : i < ar.length := holds.length ▸ below
  have allocated := congrArg (fun list => list[i]?) holds.allocated
  simp only [List.getElem?_map, List.getElem?_eq_getElem below,
    List.getElem?_eq_getElem belowAr, Option.map_some, Option.some.injEq] at allocated
  have terminated := holds.terminated blocks[i] (List.getElem_mem below)
  simp [BlockArray.stringAt, blockString, belowAr, below, allocated, terminated]

theorem Holds.sumAt_eq_some_iff (holds : Holds ar heap blocks) {i : Nat}
    (below : i < blocks.length) {result : Int} :
    sumAt ar heap i = some result ↔
      SumsFit (blockString blocks i) ∧ result = blockSum blocks i := by
  rw [sumAt, holds.stringAt below, Option.bind_some, addCharacters_eq_some_iff (by decide)]
  simp only [zero_add]
  rfl

/-! ## The search -/

/-- How far the sum of block `i` is from that of block `n`. -/
def distance (blocks : List Text) (n i : Nat) : Int :=
  |blockSum blocks i - blockSum blocks n|

/-- Block `i` can be compared with block `n` without an overflow. -/
structure Comparable (blocks : List Text) (n i : Nat) : Prop where
  sums : SumsFit (blockString blocks i)
  difference : distance blocks n i < 2 ^ 31

theorem comparable_short {n i : Nat} (shortN : (blockString blocks n).length < 2 ^ 23)
    (short : (blockString blocks i).length < 2 ^ 23) : Comparable blocks n i := by
  refine ⟨sumsFit_short short, ?_⟩
  have boundsN := stringSum_bounds (blockString blocks n)
  have bounds := stringSum_bounds (blockString blocks i)
  rw [distance, abs_lt]
  unfold blockSum
  omega

/-- The loop takes the running minimum of the distances. -/
theorem nearestLoop_eq_some_iff (holds : Holds ar heap blocks) {n left i pos result : Nat}
    {sumdiff : Int} (inside : i + left ≤ blocks.length) :
    nearestLoop n (blockSum blocks n) ar heap left i pos sumdiff = some result ↔
      (∀ j, i ≤ j → j < i + left → Comparable blocks n j) ∧
        result = minimumFrom (distance blocks n) (fun j => j ≠ n) left i pos sumdiff := by
  induction left generalizing i pos sumdiff with
  | zero =>
      have nothing : ∀ j, i ≤ j → j < i + 0 → Comparable blocks n j := by
        intro j after before
        omega
      rw [nearestLoop, minimumFrom, Option.some.injEq, eq_comm]
      exact (and_iff_right nothing).symm
  | succ left induction =>
      have here : i < blocks.length := by omega
      have rest : i + 1 + left ≤ blocks.length := by omega
      constructor
      · intro searched
        rcases Option.bind_eq_some_iff.mp searched with ⟨tmpsum, summed, searched⟩
        rcases Option.bind_eq_some_iff.mp searched with ⟨difference, compared, searched⟩
        rcases (holds.sumAt_eq_some_iff here).mp summed with ⟨sums, rfl⟩
        rcases absDifference_eq_some_iff.mp compared with ⟨fits, rfl⟩
        rw [minimumFrom]
        simp only [decide_eq_true_eq]
        split at searched
        · next taken =>
            rcases (induction rest).mp searched with ⟨later, same⟩
            exact ⟨forall_places ⟨sums, fits⟩ later, same.trans (if_pos taken).symm⟩
        · next passed =>
            rcases (induction rest).mp searched with ⟨later, same⟩
            exact ⟨forall_places ⟨sums, fits⟩ later, same.trans (if_neg passed).symm⟩
      · intro both
        have comparable := both.1 i (Nat.le_refl i) (by omega)
        have later : ∀ j, i + 1 ≤ j → j < i + 1 + left → Comparable blocks n j := by
          intro j after before
          exact both.1 j (by omega) (by omega)
        have summed := (holds.sumAt_eq_some_iff here).mpr ⟨comparable.sums, rfl⟩
        have compared := absDifference_eq_some_iff.mpr ⟨comparable.difference, rfl⟩
        have same := both.2
        rw [minimumFrom] at same
        simp only [decide_eq_true_eq] at same
        simp only [nearestLoop, summed, Option.bind_eq_bind, Option.bind_some, compared]
        split
        · next taken => exact (induction rest).mpr ⟨later, same.trans (if_pos taken)⟩
        · next passed => exact (induction rest).mpr ⟨later, same.trans (if_neg passed)⟩

/-- Where the search stops. -/
def reached (blocks : List Text) (n : Nat) : Nat :=
  minimumFrom (distance blocks n) (fun j => j ≠ n) blocks.length 0 0 (blockSum blocks n)

theorem nearestDynamicSum_eq_some_iff (holds : Holds ar heap blocks) {n : Nat} {result : Int}
    (below : n < blocks.length) :
    nearestDynamicSum n ar.length ar heap = some result ↔
      (∀ i < blocks.length, Comparable blocks n i) ∧ result = reached blocks n := by
  have accepted : ¬ ((n : Int) < 0 ∨ (n : Int) ≥ ar.length) := by
    rw [holds.length]
    omega
  have whole : 0 + blocks.length ≤ blocks.length := by omega
  rw [nearestDynamicSum, if_neg accepted, Int.toNat_natCast, Int.toNat_natCast, holds.length]
  constructor
  · intro searched
    rcases Option.bind_eq_some_iff.mp searched with ⟨sum, summed, searched⟩
    rcases Option.bind_eq_some_iff.mp searched with ⟨pos, found, returned⟩
    rcases (holds.sumAt_eq_some_iff below).mp summed with ⟨_, rfl⟩
    rcases (nearestLoop_eq_some_iff holds whole).mp found with ⟨comparable, rfl⟩
    refine ⟨fun i inside => comparable i (Nat.zero_le i) (by omega), ?_⟩
    exact (Option.some.inj returned).symm
  · intro both
    rcases both with ⟨comparable, rfl⟩
    have summed := (holds.sumAt_eq_some_iff below).mpr ⟨(comparable n below).sums, rfl⟩
    have found : nearestLoop n (blockSum blocks n) ar heap blocks.length 0 0
        (blockSum blocks n) = some (reached blocks n) :=
      (nearestLoop_eq_some_iff holds whole).mpr ⟨fun i _ inside => comparable i (by omega), rfl⟩
    simp only [summed, Option.bind_eq_bind, Option.bind_some, found]

/-- Block `i` is another block than `n`, and none is nearer. -/
structure Nearest (blocks : List Text) (n i : Nat) : Prop where
  other : i ≠ n
  below : i < blocks.length
  least : ∀ j < blocks.length, j ≠ n → distance blocks n i ≤ distance blocks n j

/-- Some other block is nearer than `sum`, with which the search starts. -/
def SomeNearer (blocks : List Text) (n : Nat) : Prop :=
  ∃ i < blocks.length, i ≠ n ∧ distance blocks n i < blockSum blocks n

theorem nearest_reached_iff {n : Nat} :
    Nearest blocks n (reached blocks n) ↔ SomeNearer blocks n ∨ Nearest blocks n 0 := by
  by_cases nearer : SomeNearer blocks n
  · rcases nearer with ⟨i, inside, other, less⟩
    have least := @minimumFrom_least _ _ (distance blocks n) (fun j => j ≠ n) blocks.length 0 0
      (blockSum blocks n) ⟨i, Nat.zero_le i, by omega, by simpa using other, less⟩
    rcases least with ⟨_, upTo, chosen, least⟩
    refine iff_of_true ?_ (.inl ⟨i, inside, other, less⟩)
    exact
      { other := of_decide_eq_true chosen
        below := by
          rw [Nat.zero_add] at upTo
          exact upTo
        least := fun j inside different =>
          least j (Nat.zero_le j) (by omega) (decide_eq_true different) }
  · have above : ∀ j, 0 ≤ j → j < 0 + blocks.length → decide (j ≠ n) →
        blockSum blocks n ≤ distance blocks n j := by
      intro j _ inside different
      by_contra less
      exact nearer ⟨j, by omega, of_decide_eq_true different, not_le.mp less⟩
    rw [reached, minimumFrom_eq above]
    exact (or_iff_right nearer).symm

/-- The search finds a nearest block exactly when no sum or difference overflows and some
other block is nearer than the sum of block `n`, or block 0 is a nearest one. -/
theorem nearestDynamicSum_nearest_iff (holds : Holds ar heap blocks) {n : Nat}
    (below : n < blocks.length) :
    (∃ i : Nat, nearestDynamicSum n ar.length ar heap = some (i : Int) ∧ Nearest blocks n i) ↔
      (∀ i < blocks.length, Comparable blocks n i) ∧
        (SomeNearer blocks n ∨ Nearest blocks n 0) := by
  simp only [nearestDynamicSum_eq_some_iff holds below, Int.natCast_inj]
  rw [← nearest_reached_iff]
  constructor
  · intro found
    rcases found with ⟨_, ⟨comparable, rfl⟩, nearest⟩
    exact ⟨comparable, nearest⟩
  · intro both
    exact ⟨_, ⟨both.1, rfl⟩, both.2⟩

end Blocks

def twoBlocks (first second : Text) : Heap := fun pointer =>
  if pointer = 1 then some first else if pointer = 2 then some second else none

def letters (count : Nat) (letter : Char) : Text :=
  List.replicate count letter ++ [nul]

/-- The other block has more than twice the sum. -/
theorem nearest_itself :
    Holds [1, 2] (twoBlocks (letters 1 'a') (letters 3 'z')) [letters 1 'a', letters 3 'z'] ∧
      nearestDynamicSum 0 2 [1, 2] (twoBlocks (letters 1 'a') (letters 3 'z')) = some 0 ∧
      ¬ ∃ i : Nat,
        nearestDynamicSum 0 2 [1, 2] (twoBlocks (letters 1 'a') (letters 3 'z')) =
          some (i : Int) ∧ Nearest [letters 1 'a', letters 3 'z'] 0 i := by
  have itself :
      nearestDynamicSum 0 2 [1, 2] (twoBlocks (letters 1 'a') (letters 3 'z')) = some 0 := by
    decide
  refine ⟨⟨rfl, by decide⟩, itself, ?_⟩
  intro found
  rcases found with ⟨i, same, nearest⟩
  have first : (0 : Int) = i := Option.some.inj (itself.symm.trans same)
  exact nearest.other (by omega)

theorem nearestDynamicSum_nearest_iff_letters :
    ∃ i : Nat, nearestDynamicSum (0 : Nat) 2 [1, 2] (twoBlocks (letters 2 'a') (letters 2 'b')) =
      some (i : Int) ∧ Nearest [letters 2 'a', letters 2 'b'] 0 i := by
  have holds :
      Holds [1, 2] (twoBlocks (letters 2 'a') (letters 2 'b')) [letters 2 'a', letters 2 'b'] :=
    ⟨rfl, by decide⟩
  refine (nearestDynamicSum_nearest_iff holds (by decide)).mpr ⟨?_, .inl ⟨1, by decide⟩⟩
  intro i inside
  match i with
  | 0 | 1 =>
      refine ⟨?_, by decide⟩
      intro k
      match k with
      | 0 | 1 => decide
      | k + 2 =>
          rw [List.take_of_length_le (Nat.le_add_left 2 k)]
          decide

end OsExercises.BlockArray
