import OsExercises.BlockArray.Nearest
import OsExercises.BlockArray.StaticArray

/-! # The nearest block of the static array

The search of `nearestDynamicSum` over again, with two differences: the sum of a candidate
is over the whole block, and the difference that is kept has its sign. -/

namespace OsExercises.BlockArray

open OsExercises

/-- The string that starts at `StaticArray[n]`; it may go on behind the block. -/
def StaticArray.string (array : StaticArray) (n : Nat) : Option Text :=
  let bytes := array.bytes.drop (n * soBlocks)
  if nul ∈ bytes then some (cString bytes) else none

/-- The loop over the blocks from `StaticArray[i]` on, with `left` blocks to go. -/
def nearestStaticLoop (n : Nat) (sum : Int) (array : StaticArray) :
    (left i pos : Nat) → (sumdiff : Int) → Option Nat
  | 0, _, pos, _ => some pos
  | left + 1, i, pos, sumdiff => do
      let tmpsum ← addCharacters 0 (array.block i)
      let difference ← absDifference tmpsum sum
      if difference < sumdiff ∧ i ≠ n then do
        let sumdiff ← intResult (tmpsum - sum)
        nearestStaticLoop n sum array left (i + 1) i sumdiff
      else nearestStaticLoop n sum array left (i + 1) pos sumdiff

def nearestStaticSum (n : Int) (array : StaticArray) : Option Int :=
  if n < 0 ∨ n ≥ noBlocks then some (-1)
  else do
    let string ← array.string n.toNat
    let sum ← addCharacters 0 string
    let pos ← nearestStaticLoop n.toNat sum array noBlocks 0 0 sum
    some pos

/-! ## Padded blocks -/

theorem stringSum_append (front back : Text) :
    stringSum (front ++ back) = stringSum front + stringSum back := by
  rw [stringSum, List.map_append, List.sum_append]
  rfl

theorem stringSum_nuls (count : Nat) : stringSum (List.replicate count nul) = 0 := by
  have zero : charValue nul = 0 := by decide
  simp [stringSum, List.map_replicate, zero]

/-- The sum over a block cannot overflow. -/
theorem addCharacters_short {text : Text} (short : text.length ≤ soBlocks) :
    addCharacters 0 text = some (stringSum text) := by
  have small : text.length < 2 ^ 23 := short.trans_lt (by decide)
  rw [addCharacters_eq_some_iff (by decide)]
  simp only [zero_add]
  exact ⟨sumsFit_short small, trivial⟩

namespace StaticArray

variable {array : StaticArray}

theorem length_blocks : array.blocks.length = noBlocks := by
  rw [blocks, List.length_map, List.length_range]

theorem blockString_blocks {i : Nat} (below : i < noBlocks) :
    blockString array.blocks i = cString (array.block i) := by
  have found : array.blocks[i]? = some (array.block i) := by
    rw [blocks, List.getElem?_map, List.getElem?_range below, Option.map_some]
  rw [blockString, List.getD_eq_getElem?_getD, found, Option.getD_some]

theorem Padded.nul_mem (kept : array.Padded) {i : Nat} (below : i < noBlocks) :
    nul ∈ array.block i := by
  rcases kept i below with ⟨s, short, block⟩
  rw [block]
  exact (cString_padded (by omega)).1

/-- The NULs that fill up a block add nothing. -/
theorem Padded.sum (kept : array.Padded) {i : Nat} (below : i < noBlocks) :
    addCharacters 0 (array.block i) = some (blockSum array.blocks i) := by
  rcases kept i below with ⟨s, short, block⟩
  rw [addCharacters_short (length_block below).le, blockSum, blockString_blocks below, block,
    (cString_padded (by omega)).2, padded, stringSum_append, stringSum_nuls, add_zero]

theorem Padded.string (kept : array.Padded) {n : Nat} (below : n < noBlocks) :
    array.string n = some (blockString array.blocks n) := by
  have parts : array.bytes.drop (n * soBlocks) =
      array.block n ++ (array.bytes.drop (n * soBlocks)).drop soBlocks :=
    (List.take_append_drop soBlocks _).symm
  have member := kept.nul_mem below
  have ends := cString_append_behind member
  unfold StaticArray.string
  simp only
  rw [parts, if_pos (List.mem_append_left _ member), blockString_blocks below, ends,
    List.append_assoc, List.cons_append, cString_append_nul (nul_not_mem_cString _),
    ← ends]

theorem length_blockString {n : Nat} (below : n < noBlocks) :
    (blockString array.blocks n).length ≤ soBlocks := by
  rw [blockString_blocks below, ← @length_block array _ below]
  exact (List.takeWhile_sublist _).length_le

/-- No sum and no difference of sums overflows. -/
theorem comparable (array : StaticArray) {n i : Nat} (belowN : n < noBlocks)
    (below : i < noBlocks) : Comparable array.blocks n i :=
  comparable_short ((length_blockString belowN).trans_lt (by decide))
    ((length_blockString below).trans_lt (by decide))

end StaticArray

/-! ## The search -/

/-- The sum of block `i` less that of block `n`. -/
def difference (blocks : List Text) (n i : Nat) : Int :=
  blockSum blocks i - blockSum blocks n

section Search

variable {array : StaticArray} {n : Nat}

theorem nearestStaticLoop_eq (kept : array.Padded) (belowN : n < noBlocks) {left i pos : Nat}
    {sumdiff : Int} (inside : i + left ≤ noBlocks) :
    nearestStaticLoop n (blockSum array.blocks n) array left i pos sumdiff =
      some (signedMinimumFrom (difference array.blocks n) (fun j => j ≠ n) left i pos sumdiff) := by
  induction left generalizing i pos sumdiff with
  | zero => rfl
  | succ left induction =>
      have below : i < noBlocks := by omega
      have comparable := array.comparable belowN below
      have compared : absDifference (blockSum array.blocks i) (blockSum array.blocks n) =
          some |difference array.blocks n i| :=
        absDifference_eq_some_iff.mpr ⟨comparable.difference, rfl⟩
      have signed : intResult (blockSum array.blocks i - blockSum array.blocks n) =
          some (difference array.blocks n i) := by
        have bounds := abs_lt.mp comparable.difference
        exact intResult_eq_some_iff.mpr ⟨⟨bounds.1.le, bounds.2⟩, rfl⟩
      rw [nearestStaticLoop, signedMinimumFrom, kept.sum below, Option.bind_eq_bind,
        Option.bind_some, compared, Option.bind_some]
      simp only [decide_eq_true_eq]
      split
      · rw [signed, Option.bind_some]
        exact induction (by omega)
      · exact induction (by omega)

theorem nearestStaticSum_eq (kept : array.Padded) (below : n < noBlocks) :
    nearestStaticSum n array = some (signedMinimumFrom (difference array.blocks n)
      (fun j => j ≠ n) noBlocks 0 0 (blockSum array.blocks n) : Int) := by
  have accepted : ¬ ((n : Int) < 0 ∨ (n : Int) ≥ noBlocks) := by omega
  have sum : addCharacters 0 (blockString array.blocks n) = some (blockSum array.blocks n) :=
    addCharacters_short (StaticArray.length_blockString below)
  have searched := @nearestStaticLoop_eq array n kept below noBlocks 0 0
    (blockSum array.blocks n) (Nat.le_of_eq (Nat.zero_add noBlocks))
  rw [nearestStaticSum, if_neg accepted, Int.toNat_natCast]
  refine Option.bind_eq_some_iff.mpr ⟨_, kept.string below, ?_⟩
  refine Option.bind_eq_some_iff.mpr ⟨_, sum, ?_⟩
  exact Option.bind_eq_some_iff.mpr ⟨_, searched, rfl⟩

/-- A dynamic array with the blocks of the static one. -/
theorem nearestDynamicSum_eq {ar : List Pointer} {heap : Heap}
    (holds : Holds ar heap array.blocks) (below : n < noBlocks) :
    nearestDynamicSum n noBlocks ar heap = some (minimumFrom
      (fun i => |difference array.blocks n i|) (fun j => j ≠ n) noBlocks 0 0
      (blockSum array.blocks n) : Int) := by
  have length : ar.length = noBlocks := holds.length.trans StaticArray.length_blocks
  have inside : n < array.blocks.length := StaticArray.length_blocks.symm ▸ below
  have found := (nearestDynamicSum_eq_some_iff holds inside).mpr
    ⟨fun i belowI => array.comparable below (StaticArray.length_blocks ▸ belowI), rfl⟩
  rw [length] at found
  rw [found, reached, StaticArray.length_blocks]
  rfl

end Search

/-- No block with a smaller sum than block `n` that is nearer than all before it, and nearer
than the sum with which the search starts, has a nearer one behind it. -/
def SmallerLast (blocks : List Text) (n : Nat) : Prop :=
  NegativesLast (difference blocks n) (fun j => j ≠ n) blocks.length 0 (blockSum blocks n)

/-- The two searches agree outside the array, and inside exactly when a block with a smaller
sum is only taken where none behind it is nearer. -/
theorem nearestStaticSum_eq_nearestDynamicSum_iff {array : StaticArray} {ar : List Pointer}
    {heap : Heap} (kept : array.Padded) (holds : Holds ar heap array.blocks) (n : Int) :
    (∃ i, nearestStaticSum n array = some i ∧ nearestDynamicSum n noBlocks ar heap = some i) ↔
      (0 ≤ n ∧ n < noBlocks → SmallerLast array.blocks n.toNat) := by
  by_cases outside : n < 0 ∨ n ≥ noBlocks
  · refine iff_of_true ⟨-1, if_pos outside, if_pos outside⟩ ?_
    intro inside
    omega
  · lift n to Nat using by omega
    have below : n < noBlocks := by omega
    have inside : 0 ≤ (n : Int) ∧ (n : Int) < noBlocks := by omega
    rw [nearestStaticSum_eq kept below, nearestDynamicSum_eq holds below, Int.toNat_natCast,
      imp_iff_right inside, SmallerLast, StaticArray.length_blocks,
      ← @signedMinimumFrom_eq_minimumFrom_iff _ _ _ _ _ _ _ _ 0]
    simp only [Option.some.injEq]
    constructor
    · intro found
      rcases found with ⟨i, static, dynamic⟩
      exact Int.ofNat_inj.mp (static.trans dynamic.symm)
    · intro same
      exact ⟨_, rfl, congrArg Int.ofNat same.symm⟩

/-- The array of pointers to copies of the blocks. -/
theorem holds_copies {array : StaticArray} (kept : array.Padded) :
    Holds (List.range noBlocks) (fun i => some (array.block i)) array.blocks where
  allocated := by
    rw [StaticArray.blocks, List.map_map]
    rfl
  terminated := by
    intro block member
    rcases List.mem_map.mp member with ⟨i, below, rfl⟩
    exact kept.nul_mem (List.mem_range.mp below)

theorem blockSum_zeros {i : Nat} (below : i < noBlocks) :
    blockSum StaticArray.zeros.blocks i = 0 := by
  rw [blockSum, StaticArray.blockString_blocks below, StaticArray.zeros_block below]
  rfl

/-- An insertion changes the sum of its block only. -/
theorem blockSum_insert {array : StaticArray} {n : Nat} {s : Text} (kept : array.Padded)
    (below : n < noBlocks) (short : strlen s < soBlocks) :
    ∃ after, insertBlockStatic n s array = some after ∧ after.Padded ∧
      ∀ i < noBlocks, blockSum after.blocks i =
        if i = n then stringSum (cString s) else blockSum array.blocks i := by
  rcases insertBlockStatic_short array below short with ⟨fits, inserted⟩
  refine ⟨_, inserted, StaticArray.patch_padded short kept fits, ?_⟩
  intro i belowI
  rw [blockSum, StaticArray.blockString_blocks belowI,
    StaticArray.block_patch (length_padded (by omega)) fits]
  split
  · rw [(cString_padded (by omega)).2]
  · rw [blockSum, StaticArray.blockString_blocks belowI]

/-- Block 1 has a smaller sum than block 0 and the same block 2 is behind it. -/
theorem nearestSums_differ :
    ∃ array, StaticArray.zeros.calls
        [.insert 0 ['d', 'd'], .insert 1 ['d', 'b'], .insert 2 ['d', 'd']] = some array ∧
      array.Padded ∧
      Holds (List.range noBlocks) (fun i => some (array.block i)) array.blocks ∧
      nearestStaticSum 0 array = some 1 ∧
      nearestDynamicSum 0 noBlocks (List.range noBlocks) (fun i => some (array.block i)) =
        some 2 := by
  rcases @blockSum_insert _ 0 ['d', 'd'] StaticArray.zeros_padded (by decide) (by decide) with
    ⟨first, firstInserted, firstPadded, firstSums⟩
  rcases @blockSum_insert _ 1 ['d', 'b'] firstPadded (by decide) (by decide) with
    ⟨second, secondInserted, secondPadded, secondSums⟩
  rcases @blockSum_insert _ 2 ['d', 'd'] secondPadded (by decide) (by decide) with
    ⟨third, thirdInserted, kept, thirdSums⟩
  have called : StaticArray.zeros.calls
      [.insert 0 ['d', 'd'], .insert 1 ['d', 'b'], .insert 2 ['d', 'd']] = some third := by
    have one : StaticCall.performed StaticArray.zeros (.insert 0 ['d', 'd']) = some first :=
      firstInserted
    have two : StaticCall.performed first (.insert 1 ['d', 'b']) = some second := secondInserted
    have three : StaticCall.performed second (.insert 2 ['d', 'd']) = some third := thirdInserted
    simp only [StaticArray.calls, one, two, three, Option.bind_some]
  have high : stringSum (cString ['d', 'd']) = 200 := by decide
  have low : stringSum (cString ['d', 'b']) = 198 := by decide
  have sums (i : Nat) (below : i < noBlocks) : blockSum third.blocks i =
      if i = 2 then 200 else if i = 1 then 198 else if i = 0 then 200 else 0 := by
    rw [thirdSums i below, secondSums i below, firstSums i below, blockSum_zeros below, high, low]
  have sum0 : blockSum third.blocks 0 = 200 := sums 0 (by decide)
  have difference0 : difference third.blocks 0 0 = 0 := by rw [difference, sub_self]
  have difference1 : difference third.blocks 0 1 = -2 := by
    rw [difference, sum0, sums 1 (by decide)]
    rfl
  have difference2 : difference third.blocks 0 2 = 0 := by
    rw [difference, sum0, sums 2 (by decide)]
    rfl
  have enough : ∃ left, noBlocks = left + 1 + 1 + 1 := ⟨999997, by decide⟩
  have holds := holds_copies kept
  rcases enough with ⟨left, count⟩
  have passed : ¬ (|difference third.blocks 0 0| < 200 ∧ decide (0 ≠ 0) = true) :=
    fun both => absurd both.2 (by decide)
  have taken : |difference third.blocks 0 (0 + 1)| < 200 ∧ decide (0 + 1 ≠ 0) = true := by
    rw [difference1]
    decide
  have nearer : |difference third.blocks 0 (0 + 1 + 1)| < |difference third.blocks 0 (0 + 1)| ∧
      decide (0 + 1 + 1 ≠ 0) = true := by
    rw [difference1, difference2]
    decide
  refine ⟨third, called, kept, holds, ?_, ?_⟩
  · have found := nearestStaticSum_eq kept (n := 0) (by decide)
    rw [sum0, count, signedMinimumFrom, if_neg passed, signedMinimumFrom, if_pos taken,
      signedMinimumFrom_nonpos (by rw [difference1]; decide)] at found
    exact found
  · have found := nearestDynamicSum_eq holds (n := 0) (by decide)
    have least : ∀ j, 0 + 1 + 1 + 1 ≤ j → j < 0 + 1 + 1 + 1 + left → decide (j ≠ 0) = true →
        |difference third.blocks 0 (0 + 1 + 1)| ≤ |difference third.blocks 0 j| := by
      intro j _ _ _
      rw [difference2]
      exact abs_nonneg _
    rw [sum0, count, minimumFrom, if_neg passed, minimumFrom, if_pos taken, minimumFrom,
      if_pos nearer, minimumFrom_eq least, ← count] at found
    exact found

/-- Block 1 has a greater sum than block 0. -/
theorem nearestSums_agree :
    ∃ array, StaticArray.zeros.calls [.insert 0 ['d', 'd'], .insert 1 ['d', 'e']] = some array ∧
      ∃ i, nearestStaticSum 0 array = some i ∧
        nearestDynamicSum 0 noBlocks (List.range noBlocks) (fun i => some (array.block i)) =
          some i := by
  rcases @blockSum_insert _ 0 ['d', 'd'] StaticArray.zeros_padded (by decide) (by decide) with
    ⟨first, firstInserted, firstPadded, firstSums⟩
  rcases @blockSum_insert _ 1 ['d', 'e'] firstPadded (by decide) (by decide) with
    ⟨second, secondInserted, kept, secondSums⟩
  have called : StaticArray.zeros.calls [.insert 0 ['d', 'd'], .insert 1 ['d', 'e']] =
      some second := by
    have one : StaticCall.performed StaticArray.zeros (.insert 0 ['d', 'd']) = some first :=
      firstInserted
    have two : StaticCall.performed first (.insert 1 ['d', 'e']) = some second := secondInserted
    simp only [StaticArray.calls, one, two, Option.bind_some]
  have high : stringSum (cString ['d', 'd']) = 200 := by decide
  have higher : stringSum (cString ['d', 'e']) = 201 := by decide
  have sums (i : Nat) (below : i < noBlocks) : blockSum second.blocks i =
      if i = 1 then 201 else if i = 0 then 200 else 0 := by
    rw [secondSums i below, firstSums i below, blockSum_zeros below, high, higher]
  have sum0 : blockSum second.blocks 0 = 200 := sums 0 (by decide)
  refine ⟨second, called, ?_⟩
  refine (nearestStaticSum_eq_nearestDynamicSum_iff kept (holds_copies kept) 0).mpr ?_
  -- The empty blocks are as far away as the sum with which the search starts.
  intro _ i takes negative j later before _
  rw [StaticArray.length_blocks] at before
  have belowI : i < noBlocks := by omega
  have near := takes.below
  rw [Int.toNat_zero, difference, sum0, sums i belowI] at near negative
  split at negative
  · omega
  · split at negative
    · omega
    · next notOne notZero =>
        rw [if_neg notOne, if_neg notZero] at near
        exact absurd near (by decide)

end OsExercises.BlockArray
