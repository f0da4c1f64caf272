import Mathlib.Data.List.Sort
import Mathlib.Tactic.Linarith
import Mathlib.Tactic.Ring
import OsExercises.RecordSort.Program

/-! # The record sort is a stable insertion sort

The records in front of the one being placed form a sorted list; seen from its
end, placing a record is an ordered insertion. -/

namespace OsExercises.RecordSort

/-! ## The sorted list of records -/

/-- The first byte of a record as a `char`. -/
def firstChar (record : List Byte) : Int :=
  (record.headD 0).toInt

/-- The order of the records from the last one back. -/
def notSmaller (A B : List Byte) : Prop :=
  firstChar B ≤ firstChar A

instance : DecidableRel notSmaller :=
  fun A B => inferInstanceAs (Decidable (firstChar B ≤ firstChar A))

instance : Std.Total notSmaller where
  total A B := Int.le_total (firstChar B) (firstChar A)

instance : IsTrans (List Byte) notSmaller where
  trans _ _ _ second first := Int.le_trans first second

def sortedRecords (records : List (List Byte)) : List (List Byte) :=
  (records.reverse.insertionSort notSmaller).reverse

theorem sortedRecords_perm (records : List (List Byte)) :
    (sortedRecords records).Perm records :=
  (List.reverse_perm _).trans ((List.perm_insertionSort _ _).trans (List.reverse_perm _))

theorem sortedRecords_ordered (records : List (List Byte)) :
    (sortedRecords records).Pairwise fun earlier later => firstChar earlier ≤ firstChar later :=
  List.pairwise_reverse.mpr (List.pairwise_insertionSort notSmaller _)

/-- Records with equal first bytes keep their order. -/
theorem sortedRecords_stable (records : List (List Byte)) (char : Int) :
    (sortedRecords records).filter (firstChar · = char) =
      records.filter (firstChar · = char) := by
  have equal : (records.reverse.filter (firstChar · = char)).Pairwise notSmaller := by
    apply List.pairwise_of_forall_mem_list
    intro A memberA B memberB
    have charA : firstChar A = char := by simpa using List.of_mem_filter memberA
    have charB : firstChar B = char := by simpa using List.of_mem_filter memberB
    exact le_of_eq (charB.trans charA.symm)
  have kept := (List.sublist_insertionSort equal List.filter_sublist).filter (firstChar · = char)
  rw [List.filter_filter] at kept
  have amount := ((List.perm_insertionSort notSmaller records.reverse).filter
    (firstChar · = char)).length_eq
  have same := kept.eq_of_length (by simpa using amount.symm)
  simp only [Bool.and_self] at same
  rw [sortedRecords, List.filter_reverse, ← same, ← List.filter_reverse, List.reverse_reverse]

/-- Placing the records one after the other sorts them. -/
theorem foldl_orderedInsert (later done : List (List Byte)) :
    later.foldl (fun done A => done.orderedInsert notSmaller A)
        (done.insertionSort notSmaller) =
      (later.reverse ++ done).insertionSort notSmaller := by
  induction later generalizing done with
  | nil => rfl
  | cons A later induction =>
      rw [List.foldl_cons, ← List.insertionSort_cons, induction, List.reverse_cons,
        List.append_assoc]
      rfl

theorem length_flatten_records {size : Nat} {records : List (List Byte)}
    (sizes : ∀ record ∈ records, record.length = size) :
    records.flatten.length = records.length * size := by
  rw [List.length_flatten, List.map_congr_left sizes, List.map_const', List.sum_replicate_nat]

/-- The records of which a file starts. -/
def recordsOf (size : Nat) : Nat → List Byte → List (List Byte)
  | 0, _ => []
  | count + 1, content => content.take size :: recordsOf size count (content.drop size)

theorem recordsOf_flatten {size : Nat} (records : List (List Byte)) (rest : List Byte)
    (sizes : ∀ record ∈ records, record.length = size) :
    recordsOf size records.length (records.flatten ++ rest) = records := by
  induction records with
  | nil => rfl
  | cons record records induction =>
      have first : record.length = size := sizes record List.mem_cons_self
      have others := induction fun other member => sizes other (List.mem_cons_of_mem _ member)
      rw [List.length_cons, recordsOf, List.flatten_cons, List.append_assoc, ← first,
        List.take_left, List.drop_left, first, others]

theorem recordsOf_split {size count : Nat} {content : List Byte}
    (long : count * size ≤ content.length) :
    (recordsOf size count content).length = count ∧
      (∀ record ∈ recordsOf size count content, record.length = size) ∧
      content = (recordsOf size count content).flatten ++ content.drop (count * size) := by
  induction count generalizing content with
  | zero => simp [recordsOf]
  | succ count induction =>
      rw [Nat.succ_mul] at long
      have shorter : count * size ≤ (content.drop size).length := by
        rw [List.length_drop]
        omega
      rcases induction shorter with ⟨length, sizes, split⟩
      refine ⟨by rw [recordsOf, List.length_cons, length], ?_, ?_⟩
      · intro record member
        rcases List.mem_cons.mp member with rfl | later
        · rw [List.length_take]
          omega
        · exact sizes record later
      · have behind :
            content.drop ((count + 1) * size) = (content.drop size).drop (count * size) := by
          rw [List.drop_drop, Nat.succ_mul, Nat.add_comm]
        rw [behind, recordsOf, List.flatten_cons, List.append_assoc, ← split, List.take_append_drop]

/-! ## The program on any lawful interface -/

section Program

variable {File : Type u} {interface : FileInterface File}
variable {At : File → LastUse → List Byte → Nat → Prop}

theorem readChar_append (lawful : interface.Lawful At) (stale : Byte) {file : File} {use : LastUse}
    {front back : List Byte} {char : Byte}
    (atOffset : At file use (front ++ (char :: back)) front.length) (notWriting : use ≠ .writing) :
    ∃ following, readChar interface stale file = some (char, following) ∧
      At following .reading (front ++ (char :: back)) (front.length + 1) := by
  have complete := @FileInterface.Lawful.read _ _ _ lawful file use front [char] back atOffset
    notWriting
  rcases complete with ⟨following, taken, atNext⟩
  refine ⟨following, ?_, atNext⟩
  rw [readChar]
  exact taken ▸ rfl

theorem readBuffer_append (lawful : interface.Lawful At) (memory : Nat → Byte) {file : File}
    {use : LastUse} {front bytes back : List Byte} {size : Nat} (length : bytes.length = size)
    (atOffset : At file use (front ++ (bytes ++ back)) front.length) (notWriting : use ≠ .writing) :
    ∃ following, readBuffer interface size memory file = some (bytes, following) ∧
      At following .reading (front ++ (bytes ++ back)) (front.length + bytes.length) := by
  rcases lawful.read atOffset notWriting with ⟨following, taken, atNext⟩
  rw [length] at taken
  refine ⟨following, ?_, atNext⟩
  simp [readBuffer, taken, length]

theorem peekChar_append (lawful : interface.Lawful At) (stale : Byte) {file : File} {use : LastUse}
    {front back : List Byte} {char : Byte} {offset : Nat}
    (atOffset : At file use (front ++ (char :: back)) offset) :
    ∃ following, peekChar interface front.length stale file = some (char, following) ∧
      At following .positioned (front ++ (char :: back)) front.length := by
  rcases readChar_append lawful stale (lawful.seekTo front.length atOffset)
    LastUse.noConfusion with ⟨following, taken, atNext⟩
  refine ⟨_, ?_, lawful.seekBack atNext⟩
  simp only [peekChar, taken, Option.bind_eq_bind, Option.bind_some]

theorem swapRecords_append (lawful : interface.Lawful At) (unset : Unset) (i : Int)
    {file : File} {use : LastUse} {front back A B : List Byte} {size : Nat}
    (sizeA : A.length = size) (sizeB : B.length = size)
    (atOffset : At file use (front ++ (B ++ (A ++ back))) front.length)
    (notWriting : use ≠ .writing) :
    ∃ following,
      swapRecords interface unset i size (front.length + size : Nat) file = some following ∧
      At following .writing (front ++ (A ++ (B ++ back))) ((front ++ A).length + B.length) := by
  rcases readBuffer_append lawful (unset.B i (front.length + size : Nat)) sizeB atOffset
    notWriting with ⟨afterB, readB, atA⟩
  rw [← List.append_assoc front B, ← List.length_append] at atA
  rcases readBuffer_append lawful (unset.A i (front.length + size : Nat)) sizeA atA
    LastUse.noConfusion with ⟨afterA, readA, atEnd⟩
  rw [List.append_assoc front B] at atEnd
  have atStart := lawful.seekTo front.length atEnd
  rcases lawful.write A atStart LastUse.noConfusion (sizeA.trans sizeB.symm) with
    ⟨writtenA, writeA, atB⟩
  rw [← List.append_assoc front A, ← List.length_append] at atB
  rcases lawful.write B atB LastUse.noConfusion (sizeB.trans sizeA.symm) with
    ⟨writtenB, writeB, atFinal⟩
  rw [List.append_assoc front A] at atFinal
  refine ⟨writtenB, ?_, atFinal⟩
  have start : ((front.length + size : Nat) : Int) - size = front.length := by omega
  simp only [swapRecords, Int.toNat_natCast, readB, readA, start, writeA, writeB,
    Option.bind_eq_bind, Option.bind_some]

theorem placeRecord_moved {unset : Unset} {i SoR j : Int} {a b b' : Byte} {fuel : Nat}
    {file swapped peeked : File}
    (smaller : charLess a b ∧ j ≥ int32 (2 * SoR))
    (swap : swapRecords interface unset i SoR j file = some swapped)
    (peek : peekChar interface (j - SoR - SoR) b swapped = some (b', peeked)) :
    placeRecord interface unset i SoR a (fuel + 1) b j file =
      placeRecord interface unset i SoR a fuel b' (j - SoR) peeked := by
  simp only [placeRecord, moveRecord, if_pos smaller, swap, peek, Option.bind_eq_bind,
    Option.bind_some]

theorem placeRecord_stopped {unset : Unset} {i SoR j : Int} {a b : Byte} {fuel : Nat} {file : File}
    (stays : ¬(charLess a b ∧ j ≥ int32 (2 * SoR))) :
    placeRecord interface unset i SoR a (fuel + 1) b j file =
      if charLess a b then swapRecords interface unset i SoR j file else some file := by
  simp only [placeRecord, moveRecord, if_neg stays, Option.bind_eq_bind, Option.bind_some]

theorem charLess_iff (A B : List Byte) :
    charLess (A.headD 0) (B.headD 0) ↔ ¬notSmaller A B :=
  not_le.symm

theorem record_split {size : Nat} {record : List Byte} (positive : 1 ≤ size)
    (length : record.length = size) : record = record.headD 0 :: record.tail := by
  cases record with
  | nil =>
      rw [List.length_nil] at length
      omega
  | cons char record => rfl

theorem flatten_reverse_cons (B : List Byte) (before : List (List Byte)) (rest : List Byte) :
    (B :: before).reverse.flatten ++ rest = before.reverse.flatten ++ (B ++ rest) := by
  simp

theorem length_flatten_reverse {size : Nat} {before : List (List Byte)}
    (sizes : ∀ record ∈ before, record.length = size) :
    before.reverse.flatten.length = before.length * size := by
  rw [length_flatten_records fun record member => sizes record (List.mem_reverse.mp member),
    List.length_reverse]

section Placing

variable {size fuel : Nat} {A B rest : List Byte} {before : List (List Byte)}
variable {file : File} {use : LastUse}

/-- A record that is not smaller than the one before it is in its place. -/
theorem placeRecord_stays (unset : Unset) (i j : Int)
    (notBefore : ¬charLess (A.headD 0) (B.headD 0)) :
    placeRecord interface unset i size (A.headD 0) (fuel + 1) (B.headD 0) j file = some file ∧
      (B :: before).orderedInsert notSmaller A = A :: B :: before := by
  constructor
  · rw [placeRecord_stopped fun further => notBefore further.1, if_neg notBefore]
  · exact List.orderedInsert_cons_of_le _ _ (not_not.mp (mt (charLess_iff A B).mpr notBefore))

/-- A smaller record changes places with the first one behind the loop. -/
theorem placeRecord_first (lawful : interface.Lawful At) (unset : Unset) (i : Int)
    (twice : int32 (2 * size) = 2 * size) (positive : 1 ≤ size) (sizeA : A.length = size)
    (sizeB : B.length = size) (smaller : charLess (A.headD 0) (B.headD 0))
    (atRecord : At file use (B ++ (A ++ rest)) 0) (notWriting : use ≠ .writing) :
    ∃ following offset,
      placeRecord interface unset i size (A.headD 0) (fuel + 1) (B.headD 0) size file =
          some following ∧
        At following .writing (A ++ (B ++ rest)) offset := by
  have atFirst : ¬(charLess (A.headD 0) (B.headD 0) ∧ (size : Int) ≥ int32 (2 * size)) := by
    intro further
    have reached := further.2
    rw [twice] at reached
    omega
  have swapped := @swapRecords_append _ _ _ lawful unset i file use [] rest A B size sizeA sizeB
    atRecord notWriting
  rw [List.length_nil, Nat.zero_add] at swapped
  rcases swapped with ⟨following, taken, atNext⟩
  refine ⟨following, _, ?_, atNext⟩
  rw [placeRecord_stopped atFirst, if_pos smaller, taken]

/-- A smaller record changes places with the one before it, and the loop goes on. -/
theorem placeRecord_further (lawful : interface.Lawful At) (unset : Unset) (i : Int)
    {C : List Byte} (twice : int32 (2 * size) = 2 * size) (positive : 1 ≤ size)
    (sizeA : A.length = size) (sizes : ∀ record ∈ B :: C :: before, record.length = size)
    (smaller : charLess (A.headD 0) (B.headD 0))
    (atRecord : At file use ((C :: before).reverse.flatten ++ (B ++ (A ++ rest)))
      ((C :: before).length * size)) (notWriting : use ≠ .writing) :
    ∃ following,
      placeRecord interface unset i size (A.headD 0) (fuel + 1) (B.headD 0)
          ((C :: before).length * size + size : Nat) file =
        placeRecord interface unset i size (A.headD 0) fuel (C.headD 0)
          (before.length * size + size : Nat) following ∧
      At following .positioned ((C :: before).reverse.flatten ++ (A ++ (B ++ rest)))
        (before.length * size) := by
  have others : ∀ record ∈ C :: before, record.length = size :=
    fun record member => sizes record (List.mem_cons_of_mem _ member)
  have front := length_flatten_reverse others
  have frontC := length_flatten_reverse fun record member =>
    others record (List.mem_cons_of_mem _ member)
  rw [← front] at atRecord
  rcases swapRecords_append lawful unset i sizeA (sizes B List.mem_cons_self) atRecord
    notWriting with ⟨swapped, swap, atSwapped⟩
  have charC := record_split positive (others C List.mem_cons_self)
  rw [flatten_reverse_cons, charC, List.cons_append] at atSwapped
  rcases peekChar_append lawful (B.headD 0) atSwapped with ⟨peeked, peek, atPeeked⟩
  rw [← List.cons_append, ← charC, ← flatten_reverse_cons, frontC] at atPeeked
  rw [front, List.length_cons, Nat.succ_mul] at swap
  have back : ((before.length * size + size + size : Nat) : Int) - size - size =
      before.reverse.flatten.length := by
    rw [frontC]
    omega
  rw [← back] at peek
  have moved : ((before.length * size + size + size : Nat) : Int) - size =
      (before.length * size + size : Nat) := by omega
  have further : charLess (A.headD 0) (B.headD 0) ∧
      ((before.length * size + size + size : Nat) : Int) ≥ int32 (2 * size) := by
    refine ⟨smaller, ?_⟩
    rw [twice]
    omega
  refine ⟨peeked, ?_, atPeeked⟩
  rw [List.length_cons, Nat.succ_mul, placeRecord_moved further swap peek, moved]

/-- The record `A` behind the records `before` and `B` gets its place among them. The
induction is on the records that are still in front of the one it is compared with. -/
theorem placeRecord_inserts (lawful : interface.Lawful At) (unset : Unset) (i : Int)
    (positive : 1 ≤ size) (int : 2 * size < 2 ^ 31) (sizeA : A.length = size)
    (sizes : ∀ record ∈ B :: before, record.length = size) (enough : before.length < fuel)
    (atRecord : At file use ((B :: before).reverse.flatten ++ (A ++ rest)) (before.length * size))
    (notWriting : use ≠ .writing) :
    ∃ following use offset,
      placeRecord interface unset i size (A.headD 0) fuel (B.headD 0)
          (before.length * size + size : Nat) file = some following ∧
        At following use (((B :: before).orderedInsert notSmaller A).reverse.flatten ++ rest)
          offset := by
  have twice : int32 (2 * size) = 2 * size := int32_of_bounds (by omega) (by omega)
  have sizeB := sizes B List.mem_cons_self
  induction before generalizing B rest fuel file use with
  | nil =>
      cases fuel with
      | zero => cases enough
      | succ fuel =>
          by_cases smaller : charLess (A.headD 0) (B.headD 0)
          · have atFirst : At file use (B ++ (A ++ rest)) 0 := by
              simpa using atRecord
            rcases @placeRecord_first _ _ _ size fuel A B rest file use lawful unset i twice
              positive sizeA sizeB smaller atFirst notWriting with
              ⟨following, offset, placed, atNext⟩
            have insertion : [B].orderedInsert notSmaller A = [B, A] :=
              List.orderedInsert_of_not_le _ [] ((charLess_iff A B).mp smaller)
            refine ⟨following, .writing, offset, ?_, ?_⟩
            · rw [List.length_nil, Nat.zero_mul, Nat.zero_add]
              exact placed
            · rw [insertion]
              simpa using atNext
          · rcases @placeRecord_stays _ interface size fuel A B [] file unset i
              (([] : List (List Byte)).length * size + size : Nat) smaller with ⟨placed, insertion⟩
            refine ⟨file, use, ([] : List (List Byte)).length * size, placed, ?_⟩
            rw [insertion, flatten_reverse_cons]
            exact atRecord
  | cons C before induction =>
      cases fuel with
      | zero => cases enough
      | succ fuel =>
          by_cases smaller : charLess (A.headD 0) (B.headD 0)
          · rw [flatten_reverse_cons] at atRecord
            rcases @placeRecord_further _ _ _ size fuel A B rest before file use lawful unset i C
              twice positive sizeA sizes smaller atRecord notWriting with
              ⟨moved, placed, atMoved⟩
            rcases induction (fun record member => sizes record (List.mem_cons_of_mem _ member))
              (Nat.lt_of_succ_lt_succ enough) atMoved LastUse.noConfusion
              (sizes C (List.mem_cons_of_mem _ List.mem_cons_self)) with
              ⟨following, finalUse, offset, rest, atFinal⟩
            have insertion : (B :: C :: before).orderedInsert notSmaller A =
                B :: (C :: before).orderedInsert notSmaller A :=
              List.orderedInsert_of_not_le _ _ ((charLess_iff A B).mp smaller)
            refine ⟨following, finalUse, offset, placed.trans rest, ?_⟩
            rw [insertion, flatten_reverse_cons]
            exact atFinal
          · rcases @placeRecord_stays _ interface size fuel A B (C :: before) file unset i
              ((C :: before).length * size + size : Nat) smaller with ⟨placed, insertion⟩
            refine ⟨file, use, (C :: before).length * size, placed, ?_⟩
            rw [insertion, flatten_reverse_cons]
            exact atRecord

end Placing

theorem int32_multiple {NoR size count : Nat} (int : NoR * size < 2 ^ 31) (within : count ≤ NoR) :
    int32 (count * size : Nat) = (count * size : Nat) := by
  have below : count * size ≤ NoR * size := Nat.mul_le_mul_right size within
  exact int32_of_bounds (by omega) (by omega)

/-- One round of the outer loop puts the next record into its place. -/
theorem sortFrom_step (lawful : interface.Lawful At) (unset : Unset) {size NoR : Nat}
    (positive : 1 ≤ size) (int : NoR * size < 2 ^ 31) {A B rest : List Byte}
    {before : List (List Byte)} {fuel : Nat} {file : File} {use : LastUse} {offset : Nat} {i : Int}
    (start : i = ((before.length + 1) * size : Nat)) (more : before.length + 2 ≤ NoR)
    (sizeA : A.length = size) (sizes : ∀ record ∈ B :: before, record.length = size)
    (atFile : At file use ((B :: before).reverse.flatten ++ (A ++ rest)) offset) :
    ∃ following use offset,
      sortFrom interface unset NoR size (fuel + 1) i file =
          sortFrom interface unset NoR size fuel ((before.length + 1 + 1) * size : Nat) following ∧
        At following use (((B :: before).orderedInsert notSmaller A).reverse.flatten ++ rest)
          offset := by
  have charA := record_split positive sizeA
  have charB := record_split positive (sizes B List.mem_cons_self)
  have front := length_flatten_reverse sizes
  have frontB := length_flatten_reverse fun record member =>
    sizes record (List.mem_cons_of_mem _ member)
  rw [List.length_cons] at front
  -- The byte `a`, then `b`, after which the offset is at the record of `b`.
  have atA := lawful.seekTo ((before.length + 1) * size) atFile
  rw [charA, List.cons_append, ← front] at atA
  rcases readChar_append lawful (unset.a i) atA LastUse.noConfusion with ⟨read, readA, atRead⟩
  rw [← List.cons_append, ← charA, flatten_reverse_cons, charB, List.cons_append] at atRead
  rcases peekChar_append lawful (unset.b i) atRead with ⟨peeked, peekB, atB⟩
  rw [← List.cons_append, ← charB, ← flatten_reverse_cons, frontB] at atB
  have twice : 2 * size < 2 ^ 31 :=
    lt_of_le_of_lt (Nat.mul_le_mul_right size (by omega)) int
  rcases placeRecord_inserts lawful unset i positive twice sizeA sizes
    (by omega : before.length < NoR) atB LastUse.noConfusion with
    ⟨placed, placedUse, placedOffset, place, atPlaced⟩
  refine ⟨placed, placedUse, placedOffset, ?_, atPlaced⟩
  have limit : int32 ((NoR : Int) * size) = (NoR * size : Nat) := by
    rw [← int32_multiple int le_rfl, Nat.cast_mul]
  have further : i < int32 ((NoR : Int) * size) := by
    rw [limit, start, Int.ofNat_lt]
    exact Nat.mul_lt_mul_of_pos_right (by omega) positive
  have back : i - size = before.reverse.flatten.length := by
    rw [frontB, start, Nat.succ_mul]
    omega
  have next : int32 (i + size) = ((before.length + 1 + 1) * size : Nat) := by
    rw [← int32_multiple int (by omega : before.length + 1 + 1 ≤ NoR),
      Nat.succ_mul (before.length + 1), Nat.cast_add, start]
  rw [front, ← start] at readA
  rw [← back] at peekB
  rw [← Nat.succ_mul, ← start] at place
  rw [sortFrom, if_pos further]
  simp only [readA, peekB, Int.toNat_natCast, place, next, Option.bind_eq_bind, Option.bind_some]

/-- The records behind the sorted ones are placed one after the other. -/
theorem sortFrom_front (lawful : interface.Lawful At) (unset : Unset) {size NoR : Nat}
    (positive : 1 ≤ size) (int : NoR * size < 2 ^ 31) {done later : List (List Byte)}
    {rest : List Byte} {fuel : Nat} {file : File} {use : LastUse} {offset : Nat}
    (nonempty : done ≠ [])
    (amount : done.length + later.length ≤ NoR)
    (sizesDone : ∀ record ∈ done, record.length = size)
    (sizesLater : ∀ record ∈ later, record.length = size)
    (atFile : At file use (done.reverse.flatten ++ (later.flatten ++ rest)) offset) :
    ∃ following use offset,
      sortFrom interface unset NoR size (later.length + fuel) (done.length * size : Nat) file =
          sortFrom interface unset NoR size fuel ((done.length + later.length) * size : Nat)
            following ∧
        At following use ((later.foldl (fun done A => done.orderedInsert notSmaller A)
          done).reverse.flatten ++ rest) offset := by
  induction later generalizing done file use offset with
  | nil =>
      refine ⟨file, use, offset, ?_, atFile⟩
      rw [List.length_nil, Nat.zero_add, Nat.add_zero]
  | cons A later induction =>
      cases done with
      | nil => exact absurd rfl nonempty
      | cons B before =>
          have sizeA := sizesLater A List.mem_cons_self
          simp only [List.length_cons] at amount
          rw [List.flatten_cons, List.append_assoc] at atFile
          rcases @sortFrom_step File interface At lawful unset size NoR positive int A B _
            before (later.length + fuel) file use offset _ rfl (by omega) sizeA sizesDone
            atFile with ⟨placed, placedUse, placedOffset, step, atPlaced⟩
          have insertion := List.perm_orderedInsert notSmaller A (B :: before)
          have longer : ((B :: before).orderedInsert notSmaller A).length =
              before.length + 1 + 1 := insertion.length_eq
          have inserted : (B :: before).orderedInsert notSmaller A ≠ [] := by
            intro empty
            rw [empty] at longer
            cases longer
          have sizes : ∀ record ∈ (B :: before).orderedInsert notSmaller A,
              record.length = size := by
            intro record member
            rcases List.mem_cons.mp (insertion.mem_iff.mp member) with rfl | earlier
            · exact sizeA
            · exact sizesDone record earlier
          rcases induction inserted (by omega) sizes
            (fun record member => sizesLater record (List.mem_cons_of_mem _ member)) atPlaced with
            ⟨following, finalUse, finalOffset, sorted, atFinal⟩
          refine ⟨following, finalUse, finalOffset, ?_, atFinal⟩
          have rounds : (A :: later).length + fuel = later.length + fuel + 1 := by
            rw [List.length_cons]
            omega
          have reached : before.length + 1 + 1 + later.length =
              (B :: before).length + (A :: later).length := by
            rw [List.length_cons, List.length_cons]
            omega
          rw [longer, reached] at sorted
          rw [rounds, List.length_cons, step]
          exact sorted

/-- Behind the last record the loop ends. -/
theorem sortFrom_end (unset : Unset) {size NoR : Nat} (int : NoR * size < 2 ^ 31) {fuel : Nat}
    {file : File} :
    sortFrom interface unset NoR size (fuel + 1) (NoR * size : Nat) file = some file := by
  have finished : ¬((NoR * size : Nat) : Int) < int32 ((NoR : Int) * size) := by
    rw [← Nat.cast_mul, int32_multiple int le_rfl]
    exact lt_irrefl _
  rw [sortFrom, if_neg finished]

/-- The program sorts the records of which the file starts, and is then behind them. -/
theorem sort_front (lawful : interface.Lawful At) (unset : Unset) {size NoR : Nat}
    (positive : 1 ≤ size) (int : NoR * size < 2 ^ 31) {records : List (List Byte)}
    {rest : List Byte} {file : File} {use : LastUse} {offset : Nat} (nonempty : records ≠ [])
    (amount : records.length ≤ NoR) (sizes : ∀ record ∈ records, record.length = size)
    (atFile : At file use (records.flatten ++ rest) offset) :
    ∃ following use offset, sort interface unset NoR size file =
        sortFrom interface unset NoR size (NoR + 2 - records.length)
          (records.length * size : Nat) following ∧
      At following use ((sortedRecords records).flatten ++ rest) offset := by
  cases records with
  | nil => exact absurd rfl nonempty
  | cons first later =>
      have sizesFirst : ∀ record ∈ [first], record.length = size := by
        intro record member
        rw [List.mem_singleton.mp member]
        exact sizes first List.mem_cons_self
      have atRecords : At file use ([first].reverse.flatten ++ (later.flatten ++ rest)) offset := by
        simpa using atFile
      rw [List.length_cons] at amount
      have within : [first].length + later.length ≤ NoR := by
        rw [List.length_singleton]
        omega
      rcases @sortFrom_front _ _ _ lawful unset size NoR positive int [first] later rest
        (NoR + 2 - (later.length + 1)) file use offset (List.cons_ne_nil first []) within sizesFirst
        (fun record member => sizes record (List.mem_cons_of_mem _ member)) atRecords with
        ⟨following, finalUse, finalOffset, sorted, atFinal⟩
      have order := foldl_orderedInsert later [first]
      rw [← List.reverse_cons] at order
      have rounds : later.length + (NoR + 2 - (later.length + 1)) = NoR + 1 := by omega
      rw [rounds, List.length_singleton, Nat.one_mul, Nat.add_comm 1] at sorted
      refine ⟨following, finalUse, finalOffset, ?_, ?_⟩
      · rw [List.length_cons]
        exact sorted
      · rw [sortedRecords, ← order]
        exact atFinal

/-- The whole program sorts the records and leaves what is behind them. -/
theorem sort_places (lawful : interface.Lawful At) (unset : Unset) {size NoR : Nat}
    (positive : 1 ≤ size) (some : 1 ≤ NoR) (int : NoR * size < 2 ^ 31)
    {records : List (List Byte)} {rest : List Byte} {file : File} {use : LastUse}
    {offset : Nat} (amount : records.length = NoR)
    (sizes : ∀ record ∈ records, record.length = size)
    (atFile : At file use (records.flatten ++ rest) offset) :
    ∃ following use offset, sort interface unset NoR size file = .some following ∧
      At following use ((sortedRecords records).flatten ++ rest) offset := by
  have nonempty : records ≠ [] := by
    intro nothing
    rw [nothing, List.length_nil] at amount
    omega
  rcases sort_front lawful unset positive int nonempty (Nat.le_of_eq amount) sizes atFile with
    ⟨following, finalUse, finalOffset, sorted, atFinal⟩
  refine ⟨following, finalUse, finalOffset, ?_, atFinal⟩
  have rounds : NoR + 2 - NoR = 1 + 1 := by omega
  rw [sorted, amount, rounds, sortFrom_end unset int]

end Program

/-! ## Both variants -/

/-- The records of a file are sorted, those with the same first byte have their
order, and nothing behind the records has changed. -/
structure IsSorted (NoR SoR : Nat) (original sorted : List Byte) : Prop where
  permuted : (recordsOf SoR NoR sorted).Perm (recordsOf SoR NoR original)
  ordered : (recordsOf SoR NoR sorted).Pairwise
    fun earlier later => firstChar earlier ≤ firstChar later
  stable : ∀ char : Int, (recordsOf SoR NoR sorted).filter (firstChar · = char) =
    (recordsOf SoR NoR original).filter (firstChar · = char)
  behind : sorted.drop (NoR * SoR) = original.drop (NoR * SoR)
  length : sorted.length = original.length

theorem isSorted_sortedRecords {NoR SoR : Nat} {original : List Byte}
    (long : NoR * SoR ≤ original.length) :
    IsSorted NoR SoR original
      ((sortedRecords (recordsOf SoR NoR original)).flatten ++ original.drop (NoR * SoR)) := by
  rcases recordsOf_split long with ⟨amount, sizes, _⟩
  have permuted := sortedRecords_perm (recordsOf SoR NoR original)
  have sortedSizes : ∀ record ∈ sortedRecords (recordsOf SoR NoR original), record.length = SoR :=
    fun record member => sizes record (permuted.mem_iff.mp member)
  have sortedAmount : (sortedRecords (recordsOf SoR NoR original)).length = NoR :=
    permuted.length_eq.trans amount
  have front : (sortedRecords (recordsOf SoR NoR original)).flatten.length = NoR * SoR := by
    rw [length_flatten_records sortedSizes, sortedAmount]
  have records := recordsOf_flatten _ (original.drop (NoR * SoR)) sortedSizes
  rw [sortedAmount] at records
  constructor
  · rw [records]
    exact permuted
  · rw [records]
    exact sortedRecords_ordered _
  · rw [records]
    exact sortedRecords_stable _
  · rw [← front, List.drop_left]
  · rw [List.length_append, front, List.length_drop]
    omega

def zeros : Unset where
  a := fun _ => 0
  b := fun _ => 0
  A := fun _ _ _ => 0
  B := fun _ _ _ => 0

/-- Both variants sort every file of at least `NoR` records, to the same content. -/
theorem sort_correct (unset : Unset) {NoR SoR : Nat} {content : List Byte} (oneByte : 1 ≤ SoR)
    (oneRecord : 1 ≤ NoR) (int : NoR * SoR < 2 ^ 31) (long : NoR * SoR ≤ content.length) :
    ∃ sorted, sortSys unset NoR SoR content = some sorted ∧
      sortLib unset NoR SoR content = some sorted ∧
      IsSorted NoR SoR content sorted := by
  rcases recordsOf_split long with ⟨amount, sizes, split⟩
  have descriptor : FileDescriptor.At { content := content, offset := 0 } .positioned
      ((recordsOf SoR NoR content).flatten ++ content.drop (NoR * SoR)) 0 := by
    rw [← split]
    rfl
  have stream : FileStream.At { content := content, position := 0, lastUse := .positioned }
      .positioned ((recordsOf SoR NoR content).flatten ++ content.drop (NoR * SoR)) 0 := by
    rw [← split]
    rfl
  rcases sort_places FileDescriptor.interface_lawful unset oneByte oneRecord int amount sizes
    descriptor with ⟨file, _, _, sortedSys, rfl⟩
  rcases sort_places FileStream.interface_lawful unset oneByte oneRecord int amount sizes stream
    with ⟨file, _, _, sortedLib, rfl⟩
  refine ⟨_, ?_, ?_, isSorted_sortedRecords long⟩
  · rw [sortSys, sortedSys]
    rfl
  · rw [sortLib, sortedLib]
    rfl

/-- Three records of two bytes; the byte 128 is a negative `char`. -/
theorem sort_correct_three :
    ∃ sorted, sortSys zeros 3 2 [3, 1, 3, 2, 128, 3, 9] = some sorted ∧
      sortLib zeros 3 2 [3, 1, 3, 2, 128, 3, 9] = some sorted ∧
      IsSorted 3 2 [3, 1, 3, 2, 128, 3, 9] sorted ∧ sorted = [128, 3, 3, 1, 3, 2, 9] := by
  rcases @sort_correct zeros 3 2 [3, 1, 3, 2, 128, 3, 9] (by decide) (by decide) (by decide)
    (by decide) with ⟨sorted, sys, lib, isSorted⟩
  have evaluated : sortSys zeros 3 2 [3, 1, 3, 2, 128, 3, 9] = some [128, 3, 3, 1, 3, 2, 9] := by
    decide
  exact ⟨sorted, sys, lib, isSorted, Option.some.inj (sys.symm.trans evaluated)⟩

end OsExercises.RecordSort
