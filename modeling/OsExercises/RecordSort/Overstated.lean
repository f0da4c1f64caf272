import OsExercises.RecordSort.Sorting

/-! # Sorting more records than there are

Where the file ends early the comparisons use what is in the file and what was never set.
An exchange there writes two whole records, so the file becomes longer; without one
nothing is written. -/

namespace OsExercises.RecordSort

/-! ## What the operations do near the end of the file -/

theorem length_overwritten (content : List Byte) (offset : Nat) (bytes : List Byte) :
    (overwritten content offset bytes).length = max content.length (offset + bytes.length) := by
  simp only [overwritten, List.length_append, List.length_take, List.length_replicate,
    List.length_drop]
  omega

theorem lseek_content (file : FileDescriptor) (target : Int) :
    (file.lseek target).content = file.content := by
  unfold FileDescriptor.lseek
  split
  · rfl
  · rfl

section Descriptor

variable {unset : Unset} {i j : Int} {size fuel : Nat} {a b stale : Byte}
variable {file following : FileDescriptor}

theorem readChar_content :
    ∃ following, readChar FileDescriptor.interface stale file =
        some (file.content.getD file.offset stale, following) ∧
      following.content = file.content := by
  have char : ((file.content.drop file.offset).take 1).headD stale =
      file.content.getD file.offset stale := by
    rw [List.getD_eq_getElem?_getD, ← List.head?_drop]
    cases file.content.drop file.offset with
    | nil => rfl
    | cons first rest => rfl
  exact ⟨_, congrArg (fun char => some (char, _)) char, rfl⟩

theorem peekChar_content (target : Nat) :
    ∃ following, peekChar FileDescriptor.interface target stale file =
        some (file.content.getD target stale, following) ∧
      following.content = file.content := by
  rcases @readChar_content stale (file.lseek target) with ⟨read, taken, same⟩
  have offset : (file.lseek target).offset = target := by
    rw [FileDescriptor.lseek, if_pos (Int.natCast_nonneg target), Int.toNat_natCast]
  rw [offset, lseek_content] at taken
  refine ⟨read.lseek (read.offset + -1), ?_, ?_⟩
  · unfold peekChar
    exact Option.bind_eq_some_iff.mpr ⟨_, taken, rfl⟩
  · rw [lseek_content, same, lseek_content]

theorem readChar_keeps {char : Byte}
    (read : readChar FileDescriptor.interface stale file = some (char, following)) :
    following.content = file.content := by
  rcases @readChar_content stale file with ⟨after, taken, same⟩
  rw [taken] at read
  cases read
  exact same

theorem peekChar_keeps {char : Byte} {target : Int}
    (peek : peekChar FileDescriptor.interface target stale file = some (char, following)) :
    following.content = file.content := by
  unfold peekChar at peek
  rcases Option.bind_eq_some_iff.mp peek with ⟨⟨_, read⟩, reading, same⟩
  cases same
  have kept := readChar_keeps reading
  exact (lseek_content _ _).trans (kept.trans (lseek_content _ _))

theorem readBuffer_content {memory : Nat → Byte} {bytes : List Byte}
    (read : readBuffer FileDescriptor.interface size memory file = some (bytes, following)) :
    bytes.length = size ∧ following.content = file.content := by
  rcases Option.map_eq_some_iff.mp read with ⟨⟨taken, after⟩, reading, same⟩
  cases same
  cases reading
  refine ⟨?_, rfl⟩
  simp only [List.length_append, List.length_map, List.length_range', List.length_take]
  omega

/-- An exchange writes up to the end of the second record. -/
theorem swapRecords_grows
    (swapped : swapRecords FileDescriptor.interface unset i size j file = some following) :
    file.content.length ≤ following.content.length ∧
      ((size : Int) ≤ j → j + size ≤ following.content.length) := by
  unfold swapRecords at swapped
  rcases Option.bind_eq_some_iff.mp swapped with ⟨⟨B, afterB⟩, readB, swapped⟩
  rcases Option.bind_eq_some_iff.mp swapped with ⟨⟨A, afterA⟩, readA, swapped⟩
  rcases Option.bind_eq_some_iff.mp swapped with ⟨written, writeA, writeB⟩
  rw [Int.toNat_natCast] at readA readB
  rcases readBuffer_content readB with ⟨lengthB, contentB⟩
  rcases readBuffer_content readA with ⟨lengthA, contentA⟩
  have writtenAt : written = (afterA.lseek (j - size)).write A := (Option.some.inj writeA).symm
  have followingAt : following = written.write B := (Option.some.inj writeB).symm
  have lengthWritten : written.content.length =
      max file.content.length ((afterA.lseek (j - size)).offset + size) := by
    rw [writtenAt, FileDescriptor.write, length_overwritten, lseek_content, contentA, contentB,
      lengthA]
  have offsetWritten : written.offset = (afterA.lseek (j - size)).offset + size := by
    rw [writtenAt, FileDescriptor.write, lengthA]
  have lengthFollowing : following.content.length =
      max written.content.length (written.offset + size) := by
    rw [followingAt, FileDescriptor.write, length_overwritten, lengthB]
  refine ⟨by omega, ?_⟩
  intro inside
  have offset : (afterA.lseek (j - size)).offset = (j - size).toNat := by
    rw [FileDescriptor.lseek, if_pos (by omega)]
  omega

theorem moveRecord_grows {b' : Byte} {j' : Int}
    (moved : moveRecord FileDescriptor.interface unset i size a fuel b j file =
      some (b', j', following)) :
    file.content.length ≤ following.content.length := by
  induction fuel generalizing b j file with
  | zero => cases moved
  | succ fuel induction =>
      unfold moveRecord at moved
      split at moved
      · rcases Option.bind_eq_some_iff.mp moved with ⟨swapped, swap, moved⟩
        rcases Option.bind_eq_some_iff.mp moved with ⟨⟨char, peeked⟩, peek, moved⟩
        have further := induction moved
        have grown := (swapRecords_grows swap).1
        have same := peekChar_keeps peek
        rw [same] at further
        exact grown.trans further
      · cases moved
        exact Nat.le_refl _

theorem placeRecord_grows
    (placed : placeRecord FileDescriptor.interface unset i size a fuel b j file =
      some following) :
    file.content.length ≤ following.content.length := by
  unfold placeRecord at placed
  rcases Option.bind_eq_some_iff.mp placed with ⟨⟨char, place, moved⟩, move, placed⟩
  have grown := moveRecord_grows move
  simp only at placed
  split at placed
  · exact grown.trans (swapRecords_grows placed).1
  · cases placed
    exact grown

/-- A smaller record is exchanged at least once, and first with the one before it. -/
theorem placeRecord_exchanges (less : charLess a b) (behind : (size : Int) ≤ j)
    (placed : placeRecord FileDescriptor.interface unset i size a (fuel + 1) b j file =
      some following) :
    j + size ≤ following.content.length := by
  by_cases further : charLess a b ∧ j ≥ int32 (2 * size)
  · unfold placeRecord moveRecord at placed
    rw [if_pos further] at placed
    rcases Option.bind_eq_some_iff.mp placed with ⟨⟨char, place, moved⟩, move, placed⟩
    rcases Option.bind_eq_some_iff.mp move with ⟨swapped, swap, move⟩
    rcases Option.bind_eq_some_iff.mp move with ⟨⟨_, peeked⟩, peek, move⟩
    have first := (swapRecords_grows swap).2 behind
    have same := peekChar_keeps peek
    have grown := moveRecord_grows move
    rw [same] at grown
    simp only at placed
    split at placed
    · have last := (swapRecords_grows placed).1
      omega
    · cases placed
      omega
  · rw [placeRecord_stopped further, if_pos less] at placed
    exact (swapRecords_grows placed).2 behind

/-- The file never becomes shorter. -/
theorem sortFrom_grows {NoR : Int}
    (sorted : sortFrom FileDescriptor.interface unset NoR size fuel i file = some following) :
    file.content.length ≤ following.content.length := by
  induction fuel generalizing i file with
  | zero => cases sorted
  | succ fuel induction =>
      unfold sortFrom at sorted
      split at sorted
      · rcases Option.bind_eq_some_iff.mp sorted with ⟨⟨char, read⟩, reading, sorted⟩
        rcases Option.bind_eq_some_iff.mp sorted with ⟨⟨other, peeked⟩, peek, sorted⟩
        rcases Option.bind_eq_some_iff.mp sorted with ⟨placed, place, sorted⟩
        have grown := placeRecord_grows place
        have rest := induction sorted
        have same := peekChar_keeps peek
        have start := readChar_keeps reading
        have seek : (FileDescriptor.interface.seekTo file i).content = file.content :=
          lseek_content file i
        rw [same, start, seek] at grown
        exact grown.trans rest
      · cases sorted
        exact Nat.le_refl _

end Descriptor

/-! ## Rounds behind the last complete record -/

/-- What the program takes for the first bytes of the records at `k` and before it. -/
def comesBefore (unset : Unset) (size : Nat) (content : List Byte) (k : Nat) : Prop :=
  charLess (content.getD (k * size) (unset.a (k * size : Nat)))
    (content.getD ((k - 1) * size) (unset.b (k * size : Nat)))

instance (unset : Unset) (size : Nat) (content : List Byte) (k : Nat) :
    Decidable (comesBefore unset size content k) :=
  inferInstanceAs (Decidable (charLess _ _))

section Rounds

variable {unset : Unset} {size NoR fuel k : Nat} {file following : FileDescriptor}

/-- A round reads the two bytes and then places the record. -/
theorem sortFrom_round (int : NoR * size < 2 ^ 31) (one : 1 ≤ k) (more : k < NoR)
    (positive : 1 ≤ size) :
    ∃ peeked, peeked.content = file.content ∧
      sortFrom FileDescriptor.interface unset NoR size (fuel + 1) (k * size : Nat) file =
        (placeRecord FileDescriptor.interface unset (k * size : Nat) size
          (file.content.getD (k * size) (unset.a (k * size : Nat))) NoR
          (file.content.getD ((k - 1) * size) (unset.b (k * size : Nat)))
          (k * size : Nat) peeked).bind fun placed =>
            sortFrom FileDescriptor.interface unset NoR size fuel ((k + 1) * size : Nat)
              placed := by
  have limit : int32 ((NoR : Int) * size) = (NoR * size : Nat) := by
    rw [← Nat.cast_mul, int32_multiple int le_rfl]
  have further : ((k * size : Nat) : Int) < int32 ((NoR : Int) * size) := by
    rw [limit, Int.ofNat_lt]
    exact Nat.mul_lt_mul_of_pos_right more positive
  have product : (k - 1) * size + size = k * size := by
    rw [← Nat.succ_mul, Nat.succ_eq_add_one, Nat.sub_add_cancel one]
  have back : ((k * size : Nat) : Int) - size = ((k - 1) * size : Nat) := by omega
  have next : int32 (((k * size : Nat) : Int) + size) = ((k + 1) * size : Nat) := by
    rw [← int32_multiple int (by omega : k + 1 ≤ NoR), Nat.succ_mul, Nat.cast_add]
  rcases @readChar_content (unset.a (k * size : Nat)) (file.lseek (k * size : Nat)) with
    ⟨read, readA, contentA⟩
  rcases @peekChar_content (unset.b (k * size : Nat)) read ((k - 1) * size) with
    ⟨peeked, peekB, contentB⟩
  have offset : (file.lseek (k * size : Nat)).offset = k * size := by
    rw [FileDescriptor.lseek, if_pos (Int.natCast_nonneg _), Int.toNat_natCast]
  rw [offset, lseek_content] at readA
  rw [contentA, lseek_content] at peekB
  refine ⟨peeked, ?_, ?_⟩
  · rw [contentB, contentA, lseek_content]
  · have seek : FileDescriptor.interface.seekTo file (k * size : Nat) =
        file.lseek (k * size : Nat) := rfl
    rw [sortFrom, if_pos further]
    simp only [seek, readA, back, peekB, next, Int.toNat_natCast, Option.bind_eq_bind,
      Option.bind_some]

/-- Without an exchange the file is as it was; with one it is longer. -/
theorem sortFrom_behind_iff (int : NoR * size < 2 ^ 31) (positive : 1 ≤ size) (one : 1 ≤ k)
    (within : k ≤ NoR) (short : file.content.length < (k + 1) * size) (enough : NoR < k + fuel) :
    (∃ following,
        sortFrom FileDescriptor.interface unset NoR size fuel (k * size : Nat) file =
          some following ∧ following.content.Perm file.content) ↔
      ∀ later, k ≤ later → later < NoR → ¬ comesBefore unset size file.content later := by
  induction fuel generalizing k file with
  | zero => omega
  | succ fuel induction =>
      rcases Nat.eq_or_lt_of_le within with rfl | more
      · refine iff_of_true ⟨file, sortFrom_end unset int, List.Perm.refl _⟩ ?_
        intro later after before
        omega
      · rcases @sortFrom_round unset size NoR fuel k file int one more positive with
          ⟨peeked, same, round⟩
        have rounds : NoR = NoR - 1 + 1 := by omega
        by_cases less : comesBefore unset size file.content k
        · refine iff_of_false ?_ (fun none => none k (Nat.le_refl k) more less)
          intro sorted
          rcases sorted with ⟨following, sorted, permuted⟩
          rw [round] at sorted
          rcases Option.bind_eq_some_iff.mp sorted with ⟨placed, place, rest⟩
          have behind : (size : Int) ≤ (k * size : Nat) := by
            have product : 1 * size ≤ k * size := Nat.mul_le_mul_right size one
            omega
          rw [rounds] at place
          have longer := placeRecord_exchanges less behind place
          have grown := sortFrom_grows rest
          have lengths := permuted.length_eq
          rw [Nat.succ_mul] at short
          omega
        · have notLess : ¬ charLess (file.content.getD (k * size) (unset.a (k * size : Nat)))
              (file.content.getD ((k - 1) * size) (unset.b (k * size : Nat))) := less
          have place := @placeRecord_stopped _ FileDescriptor.interface unset (k * size : Nat) size
            (k * size : Nat) _ _ (NoR - 1) peeked fun both => notLess both.1
          rw [if_neg notLess, ← rounds] at place
          rw [place, Option.bind_some] at round
          have longer : peeked.content.length < (k + 1 + 1) * size := by
            rw [same, Nat.succ_mul]
            omega
          rw [round, ← same, induction (by omega) more longer (by omega), same]
          constructor
          · intro none later after before
            rcases Nat.eq_or_lt_of_le after with rfl | behind
            · exact less
            · exact none later behind before
          · intro none later after before
            exact none later (by omega) before

end Rounds

/-! ## The whole sort -/

/-- How many records of the file are complete. -/
def completeRecords (SoR : Nat) (content : List Byte) : Nat :=
  content.length / SoR

/-- Nothing that the program finds behind the complete records comes before the record that it
is compared with. The one behind them is compared with the greatest of them. -/
structure Harmless (unset : Unset) (NoR SoR : Nat) (content : List Byte) : Prop where
  next : 1 ≤ completeRecords SoR content → completeRecords SoR content < NoR →
    ∀ record ∈ recordsOf SoR (completeRecords SoR content) content,
      ¬ charLess (content.getD (completeRecords SoR content * SoR)
        (unset.a (completeRecords SoR content * SoR : Nat))) (record.headD 0)
  later : ∀ k, completeRecords SoR content < k → k < NoR → ¬ comesBefore unset SoR content k

/-- The program is defined, and the file has the same bytes in some order. -/
def KeepsBytes (unset : Unset) (NoR SoR : Int) (content : List Byte) : Prop :=
  int32 (NoR * SoR) = NoR * SoR ∧
    ∃ sorted, sortSys unset NoR SoR content = some sorted ∧ sorted.Perm content

theorem getD_behind {front content : List Byte} {i : Nat} (behind : front.length ≤ i)
    (stale : Byte) :
    (front ++ content.drop front.length).getD i stale = content.getD i stale := by
  rw [List.getD_eq_getElem?_getD, List.getD_eq_getElem?_getD, List.getElem?_append_right behind,
    List.getElem?_drop, Nat.add_sub_cancel' behind]

/-- The last of the sorted records has the greatest first byte. -/
theorem charLess_last_iff {records before : List (List Byte)} {last : List Byte} {a : Byte}
    (ends : sortedRecords records = before ++ [last]) :
    charLess a (last.headD 0) ↔ ∃ record ∈ records, charLess a (record.headD 0) := by
  have ordered := sortedRecords_ordered records
  have permuted := sortedRecords_perm records
  rw [ends] at ordered permuted
  have member : last ∈ before ++ [last] :=
    List.mem_append_right before (List.mem_singleton_self last)
  constructor
  · intro less
    exact ⟨last, permuted.mem_iff.mp member, less⟩
  · intro found
    rcases found with ⟨record, inside, less⟩
    rcases List.mem_append.mp (permuted.mem_iff.mpr inside) with earlier | same
    · have greatest := (List.pairwise_append.mp ordered).2.2 record earlier last
        (List.mem_singleton_self last)
      exact lt_of_lt_of_le less greatest
    · exact List.mem_singleton.mp same ▸ less

/-- Sorting the first records only moves bytes. -/
theorem sorted_perm {count size : Nat} {content : List Byte}
    (fit : count * size ≤ content.length) :
    ((sortedRecords (recordsOf size count content)).flatten ++
      content.drop (count * size)).Perm content := by
  have split := (recordsOf_split fit).2.2
  have records := (sortedRecords_perm (recordsOf size count content)).flatten
  exact (records.append_right _).trans (List.Perm.of_eq split.symm)

section Sorted

variable {unset : Unset} {NoR SoR : Nat} {content : List Byte}

/-- The file after the complete records have been sorted. -/
def sortedPrefix (SoR : Nat) (content : List Byte) : List Byte :=
  (sortedRecords (recordsOf SoR (completeRecords SoR content) content)).flatten ++
    content.drop (completeRecords SoR content * SoR)

theorem completeRecords_fit (SoR : Nat) (content : List Byte) :
    completeRecords SoR content * SoR ≤ content.length :=
  Nat.div_mul_le_self _ _

theorem sortedPrefix_perm (SoR : Nat) (content : List Byte) :
    (sortedPrefix SoR content).Perm content :=
  sorted_perm (completeRecords_fit SoR content)

theorem length_sortedFront (SoR : Nat) (content : List Byte) :
    (sortedRecords (recordsOf SoR (completeRecords SoR content) content)).flatten.length =
      completeRecords SoR content * SoR := by
  have fit := completeRecords_fit SoR content
  have lengths := (sortedPrefix_perm SoR content).length_eq
  rw [sortedPrefix, List.length_append, List.length_drop] at lengths
  omega

/-- The first byte of the last complete record, after these are sorted. -/
theorem comesBefore_sortedPrefix_iff (positive : 1 ≤ SoR)
    (some : 1 ≤ completeRecords SoR content) :
    comesBefore unset SoR (sortedPrefix SoR content) (completeRecords SoR content) ↔
      ∃ record ∈ recordsOf SoR (completeRecords SoR content) content,
        charLess (content.getD (completeRecords SoR content * SoR)
          (unset.a (completeRecords SoR content * SoR : Nat))) (record.headD 0) := by
  rcases recordsOf_split (completeRecords_fit SoR content) with ⟨amount, sizes, _⟩
  have permuted := sortedRecords_perm (recordsOf SoR (completeRecords SoR content) content)
  have front := length_sortedFront SoR content
  rcases List.eq_nil_or_concat
    (sortedRecords (recordsOf SoR (completeRecords SoR content) content)) with nothing | ends
  · have lengths := permuted.length_eq
    rw [nothing, amount, List.length_nil] at lengths
    omega
  · rcases ends with ⟨before, last, ends⟩
    rw [List.concat_eq_append] at ends
    have lastSize : last.length = SoR := by
      apply sizes
      apply permuted.mem_iff.mp
      rw [ends]
      exact List.mem_append_right before (List.mem_singleton_self last)
    rw [ends, List.flatten_append, List.length_append, List.flatten_singleton, lastSize] at front
    have product : (completeRecords SoR content - 1) * SoR + SoR =
        completeRecords SoR content * SoR := by
      rw [← Nat.succ_mul, Nat.succ_eq_add_one, Nat.sub_add_cancel some]
    have place : (completeRecords SoR content - 1) * SoR = before.flatten.length := by omega
    have head := record_split positive lastSize
    have here (stale : Byte) : (sortedPrefix SoR content).getD
        ((completeRecords SoR content - 1) * SoR) stale = last.headD 0 := by
      rw [sortedPrefix, ends, List.flatten_append, List.flatten_singleton, List.append_assoc, place,
        List.getD_eq_getElem?_getD, List.getElem?_append_right (Nat.le_refl _), Nat.sub_self, head]
      rfl
    have next (stale : Byte) : (sortedPrefix SoR content).getD
        (completeRecords SoR content * SoR) stale =
          content.getD (completeRecords SoR content * SoR) stale := by
      rw [sortedPrefix, ← length_sortedFront SoR content]
      exact getD_behind (Nat.le_refl _) stale
    unfold comesBefore
    rw [here, next]
    exact charLess_last_iff ends

theorem comesBefore_behind {k : Nat} (behind : completeRecords SoR content < k) :
    comesBefore unset SoR (sortedPrefix SoR content) k ↔ comesBefore unset SoR content k := by
  have front := length_sortedFront SoR content
  have at1 : completeRecords SoR content * SoR ≤ k * SoR := Nat.mul_le_mul_right SoR behind.le
  have at2 : completeRecords SoR content * SoR ≤ (k - 1) * SoR :=
    Nat.mul_le_mul_right SoR (by omega)
  unfold comesBefore sortedPrefix
  rw [← front, getD_behind (by omega), getD_behind (by omega)]

/-- What is behind the complete records looks the same before and after these are sorted. -/
theorem harmless_iff (positive : 1 ≤ SoR) (overstated : completeRecords SoR content < NoR) :
    (∀ k, max 1 (completeRecords SoR content) ≤ k → k < NoR →
        ¬ comesBefore unset SoR (sortedPrefix SoR content) k) ↔
      Harmless unset NoR SoR content := by
  constructor
  · intro none
    refine ⟨?_, ?_⟩
    · intro some _ record member less
      exact none _ (by omega) overstated
        ((comesBefore_sortedPrefix_iff positive some).mpr ⟨record, member, less⟩)
    · intro k behind inside before
      exact none k (by omega) inside ((comesBefore_behind behind).mpr before)
  · intro harmless k after inside before
    have notBefore : completeRecords SoR content ≤ k := by omega
    rcases Nat.eq_or_lt_of_le notBefore with rfl | behind
    · have some : 1 ≤ completeRecords SoR content := by omega
      rcases (comesBefore_sortedPrefix_iff positive some).mp before with ⟨record, member, less⟩
      exact harmless.next some overstated record member less
    · exact harmless.later k behind inside ((comesBefore_behind behind).mp before)

/-- The loop sorts the complete records and comes to what is behind them. Without a complete
record it starts there. -/
theorem sort_behind (unset : Unset) (positive : 1 ≤ SoR) (int : NoR * SoR < 2 ^ 31)
    (overstated : completeRecords SoR content < NoR) :
    ∃ offset, sort FileDescriptor.interface unset NoR SoR { content := content, offset := 0 } =
      sortFrom FileDescriptor.interface unset NoR SoR
        (NoR + 2 - max 1 (completeRecords SoR content))
        (max 1 (completeRecords SoR content) * SoR : Nat)
        { content := sortedPrefix SoR content, offset := offset } := by
  rcases Nat.eq_zero_or_pos (completeRecords SoR content) with none | some
  · have same : sortedPrefix SoR content = content := by
      rw [sortedPrefix, none, Nat.zero_mul, recordsOf]
      rfl
    refine ⟨0, ?_⟩
    rw [none, same, sort, Int.toNat_natCast, Nat.max_zero, Nat.one_mul]
    rfl
  · rcases recordsOf_split (completeRecords_fit SoR content) with ⟨amount, sizes, split⟩
    have nonempty : recordsOf SoR (completeRecords SoR content) content ≠ [] := by
      intro nothing
      rw [nothing, List.length_nil] at amount
      omega
    have start : FileDescriptor.At { content := content, offset := 0 } .positioned
        ((recordsOf SoR (completeRecords SoR content) content).flatten ++
          content.drop (completeRecords SoR content * SoR)) 0 := by
      rw [← split]
      rfl
    rcases sort_front FileDescriptor.interface_lawful unset positive int nonempty (by omega) sizes
      start with ⟨following, _, offset, sorted, rfl⟩
    refine ⟨offset, ?_⟩
    rw [Nat.max_eq_right some, sorted, amount]
    rfl

/-- The file with records that are all complete is only reordered. -/
theorem sortSys_complete (positive : 1 ≤ SoR) (one : 1 ≤ NoR) (int : NoR * SoR < 2 ^ 31)
    (long : NoR ≤ completeRecords SoR content) :
    ∃ sorted, sortSys unset NoR SoR content = .some sorted ∧ sorted.Perm content := by
  have fit : NoR * SoR ≤ content.length :=
    (Nat.mul_le_mul_right SoR long).trans (completeRecords_fit SoR content)
  rcases recordsOf_split fit with ⟨amount, sizes, split⟩
  have start : FileDescriptor.At { content := content, offset := 0 } .positioned
      ((recordsOf SoR NoR content).flatten ++ content.drop (NoR * SoR)) 0 := by
    rw [← split]
    rfl
  rcases sort_places FileDescriptor.interface_lawful unset positive one int amount sizes start with
    ⟨file, _, _, sorted, rfl⟩
  refine ⟨(sortedRecords (recordsOf SoR NoR content)).flatten ++ content.drop (NoR * SoR), ?_,
    sorted_perm fit⟩
  rw [sortSys, sorted]
  rfl

/-- With too few records the sort is harmless exactly when what is behind them is. -/
theorem sortSys_overstated_iff (positive : 1 ≤ SoR) (int : NoR * SoR < 2 ^ 31)
    (overstated : completeRecords SoR content < NoR) :
    (∃ sorted, sortSys unset NoR SoR content = .some sorted ∧ sorted.Perm content) ↔
      Harmless unset NoR SoR content := by
  have short : content.length < (completeRecords SoR content + 1) * SoR := by
    rw [Nat.mul_comm]
    exact Nat.lt_mul_div_succ content.length positive
  have behind : content.length < (max 1 (completeRecords SoR content) + 1) * SoR :=
    short.trans_le (Nat.mul_le_mul_right SoR (by omega))
  have permuted := sortedPrefix_perm SoR content
  rw [← permuted.length_eq] at behind
  rcases sort_behind unset positive int overstated with ⟨offset, sorted⟩
  have rounds := @sortFrom_behind_iff unset SoR NoR
    (NoR + 2 - max 1 (completeRecords SoR content)) (max 1 (completeRecords SoR content))
    { content := sortedPrefix SoR content, offset := offset } int positive (by omega) (by omega)
    behind (by omega)
  rw [← harmless_iff positive overstated, ← rounds, sortSys, sorted]
  constructor
  · intro found
    rcases found with ⟨_, ended, same⟩
    rcases Option.map_eq_some_iff.mp ended with ⟨following, finished, rfl⟩
    exact ⟨following, finished, same.trans permuted.symm⟩
  · intro found
    rcases found with ⟨following, finished, same⟩
    exact ⟨following.content, Option.map_eq_some_iff.mpr ⟨following, finished, rfl⟩,
      same.trans permuted⟩

end Sorted

/-- The sort keeps the bytes of the file exactly when the sizes do not overflow and nothing behind
the complete records comes before what it is compared with. -/
theorem keepsBytes_iff (unset : Unset) (NoR SoR : Int) (content : List Byte) (positive : 1 ≤ SoR) :
    KeepsBytes unset NoR SoR content ↔
      int32 (NoR * SoR) = NoR * SoR ∧ Harmless unset NoR.toNat SoR.toNat content := by
  unfold KeepsBytes
  refine and_congr_right fun product => ?_
  lift SoR to Nat using by omega
  rcases le_or_gt NoR 0 with none | some
  · -- There is no round.
    have negative : NoR * SoR ≤ 0 := Int.mul_nonpos_of_nonpos_of_nonneg none (by omega)
    have finished : ¬ ((SoR : Int) < int32 (NoR * SoR)) := by
      rw [product]
      omega
    have zero : NoR.toNat = 0 := by omega
    have unchanged : sortSys unset NoR SoR content = .some content := by
      rw [sortSys, sort, sortFrom, if_neg finished]
      rfl
    refine iff_of_true ⟨content, unchanged, List.Perm.refl content⟩ ⟨?_, ?_⟩
    · intro _ overstated
      omega
    · intro k _ inside
      omega
  · lift NoR to Nat using by omega
    have int : NoR * SoR < 2 ^ 31 := by
      have bound := int32_lt ((NoR : Int) * SoR)
      rw [product] at bound
      exact_mod_cast bound
    rw [Int.toNat_natCast, Int.toNat_natCast]
    rcases Nat.lt_or_ge (completeRecords SoR content) NoR with overstated | enough
    · exact sortSys_overstated_iff (by omega) int overstated
    · refine iff_of_true (sortSys_complete (by omega) (by omega) int enough) ⟨?_, ?_⟩
      · intro _ overstated
        omega
      · intro k behind inside
        omega

/-- The last record has one of its two bytes. It is exchanged with the record before it, and a
byte that was never set comes into the file. -/
theorem sortSys_grows :
    sortSys zeros 2 2 [5, 3, 1] = some [1, 0, 5, 3] ∧ ¬ KeepsBytes zeros 2 2 [5, 3, 1] := by
  have sorted : sortSys zeros 2 2 [5, 3, 1] = some [1, 0, 5, 3] := by decide
  refine ⟨sorted, ?_⟩
  intro keeps
  rcases keeps with ⟨_, after, same, permuted⟩
  rw [sorted] at same
  have lengths := permuted.length_eq
  rw [← Option.some.inj same] at lengths
  cases lengths

theorem keepsBytes_partial : KeepsBytes zeros 2 2 [1, 3, 5] := by
  refine (keepsBytes_iff zeros 2 2 [1, 3, 5] (by decide)).mpr ⟨by decide, ?_, ?_⟩
  · intro _ _
    decide
  · intro k behind inside
    have one : completeRecords (Int.toNat 2) [1, 3, 5] = 1 := rfl
    rw [one] at behind
    have two : Int.toNat 2 = 2 := rfl
    omega

end OsExercises.RecordSort
