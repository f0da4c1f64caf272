import OsExercises.RecordSort.Program

/-! # Copying records

The program writes whole buffers, however many bytes were read into them. -/

namespace OsExercises.RecordSort

section Program

variable {File : Type u} (interface : FileInterface File)

/-- The loop `for (int i = 0; i < NoR; i++)` from `i` on, with `left` rounds to go.
`memory i` is what the new buffer of a round has in it. -/
def copyFrom (memory : Nat → Nat → Byte) (SoR : Int) :
    (left i : Nat) → (fileFrom fileTo : File) → Option (File × File)
  | 0, _, fileFrom, fileTo => some (fileFrom, fileTo)
  | left + 1, i, fileFrom, fileTo => do
      let (A, fileFrom) ← readBuffer interface SoR.toNat (memory i) fileFrom
      let fileTo ← interface.write fileTo A
      copyFrom memory SoR left (i + 1) fileFrom fileTo

end Program

/-- The new file after `copy … sys`. -/
def copySys (memory : Nat → Nat → Byte) (NoR SoR : Int) (content : List Byte) :
    Option (List Byte) :=
  (copyFrom FileDescriptor.interface memory SoR NoR.toNat 0 { content := content, offset := 0 }
    { content := [], offset := 0 }).map fun (_, fileTo) => fileTo.content

/-- The new file after `copy … lib`. -/
def copyLib (memory : Nat → Nat → Byte) (NoR SoR : Int) (content : List Byte) :
    Option (List Byte) :=
  (copyFrom FileStream.interface memory SoR NoR.toNat 0
    { content := content, position := 0, lastUse := .positioned }
    { content := [], position := 0, lastUse := .positioned }).map fun (_, fileTo) =>
      fileTo.content

/-! ## What is written -/

/-- The rest of a buffer of `size` bytes of which some have been read. -/
def unread (memory : Nat → Byte) (size read : Nat) : List Byte :=
  (List.range' read (size - read)).map memory

/-- The buffers that `left` rounds write. -/
def buffers (memory : Nat → Nat → Byte) (size : Nat) : (left i : Nat) → List Byte → List Byte
  | 0, _, _ => []
  | left + 1, i, rest =>
      rest.take size ++ unread (memory i) size (rest.take size).length ++
        buffers memory size left (i + 1) (rest.drop size)

theorem length_buffers (memory : Nat → Nat → Byte) (size left i : Nat) (rest : List Byte) :
    (buffers memory size left i rest).length = left * size := by
  induction left generalizing i rest with
  | zero => simp [buffers]
  | succ left induction =>
      rw [buffers, List.length_append, List.length_append, induction, unread, List.length_map,
        List.length_range', List.length_take, Nat.succ_mul]
      omega

theorem buffers_eq_take {memory : Nat → Nat → Byte} {size left i : Nat} {rest : List Byte}
    (long : left * size ≤ rest.length) :
    buffers memory size left i rest = rest.take (left * size) := by
  induction left generalizing i rest with
  | zero => simp [buffers]
  | succ left induction =>
      rw [Nat.succ_mul] at long
      have whole : (rest.take size).length = size := by
        rw [List.length_take]
        omega
      have behind : left * size ≤ (rest.drop size).length := by
        rw [List.length_drop]
        omega
      rw [buffers, whole, unread, Nat.sub_self, List.range'_zero, List.map_nil, List.append_nil,
        induction behind, Nat.succ_mul, Nat.add_comm (left * size), List.take_add]

/-- The records are copied exactly when the file has them all. -/
theorem buffers_eq_take_iff {memory : Nat → Nat → Byte} {size left i : Nat} {rest : List Byte} :
    buffers memory size left i rest = rest.take (left * size) ↔ left * size ≤ rest.length := by
  constructor
  · intro same
    have lengths := congrArg List.length same
    rw [length_buffers, List.length_take] at lengths
    omega
  · exact buffers_eq_take

section Loop

variable {File : Type u} {interface : FileInterface File}
variable {At : File → LastUse → List Byte → Nat → Prop}

theorem copyFrom_writes (sequential : interface.Sequential At) {memory : Nat → Nat → Byte}
    {size left i : Nat} {front back written : List Byte} {fileFrom fileTo : File}
    {useFrom useTo : LastUse} (atFrom : At fileFrom useFrom (front ++ back) front.length)
    (notWriting : useFrom ≠ .writing) (atTo : At fileTo useTo written written.length)
    (notReading : useTo ≠ .reading) :
    ∃ final following use offset,
      copyFrom interface memory size left i fileFrom fileTo = some (final, following) ∧
        At following use (written ++ buffers memory size left i back) offset := by
  induction left generalizing i front back written fileFrom fileTo useFrom useTo with
  | zero =>
      refine ⟨fileFrom, fileTo, useTo, written.length, rfl, ?_⟩
      rw [buffers, List.append_nil]
      exact atTo
  | succ left induction =>
      rcases sequential.readNext size atFrom notWriting with ⟨read, taken, atRead⟩
      have buffer : readBuffer interface size (memory i) fileFrom =
          some (back.take size ++ unread (memory i) size (back.take size).length, read) := by
        rw [readBuffer, taken]
        rfl
      rcases sequential.append (back.take size ++ unread (memory i) size (back.take size).length)
        atTo notReading with ⟨appended, writing, atAppended⟩
      have parts : front ++ back = (front ++ back.take size) ++ back.drop size := by
        rw [List.append_assoc, List.take_append_drop]
      rw [parts, ← List.length_append] at atRead
      rcases induction (i := i + 1) atRead LastUse.noConfusion atAppended LastUse.noConfusion with
        ⟨final, following, use, offset, rest, atEnd⟩
      refine ⟨final, following, use, offset, ?_, ?_⟩
      · simp only [copyFrom, Int.toNat_natCast, buffer, writing, Option.bind_eq_bind,
          Option.bind_some]
        exact rest
      · rw [buffers, ← List.append_assoc written]
        exact atEnd

end Loop

theorem copySys_eq (memory : Nat → Nat → Byte) (NoR SoR : Nat) (content : List Byte) :
    copySys memory NoR SoR content = some (buffers memory SoR NoR 0 content) := by
  have source : FileDescriptor.At { content := content, offset := 0 } .positioned ([] ++ content)
      ([] : List Byte).length := rfl
  have target : FileDescriptor.At { content := [], offset := 0 } .positioned [] 0 := rfl
  rcases @copyFrom_writes _ _ _ FileDescriptor.interface_sequential memory SoR NoR 0 [] content []
    _ _ _ _ source LastUse.noConfusion target LastUse.noConfusion with
    ⟨final, following, _, _, copied, rfl⟩
  rw [copySys, Int.toNat_natCast, copied]
  rfl

theorem copyLib_eq (memory : Nat → Nat → Byte) (NoR SoR : Nat) (content : List Byte) :
    copyLib memory NoR SoR content = some (buffers memory SoR NoR 0 content) := by
  have source : FileStream.At { content := content, position := 0, lastUse := .positioned }
      .positioned ([] ++ content) ([] : List Byte).length := rfl
  have target : FileStream.At { content := [], position := 0, lastUse := .positioned }
      .positioned [] 0 := rfl
  rcases @copyFrom_writes _ _ _ FileStream.interface_sequential memory SoR NoR 0 [] content []
    _ _ _ _ source LastUse.noConfusion target LastUse.noConfusion with
    ⟨final, following, _, _, copied, rfl⟩
  rw [copyLib, Int.toNat_natCast, copied]
  rfl

/-- Whatever the buffers have in them, both variants write the first records of the file,
and nothing else, exactly when the file is long enough. -/
theorem copy_correct_iff (memorySys memoryLib : Nat → Nat → Byte) (NoR SoR : Nat)
    (content : List Byte) :
    (∃ target, copySys memorySys NoR SoR content = some target ∧
      copyLib memoryLib NoR SoR content = some target ∧
      target = content.take (NoR * SoR)) ↔ NoR * SoR ≤ content.length := by
  rw [copySys_eq, copyLib_eq]
  constructor
  · intro copied
    rcases copied with ⟨target, sys, _, same⟩
    exact buffers_eq_take_iff.mp ((Option.some.inj sys).trans same)
  · intro long
    refine ⟨content.take (NoR * SoR), ?_, ?_, rfl⟩
    · rw [buffers_eq_take long]
    · rw [buffers_eq_take long]

/-- Two records of two bytes are asked for, and the file has three bytes. The rest of the
last buffer is written as it was allocated, and the two variants may differ in it. -/
theorem copy_short :
    copySys (fun _ _ => 7) 2 2 [1, 2, 3] = some [1, 2, 3, 7] ∧
      copyLib (fun _ _ => 8) 2 2 [1, 2, 3] = some [1, 2, 3, 8] ∧
      ¬ ∃ target, copySys (fun _ _ => 7) 2 2 [1, 2, 3] = some target ∧
        copyLib (fun _ _ => 8) 2 2 [1, 2, 3] = some target ∧
        target = [1, 2, 3].take (2 * 2) := by
  have sys : copySys (fun _ _ => 7) 2 2 [1, 2, 3] = some [1, 2, 3, 7] := by decide
  have lib : copyLib (fun _ _ => 8) 2 2 [1, 2, 3] = some [1, 2, 3, 8] := by decide
  refine ⟨sys, lib, ?_⟩
  intro copied
  rcases copied with ⟨target, same, _, short⟩
  rw [sys, short] at same
  exact absurd same (by decide)

end OsExercises.RecordSort
