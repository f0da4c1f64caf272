import OsExercises.Foundation.Files
import OsExercises.Foundation.Text

/-! # Sorting records in place

Both variants of the program sort the first `NoR` records of `SoR` bytes by
their first byte; they differ only in how they use the file. The results of the
reads are tested only for messages, so where the file ends early the program goes
on with memory that was never set. -/

namespace OsExercises.RecordSort

/-- What the memory that is never set has in it: the variables `a` and `b` in the
round for `i`, and the buffers `A` and `B` of the exchange at `j` in that round. -/
structure Unset where
  a : Int → Byte
  b : Int → Byte
  A : Int → Int → Nat → Byte
  B : Int → Int → Nat → Byte

/-- `a < b` for two values of type `char`, which is signed. -/
def charLess (a b : Byte) : Prop :=
  a.toInt < b.toInt

instance (a b : Byte) : Decidable (charLess a b) :=
  inferInstanceAs (Decidable (a.toInt < b.toInt))

section Program

variable {File : Type u} (interface : FileInterface File)

/-- Read one `char` into a variable. -/
def readChar (stale : Byte) (file : File) : Option (Byte × File) :=
  (interface.read file 1).map fun (bytes, file) => (bytes.headD stale, file)

/-- Read into a new buffer of `count` bytes. -/
def readBuffer (count : Nat) (unset : Nat → Byte) (file : File) : Option (List Byte × File) :=
  (interface.read file count).map fun (bytes, file) =>
    (bytes ++ (List.range' bytes.length (count - bytes.length)).map unset, file)

/-- Exchange the two records at the offset, which is at `j - SoR`. -/
def swapRecords (unset : Unset) (i SoR j : Int) (file : File) : Option File := do
  let (B, file) ← readBuffer interface SoR.toNat (unset.B i j) file
  let (A, file) ← readBuffer interface SoR.toNat (unset.A i j) file
  let file := interface.seekTo file (j - SoR)
  let file ← interface.write file A
  interface.write file B

/-- Read the `char` at the offset `target` and go back to it. -/
def peekChar (target : Int) (b : Byte) (file : File) : Option (Byte × File) := do
  let (b, file) ← readChar interface b (interface.seekTo file target)
  some (b, interface.seekBy file (-1))

/-- The loop `while (a < b && j >= 2 * SoR)`; `fuel` bounds its rounds. -/
def moveRecord (unset : Unset) (i SoR : Int) (a : Byte) :
    Nat → Byte → Int → File → Option (Byte × Int × File)
  | 0, _, _, _ => none
  | fuel + 1, b, j, file =>
      if charLess a b ∧ j ≥ int32 (2 * SoR) then do
        let file ← swapRecords interface unset i SoR j file
        let j := j - SoR
        let (b, file) ← peekChar interface (j - SoR) b file
        moveRecord unset i SoR a fuel b j file
      else some (b, j, file)

/-- The loop and the exchange with the first record behind it. -/
def placeRecord (unset : Unset) (i SoR : Int) (a : Byte) (fuel : Nat) (b : Byte) (j : Int)
    (file : File) : Option File := do
  let (b, j, file) ← moveRecord interface unset i SoR a fuel b j file
  if charLess a b then swapRecords interface unset i SoR j file else some file

/-- The loop `for (; i < NoR * SoR; i += SoR)`; `fuel` bounds its rounds. -/
def sortFrom (unset : Unset) (NoR SoR : Int) : Nat → Int → File → Option File
  | 0, _, _ => none
  | fuel + 1, i, file =>
      if i < int32 (NoR * SoR) then do
        let (a, file) ← readChar interface (unset.a i) (interface.seekTo file i)
        let (b, file) ← peekChar interface (i - SoR) (unset.b i) file
        let file ← placeRecord interface unset i SoR a NoR.toNat b i file
        sortFrom unset NoR SoR fuel (int32 (i + SoR)) file
      else some file

/-- The sorting part of `main`. -/
def sort (unset : Unset) (NoR SoR : Int) (file : File) : Option File :=
  sortFrom interface unset NoR SoR (NoR.toNat + 1) SoR file

end Program

/-- The file after `sort … sys`. -/
def sortSys (unset : Unset) (NoR SoR : Int) (content : List Byte) : Option (List Byte) :=
  (sort FileDescriptor.interface unset NoR SoR { content := content, offset := 0 }).map
    FileDescriptor.content

/-- The file after `sort … lib`. -/
def sortLib (unset : Unset) (NoR SoR : Int) (content : List Byte) : Option (List Byte) :=
  (sort FileStream.interface unset NoR SoR
    { content := content, position := 0, lastUse := .positioned }).map FileStream.content

end OsExercises.RecordSort
