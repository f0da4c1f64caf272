import Mathlib.Data.List.Basic

/-! # Regular files

A regular file is used through a descriptor or through a stream of the standard
library. Reads are complete up to the end of the file, and writes always are. -/

namespace OsExercises

abbrev Byte := BitVec 8

/-- The content after a write at `offset`; a gap behind the end reads as zeros. -/
def overwritten (content : List Byte) (offset : Nat) (bytes : List Byte) : List Byte :=
  (content ++ List.replicate (offset - content.length) 0).take offset ++ bytes ++
    content.drop (offset + bytes.length)

/-- What a program does with an open file; `none` is a use that is left undefined.
A read gives the bytes that are there, at most as many as were asked for. -/
structure FileInterface (File : Type u) where
  seekTo : File → Int → File
  seekBy : File → Int → File
  read : File → Nat → Option (List Byte × File)
  write : File → List Byte → Option File

/-- What was done last with an open file. -/
inductive LastUse
  | positioned
  | reading
  | writing

/-- `At file use content offset` says what an open file is at; positioning, complete
reads and overwriting do to content and offset what they should. -/
structure FileInterface.Lawful {File : Type u} (interface : FileInterface File)
    (At : File → LastUse → List Byte → Nat → Prop) : Prop where
  seekTo : ∀ {file use content offset} (target : Nat), At file use content offset →
    At (interface.seekTo file target) .positioned content target
  seekBack : ∀ {file use content offset}, At file use content (offset + 1) →
    At (interface.seekBy file (-1)) .positioned content offset
  read : ∀ {file use front bytes back}, At file use (front ++ (bytes ++ back)) front.length →
    use ≠ .writing →
    ∃ following, interface.read file bytes.length = some (bytes, following) ∧
      At following .reading (front ++ (bytes ++ back)) (front.length + bytes.length)
  write : ∀ {file use front bytes back} (new : List Byte),
    At file use (front ++ (bytes ++ back)) front.length → use ≠ .reading →
    new.length = bytes.length →
    ∃ following, interface.write file new = some following ∧
      At following .writing (front ++ (new ++ back)) (front.length + new.length)

/-- Reads give what is left of a file, and writes at its end make it longer. -/
structure FileInterface.Sequential {File : Type u} (interface : FileInterface File)
    (At : File → LastUse → List Byte → Nat → Prop) : Prop where
  readNext : ∀ {file use front back} (count : Nat), At file use (front ++ back) front.length →
    use ≠ .writing →
    ∃ following, interface.read file count = some (back.take count, following) ∧
      At following .reading (front ++ back) (front.length + (back.take count).length)
  append : ∀ {file use content} (new : List Byte), At file use content content.length →
    use ≠ .reading →
    ∃ following, interface.write file new = some following ∧
      At following .writing (content ++ new) (content ++ new).length

theorem overwritten_end (content new : List Byte) :
    overwritten content content.length new = content ++ new := by
  rw [overwritten, Nat.sub_self, List.replicate_zero, List.append_nil, List.take_length,
    List.drop_eq_nil_of_le (Nat.le_add_right _ _), List.append_nil]

theorem overwritten_append {front bytes back new : List Byte}
    (length : new.length = bytes.length) :
    overwritten (front ++ (bytes ++ back)) front.length new = front ++ (new ++ back) := by
  have noGap : front.length - (front ++ (bytes ++ back)).length = 0 := by simp
  rw [overwritten, noGap, length, List.replicate_zero, List.append_nil, List.take_left,
    ← List.append_assoc front bytes, ← List.length_append, List.drop_left, List.append_assoc]

theorem read_append (front bytes back : List Byte) :
    ((front ++ (bytes ++ back)).drop front.length).take bytes.length = bytes := by
  rw [List.drop_left, List.take_left]

/-! ## System calls -/

structure FileDescriptor where
  content : List Byte
  offset : Nat

namespace FileDescriptor

/-- A negative target is an error that leaves the offset. -/
def lseek (file : FileDescriptor) (target : Int) : FileDescriptor :=
  if 0 ≤ target then { file with offset := target.toNat } else file

def read (file : FileDescriptor) (count : Nat) : List Byte × FileDescriptor :=
  let bytes := (file.content.drop file.offset).take count
  (bytes, { file with offset := file.offset + bytes.length })

def write (file : FileDescriptor) (bytes : List Byte) : FileDescriptor :=
  { content := overwritten file.content file.offset bytes
    offset := file.offset + bytes.length }

def interface : FileInterface FileDescriptor where
  seekTo := lseek
  seekBy := fun file distance => file.lseek (file.offset + distance)
  read := fun file count => some (file.read count)
  write := fun file bytes => some (file.write bytes)

def At (file : FileDescriptor) (_ : LastUse) (content : List Byte) (offset : Nat) : Prop :=
  file = { content := content, offset := offset }

theorem interface_lawful : interface.Lawful At where
  seekTo := by
    intro file use content offset target atOffset
    subst atOffset
    simp [interface, lseek, At]
  seekBack := by
    intro file use content offset atOffset
    subst atOffset
    have back : ((offset + 1 : Nat) : Int) + -1 = offset := by omega
    simp only [interface, At, back]
    simp [lseek]
  read := by
    intro file use front bytes back atOffset _
    subst atOffset
    refine ⟨{ content := front ++ (bytes ++ back), offset := front.length + bytes.length }, ?_, rfl⟩
    simp only [interface, read, read_append]
  write := by
    intro file use front bytes back new atOffset _ length
    subst atOffset
    refine ⟨{ content := front ++ (new ++ back), offset := front.length + new.length }, ?_, rfl⟩
    simp only [interface, write, overwritten_append length]

theorem interface_sequential : interface.Sequential At where
  readNext := by
    intro file use front back count atOffset _
    subst atOffset
    refine ⟨_, ?_, rfl⟩
    simp only [interface, read, List.drop_left]
  append := by
    intro file use content new atOffset _
    subst atOffset
    refine ⟨_, ?_, rfl⟩
    simp only [interface, write, overwritten_end, List.length_append]

end FileDescriptor

/-! ## Streams -/

/-- A stream as the program sees it; `fclose` leaves its content in the file. -/
structure FileStream where
  content : List Byte
  position : Nat
  lastUse : LastUse

namespace FileStream

def fseek (stream : FileStream) (target : Int) : FileStream :=
  if 0 ≤ target then { stream with position := target.toNat, lastUse := .positioned }
  else stream

/-- Input must not follow output without positioning. -/
def fread (stream : FileStream) (count : Nat) : Option (List Byte × FileStream) :=
  match stream.lastUse with
  | .writing => none
  | _ =>
      let bytes := (stream.content.drop stream.position).take count
      some (bytes,
        { stream with position := stream.position + bytes.length, lastUse := .reading })

/-- Output must not follow input without positioning. -/
def fwrite (stream : FileStream) (bytes : List Byte) : Option FileStream :=
  match stream.lastUse with
  | .reading => none
  | _ =>
      some { content := overwritten stream.content stream.position bytes
             position := stream.position + bytes.length
             lastUse := .writing }

def interface : FileInterface FileStream where
  seekTo := fseek
  seekBy := fun stream distance => stream.fseek (stream.position + distance)
  read := fread
  write := fwrite

def At (stream : FileStream) (use : LastUse) (content : List Byte) (position : Nat) : Prop :=
  stream = { content := content, position := position, lastUse := use }

theorem interface_lawful : interface.Lawful At where
  seekTo := by
    intro stream use content position target atPosition
    subst atPosition
    simp [interface, fseek, At]
  seekBack := by
    intro stream use content position atPosition
    subst atPosition
    have back : ((position + 1 : Nat) : Int) + -1 = position := by omega
    simp only [interface, At, back]
    simp [fseek]
  read := by
    intro stream use front bytes back atPosition notWriting
    subst atPosition
    refine ⟨{ content := front ++ (bytes ++ back), position := front.length + bytes.length,
              lastUse := .reading }, ?_, rfl⟩
    cases use with
    | writing => exact absurd rfl notWriting
    | positioned => simp only [interface, fread, read_append]
    | reading => simp only [interface, fread, read_append]
  write := by
    intro stream use front bytes back new atPosition notReading length
    subst atPosition
    refine ⟨{ content := front ++ (new ++ back), position := front.length + new.length,
              lastUse := .writing }, ?_, rfl⟩
    cases use with
    | reading => exact absurd rfl notReading
    | positioned => simp only [interface, fwrite, overwritten_append length]
    | writing => simp only [interface, fwrite, overwritten_append length]

theorem interface_sequential : interface.Sequential At where
  readNext := by
    intro stream use front back count atPosition notWriting
    subst atPosition
    refine ⟨_, ?_, rfl⟩
    cases use with
    | writing => exact absurd rfl notWriting
    | positioned => simp only [interface, fread, List.drop_left]
    | reading => simp only [interface, fread, List.drop_left]
  append := by
    intro stream use content new atPosition notReading
    subst atPosition
    refine ⟨_, ?_, rfl⟩
    cases use with
    | reading => exact absurd rfl notReading
    | positioned => simp only [interface, fwrite, overwritten_end, List.length_append]
    | writing => simp only [interface, fwrite, overwritten_end, List.length_append]

end FileStream

end OsExercises
