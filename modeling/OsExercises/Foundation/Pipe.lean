import Mathlib.Data.List.Basic

/-! # Pipes

A stream of bytes with several writers and one reader. A write appends all its bytes at once,
a read takes the first bytes that are there. The pipe remembers what was written and what was
read. -/

namespace OsExercises

structure Pipe (Writer : Type u) (Byte : Type v) where
  /-- What has been written, and by whom. -/
  writes : List (Writer × List Byte)
  content : List Byte
  /-- What the reads have returned. -/
  chunks : List (List Byte)
  /-- No byte is lost, added or moved. -/
  intact : chunks.flatten ++ content = writes.flatMap Prod.snd

namespace Pipe

variable {Writer : Type u} {Byte : Type v}

def empty : Pipe Writer Byte := ⟨[], [], [], rfl⟩

@[simps] def write (pipe : Pipe Writer Byte) (writer : Writer) (message : List Byte) :
    Pipe Writer Byte where
  writes := pipe.writes ++ [(writer, message)]
  content := pipe.content ++ message
  chunks := pipe.chunks
  intact := by
    rw [← List.append_assoc, pipe.intact]
    simp

@[simps] def read (pipe : Pipe Writer Byte) (size : Nat) : Pipe Writer Byte where
  writes := pipe.writes
  content := pipe.content.drop size
  chunks := pipe.chunks ++ [pipe.content.take size]
  intact := by
    rw [← pipe.intact]
    simp [List.append_assoc]

@[simp] theorem writes_empty : (empty : Pipe Writer Byte).writes = [] := rfl

@[simp] theorem content_empty : (empty : Pipe Writer Byte).content = [] := rfl

@[simp] theorem chunks_empty : (empty : Pipe Writer Byte).chunks = [] := rfl

/-- The messages of some of the writers. -/
def messages (pipe : Pipe Writer Byte) (among : Writer → Bool) : List (List Byte) :=
  (pipe.writes.filter fun write => among write.1).map Prod.snd

@[simp] theorem messages_read (pipe : Pipe Writer Byte) (size : Nat) (among : Writer → Bool) :
    (pipe.read size).messages among = pipe.messages among := rfl

theorem messages_write (pipe : Pipe Writer Byte) (writer : Writer) (message : List Byte)
    (among : Writer → Bool) :
    (pipe.write writer message).messages among =
      pipe.messages among ++ if among writer then [message] else [] := by
  simp only [messages, write_writes, List.filter_append, List.map_append]
  by_cases chosen : among writer <;> simp [chosen]

/-- When the pipe is empty, everything has been read. -/
theorem flatten_chunks (pipe : Pipe Writer Byte) (drained : pipe.content = []) :
    pipe.chunks.flatten = pipe.writes.flatMap Prod.snd := by
  rw [← pipe.intact, drained, List.append_nil]

theorem messages_congr (pipe : Pipe Writer Byte) {first second : Writer → Bool}
    (same : ∀ write ∈ pipe.writes, first write.1 = second write.1) :
    pipe.messages first = pipe.messages second := by
  rw [messages, messages, List.filter_congr same]

theorem messages_eq_nil_iff (pipe : Pipe Writer Byte) (among : Writer → Bool) :
    pipe.messages among = [] ↔ ∀ write ∈ pipe.writes, among write.1 = false := by
  simp [messages]

theorem flatten_messages_all (pipe : Pipe Writer Byte) (among : Writer → Bool)
    (all : ∀ write ∈ pipe.writes, among write.1 = true) :
    (pipe.messages among).flatten = pipe.writes.flatMap Prod.snd := by
  rw [messages, List.filter_eq_self.mpr all, List.flatMap_def]

end Pipe

end OsExercises
