import OsExercises.Foundation.Text

/-! # Buffered output

The standard library collects what a process prints in the memory of the process
and writes it out when the buffer is full, and in line-buffered mode with every
newline. -/

namespace OsExercises

structure Buffering where
  size : Nat
  positive : 0 < size
  /-- Line-buffered, not fully buffered. -/
  lines : Bool

namespace Buffering

variable {buffering : Buffering}

/-- The buffer is written out after the character. -/
def Flushes (buffering : Buffering) (buffer : Text) (character : Char) : Prop :=
  buffering.size ≤ (buffer ++ [character]).length ∨
    (buffering.lines = true ∧ character = '\n')

instance (buffer : Text) (character : Char) :
    Decidable (buffering.Flushes buffer character) :=
  inferInstanceAs (Decidable (_ ∨ _))

/-- What is written out while a text is printed, and what is then in the buffer. -/
def print (buffering : Buffering) : Text → Text → Text × Text
  | buffer, [] => ([], buffer)
  | buffer, character :: text =>
      if buffering.Flushes buffer character then
        let (written, left) := print buffering [] text
        (buffer ++ [character] ++ written, left)
      else print buffering (buffer ++ [character]) text

end Buffering

end OsExercises
