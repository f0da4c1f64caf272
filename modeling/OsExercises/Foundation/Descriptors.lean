import Mathlib.Logic.Function.Basic

/-! # Descriptor tables

The open files of a process by descriptor, and the other way round where no file is
open twice. -/

namespace OsExercises

/-- The open file of each descriptor. -/
def DescriptorTable (File : Type u) := Int → Option File

namespace DescriptorTable

variable {File : Type u}

def close (table : DescriptorTable File) (descriptor : Int) : DescriptorTable File :=
  Function.update table descriptor none

def assign (table : DescriptorTable File) (descriptor : Int) (file : File) :
    DescriptorTable File :=
  Function.update table descriptor (some file)

/-- `dup2(source, target)`; `none` when `source` is not open. -/
def dup2 (table : DescriptorTable File) (source target : Int) : Option (DescriptorTable File) :=
  (table source).map (table.assign target)

variable {table : DescriptorTable File} {descriptor other : Int} {file : File}

@[simp] theorem close_apply :
    table.close descriptor other = if other = descriptor then none else table other :=
  Function.update_apply ..

@[simp] theorem assign_apply :
    table.assign descriptor file other = if other = descriptor then some file else table other :=
  Function.update_apply ..

/-- Closing what is not open does nothing. -/
theorem close_free (free : table descriptor = none) : table.close descriptor = table := by
  funext other
  rw [close_apply]
  split
  · next same => rw [same, free]
  · rfl

theorem dup2_eq {source : Int} (opened : table source = some file) (target : Int) :
    table.dup2 source target = some (table.assign target file) := by
  rw [dup2, opened]
  rfl

/-- Every open file is where `place` says, and nowhere else. -/
def Places (table : DescriptorTable File) (place : File → Option Int) : Prop :=
  ∀ descriptor file, table descriptor = some file ↔ place file = some descriptor

namespace Places

variable {place : File → Option Int} [DecidableEq File]

theorem close (places : table.Places place) (opened : place file = some descriptor) :
    (table.close descriptor).Places (Function.update place file none) := by
  intro other kept
  have named := (places descriptor file).mpr opened
  rw [close_apply, Function.update_apply]
  by_cases sameFile : kept = file
  · subst sameFile
    by_cases same : other = descriptor
    · simp [same]
    · rw [if_neg same, if_pos rfl, places other kept, opened]
      simpa using Ne.symm same
  · by_cases same : other = descriptor
    · subst same
      rw [if_pos rfl, if_neg sameFile, ← places other kept, named]
      simpa using Ne.symm sameFile
    · rw [if_neg same, if_neg sameFile]
      exact places other kept

theorem assign (places : table.Places place) (free : table descriptor = none)
    (closed : place file = none) :
    (table.assign descriptor file).Places (Function.update place file (some descriptor)) := by
  intro other kept
  rw [assign_apply, Function.update_apply]
  by_cases sameFile : kept = file
  · subst sameFile
    by_cases same : other = descriptor
    · simp [same]
    · rw [if_neg same, if_pos rfl, places other kept, closed]
      simpa using Ne.symm same
  · by_cases same : other = descriptor
    · subst same
      rw [if_pos rfl, if_neg sameFile, ← places other kept, free]
      simpa using Ne.symm sameFile
    · rw [if_neg same, if_neg sameFile]
      exact places other kept

end Places

end DescriptorTable

end OsExercises
