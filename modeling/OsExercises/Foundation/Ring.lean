import Mathlib.Logic.Function.Basic
import Mathlib.Data.List.Basic
import Mathlib.Data.Nat.ModEq

/-! # Cyclic storage of a queue

A ring of `size` cells stores a queue from cell `front` on, wrapping around at
the end; the cells after the queue are empty. `front` may be any number: only
its residue matters, so it can count all elements that ever left the queue. -/

namespace OsExercises.Ring

variable {α : Type u}

/-- Cell `front + offset` holds the queue's element at `offset`, and is empty
from the end of the queue on. -/
def Holds (size : Nat) (cells : Nat → Option α) (front : Nat)
    (queue : List α) : Prop :=
  queue.length ≤ size ∧
    ∀ offset, offset < size → cells ((front + offset) % size) = queue[offset]?

variable {size front : Nat} {cells : Nat → Option α} {queue : List α}

theorem holds_nil (empty : ∀ cell, cell < size → cells cell = none)
    (positive : 0 < size) (front : Nat) : Holds size cells front [] := by
  refine ⟨Nat.zero_le _, fun offset _ => ?_⟩
  simpa using empty _ (Nat.mod_lt _ positive)

/-- Two offsets below the size meet in a cell only when they are equal. -/
theorem offset_injective {left right : Nat} (leftBound : left < size)
    (rightBound : right < size)
    (sameCell : (front + left) % size = (front + right) % size) : left = right := by
  have congruent : left % size = right % size :=
    Nat.ModEq.add_left_cancel' front sameCell
  rwa [Nat.mod_eq_of_lt leftBound, Nat.mod_eq_of_lt rightBound] at congruent

/-- Every cell is at some offset from the front. -/
theorem exists_offset {cell : Nat} (bound : cell < size) (front : Nat) :
    ∃ offset, offset < size ∧ (front + offset) % size = cell := by
  have positive : 0 < size := Nat.lt_of_le_of_lt (Nat.zero_le _) bound
  have frontBound : front % size < size := Nat.mod_lt _ positive
  refine ⟨(cell + (size - front % size)) % size, Nat.mod_lt _ positive, ?_⟩
  have regrouped : front % size + (cell + (size - front % size)) = cell + size := by
    omega
  calc (front + (cell + (size - front % size)) % size) % size
      = (front % size + (cell + (size - front % size))) % size := by
        rw [Nat.add_mod_mod, Nat.mod_add_mod]
    _ = (cell + size) % size := by rw [regrouped]
    _ = cell := by rw [Nat.add_mod_right, Nat.mod_eq_of_lt bound]

theorem Holds.front_cell (holds : Holds size cells front queue)
    (positive : 0 < size) : cells (front % size) = queue.head? := by
  have atFront := holds.2 0 positive
  simpa [List.head?_eq_getElem?] using atFront

/-- An empty cell at the back means that there is room. -/
theorem Holds.room (holds : Holds size cells front queue) (positive : 0 < size)
    (empty : cells ((front + queue.length) % size) = none) :
    queue.length < size := by
  rcases Nat.lt_or_eq_of_le holds.1 with room | full
  · exact room
  · -- A full ring has its front element in the cell at the back.
    rw [full, Nat.add_mod_right, holds.front_cell positive] at empty
    have noElements : queue = [] := List.head?_eq_none_iff.mp empty
    simp [noElements] at full
    omega

theorem Holds.push (holds : Holds size cells front queue) (positive : 0 < size)
    (empty : cells ((front + queue.length) % size) = none) (value : α) :
    Holds size
      (Function.update cells ((front + queue.length) % size) (some value))
      front (queue ++ [value]) := by
  have room := holds.room positive empty
  refine ⟨by simp; omega, fun offset bound => ?_⟩
  by_cases atBack : offset = queue.length
  · subst atBack
    simp
  · have otherCell :
        (front + offset) % size ≠ (front + queue.length) % size :=
      fun sameCell => atBack (offset_injective bound room sameCell)
    rw [Function.update_of_ne otherCell, holds.2 offset bound,
      List.getElem?_append]
    split
    · rfl
    · rw [List.getElem?_eq_none (by omega), List.getElem?_eq_none (by simp; omega)]

theorem Holds.pop {value : α} (holds : Holds size cells front (value :: queue))
    (positive : 0 < size) :
    Holds size (Function.update cells (front % size) none) (front + 1) queue := by
  have fits := holds.1
  simp only [List.length_cons] at fits
  refine ⟨by omega, fun offset bound => ?_⟩
  rcases Nat.lt_or_eq_of_le (Nat.succ_le_of_lt bound) with inside | wraps
  · have otherCell : (front + 1 + offset) % size ≠ front % size := by
      intro sameCell
      have sameOffset : (front + (offset + 1)) % size = (front + 0) % size := by
        simpa [Nat.add_assoc, Nat.add_comm 1] using sameCell
      exact absurd (offset_injective inside positive sameOffset) (by omega)
    have shifted := holds.2 (offset + 1) inside
    rw [Function.update_of_ne otherCell]
    rw [show front + 1 + offset = front + (offset + 1) by omega, shifted]
    rfl
  · have frontCell : (front + 1 + offset) % size = front % size := by
      rw [show front + 1 + offset = front + size by omega, Nat.add_mod_right]
    rw [frontCell, Function.update_self, List.getElem?_eq_none (by omega)]

/-- An empty cell at the front means that nothing is stored. -/
theorem Holds.nil_of_front (holds : Holds size cells front queue)
    (positive : 0 < size) (empty : cells (front % size) = none) : queue = [] := by
  rw [holds.front_cell positive] at empty
  exact List.head?_eq_none_iff.mp empty

theorem Holds.empty_of_nil (holds : Holds size cells front []) {cell : Nat}
    (bound : cell < size) : cells cell = none := by
  rcases exists_offset bound front with ⟨offset, offsetBound, atCell⟩
  have atOffset := holds.2 offset offsetBound
  rw [atCell] at atOffset
  simpa using atOffset

/-- Reading all cells from the front gives the queue, then only empty cells. -/
theorem Holds.read_cells (holds : Holds size cells front queue) :
    ((List.range size).map fun offset => cells ((front + offset) % size)) =
      queue.map some ++ List.replicate (size - queue.length) none := by
  apply List.ext_getElem?
  intro offset
  have fits := holds.1
  by_cases bound : offset < size
  · rw [List.getElem?_map, List.getElem?_range bound, Option.map_some,
      holds.2 offset bound, List.getElem?_append]
    simp only [List.length_map]
    split
    · next stored => simp [stored]
    · next beyond =>
        rw [List.getElem?_eq_none (by omega), List.getElem?_replicate,
          if_pos (by omega)]
  · rw [List.getElem?_eq_none (by simpa using bound),
      List.getElem?_eq_none (by simp; omega)]

end OsExercises.Ring
