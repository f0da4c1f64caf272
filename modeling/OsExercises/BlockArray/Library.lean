import Mathlib.Logic.Function.Basic
import OsExercises.Foundation.Text

/-! # The dynamic array of blocks

Blocks live on the heap and the array holds their addresses. `none` is a call
that C leaves undefined: it frees or accesses memory that is not there, or goes
on with an allocation that failed. -/

namespace OsExercises.BlockArray

abbrev Pointer := Nat

/-- The allocated blocks. -/
abbrev Heap := Pointer → Option Text

/-- What the allocator chooses: where a new block is and what the memory of the
block and of a new array cell has in it. -/
structure Allocation where
  pointer : Pointer
  content : Text
  cell : Pointer := 0

/-! ## The standard library -/

def malloc (heap : Heap) (size : Int) (allocation : Allocation) : Option Heap :=
  if heap allocation.pointer = none ∧ (allocation.content.length : Int) = size then
    some (Function.update heap allocation.pointer (some allocation.content))
  else none

def free (heap : Heap) (pointer : Pointer) : Option Heap :=
  match heap pointer with
  | none => none
  | some _ => some (Function.update heap pointer none)

/-- `realloc(ar, count * sizeof(char *))` for a positive `int` count; a negative
one is converted to a size that no allocation has. -/
def realloc (ar : List Pointer) (count : Int) (cell : Pointer) : Option (List Pointer) :=
  if 0 < int32 count then
    some (ar.take (int32 count).toNat ++
      List.replicate ((int32 count).toNat - ar.length) cell)
  else none

def strcpy (target source : Text) : Option Text :=
  if strlen source < target.length then
    some (cString source ++ nul :: target.drop (strlen source + 1))
  else none

/-- `array[i] = value` -/
def store {Cell : Type} (array : List Cell) (i : Nat) (value : Cell) : Option (List Cell) :=
  if i < array.length then some (array.set i value) else none

/-! ## The library -/

/-- The loop `for (; i < bl; i++) fullS[i] = '\0'`, with `bl - i` rounds left. -/
def fillWithNul (fullS : Text) (i : Nat) : Nat → Option Text
  | 0 => some fullS
  | left + 1 => (store fullS i nul).bind fun fullS => fillWithNul fullS (i + 1) left

/-- `tmp = ar[i]; ar[i] = ar[j]; ar[j] = tmp` -/
def exchange (ar : List Pointer) (i j : Nat) : Option (List Pointer) := do
  let tmp ← ar[i]?
  let other ← ar[j]?
  let ar ← store ar i other
  store ar j tmp

/-- The loop `while (pos != n)` of an insertion; at position 0 its access to
`ar[pos - 1]` is out of bounds. -/
def moveDown (n : Int) : Nat → List Pointer → Option (List Pointer)
  | 0, ar => if (0 : Int) = n then some ar else none
  | pos + 1, ar =>
      if ((pos + 1 : Nat) : Int) = n then some ar
      else (exchange ar pos (pos + 1)).bind (moveDown n pos)

/-- The loop `while (pos != al - 1)` of a deletion; `fuel` bounds its rounds. -/
def moveUp (al : Int) : Nat → Nat → List Pointer → Option (List Pointer)
  | 0, _, _ => none
  | fuel + 1, pos, ar =>
      if (pos : Int) = al - 1 then some ar
      else (exchange ar (pos + 1) pos).bind (moveUp al fuel (pos + 1))

/-- The loop of `createArrayDynamic` from cell `i` on. -/
def createBlocks (bl : Int) : Nat → List Allocation → List Pointer → Heap →
    Option (List Pointer × Heap)
  | _, [], ar, heap => some (ar, heap)
  | i, allocation :: allocations, ar, heap => do
      let heap ← malloc heap bl allocation
      let ar ← store ar i allocation.pointer
      createBlocks bl (i + 1) allocations ar heap

/-- `createArrayDynamic(al, bl)`, with an allocation for each of the `al` blocks. -/
def createArrayDynamic (bl : Int) (allocations : List Allocation) :
    Option (List Pointer × Heap) :=
  createBlocks bl 0 allocations (allocations.map Allocation.cell) fun _ => none

def addBlockDynamic (n al bl : Int) (s : Text) (ar : List Pointer) (heap : Heap)
    (allocation : Allocation) : Option (List Pointer × Heap) :=
  if n < 0 ∨ n ≥ al then some (ar, heap)
  -- The comparison converts `bl - 1` to `size_t`.
  else if (strlen s : Int) > (bl - 1) % 2 ^ 64 then some (ar, heap)
  else do
    let ar ← realloc ar (al + 1) allocation.cell
    let heap ← malloc heap bl allocation
    let fullS ← strcpy allocation.content s
    let fullS ← fillWithNul fullS (strlen s) (bl - strlen s).toNat
    let heap := Function.update heap allocation.pointer (some fullS)
    let ar ← store ar al.toNat allocation.pointer
    let ar ← moveDown n al.toNat ar
    some (ar, heap)

def deleteBlockDynamic (n al : Int) (ar : List Pointer) (heap : Heap) :
    Option (List Pointer × Heap) :=
  if n < 0 ∨ n ≥ al then some (ar, heap)
  else do
    let ar ← moveUp al ar.length n.toNat ar
    let last ← ar[(al - 1).toNat]?
    let heap ← free heap last
    let ar ← realloc ar (al - 1) 0
    some (ar, heap)

/-! ## The caller -/

structure State where
  ar : List Pointer
  heap : Heap
  /-- The length that the caller passes. -/
  al : Int

inductive Call
  | add (n : Int) (s : Text) (allocation : Allocation)
  | delete (n : Int)

/-- The call passes the tests at the start of the function. -/
def Call.Accepted (bl al : Int) : Call → Prop
  | .add n s _ => (0 ≤ n ∧ n < al) ∧ (strlen s : Int) ≤ bl - 1
  | .delete n => 0 ≤ n ∧ n < al

instance (bl al : Int) (call : Call) : Decidable (call.Accepted bl al) :=
  match call with
  | .add n s _ => inferInstanceAs (Decidable ((0 ≤ n ∧ n < al) ∧ (strlen s : Int) ≤ bl - 1))
  | .delete n => inferInstanceAs (Decidable (0 ≤ n ∧ n < al))

/-- The length after an accepted call. -/
def Call.lengthAfter (al : Int) : Call → Int
  | .add _ _ _ => al + 1
  | .delete _ => al - 1

def State.performed (bl : Int) (state : State) : Call → Option (List Pointer × Heap)
  | .add n s allocation => addBlockDynamic n state.al bl s state.ar state.heap allocation
  | .delete n => deleteBlockDynamic n state.al state.ar state.heap

/-- A call, after which the caller keeps its count of the blocks up to date. -/
def State.next (bl : Int) (state : State) (call : Call) : Option State :=
  (state.performed bl call).map fun (ar, heap) =>
    { ar := ar
      heap := heap
      al := if call.Accepted bl state.al then call.lengthAfter state.al else state.al }

/-- The array after `createArrayDynamic`. -/
def created (bl : Int) (allocations : List Allocation) : Option State :=
  (createArrayDynamic bl allocations).map fun (ar, heap) =>
    { ar := ar, heap := heap, al := allocations.length }

/-- The calls of a program, one after the other. -/
def State.calls (bl : Int) : State → List Call → Option State
  | state, [] => some state
  | state, call :: calls =>
      (state.next bl call).bind fun following => following.calls bl calls

end OsExercises.BlockArray
