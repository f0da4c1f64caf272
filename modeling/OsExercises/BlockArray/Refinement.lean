import Mathlib.Data.List.InsertIdx
import Mathlib.Data.List.Nodup
import OsExercises.BlockArray.Library

/-! # The dynamic array of blocks is a list

An accepted insertion or deletion carries one pointer through the array by
exchanges of neighbours, so the other pointers keep their order. -/

namespace OsExercises.BlockArray

/-! ## The loops -/

@[simp] theorem store_cons {Cell : Type} (first : Cell) (array : List Cell) (i : Nat)
    (value : Cell) :
    store (first :: array) (i + 1) value = (store array i value).map (first :: ·) := by
  simp only [store, List.length_cons, Nat.add_lt_add_iff_right, List.set_cons_succ]
  split <;> rfl

theorem length_store {Cell : Type} {array after : List Cell} {i : Nat} {value : Cell}
    (stored : store array i value = some after) : after.length = array.length := by
  unfold store at stored
  split at stored
  · cases stored
    exact List.length_set
  · cases stored

theorem exchange_cons (first : Pointer) (ar : List Pointer) (i j : Nat) :
    exchange (first :: ar) (i + 1) (j + 1) = (exchange ar i j).map (first :: ·) := by
  unfold exchange
  cases tmp : ar[i]? with
  | none => simp [tmp]
  | some value =>
      cases other : ar[j]? with
      | none => simp [tmp, other]
      | some otherValue => cases stored : store ar i otherValue <;> simp [tmp, other, stored]

theorem exchange_down {pointer : Pointer} {others : List Pointer} {k : Nat}
    (inside : k < others.length) :
    exchange (others.insertIdx (k + 1) pointer) k (k + 1) = some (others.insertIdx k pointer) := by
  induction others generalizing k with
  | nil => cases inside
  | cons first others induction =>
      cases k with
      | zero => simp [exchange, store]
      | succ k =>
          simp only [List.insertIdx_succ_cons, exchange_cons]
          rw [induction (Nat.lt_of_succ_lt_succ inside)]
          rfl

theorem exchange_up {pointer : Pointer} {others : List Pointer} {k : Nat}
    (inside : k < others.length) :
    exchange (others.insertIdx k pointer) (k + 1) k = some (others.insertIdx (k + 1) pointer) := by
  induction others generalizing k with
  | nil => cases inside
  | cons first others induction =>
      cases k with
      | zero => simp [exchange, store]
      | succ k =>
          simp only [List.insertIdx_succ_cons, exchange_cons]
          rw [induction (Nat.lt_of_succ_lt_succ inside)]
          rfl

/-- A pointer moves down to its position; the others keep their order. -/
theorem moveDown_insertIdx {pointer : Pointer} {others : List Pointer} {n pos : Nat}
    (above : n ≤ pos) (inside : pos ≤ others.length) :
    moveDown n pos (others.insertIdx pos pointer) = some (others.insertIdx n pointer) := by
  induction pos with
  | zero =>
      have same : n = 0 := Nat.le_zero.mp above
      subst same
      rfl
  | succ pos induction =>
      rw [moveDown]
      split
      · next arrived =>
          have same : pos + 1 = n := Int.ofNat_inj.mp arrived
          rw [same]
      · next elsewhere =>
          have further : n ≤ pos := by omega
          rw [exchange_down inside, Option.bind_some, induction further (Nat.le_of_succ_le inside)]

/-- A pointer moves up to the last position. -/
theorem moveUp_insertIdx {pointer : Pointer} {others : List Pointer} {fuel pos : Nat}
    (inside : pos ≤ others.length) (enough : others.length < fuel + pos) :
    moveUp (others.length + 1) fuel pos (others.insertIdx pos pointer) =
      some (others ++ [pointer]) := by
  induction fuel generalizing pos with
  | zero => omega
  | succ fuel induction =>
      rw [moveUp]
      split
      · next arrived =>
          have last : pos = others.length := by omega
          rw [last, List.insertIdx_length_self]
      · next elsewhere =>
          have further : pos < others.length := by omega
          rw [exchange_up further, Option.bind_some]
          exact induction further (by omega)

/-- A block with a string, filled up with NULs. -/
def padded (bl : Int) (s : Text) : Text :=
  cString s ++ List.replicate (bl.toNat - strlen s) nul

theorem length_padded {bl : Int} {s : Text} (fits : (strlen s : Int) ≤ bl) :
    (padded bl s).length = bl.toNat := by
  have copied : (cString s).length = strlen s := rfl
  rw [padded, List.length_append, List.length_replicate, copied]
  omega

/-- With room for a NUL the block reads as the string. -/
theorem cString_padded {bl : Int} {s : Text} (short : (strlen s : Int) < bl) :
    nul ∈ padded bl s ∧ cString (padded bl s) = cString s := by
  have room : bl.toNat - strlen s = (bl.toNat - strlen s - 1) + 1 := by omega
  rw [padded, room, List.replicate_succ]
  refine ⟨by simp, ?_⟩
  exact cString_append_nul (nul_not_mem_cString s) _

theorem fillWithNul_replicate (front back : Text) :
    fillWithNul (front ++ back) front.length back.length =
      some (front ++ List.replicate back.length nul) := by
  induction back generalizing front with
  | nil => rfl
  | cons letter back induction =>
      have stored : store (front ++ letter :: back) front.length nul =
          some ((front ++ [nul]) ++ back) := by
        simp [store]
      have later := induction (front ++ [nul])
      simp only [List.length_append, List.length_singleton] at later
      rw [List.length_cons, fillWithNul, stored, Option.bind_some, later, List.replicate_succ]
      simp

/-- Copying a string that fits and filling up leaves nothing of the old content. -/
theorem strcpy_fillWithNul {content s : Text} {bl : Int} (size : (content.length : Int) = bl)
    (fits : (strlen s : Int) ≤ bl - 1) :
    ((strcpy content s).bind fun fullS =>
      fillWithNul fullS (strlen s) (bl - strlen s).toNat) = some (padded bl s) := by
  have room : strlen s < content.length := by omega
  have rounds : (bl - strlen s).toNat = (nul :: content.drop (strlen s + 1)).length := by
    simp only [List.length_cons, List.length_drop]
    omega
  have amount : bl.toNat - strlen s = (nul :: content.drop (strlen s + 1)).length := by
    rw [← rounds]
    omega
  rw [strcpy, if_pos room, Option.bind_some, rounds, padded, amount]
  exact fillWithNul_replicate (cString s) (nul :: content.drop (strlen s + 1))

/-! ## The functions -/

theorem malloc_eq_some {heap following : Heap} {size : Int} {allocation : Allocation}
    (allocated : malloc heap size allocation = some following) :
    heap allocation.pointer = none ∧ (allocation.content.length : Int) = size ∧
      following = Function.update heap allocation.pointer (some allocation.content) := by
  unfold malloc at allocated
  split at allocated
  · next possible => exact ⟨possible.1, possible.2, (Option.some.inj allocated).symm⟩
  · cases allocated

theorem realloc_longer {ar : List Pointer} {cell : Pointer} (int : (ar.length : Int) + 1 < 2 ^ 31) :
    realloc ar (ar.length + 1) cell = some (ar ++ [cell]) := by
  have count : int32 ((ar.length : Int) + 1) = ar.length + 1 := int32_of_bounds (by omega) int
  have added : ar.length + 1 - ar.length = 1 := by omega
  rw [realloc, count, if_pos (by omega), Int.toNat_natCast_add_one, added,
    List.take_of_length_le (Nat.le_succ _)]
  rfl

/-- An `int` count that cannot be reached wraps to a negative one. -/
theorem realloc_longer_isSome {ar : List Pointer} {cell : Pointer} {al : Int}
    (positive : 1 ≤ al) (int : al < 2 ^ 31) (succeeds : (realloc ar (al + 1) cell).isSome) :
    al + 1 < 2 ^ 31 := by
  by_contra reached
  have last : al + 1 = 2 ^ 31 := by omega
  have wrapped : ¬0 < int32 (2 ^ 31) := by decide
  rw [realloc, last, if_neg wrapped] at succeeds
  cases succeeds

theorem realloc_shorter {others : List Pointer} {pointer cell : Pointer} (nonempty : others ≠ [])
    (int : (others.length : Int) < 2 ^ 31) :
    realloc (others ++ [pointer]) others.length cell = some others := by
  have count : int32 (others.length : Int) = others.length := int32_of_bounds (by omega) int
  have some : 0 < others.length := List.length_pos_iff.mpr nonempty
  have removed : others.length - (others ++ [pointer]).length = 0 := by simp
  rw [realloc, count, if_pos (by omega), Int.toNat_natCast, removed, List.take_left]
  simp

theorem addBlockDynamic_accepted {n bl : Int} {s : Text} {ar : List Pointer} {heap : Heap}
    {allocation : Allocation} (blockLength : 1 ≤ bl) (blockInt : bl < 2 ^ 31)
    (inside : 0 ≤ n ∧ n < ar.length) (fits : (strlen s : Int) ≤ bl - 1)
    (int : (ar.length : Int) + 1 < 2 ^ 31)
    (allocated : (malloc heap bl allocation).isSome) :
    addBlockDynamic n ar.length bl s ar heap allocation =
      some (ar.insertIdx n.toNat allocation.pointer,
        Function.update heap allocation.pointer (some (padded bl s))) := by
  rcases Option.isSome_iff_exists.mp allocated with ⟨heap', mallocTaken⟩
  rcases malloc_eq_some mallocTaken with ⟨_, size, rfl⟩
  have index : ¬(n < 0 ∨ n ≥ ar.length) := by omega
  have short : ¬((strlen s : Int) > (bl - 1) % 2 ^ 64) := by omega
  have copied := strcpy_fillWithNul size fits
  rcases Option.bind_eq_some_iff.mp copied with ⟨text, textCopied, filled⟩
  have stored : store (ar ++ [allocation.cell]) ar.length allocation.pointer =
      some (ar.insertIdx ar.length allocation.pointer) := by
    simp [store, List.insertIdx_length_self]
  have position : (n.toNat : Int) = n := Int.toNat_of_nonneg inside.1
  have below : n.toNat ≤ ar.length := by omega
  have moved := @moveDown_insertIdx allocation.pointer ar n.toNat ar.length below le_rfl
  rw [position] at moved
  rw [addBlockDynamic, if_neg index, if_neg short]
  simp only [Option.bind_eq_bind, realloc_longer int, mallocTaken, textCopied, filled,
    Option.bind_some, Int.toNat_natCast, stored, moved, Function.update_idem]

theorem deleteBlockDynamic_accepted {n : Int} {ar : List Pointer} {heap : Heap}
    {pointer : Pointer} (longer : 2 ≤ ar.length) (int : (ar.length : Int) < 2 ^ 31)
    (notNegative : 0 ≤ n) (found : ar[n.toNat]? = some pointer)
    (allocated : (heap pointer).isSome) :
    deleteBlockDynamic n ar.length ar heap =
      some (ar.eraseIdx n.toNat, Function.update heap pointer none) := by
  rcases List.getElem?_eq_some_iff.mp found with ⟨inside, atPlace⟩
  have index : ¬(n < 0 ∨ n ≥ ar.length) := by omega
  have shorter : (ar.eraseIdx n.toNat).length + 1 = ar.length := by
    rw [List.length_eraseIdx_of_lt inside]
    omega
  have whole : (ar.eraseIdx n.toNat).insertIdx n.toNat pointer = ar := by
    rw [← atPlace]
    exact List.insertIdx_eraseIdx_getElem inside
  have moved : moveUp ar.length ar.length n.toNat ar = some (ar.eraseIdx n.toNat ++ [pointer]) := by
    have step := @moveUp_insertIdx pointer (ar.eraseIdx n.toNat) ar.length n.toNat
      (by omega) (by omega)
    rw [whole] at step
    rw [← step, ← shorter]
    push_cast
    rfl
  have last : ((ar.length : Int) - 1) = (ar.eraseIdx n.toNat).length := by omega
  have nonempty : ar.eraseIdx n.toNat ≠ [] := by
    intro empty
    rw [empty, List.length_nil] at shorter
    omega
  have freed : free heap pointer = some (Function.update heap pointer none) := by
    rcases Option.isSome_iff_exists.mp allocated with ⟨block, present⟩
    rw [free, present]
  have rest := @realloc_shorter (ar.eraseIdx n.toNat) pointer 0 nonempty (by omega)
  rw [deleteBlockDynamic, if_neg index]
  simp only [Option.bind_eq_bind, moved, Option.bind_some, last, Int.toNat_natCast,
    List.getElem?_concat_length, freed, rest]

/-! ## Runs of calls -/

/-- The blocks in the order of the array. -/
def State.contents (state : State) : List Text :=
  state.ar.map fun pointer => (state.heap pointer).getD []

/-- What a call does to the list of blocks. -/
def Call.applied (bl : Int) (blocks : List Text) (call : Call) : List Text :=
  if call.Accepted bl blocks.length then
    match call with
    | .add n s _ => blocks.insertIdx n.toNat (padded bl s)
    | .delete n => blocks.eraseIdx n.toNat
  else blocks

/-- The allocations of an accepted call succeed, and a block remains. -/
def State.Succeeds (bl : Int) (state : State) (call : Call) : Prop :=
  call.Accepted bl state.al →
    match call with
    | .add _ _ allocation =>
        (realloc state.ar (state.al + 1) allocation.cell).isSome ∧
          (malloc state.heap bl allocation).isSome
    | .delete _ => 1 ≤ state.al - 1

def State.AllSucceed (bl : Int) : State → List Call → Prop
  | _, [] => True
  | state, call :: calls =>
      state.Succeeds bl call ∧
        ∀ following, state.next bl call = some following → following.AllSucceed bl calls

/-- Every allocated block has its one place in the array. -/
structure State.Owned (state : State) : Prop where
  length : state.al = state.ar.length
  distinct : state.ar.Nodup
  owned : ∀ pointer, (state.heap pointer).isSome ↔ pointer ∈ state.ar

structure State.Sound (state : State) : Prop extends state.Owned where
  positive : 1 ≤ state.al
  int : state.al < 2 ^ 31

theorem addBlockDynamic_rejected {n al bl : Int} {s : Text} {ar : List Pointer} {heap : Heap}
    {allocation : Allocation} (blockLength : 1 ≤ bl) (blockInt : bl < 2 ^ 31)
    (rejected : ¬((0 ≤ n ∧ n < al) ∧ (strlen s : Int) ≤ bl - 1)) :
    addBlockDynamic n al bl s ar heap allocation = some (ar, heap) := by
  unfold addBlockDynamic
  split
  · rfl
  · next inside =>
      have long : (strlen s : Int) > (bl - 1) % 2 ^ 64 := by omega
      rw [if_pos long]

theorem deleteBlockDynamic_rejected {n al : Int} {ar : List Pointer} {heap : Heap}
    (rejected : ¬(0 ≤ n ∧ n < al)) :
    deleteBlockDynamic n al ar heap = some (ar, heap) := by
  have outside : n < 0 ∨ n ≥ al := by omega
  rw [deleteBlockDynamic, if_pos outside]

/-- A call that is not accepted changes nothing. -/
theorem next_rejected {bl : Int} {state : State} {call : Call} (blockLength : 1 ≤ bl)
    (blockInt : bl < 2 ^ 31) (rejected : ¬call.Accepted bl state.al) :
    state.next bl call = some state := by
  have unchanged : state.performed bl call = some (state.ar, state.heap) := by
    cases call with
    | add n s allocation => exact addBlockDynamic_rejected blockLength blockInt rejected
    | delete n => exact deleteBlockDynamic_rejected rejected
  rw [State.next, unchanged, Option.map_some, if_neg rejected]

/-- An accepted insertion puts a block of its own before position `n`. -/
theorem next_add {bl n : Int} {s : Text} {allocation : Allocation} {state : State}
    (blockLength : 1 ≤ bl) (blockInt : bl < 2 ^ 31) (sound : state.Sound)
    (accepted : (Call.add n s allocation).Accepted bl state.al)
    (succeeds : state.Succeeds bl (.add n s allocation)) :
    ∃ following, state.next bl (.add n s allocation) = some following ∧ following.Sound ∧
      following.contents = state.contents.insertIdx n.toNat (padded bl s) := by
  rcases succeeds accepted with ⟨grown, allocated⟩
  have int := realloc_longer_isSome sound.positive sound.int grown
  rcases Option.isSome_iff_exists.mp allocated with ⟨_, mallocTaken⟩
  have unallocated := (malloc_eq_some mallocTaken).1
  have absent : allocation.pointer ∉ state.ar := by
    rw [← sound.owned, unallocated]
    simp
  have place : n.toNat ≤ state.ar.length := by
    have inside := accepted.1
    rw [sound.length] at inside
    omega
  have added := @addBlockDynamic_accepted n bl s state.ar state.heap allocation blockLength
    blockInt (sound.length ▸ accepted.1) accepted.2 (sound.length ▸ int) allocated
  have taken : state.next bl (.add n s allocation) =
      some { ar := state.ar.insertIdx n.toNat allocation.pointer,
             heap := Function.update state.heap allocation.pointer (some (padded bl s)),
             al := state.al + 1 } := by
    rw [← sound.length] at added
    rw [State.next, if_pos accepted, State.performed, added]
    rfl
  refine ⟨_, taken, ⟨⟨?_, ?_, ?_⟩, ?_, int⟩, ?_⟩
  · simp only [List.length_insertIdx_of_le_length place, sound.length]
    push_cast
    rfl
  · exact (List.perm_insertIdx allocation.pointer state.ar place).nodup_iff.mpr
      (List.nodup_cons.mpr ⟨absent, sound.distinct⟩)
  · intro pointer
    by_cases new : pointer = allocation.pointer
    · simp [new, List.mem_insertIdx place]
    · simp [new, List.mem_insertIdx place, sound.owned]
  · have positive := sound.positive
    show 1 ≤ state.al + 1
    omega
  · have kept : state.ar.map (fun pointer => (Function.update state.heap allocation.pointer
        (some (padded bl s)) pointer).getD []) = state.contents := by
      apply List.map_congr_left
      intro pointer member
      have other : pointer ≠ allocation.pointer := fun same => absent (same ▸ member)
      rw [Function.update_of_ne other]
    simp only [State.contents, List.map_insertIdx] at kept ⊢
    rw [kept, Function.update_self]
    rfl

/-- An accepted deletion frees the block at position `n`, and only this one. -/
theorem next_delete {bl n : Int} {state : State} (sound : state.Sound)
    (accepted : (Call.delete n).Accepted bl state.al)
    (succeeds : state.Succeeds bl (.delete n)) :
    ∃ following, state.next bl (.delete n) = some following ∧ following.Sound ∧
      following.contents = state.contents.eraseIdx n.toNat := by
  have longer : 1 ≤ state.al - 1 := succeeds accepted
  have length := sound.length
  have int := sound.int
  have inside : n.toNat < state.ar.length := by
    have bounds : 0 ≤ n ∧ n < state.al := accepted
    omega
  have found : state.ar[n.toNat]? = some state.ar[n.toNat] := List.getElem?_eq_getElem inside
  have owned : (state.heap state.ar[n.toNat]).isSome :=
    (sound.owned _).mpr (List.getElem_mem inside)
  have deleted := deleteBlockDynamic_accepted (by omega) (by omega) accepted.1 found owned
  have taken : state.next bl (.delete n) =
      some { ar := state.ar.eraseIdx n.toNat,
             heap := Function.update state.heap state.ar[n.toNat] none,
             al := state.al - 1 } := by
    rw [← length] at deleted
    rw [State.next, if_pos accepted, State.performed, deleted]
    rfl
  have place : n.toNat ≤ (state.ar.eraseIdx n.toNat).length := by
    rw [List.length_eraseIdx_of_lt inside]
    omega
  have split := List.perm_insertIdx state.ar[n.toNat] (state.ar.eraseIdx n.toNat) place
  rw [List.insertIdx_eraseIdx_getElem inside] at split
  rcases List.nodup_cons.mp (split.nodup_iff.mp sound.distinct) with ⟨absent, distinct⟩
  refine ⟨_, taken, ⟨⟨?_, distinct, ?_⟩, longer, ?_⟩, ?_⟩
  · simp only [List.length_eraseIdx_of_lt inside]
    omega
  · intro pointer
    by_cases old : pointer = state.ar[n.toNat]
    · simp [old, absent]
    · simp [old, sound.owned, split.mem_iff]
  · show state.al - 1 < 2 ^ 31
    omega
  · have kept : (state.ar.eraseIdx n.toNat).map (fun pointer => (Function.update state.heap
        state.ar[n.toNat] none pointer).getD []) =
        (state.ar.eraseIdx n.toNat).map fun pointer => (state.heap pointer).getD [] := by
      apply List.map_congr_left
      intro pointer member
      have other : pointer ≠ state.ar[n.toNat] := fun same => absent (same ▸ member)
      rw [Function.update_of_ne other]
    simp only [State.contents, List.eraseIdx_map] at kept ⊢
    exact kept

/-- Every call whose allocations succeed is defined and does what the list does. -/
theorem next_sound {bl : Int} {state : State} {call : Call} (blockLength : 1 ≤ bl)
    (blockInt : bl < 2 ^ 31) (sound : state.Sound) (succeeds : state.Succeeds bl call) :
    ∃ following, state.next bl call = some following ∧ following.Sound ∧
      following.contents = call.applied bl state.contents := by
  have blocks : (state.contents.length : Int) = state.al := by
    rw [State.contents, List.length_map, sound.length]
  unfold Call.applied
  rw [blocks]
  by_cases accepted : call.Accepted bl state.al
  · rw [if_pos accepted]
    cases call with
    | add n s allocation => exact next_add blockLength blockInt sound accepted succeeds
    | delete n => exact next_delete sound accepted succeeds
  · rw [if_neg accepted]
    exact ⟨state, next_rejected blockLength blockInt accepted, sound, rfl⟩

theorem calls_sound {bl : Int} {state : State} {calls : List Call} (blockLength : 1 ≤ bl)
    (blockInt : bl < 2 ^ 31) (sound : state.Sound) (succeed : state.AllSucceed bl calls) :
    ∃ final, state.calls bl calls = some final ∧ final.Sound ∧
      final.contents = calls.foldl (Call.applied bl) state.contents := by
  induction calls generalizing state with
  | nil => exact ⟨state, rfl, sound, rfl⟩
  | cons call calls induction =>
      rcases next_sound blockLength blockInt sound succeed.1 with
        ⟨following, taken, followingSound, contents⟩
      rcases induction followingSound (succeed.2 following taken) with
        ⟨final, rest, finalSound, finalContents⟩
      refine ⟨final, ?_, finalSound, ?_⟩
      · rw [State.calls, taken]
        exact rest
      · rw [List.foldl_cons, ← contents]
        exact finalContents

/-! ## The array from its creation on -/

theorem createBlocks_owned {bl : Int} {allocations : List Allocation} {ar ar' cells : List Pointer}
    {heap heap' : Heap} (distinct : ar.Nodup)
    (owned : ∀ pointer, (heap pointer).isSome ↔ pointer ∈ ar)
    (length : cells.length = allocations.length)
    (creation : createBlocks bl ar.length allocations (ar ++ cells) heap = some (ar', heap')) :
    ar'.length = ar.length + allocations.length ∧ ar'.Nodup ∧
      ∀ pointer, (heap' pointer).isSome ↔ pointer ∈ ar' := by
  induction allocations generalizing ar cells heap with
  | nil =>
      have empty : cells = [] := List.length_eq_zero_iff.mp length
      simp only [createBlocks, empty, List.append_nil, Option.some.injEq, Prod.mk.injEq] at creation
      rcases creation with ⟨rfl, rfl⟩
      exact ⟨rfl, distinct, owned⟩
  | cons allocation allocations induction =>
      cases cells with
      | nil => cases length
      | cons cell cells =>
          rcases Option.bind_eq_some_iff.mp creation with ⟨following, mallocTaken, rest⟩
          rcases malloc_eq_some mallocTaken with ⟨unallocated, _, rfl⟩
          have absent : allocation.pointer ∉ ar := by
            rw [← owned, unallocated]
            simp
          have stored : store (ar ++ cell :: cells) ar.length allocation.pointer =
              some ((ar ++ [allocation.pointer]) ++ cells) := by
            simp [store]
          simp only [stored, Option.bind_eq_bind, Option.bind_some] at rest
          have longer : (ar ++ [allocation.pointer]).Nodup := by
            rw [← List.concat_eq_append]
            exact List.Nodup.concat absent distinct
          have more : ∀ pointer, (Function.update heap allocation.pointer
              (some allocation.content) pointer).isSome ↔
                pointer ∈ ar ++ [allocation.pointer] := by
            intro pointer
            by_cases new : pointer = allocation.pointer
            · simp [new]
            · simp [new, owned]
          have further := @induction (ar ++ [allocation.pointer]) cells _ longer more
            (Nat.succ.inj length)
          simp only [List.length_append, List.length_singleton] at further
          rcases further rest with ⟨finalLength, finalDistinct, finalOwned⟩
          refine ⟨?_, finalDistinct, finalOwned⟩
          rw [finalLength, List.length_cons]
          omega

theorem created_sound {bl : Int} {allocations : List Allocation} {initial : State}
    (nonempty : allocations ≠ []) (int : (allocations.length : Int) < 2 ^ 31)
    (creation : created bl allocations = some initial) : initial.Sound := by
  rcases Option.map_eq_some_iff.mp creation with ⟨⟨ar, heap⟩, blocks, rfl⟩
  have owned := @createBlocks_owned bl allocations [] ar (allocations.map Allocation.cell)
    (fun _ => none) heap List.nodup_nil (by simp) (by simp) blocks
  rcases owned with ⟨length, distinct, owned⟩
  have some : 0 < allocations.length := List.length_pos_iff.mpr nonempty
  refine ⟨⟨?_, distinct, owned⟩, ?_, int⟩
  · simp [length]
  · show 1 ≤ (allocations.length : Int)
    omega

/-- In every run of calls with allocations that succeed every call is defined, so
no block is freed twice; the array is the list after the same insertions and
erasures, each block has exactly one place in it, and a call that is not accepted
changes nothing. -/
theorem calls_refine_list {bl : Int} {allocations : List Allocation} {initial : State}
    (blockLength : 1 ≤ bl) (blockInt : bl < 2 ^ 31) (nonempty : allocations ≠ [])
    (int : (allocations.length : Int) < 2 ^ 31)
    (creation : created bl allocations = some initial) (calls : List Call)
    (succeed : initial.AllSucceed bl calls) :
    ∃ final, initial.calls bl calls = some final ∧
      final.contents = calls.foldl (Call.applied bl) initial.contents ∧ final.Owned ∧
      ∀ call : Call, ¬call.Accepted bl final.al → final.next bl call = some final := by
  rcases calls_sound blockLength blockInt (created_sound nonempty int creation) succeed with
    ⟨final, evaluated, sound, contents⟩
  exact ⟨final, evaluated, contents, sound.toOwned,
    fun _ rejected => next_rejected blockLength blockInt rejected⟩

/-- Two blocks `a` and `b`; `c` is inserted between them and `a` is deleted. -/
theorem calls_refine_list_insertDelete :
    ∃ initial final, created 2 [⟨1, ['a', nul], 0⟩, ⟨2, ['b', nul], 0⟩] = some initial ∧
      initial.calls 2 [.add 1 ['c'] ⟨3, ['x', 'y'], 0⟩, .delete 0] = some final ∧
      final.contents = [['c', nul], ['b', nul]] ∧ final.Owned := by
  have creation : (created 2 [⟨1, ['a', nul], 0⟩, ⟨2, ['b', nul], 0⟩]).isSome := by decide
  rcases Option.isSome_iff_exists.mp creation with ⟨initial, creation⟩
  have succeed : initial.AllSucceed 2 [.add 1 ['c'] ⟨3, ['x', 'y'], 0⟩, .delete 0] := by
    cases creation
    refine ⟨fun _ => ⟨by decide, by decide⟩, fun following taken => ?_⟩
    refine ⟨fun _ => ?_, fun _ _ => trivial⟩
    cases taken
    decide
  rcases calls_refine_list (by decide) (by decide) (by decide) (by decide) creation _ succeed with
    ⟨final, evaluated, contents, owned, _⟩
  refine ⟨initial, final, creation, evaluated, ?_, owned⟩
  rw [contents]
  cases creation
  decide

end OsExercises.BlockArray
