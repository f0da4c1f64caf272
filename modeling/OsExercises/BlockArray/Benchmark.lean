import OsExercises.BlockArray.Nearest
import OsExercises.BlockArray.Refinement
import OsExercises.Foundation.LoggedRun

/-! # The benchmark of the dynamic array

`main` counts the blocks of `MyArray` in `al`. It changes the count after each call of the
library, whatever the call has done. -/

namespace OsExercises.BlockArray

open OsExercises

def rep : Nat := 1000

def stringToInt (s : Text) : Int :=
  (cString s).foldl
    (fun result character =>
      int32 (int32 (result * 10) + (charValue character - charValue '0'))) 0

/-- `j % al`; a remainder by zero is undefined. -/
def remainder (j al : Int) : Option Int :=
  if al = 0 then none else some (j.tmod al)

def deleteArrayDynamic (ar : List Pointer) (al : Int) (heap : Heap) : Option Heap :=
  (List.range al.toNat).foldlM
    (fun heap i => do
      let pointer ← ar[i]?
      free heap pointer) heap

abbrev Run := LoggedRun State

/-! ## The array -/

/-- The loop that writes characters to `MyArray[i]` from place `j` on. -/
def storeAll (block : Text) (j : Nat) : Text → Option Text
  | [] => some block
  | character :: characters =>
      (store block j character).bind fun block => storeAll block (j + 1) characters

/-- The loop over the blocks of the new array. -/
def fillBlocks (bl : Int) : List Pointer → Heap → Option Heap
  | [], heap => some heap
  | pointer :: pointers, heap => do
      let block ← heap pointer
      let block ← storeAll block 0 (List.replicate (bl - 1).toNat 'A' ++ [nul])
      fillBlocks bl pointers (Function.update heap pointer (some block))

/-- `MyArray` before the commands. -/
def filled (bl : Int) (allocations : List Allocation) : Option State := do
  let state ← created bl allocations
  let heap ← fillBlocks bl state.ar state.heap
  some { state with heap := heap }

/-! ## The commands -/

inductive Command
  | add (n : Int)
  | addRemove (n : Int)
  | remove (n : Int)
  | search (n : Int)
  | incorrect

/-- The command with `argv[i]` and `argv[i + 1]`. -/
def command (argv : Text × Text) : Command :=
  let n := stringToInt argv.2
  match cString argv.1 with
  | 'a' :: 'r' :: _ => .addRemove n
  | 'a' :: _ => .add n
  | 'r' :: _ => .remove n
  | 's' :: _ => .search n
  | _ => .incorrect

/-- Insert a block before `j % al` and count it. -/
def State.add (bl : Int) (allocation : Allocation) (j : Nat) (state : State) : Run :=
  match remainder j state.al with
  | none => .undefined
  | some n => .call state do
      let (ar, heap) ← addBlockDynamic n state.al bl ['A', 'A'] state.ar state.heap allocation
      some { ar := ar, heap := heap, al := int32 (state.al + 1) }

/-- Delete block `j % al` and count it off. -/
def State.delete (j : Nat) (state : State) : Run :=
  match remainder j state.al with
  | none => .undefined
  | some n => .call state do
      let (ar, heap) ← deleteBlockDynamic n state.al state.ar state.heap
      some { ar := ar, heap := heap, al := int32 (state.al - 1) }

/-- The result of the search is not used. -/
def State.search (n : Int) (state : State) : Run :=
  .call state ((nearestDynamicSum n state.al state.ar state.heap).map fun _ => state)

/-- The rounds of the loops take their memory from `allocations`. -/
def Command.run (bl : Int) (allocations : Nat → Allocation) : Command → State → Run
  | .add n => .rounds (fun j => State.add bl (allocations j) j) n.toNat 0
  | .addRemove n =>
      .rounds (fun j state => (state.add bl (allocations j) j).bind (State.delete j)) n.toNat 0
  | .remove n => .rounds (fun _ => .rounds State.delete n.toNat 0) rep 0
  | .search n => State.search n
  | .incorrect => .done

/-- The loop over the commands from the `i`-th on. -/
def commands (bl : Int) (allocations : Nat → Nat → Allocation) :
    Nat → List (Text × Text) → State → Run
  | _, [], state => .done state
  | i, argv :: rest, state =>
      ((command argv).run bl (allocations i) state).bind (commands bl allocations (i + 1) rest)

/-- The call of `deleteArrayDynamic`. -/
def State.deleteArray (state : State) : Run :=
  .call state ((deleteArrayDynamic state.ar state.al state.heap).map fun heap =>
    { state with heap := heap })

/-- What `main` does with its array. -/
def benchmark (bl : Int) (allocations : Nat → Nat → Allocation) (argv : List (Text × Text))
    (state : State) : Run :=
  (commands bl allocations 0 argv state).bind State.deleteArray

/-! ## Lengths -/

/-- `al` is the number of blocks of the array. -/
structure State.Counted (state : State) : Prop where
  length : state.al = state.ar.length
  positive : 1 ≤ state.al
  int : state.al < 2 ^ 31

theorem length_exchange {ar after : List Pointer} {i j : Nat}
    (exchanged : exchange ar i j = some after) : after.length = ar.length := by
  rcases Option.bind_eq_some_iff.mp exchanged with ⟨_, _, exchanged⟩
  rcases Option.bind_eq_some_iff.mp exchanged with ⟨_, _, exchanged⟩
  rcases Option.bind_eq_some_iff.mp exchanged with ⟨between, first, second⟩
  exact (length_store second).trans (length_store first)

theorem length_moveDown {n : Int} {pos : Nat} {ar after : List Pointer}
    (moved : moveDown n pos ar = some after) : after.length = ar.length := by
  induction pos generalizing ar with
  | zero =>
      unfold moveDown at moved
      split at moved
      · cases moved
        rfl
      · cases moved
  | succ pos induction =>
      unfold moveDown at moved
      split at moved
      · cases moved
        rfl
      · rcases Option.bind_eq_some_iff.mp moved with ⟨between, exchanged, rest⟩
        exact (induction rest).trans (length_exchange exchanged)

theorem length_realloc {ar after : List Pointer} {count : Int} {cell : Pointer}
    (allocated : realloc ar count cell = some after) :
    0 < int32 count ∧ (after.length : Int) = int32 count := by
  unfold realloc at allocated
  split at allocated
  · next positive =>
      cases allocated
      refine ⟨positive, ?_⟩
      rw [List.length_append, List.length_take, List.length_replicate]
      omega
  · cases allocated

/-- An insertion that is accepted and has the memory for it. -/
theorem length_addBlockDynamic {n al bl : Int} {s : Text} {ar after : List Pointer}
    {heap following : Heap} {allocation : Allocation} (inside : 0 ≤ n ∧ n < al)
    (fits : (strlen s : Int) ≤ (bl - 1) % 2 ^ 64)
    (added : addBlockDynamic n al bl s ar heap allocation = some (after, following)) :
    0 < int32 (al + 1) ∧ (after.length : Int) = int32 (al + 1) := by
  rw [addBlockDynamic, if_neg (by omega), if_neg (by omega)] at added
  rcases Option.bind_eq_some_iff.mp added with ⟨longer, allocated, added⟩
  rcases Option.bind_eq_some_iff.mp added with ⟨_, _, added⟩
  rcases Option.bind_eq_some_iff.mp added with ⟨_, _, added⟩
  rcases Option.bind_eq_some_iff.mp added with ⟨_, _, added⟩
  rcases Option.bind_eq_some_iff.mp added with ⟨stored, last, added⟩
  rcases Option.bind_eq_some_iff.mp added with ⟨moved, down, added⟩
  cases added
  rw [length_moveDown down, length_store last]
  exact length_realloc allocated

theorem length_deleteBlockDynamic {n al : Int} {ar after : List Pointer} {heap following : Heap}
    (inside : 0 ≤ n ∧ n < al)
    (deleted : deleteBlockDynamic n al ar heap = some (after, following)) :
    0 < int32 (al - 1) ∧ (after.length : Int) = int32 (al - 1) := by
  rw [deleteBlockDynamic, if_neg (by omega)] at deleted
  rcases Option.bind_eq_some_iff.mp deleted with ⟨_, _, deleted⟩
  rcases Option.bind_eq_some_iff.mp deleted with ⟨_, _, deleted⟩
  rcases Option.bind_eq_some_iff.mp deleted with ⟨_, _, deleted⟩
  rcases Option.bind_eq_some_iff.mp deleted with ⟨shorter, allocated, deleted⟩
  cases deleted
  exact length_realloc allocated

/-! ## One call -/

/-- The index of a round is inside the array. -/
theorem remainder_inside {j : Nat} {al : Int} (positive : 1 ≤ al) :
    ∃ n, remainder j al = some n ∧ 0 ≤ n ∧ n < al := by
  refine ⟨(j : Int).tmod al, ?_, ?_, ?_⟩
  · rw [remainder, if_neg (by omega)]
  · exact Int.tmod_nonneg al (Int.natCast_nonneg j)
  · exact Int.tmod_lt_of_pos j (by omega)

section Calls

variable {bl : Int} {allocation : Allocation} {j : Nat} {state : State}

/-- Blocks of three bytes have room for the string, so the count is right. -/
theorem add_keeps (room : 3 ≤ bl) (int : bl < 2 ^ 31) (counted : state.Counted) :
    (state.add bl allocation j).Keeps State.Counted := by
  rcases remainder_inside (j := j) counted.positive with ⟨n, index, inside⟩
  rw [State.add, index]
  apply LoggedRun.Keeps.call counted
  intro following performed
  rcases Option.bind_eq_some_iff.mp performed with ⟨⟨ar, heap⟩, added, same⟩
  cases same
  have two : (strlen ['A', 'A'] : Int) = 2 := by decide
  have lengths := length_addBlockDynamic inside (by omega) added
  have bound := counted.int
  have positive := counted.positive
  have fits : state.al + 1 < 2 ^ 31 := by
    by_contra reached
    have last : state.al + 1 = 2 ^ 31 := by omega
    rw [last] at lengths
    exact absurd lengths.1 (by decide)
  have count : int32 (state.al + 1) = state.al + 1 := int32_of_bounds (by omega) fits
  rw [count] at lengths ⊢
  exact
    { length := lengths.2.symm
      positive := by
        show 1 ≤ state.al + 1
        omega
      int := fits }

theorem delete_keeps (counted : state.Counted) : (state.delete j).Keeps State.Counted := by
  rcases remainder_inside (j := j) counted.positive with ⟨n, index, inside⟩
  rw [State.delete, index]
  apply LoggedRun.Keeps.call counted
  intro following performed
  rcases Option.bind_eq_some_iff.mp performed with ⟨⟨ar, heap⟩, deleted, same⟩
  cases same
  have lengths := length_deleteBlockDynamic inside deleted
  have bound := counted.int
  have positive := counted.positive
  have count : int32 (state.al - 1) = state.al - 1 := int32_of_bounds (by omega) (by omega)
  rw [count] at lengths ⊢
  exact
    { length := lengths.2.symm
      positive := by
        show 1 ≤ state.al - 1
        omega
      int := by
        show state.al - 1 < 2 ^ 31
        omega }

theorem search_keeps (n : Int) (counted : state.Counted) :
    (state.search n).Keeps State.Counted := by
  apply LoggedRun.Keeps.call counted
  intro following performed
  rcases Option.map_eq_some_iff.mp performed with ⟨_, _, rfl⟩
  exact counted

theorem deleteArray_keeps (counted : state.Counted) : state.deleteArray.Keeps State.Counted := by
  apply LoggedRun.Keeps.call counted
  intro following performed
  rcases Option.map_eq_some_iff.mp performed with ⟨_, _, rfl⟩
  exact
    { length := counted.length
      positive := counted.positive
      int := counted.int }

/-! ## Runs -/

/-- A command that inserts blocks. -/
def Command.Adds : Command → Prop
  | .add n | .addRemove n => 1 ≤ n
  | _ => False

def Command.Removes : Command → Prop
  | .remove _ => True
  | _ => False

instance (command : Command) : Decidable command.Removes :=
  match command with
  | .remove _ => .isTrue trivial
  | .add _ | .addRemove _ | .search _ | .incorrect => .isFalse id

theorem no_rounds {n : Int} (none : ¬ 1 ≤ n) : n.toNat = 0 := by
  omega

theorem first_round {n : Int} (some : 1 ≤ n) : n.toNat = n.toNat - 1 + 1 := by
  omega

theorem run_keeps {allocations : Nat → Allocation} {command : Command} (int : bl < 2 ^ 31)
    (room : 3 ≤ bl ∨ ¬ command.Adds) (counted : state.Counted) :
    (command.run bl allocations state).Keeps State.Counted := by
  cases command with
  | add n =>
      rcases room with room | nothing
      · exact LoggedRun.Keeps.rounds (fun _ _ kept => add_keeps room int kept) counted
      · rw [Command.run, no_rounds nothing]
        exact LoggedRun.Keeps.done counted
  | addRemove n =>
      rcases room with room | nothing
      · apply LoggedRun.Keeps.rounds _ counted
        intro j state kept
        exact (add_keeps room int kept).bind fun _ added => delete_keeps added
      · rw [Command.run, no_rounds nothing]
        exact LoggedRun.Keeps.done counted
  | remove n =>
      apply LoggedRun.Keeps.rounds _ counted
      intro _ state kept
      exact LoggedRun.Keeps.rounds (fun _ _ further => delete_keeps further) kept
  | search n => exact search_keeps n counted
  | incorrect => exact LoggedRun.Keeps.done counted

theorem commands_keep {allocations : Nat → Nat → Allocation} {i : Nat}
    {argv : List (Text × Text)} (int : bl < 2 ^ 31)
    (room : 3 ≤ bl ∨ ∀ arguments ∈ argv, ¬ (command arguments).Adds) (counted : state.Counted) :
    (commands bl allocations i argv state).Keeps State.Counted := by
  induction argv generalizing i state with
  | nil => exact LoggedRun.Keeps.done counted
  | cons arguments rest induction =>
      have here : 3 ≤ bl ∨ ¬ (command arguments).Adds :=
        room.imp_right fun nothing => nothing arguments List.mem_cons_self
      have later : 3 ≤ bl ∨ ∀ other ∈ rest, ¬ (command other).Adds :=
        room.imp_right fun nothing other member => nothing other (List.mem_cons_of_mem _ member)
      exact (run_keeps int here counted).bind fun _ kept => induction later kept

/-! ## Refused insertions -/

/-- `al` is not the number of blocks. -/
structure State.Miscounted (state : State) : Prop where
  other : state.al ≠ state.ar.length
  nonzero : state.al ≠ 0

/-- The array after an insertion that was refused. -/
def State.countedUp (state : State) : State :=
  { state with al := int32 (state.al + 1) }

theorem countedUp_miscounted (counted : state.Counted) : state.countedUp.Miscounted := by
  have length := counted.length
  have positive := counted.positive
  have bound := counted.int
  by_cases last : state.al + 1 = 2 ^ 31
  · have wrapped : state.countedUp.al = -(2 ^ 31) := by
      rw [State.countedUp, last]
      show int32 (2 ^ 31) = -(2 ^ 31)
      decide
    refine ⟨?_, ?_⟩
    · rw [wrapped]
      show -(2 ^ 31) ≠ (state.ar.length : Int)
      omega
    · rw [wrapped]
      decide
  · have next : state.countedUp.al = state.al + 1 := int32_of_bounds (by omega) (by omega)
    refine ⟨?_, ?_⟩
    · rw [next]
      show state.al + 1 ≠ (state.ar.length : Int)
      omega
    · omega

/-- The string does not fit into blocks of one or two bytes. -/
theorem add_refused (positive : 1 ≤ bl) (small : bl < 3) (counted : state.Counted) :
    (state.add bl allocation j).final = some state.countedUp := by
  rcases remainder_inside (j := j) counted.positive with ⟨n, index, _⟩
  have two : (strlen ['A', 'A'] : Int) = 2 := by decide
  have refused := @addBlockDynamic_rejected n state.al bl ['A', 'A'] state.ar state.heap
    allocation positive (by omega) (by omega)
  rw [State.add, index]
  show ((addBlockDynamic n state.al bl ['A', 'A'] state.ar state.heap allocation).bind _) = _
  rw [refused]
  rfl

theorem add_reaches (nonzero : state.al ≠ 0) : (state.add bl allocation j).Reaches state := by
  rw [State.add, remainder, if_neg nonzero]
  exact .inl (List.mem_singleton_self state)

theorem delete_reaches (nonzero : state.al ≠ 0) : (state.delete j).Reaches state := by
  rw [State.delete, remainder, if_neg nonzero]
  exact .inl (List.mem_singleton_self state)

/-- The first call of a round is made with the state that the round starts with. -/
theorem addDelete_reaches (nonzero : state.al ≠ 0) :
    ((state.add bl allocation j).bind (State.delete j)).Reaches state := by
  rw [State.add, remainder, if_neg nonzero]
  exact .inl (LoggedRun.mem_log_bind (List.mem_singleton_self state))

theorem run_reaches {allocations : Nat → Allocation} {command : Command}
    (nonzero : state.al ≠ 0) : (command.run bl allocations state).Reaches state := by
  cases command with
  | add n => exact .rounds fun _ => add_reaches nonzero
  | addRemove n => exact .rounds fun _ => addDelete_reaches nonzero
  | remove n => exact .rounds fun _ => .rounds fun _ => delete_reaches nonzero
  | search n => exact .inl (List.mem_singleton_self state)
  | incorrect => exact .inr rfl

theorem commands_reach {allocations : Nat → Nat → Allocation} {i : Nat}
    {argv : List (Text × Text)} (nonzero : state.al ≠ 0) :
    (commands bl allocations i argv state).Reaches state := by
  induction argv generalizing i with
  | nil => exact .inr rfl
  | cons arguments rest induction => exact (run_reaches nonzero).bind induction

/-- A command that inserts into blocks that are too small counts a block that is not there. -/
theorem run_miscounts {allocations : Nat → Allocation} {command : Command} (positive : 1 ≤ bl)
    (small : bl < 3) (adds : command.Adds) (counted : state.Counted) :
    (command.run bl allocations state).Reaches state.countedUp := by
  have nonzero := (countedUp_miscounted counted).nonzero
  cases command with
  | add n =>
      rw [Command.run, first_round adds, LoggedRun.rounds]
      exact .after (add_refused positive small counted) (.rounds fun _ => add_reaches nonzero)
  | addRemove n =>
      rw [Command.run, first_round adds, LoggedRun.rounds]
      have first : ((state.add bl (allocations 0) 0).bind (State.delete 0)).Reaches
          state.countedUp :=
        .after (add_refused positive small counted) (delete_reaches nonzero)
      exact first.bind (.rounds fun _ => addDelete_reaches nonzero)
  | remove n => exact absurd adds id
  | search n => exact absurd adds id
  | incorrect => exact absurd adds id

/-- The search is defined, whatever it is asked for. -/
def State.Searchable (state : State) : Prop :=
  ∀ n, (nearestDynamicSum n state.al state.ar state.heap).isSome

theorem run_unchanged {allocations : Nat → Allocation} {command : Command}
    (plain : ¬ command.Removes) (none : ¬ command.Adds) (searchable : state.Searchable) :
    (command.run bl allocations state).final = some state := by
  cases command with
  | add n | addRemove n =>
      rw [Command.run, no_rounds none]
      rfl
  | remove n => exact absurd trivial plain
  | search n =>
      rcases Option.isSome_iff_exists.mp (searchable n) with ⟨result, searched⟩
      rw [Command.run, State.search, searched]
      rfl
  | incorrect => rfl

theorem commands_miscount {allocations : Nat → Nat → Allocation} {i : Nat}
    {argv : List (Text × Text)} (positive : 1 ≤ bl) (small : bl < 3)
    (plain : ∀ arguments ∈ argv, ¬ (command arguments).Removes)
    (adds : ∃ arguments ∈ argv, (command arguments).Adds) (counted : state.Counted)
    (searchable : state.Searchable) :
    (commands bl allocations i argv state).Reaches state.countedUp := by
  induction argv generalizing i with
  | nil =>
      rcases adds with ⟨_, member, _⟩
      cases member
  | cons arguments rest induction =>
      by_cases here : (command arguments).Adds
      · exact (run_miscounts positive small here counted).bind
          (commands_reach (countedUp_miscounted counted).nonzero)
      · have later : ∃ other ∈ rest, (command other).Adds := by
          rcases adds with ⟨other, member, otherAdds⟩
          rcases List.mem_cons.mp member with rfl | member
          · exact absurd otherAdds here
          · exact ⟨other, member, otherAdds⟩
        have unchanged := @run_unchanged bl state (allocations i) _
          (plain arguments List.mem_cons_self) here searchable
        exact .after unchanged (induction
          (fun other member => plain other (List.mem_cons_of_mem _ member)) later)

end Calls

/-! ## The array before the commands -/

/-- The characters end up behind what was stored before. -/
theorem storeAll_front {front rest after text : Text}
    (stored : storeAll (front ++ rest) front.length text = some after) :
    ∃ back, after = front ++ (text ++ back) := by
  induction text generalizing front rest with
  | nil =>
      cases stored
      exact ⟨rest, rfl⟩
  | cons character text induction =>
      rcases Option.bind_eq_some_iff.mp stored with ⟨block, first, later⟩
      cases rest with
      | nil =>
          rw [List.append_nil, store, if_neg (Nat.lt_irrefl _)] at first
          cases first
      | cons old rest =>
          have put : store (front ++ old :: rest) front.length character =
              some ((front ++ [character]) ++ rest) := by
            simp [store]
          rw [put, Option.some.injEq] at first
          subst first
          have place : front.length + 1 = (front ++ [character]).length := by simp
          rw [place] at later
          rcases induction later with ⟨back, rfl⟩
          refine ⟨back, ?_⟩
          rw [List.append_assoc, List.singleton_append, List.cons_append]

/-- The letters in every block. -/
def letterRow (bl : Int) : Text :=
  List.replicate (bl - 1).toNat 'A' ++ [nul]

theorem fillBlocks_eq {bl : Int} {pointers : List Pointer} {heap after : Heap}
    (filling : fillBlocks bl pointers heap = some after) :
    (∀ pointer, (∃ back, heap pointer = some (letterRow bl ++ back)) →
      ∃ back, after pointer = some (letterRow bl ++ back)) ∧
    ∀ pointer ∈ pointers, ∃ back, after pointer = some (letterRow bl ++ back) := by
  induction pointers generalizing heap with
  | nil =>
      cases filling
      refine ⟨fun _ same => same, ?_⟩
      intro pointer member
      cases member
  | cons first pointers induction =>
      rcases Option.bind_eq_some_iff.mp filling with ⟨block, _, filling⟩
      rcases Option.bind_eq_some_iff.mp filling with ⟨stored, written, filling⟩
      rcases @storeAll_front [] block stored (letterRow bl) written with ⟨back, rfl⟩
      rcases induction filling with ⟨kept, more⟩
      have here : ∃ back, after first = some (letterRow bl ++ back) :=
        kept first ⟨back, Function.update_self _ _ _⟩
      refine ⟨?_, ?_⟩
      · intro pointer before
        by_cases same : pointer = first
        · exact same ▸ here
        · apply kept pointer
          rw [Function.update_of_ne same]
          exact before
      · intro pointer member
        rcases List.mem_cons.mp member with rfl | member
        · exact here
        · exact more pointer member

section Filled

variable {bl : Int} {allocations : List Allocation} {state : State}

theorem filled_counted (nonempty : allocations ≠ []) (int : (allocations.length : Int) < 2 ^ 31)
    (filling : filled bl allocations = some state) : state.Counted := by
  rcases Option.bind_eq_some_iff.mp filling with ⟨initial, creation, filling⟩
  rcases Option.bind_eq_some_iff.mp filling with ⟨heap, _, same⟩
  have sound := created_sound nonempty int creation
  cases same
  exact
    { length := sound.length
      positive := sound.positive
      int := sound.int }

theorem filled_holds (filling : filled bl allocations = some state) :
    Holds state.ar state.heap (state.ar.map fun pointer => (state.heap pointer).getD []) ∧
      ∀ pointer ∈ state.ar, cString ((state.heap pointer).getD []) =
        List.replicate (bl - 1).toNat 'A' := by
  rcases Option.bind_eq_some_iff.mp filling with ⟨initial, creation, filling⟩
  rcases Option.bind_eq_some_iff.mp filling with ⟨heap, filledBlocks, same⟩
  have blocks := (fillBlocks_eq filledBlocks).2
  cases same
  refine ⟨⟨?_, ?_⟩, ?_⟩
  · rw [List.map_map]
    apply List.map_congr_left
    intro pointer member
    rcases blocks pointer member with ⟨back, block⟩
    simp only [Function.comp_apply, block, Option.getD_some]
  · intro block member
    rcases List.mem_map.mp member with ⟨pointer, inside, rfl⟩
    rcases blocks pointer inside with ⟨back, block⟩
    simp [block, letterRow]
  · intro pointer member
    rcases blocks pointer member with ⟨back, block⟩
    have solid : nul ∉ List.replicate (bl - 1).toNat 'A' := by
      intro inside
      exact absurd (List.eq_of_mem_replicate inside) (by decide)
    simp only [block, Option.getD_some, letterRow, List.append_assoc, List.singleton_append]
    exact cString_append_nul solid back

/-- Sums over short blocks cannot overflow. -/
theorem filled_searchable (small : bl < 3) (nonempty : allocations ≠ [])
    (int : (allocations.length : Int) < 2 ^ 31) (filling : filled bl allocations = some state) :
    state.Searchable := by
  have counted := filled_counted nonempty int filling
  rcases filled_holds filling with ⟨holds, strings⟩
  intro n
  by_cases outside : n < 0 ∨ n ≥ state.al
  · rw [nearestDynamicSum, if_pos outside]
    rfl
  · have length := counted.length
    lift n to Nat using by omega
    have below : n < (state.ar.map fun pointer => (state.heap pointer).getD []).length := by
      rw [List.length_map]
      omega
    have short (i : Nat) : (blockString
        (state.ar.map fun pointer => (state.heap pointer).getD []) i).length < 2 ^ 23 := by
      rw [blockString, List.getD_eq_getElem?_getD, List.getElem?_map]
      cases place : state.ar[i]? with
      | none =>
          rw [Option.map_none, Option.getD_none]
          decide
      | some pointer =>
          have string := strings pointer (List.mem_of_getElem? place)
          rw [Option.map_some, Option.getD_some, string, List.length_replicate]
          omega
    have found := (nearestDynamicSum_eq_some_iff holds below).mpr
      ⟨fun i _ => comparable_short (short n) (short i), rfl⟩
    rw [length, found]
    rfl

end Filled

/-- In the run of the benchmark the count is right before every call of the library exactly when
the blocks have room for the inserted string or nothing is inserted. -/
theorem benchmark_counts_iff {bl : Int} {allocations : List Allocation} {state : State}
    (positive : 1 ≤ bl) (blockInt : bl < 2 ^ 31) (nonempty : allocations ≠ [])
    (int : (allocations.length : Int) < 2 ^ 31) (filling : filled bl allocations = some state)
    (inserted : Nat → Nat → Allocation) (argv : List (Text × Text))
    (plain : ∀ arguments ∈ argv, ¬ (command arguments).Removes) :
    (∀ before ∈ (benchmark bl inserted argv state).log, before.al = before.ar.length) ↔
      3 ≤ bl ∨ ∀ arguments ∈ argv, ¬ (command arguments).Adds := by
  have counted := filled_counted nonempty int filling
  constructor
  · intro right
    by_contra neither
    have small : bl < 3 := by
      by_contra large
      exact neither (.inl (not_lt.mp large))
    have adds : ∃ arguments ∈ argv, (command arguments).Adds := by
      by_contra none
      exact neither (.inr fun arguments member adds => none ⟨arguments, member, adds⟩)
    have searchable := filled_searchable small nonempty int filling
    have miscounted := @commands_miscount bl state inserted 0 argv positive small plain adds
      counted searchable
    have called : state.countedUp ∈ state.countedUp.deleteArray.log := List.mem_singleton_self _
    have member := miscounted.bind_log called
    exact (countedUp_miscounted counted).other (right _ member)
  · intro room before member
    have kept := (@commands_keep bl state inserted 0 argv blockInt room counted).bind
      fun following (kept : following.Counted) => deleteArray_keeps kept
    exact (kept.log before member).length

/-- A block of two bytes, with whatever is in it. -/
def twoBytes (pointer : Pointer) : Allocation where
  pointer := pointer
  content := ['x', 'y']

/-- The values of `al` and the numbers of blocks before the calls of the library. -/
def counts (run : Run) : List (Int × Nat) :=
  run.log.map fun before => (before.al, before.ar.length)

/-- With blocks of two bytes an insertion is refused, and counted. -/
theorem benchmark_miscounts :
    ∃ state, filled 2 [twoBytes 1] = some state ∧
      counts (benchmark 2 (fun _ j => twoBytes (2 + j)) [(['a'], ['1']), (['s'], ['5'])] state) =
        [(1, 1), (2, 1), (2, 1)] ∧
      ¬ ∀ before ∈ (benchmark 2 (fun _ j => twoBytes (2 + j)) [(['a'], ['1']), (['s'], ['5'])]
        state).log, before.al = before.ar.length := by
  have run : (filled 2 [twoBytes 1]).map (fun state => counts (benchmark 2
      (fun _ j => twoBytes (2 + j)) [(['a'], ['1']), (['s'], ['5'])] state)) =
        some [(1, 1), (2, 1), (2, 1)] := by
    decide
  rcases Option.map_eq_some_iff.mp run with ⟨state, filling, counted⟩
  refine ⟨state, filling, counted, ?_⟩
  intro right
  have member : ((2 : Int), 1) ∈ counts (benchmark 2 (fun _ j => twoBytes (2 + j))
      [(['a'], ['1']), (['s'], ['5'])] state) := by
    rw [counted]
    decide
  rcases List.mem_map.mp member with ⟨before, inside, pair⟩
  rcases Prod.mk.inj pair with ⟨al, length⟩
  have same := right before inside
  omega

/-- A block of three bytes, with whatever is in it. -/
def threeBytes (pointer : Pointer) : Allocation where
  pointer := pointer
  content := ['x', 'y', 'z']

theorem benchmark_counts :
    ∃ state, filled 3 [threeBytes 1] = some state ∧
      ∀ before ∈ (benchmark 3 (fun i j => threeBytes (2 + 8 * i + j))
        [(['a', 'r'], ['1']), (['a'], ['2'])] state).log, before.al = before.ar.length := by
  have some : (filled 3 [threeBytes 1]).isSome := by decide
  rcases Option.isSome_iff_exists.mp some with ⟨state, filling⟩
  refine ⟨state, filling, ?_⟩
  exact (benchmark_counts_iff (by decide) (by decide) (by decide) (by decide) filling _ _
    (by decide)).mpr (.inl (by decide))

/-! ## Removals -/

/-- The command `r n` counts `n` blocks off, and as many are gone. -/
def RemovesExactly (bl : Int) (allocations : Nat → Allocation) (n : Int) (state : State) : Prop :=
  ∃ following, ((Command.remove n).run bl allocations state).final = some following ∧
    (following.ar.length : Int) = state.ar.length - n.toNat ∧ following.al = state.al - n.toNat

section Removals

variable {bl : Int} {allocations : Nat → Allocation} {n : Int} {state : State}

theorem delete_counts {j : Nat} {following : State} (counted : state.Counted)
    (final : (state.delete j).final = some following) :
    following.Counted ∧ following.al = state.al - 1 := by
  have kept := (delete_keeps (j := j) counted).final following final
  rcases remainder_inside (j := j) counted.positive with ⟨index, place, _⟩
  rw [State.delete, place] at final
  rcases Option.bind_eq_some_iff.mp final with ⟨⟨ar, heap⟩, _, same⟩
  cases same
  have positive := counted.positive
  have int := counted.int
  refine ⟨kept, ?_⟩
  exact int32_of_bounds (by omega) (by omega)

/-- However the array is, the command counts `rep` times as many blocks off. -/
theorem remove_counts {following : State} (counted : state.Counted)
    (final : ((Command.remove n).run bl allocations state).final = some following) :
    following.Counted ∧ following.al = state.al - rep * (n.toNat : Int) := by
  refine LoggedRun.final_rounds State.al n.toNat ?_ counted final
  intro _ before after kept inner
  rcases LoggedRun.final_rounds State.al 1
    (fun _ _ _ further deleted => delete_counts further deleted) kept inner with
    ⟨keptAfter, countedAfter⟩
  exact ⟨keptAfter, by omega⟩

/-- The command removes as many blocks as it is told only when that is none. -/
theorem removesExactly_iff (counted : state.Counted) :
    RemovesExactly bl allocations n state ↔ n ≤ 0 := by
  constructor
  · intro removes
    rcases removes with ⟨following, final, _, updated⟩
    have times := (remove_counts counted final).2
    have thousand : (rep : Int) = 1000 := rfl
    rw [thousand] at times
    omega
  · intro none
    have nothing : n.toNat = 0 := by omega
    have enough : rep * (0 : Int) < state.al := by
      rw [Int.mul_zero]
      exact counted.positive
    have unchanged := @LoggedRun.rounds_end _ (fun other => other = state) State.al 0
      (fun _ => LoggedRun.rounds State.delete 0 0) rep 0 state le_rfl
      (fun _ other same _ => ⟨other, rfl, same, by omega⟩) rfl enough
    rcases unchanged with ⟨following, final, rfl, _⟩
    refine ⟨following, ?_, ?_, ?_⟩
    · rw [Command.run, nothing]
      exact final
    · rw [nothing]
      omega
    · rw [nothing]
      omega

theorem delete_ends {j : Nat} (sound : state.Sound) (more : 1 < state.al) :
    ∃ following, (state.delete j).final = some following ∧ following.Sound ∧
      following.al = state.al - 1 := by
  have bound := sound.int
  rcases remainder_inside (j := j) sound.positive with ⟨place, index, inside⟩
  have accepted : (Call.delete place).Accepted 1 state.al := inside
  have enough : 1 ≤ state.al - 1 := by omega
  rcases next_delete sound accepted (fun _ => enough) with ⟨following, taken, kept, _⟩
  rcases Option.map_eq_some_iff.mp taken with ⟨⟨ar, heap⟩, deleted, same⟩
  rw [if_pos accepted] at same
  have count : int32 (state.al - 1) = state.al - 1 := int32_of_bounds (by omega) (by omega)
  refine ⟨following, ?_, kept, ?_⟩
  · rw [State.delete, index, count]
    exact Option.bind_eq_some_iff.mpr ⟨(ar, heap), deleted, congrArg some same⟩
  · rw [← same]
    rfl

/-- A large array loses `rep` times the blocks. -/
theorem remove_ends (sound : state.Sound) (large : rep * (n.toNat : Int) < state.al) :
    ∃ following, ((Command.remove n).run bl allocations state).final = some following ∧
      following.Sound ∧ following.al = state.al - rep * (n.toNat : Int) := by
  refine LoggedRun.rounds_end State.al n.toNat (by omega) ?_ sound large
  intro _ before kept more
  rcases @LoggedRun.rounds_end _ State.Sound State.al 1 State.delete n.toNat 0 before (by omega)
    (fun _ _ further more => delete_ends further more) kept (by omega) with
    ⟨after, final, keptAfter, counted⟩
  exact ⟨after, final, keptAfter, by omega⟩

end Removals

/-- One block of three is to be removed. After two removals one block is left, and the removal
of the last one leaves nothing that `al` could divide. -/
theorem removes_everything :
    ∃ state, filled 2 [twoBytes 1, twoBytes 2, twoBytes 3] = some state ∧
      counts ((Command.remove 1).run 2 twoBytes state) = [(3, 3), (2, 2), (1, 1)] ∧
      ((Command.remove 1).run 2 twoBytes state).final.isSome = false ∧
      ¬ RemovesExactly 2 twoBytes 1 state := by
  have run : (filled 2 [twoBytes 1, twoBytes 2, twoBytes 3]).map (fun state =>
      (counts ((Command.remove 1).run 2 twoBytes state),
        ((Command.remove 1).run 2 twoBytes state).final.isSome)) =
        some ([(3, 3), (2, 2), (1, 1)], false) := by
    decide
  rcases Option.map_eq_some_iff.mp run with ⟨state, filling, both⟩
  rcases Prod.mk.inj both with ⟨counted, stopped⟩
  refine ⟨state, filling, counted, stopped, ?_⟩
  intro removes
  rcases removes with ⟨following, final, _⟩
  rw [final] at stopped
  cases stopped

theorem removesExactly_none :
    ∃ state, filled 2 [twoBytes 1, twoBytes 2] = some state ∧
      RemovesExactly 2 twoBytes 0 state := by
  have some : (filled 2 [twoBytes 1, twoBytes 2]).isSome := by decide
  rcases Option.isSome_iff_exists.mp some with ⟨state, filling⟩
  have counted := filled_counted (by decide) (by decide) filling
  exact ⟨state, filling, (removesExactly_iff counted).mpr (by decide)⟩

end OsExercises.BlockArray
