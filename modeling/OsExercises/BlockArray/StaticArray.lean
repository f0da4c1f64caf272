import Mathlib.Tactic.Ring
import OsExercises.BlockArray.Refinement

/-! # The static array of blocks

The blocks lie one behind the other in one piece of memory, so what runs over the end
of a block is written into the next one. `none` is a write behind the last block. -/

namespace OsExercises.BlockArray

open OsExercises

def noBlocks : Nat := 1000000

def soBlocks : Nat := 100

/-- The bytes of `char StaticArray[NoBlocks][SoBlocks]`. -/
@[ext] structure StaticArray where
  bytes : Text
  size : bytes.length = noBlocks * soBlocks

namespace StaticArray

/-- `StaticArray[n]` -/
def block (array : StaticArray) (n : Nat) : Text :=
  (array.bytes.drop (n * soBlocks)).take soBlocks

def blocks (array : StaticArray) : List Text :=
  (List.range noBlocks).map array.block

def store (array : StaticArray) (address : Nat) (value : Char) : Option StaticArray :=
  if address < noBlocks * soBlocks then
    some { bytes := array.bytes.set address value
           size := by rw [List.length_set, array.size] }
  else none

/-- Store characters one behind the other. -/
def write (array : StaticArray) (address : Nat) : Text → Option StaticArray
  | [] => some array
  | character :: characters =>
      (array.store address character).bind fun array => array.write (address + 1) characters

/-- Static storage starts with zeros. -/
def zeros : StaticArray where
  bytes := List.replicate (noBlocks * soBlocks) nul
  size := List.length_replicate

end StaticArray

/-! ## The library -/

/-- The loop of `createArrayStatic` from block `i` on, with `left` blocks to go. -/
def createBlocksStatic (array : StaticArray) (i : Nat) : Nat → Option StaticArray
  | 0 => some array
  | left + 1 => do
      let array ← array.write (i * soBlocks) (List.replicate (soBlocks - 1) 'A')
      let array ← array.store (i * soBlocks + (soBlocks - 1)) nul
      createBlocksStatic array (i + 1) left

def createArrayStatic (array : StaticArray) : Option StaticArray :=
  createBlocksStatic array 0 noBlocks

/-- `memset` over the whole array. -/
def deleteArrayStatic (array : StaticArray) : Option StaticArray :=
  array.write 0 (List.replicate (noBlocks * soBlocks) nul)

def insertBlockStatic (n : Int) (s : Text) (array : StaticArray) : Option StaticArray :=
  if n < 0 ∨ n ≥ noBlocks then some array
  else if strlen s > soBlocks then some array
  else do
    let start := n.toNat * soBlocks
    -- The call of `strcpy` ends the string with a NUL; the two loops follow.
    let array ← array.write start (cString s ++ [nul])
    let array ← array.write start (cString s)
    array.write (start + strlen s) (List.replicate (soBlocks - strlen s) nul)

def deleteBlockStatic (n : Int) (array : StaticArray) : Option StaticArray :=
  if n < 0 ∨ n ≥ noBlocks then some array
  else array.write (n.toNat * soBlocks) (List.replicate soBlocks nul)

/-! ## Memory -/

namespace StaticArray

variable {array : StaticArray} {address : Nat} {text : Text}

/-- The array with the characters at an address. -/
def patch (array : StaticArray) (address : Nat) (text : Text)
    (fits : address + text.length ≤ noBlocks * soBlocks) : StaticArray where
  bytes := array.bytes.take address ++ (text ++ array.bytes.drop (address + text.length))
  size := by
    simp only [List.length_append, List.length_take, List.length_drop, array.size]
    omega

theorem bytes_patch (fits : address + text.length ≤ noBlocks * soBlocks) (k : Nat) :
    (array.patch address text fits).bytes[k]? =
      if address ≤ k ∧ k < address + text.length then text[k - address]?
      else array.bytes[k]? := by
  have front : (array.bytes.take address).length = address := by
    rw [List.length_take, array.size]
    omega
  rw [patch, List.getElem?_append, List.getElem?_append, front, List.getElem?_take,
    List.getElem?_drop]
  by_cases before : k < address
  · rw [if_pos before, if_pos before, if_neg (by omega)]
  · by_cases inside : k < address + text.length
    · rw [if_neg before, if_pos (by omega), if_pos ⟨by omega, inside⟩]
    · have place : address + text.length + (k - address - text.length) = k := by omega
      rw [if_neg before, if_neg (by omega), if_neg (fun both => inside both.2), place]

theorem write_eq (fits : address + text.length ≤ noBlocks * soBlocks) :
    array.write address text = some (array.patch address text fits) := by
  induction text generalizing array address with
  | nil =>
      have same : array.patch address [] fits = array := by
        apply StaticArray.ext
        apply List.ext_getElem?
        intro k
        rw [bytes_patch, List.length_nil, if_neg (by omega)]
      rw [write, same]
  | cons character text induction =>
      rw [List.length_cons] at fits
      have inside : address < noBlocks * soBlocks := by omega
      have rest : address + 1 + text.length ≤ noBlocks * soBlocks := by omega
      rw [write, store, if_pos inside, Option.bind_some, induction rest, Option.some.injEq]
      apply StaticArray.ext
      apply List.ext_getElem?
      intro k
      rw [bytes_patch, bytes_patch, List.length_cons, List.getElem?_set, array.size]
      by_cases here : k = address
      · subst here
        rw [if_neg (by omega), if_pos rfl, if_pos inside, if_pos (by omega), Nat.sub_self]
        rfl
      · by_cases behind : address + 1 ≤ k ∧ k < address + 1 + text.length
        · have place : k - address = k - (address + 1) + 1 := by omega
          rw [if_pos behind, if_pos (by omega), place, List.getElem?_cons_succ]
        · rw [if_neg behind, if_neg (fun same => here same.symm), if_neg (by omega)]

theorem store_eq {character : Char} (fits : address + 1 ≤ noBlocks * soBlocks) :
    array.store address character = some (array.patch address [character] fits) := by
  have written := @write_eq array address [character] fits
  rw [write] at written
  cases stored : array.store address character with
  | none =>
      rw [stored] at written
      cases written
  | some after =>
      rw [stored] at written
      exact written

/-- Characters that do not fit are written behind the array. -/
theorem write_eq_none (nonempty : text ≠ []) (large : noBlocks * soBlocks < address + text.length) :
    array.write address text = none := by
  induction text generalizing array address with
  | nil => exact absurd rfl nonempty
  | cons character text induction =>
      rw [write, store]
      split
      · next inside =>
          rw [List.length_cons] at large
          have more : text ≠ [] := by
            intro nothing
            rw [nothing, List.length_nil] at large
            omega
          exact induction more (by omega)
      · rfl

theorem patch_patch {other : Text} (fits : address + text.length ≤ noBlocks * soBlocks)
    (within : address + other.length ≤ noBlocks * soBlocks) (longer : other.length ≤ text.length) :
    (array.patch address other within).patch address text fits = array.patch address text fits := by
  apply StaticArray.ext
  apply List.ext_getElem?
  intro k
  rw [bytes_patch, bytes_patch, bytes_patch]
  by_cases inside : address ≤ k ∧ k < address + text.length
  · rw [if_pos inside, if_pos inside]
  · rw [if_neg inside, if_neg inside, if_neg (by omega)]

theorem patch_append {other : Text}
    (fits : address + (text ++ other).length ≤ noBlocks * soBlocks)
    (first : address + text.length ≤ noBlocks * soBlocks)
    (second : address + text.length + other.length ≤ noBlocks * soBlocks) :
    (array.patch address text first).patch (address + text.length) other second =
      array.patch address (text ++ other) fits := by
  apply StaticArray.ext
  apply List.ext_getElem?
  intro k
  rw [bytes_patch, bytes_patch, bytes_patch, List.length_append, List.getElem?_append]
  by_cases behind : address + text.length ≤ k ∧ k < address + text.length + other.length
  · have place : k - (address + text.length) = k - address - text.length := by omega
    rw [if_pos behind, if_pos (by omega), if_neg (by omega), place]
  · rw [if_neg behind]
    by_cases front : address ≤ k ∧ k < address + text.length
    · rw [if_pos front, if_pos (by omega), if_pos (by omega)]
    · rw [if_neg front, if_neg (by omega)]

/-- Writing the front a second time changes nothing. -/
theorem patch_front {other : Text}
    (fits : address + (text ++ other).length ≤ noBlocks * soBlocks)
    (first : address + text.length ≤ noBlocks * soBlocks) :
    (array.patch address (text ++ other) fits).patch address text first =
      array.patch address (text ++ other) fits := by
  apply StaticArray.ext
  apply List.ext_getElem?
  intro k
  rw [bytes_patch]
  split
  · next front =>
      rw [bytes_patch, List.length_append, if_pos (by omega),
        List.getElem?_append_left (by omega)]
  · rfl

theorem length_block {n : Nat} (below : n < noBlocks) : (array.block n).length = soBlocks := by
  have room : (n + 1) * soBlocks ≤ noBlocks * soBlocks := Nat.mul_le_mul_right _ below
  rw [Nat.add_mul] at room
  rw [block, List.length_take, List.length_drop, array.size]
  omega

theorem block_getElem? (n k : Nat) :
    (array.block n)[k]? = if k < soBlocks then array.bytes[n * soBlocks + k]? else none := by
  rw [block, List.getElem?_take, List.getElem?_drop]

theorem block_fits {n : Nat} (below : n < noBlocks) (length : text.length = soBlocks) :
    n * soBlocks + text.length ≤ noBlocks * soBlocks := by
  have room : (n + 1) * soBlocks ≤ noBlocks * soBlocks := Nat.mul_le_mul_right _ below
  rw [Nat.add_mul] at room
  omega

/-- Writing one whole block leaves the others. -/
theorem block_patch {n : Nat} (length : text.length = soBlocks)
    (fits : n * soBlocks + text.length ≤ noBlocks * soBlocks) (i : Nat) :
    (array.patch (n * soBlocks) text fits).block i = if i = n then text else array.block i := by
  apply List.ext_getElem?
  intro k
  rw [block_getElem?, bytes_patch, length]
  by_cases inside : k < soBlocks
  · rw [if_pos inside]
    by_cases same : i = n
    · rw [if_pos same, same, if_pos ⟨by omega, by omega⟩, Nat.add_sub_cancel_left]
    · have other : ¬ (n * soBlocks ≤ i * soBlocks + k ∧
          i * soBlocks + k < n * soBlocks + soBlocks) := by
        intro both
        rcases Nat.lt_or_gt_of_ne same with before | behind
        · have room : (i + 1) * soBlocks ≤ n * soBlocks := Nat.mul_le_mul_right _ before
          rw [Nat.add_mul] at room
          omega
        · have room : (n + 1) * soBlocks ≤ i * soBlocks := Nat.mul_le_mul_right _ behind
          rw [Nat.add_mul] at room
          omega
      rw [if_neg other, if_neg same, block_getElem?, if_pos inside]
  · rw [if_neg inside]
    split
    · rw [List.getElem?_eq_none (by omega)]
    · rw [block_getElem?, if_neg inside]

end StaticArray

/-! ## Insertions -/

/-- The tests at the start of `insertBlockStatic`. -/
def RejectsStatic (n : Int) (s : Text) : Prop :=
  (n < 0 ∨ n ≥ noBlocks) ∨ strlen s > soBlocks

instance (n : Int) (s : Text) : Decidable (RejectsStatic n s) :=
  inferInstanceAs (Decidable (_ ∨ _))

theorem insertBlockStatic_rejected {n : Int} {s : Text} (array : StaticArray)
    (rejected : RejectsStatic n s) : insertBlockStatic n s array = some array := by
  unfold insertBlockStatic
  rcases rejected with outside | long
  · rw [if_pos outside]
  · rw [if_pos long, ite_self]

section Accepted

variable {n : Nat} {s : Text} (array : StaticArray)

/-- An accepted call makes three writes. -/
theorem insertBlockStatic_accepted (accepted : ¬ RejectsStatic n s) :
    insertBlockStatic n s array =
      ((array.write (n * soBlocks) (cString s ++ [nul])).bind fun array =>
        array.write (n * soBlocks) (cString s)).bind fun array =>
          array.write (n * soBlocks + (cString s).length)
            (List.replicate (soBlocks - strlen s) nul) := by
  have inside : ¬ ((n : Int) < 0 ∨ (n : Int) ≥ noBlocks) := fun outside => accepted (.inl outside)
  have short : ¬ strlen s > soBlocks := fun long => accepted (.inr long)
  rw [insertBlockStatic, if_neg inside, if_neg short, Int.toNat_natCast, Option.bind_assoc]
  rfl

/-- The two loops repeat what `strcpy` has done, and fill up. -/
theorem insertBlockStatic_short (below : n < noBlocks) (short : strlen s < soBlocks) :
    ∃ fits, insertBlockStatic n s array =
      some (array.patch (n * soBlocks) (padded soBlocks s) fits) := by
  have length : (padded soBlocks s).length = soBlocks := length_padded (by omega)
  have fits := StaticArray.block_fits below length
  have copied : (cString s).length = strlen s := rfl
  have filled : (List.replicate (soBlocks - strlen s) nul).length = soBlocks - strlen s :=
    List.length_replicate
  have accepted : ¬ RejectsStatic n s := by
    intro rejected
    unfold RejectsStatic at rejected
    omega
  have ended : (cString s ++ [nul]).length = strlen s + 1 := by
    rw [List.length_append, copied, List.length_singleton]
  have first : n * soBlocks + (cString s ++ [nul]).length ≤ noBlocks * soBlocks := by omega
  have second : n * soBlocks + (cString s).length ≤ noBlocks * soBlocks := by omega
  have third : n * soBlocks + (cString s).length +
      (List.replicate (soBlocks - strlen s) nul).length ≤ noBlocks * soBlocks := by omega
  refine ⟨fits, ?_⟩
  rw [insertBlockStatic_accepted array accepted, StaticArray.write_eq first, Option.bind_some,
    StaticArray.write_eq second, Option.bind_some, StaticArray.write_eq third]
  have joined : n * soBlocks + (cString s ++ List.replicate (soBlocks - strlen s) nul).length ≤
      noBlocks * soBlocks := by
    rw [List.length_append]
    omega
  rw [StaticArray.patch_append joined, StaticArray.patch_patch]
  · rfl
  · rw [ended, List.length_append]
    omega

/-- A string of the length of a block fills it, and the NUL goes behind it. -/
theorem insertBlockStatic_full (full : strlen s = soBlocks)
    (fits : n * soBlocks + (cString s ++ [nul]).length ≤ noBlocks * soBlocks) :
    insertBlockStatic n s array =
      some (array.patch (n * soBlocks) (cString s ++ [nul]) fits) := by
  have copied : (cString s).length = strlen s := rfl
  have ended : (cString s ++ [nul]).length = strlen s + 1 := by
    rw [List.length_append, copied, List.length_singleton]
  have below : n * soBlocks < noBlocks * soBlocks := by omega
  have accepted : ¬ RejectsStatic n s := by
    intro rejected
    have inside := Nat.lt_of_mul_lt_mul_right below
    unfold RejectsStatic at rejected
    omega
  have second : n * soBlocks + (cString s).length ≤ noBlocks * soBlocks := by omega
  rw [insertBlockStatic_accepted array accepted, StaticArray.write_eq fits, Option.bind_some,
    StaticArray.write_eq second, Option.bind_some, StaticArray.patch_front, full, Nat.sub_self]
  rfl

/-- Before the last block there is room for the NUL. -/
theorem full_fits (full : strlen s = soBlocks) (before : n + 1 < noBlocks) :
    n * soBlocks + (cString s ++ [nul]).length ≤ noBlocks * soBlocks := by
  have ended : (cString s ++ [nul]).length = strlen s + 1 := by
    rw [List.length_append, List.length_singleton]
    rfl
  have room : (n + 1 + 1) * soBlocks ≤ noBlocks * soBlocks := Nat.mul_le_mul_right _ before
  have positive : 0 < soBlocks := by decide
  rw [Nat.add_mul, Nat.add_mul] at room
  omega

theorem unterminated_full (full : strlen s = soBlocks)
    (fits : n * soBlocks + (cString s ++ [nul]).length ≤ noBlocks * soBlocks) :
    nul ∉ (array.patch (n * soBlocks) (cString s ++ [nul]) fits).block n := by
  have copied : (cString s).length = soBlocks := full
  intro member
  rcases List.mem_iff_getElem?.mp member with ⟨k, found⟩
  rw [StaticArray.block_getElem?] at found
  split at found
  · next inside =>
      rw [StaticArray.bytes_patch, List.length_append, if_pos (by omega), Nat.add_sub_cancel_left,
        List.getElem?_append_left (by omega)] at found
      exact nul_not_mem_cString s (List.mem_of_getElem? found)
  · cases found

/-- In the last block the NUL is written behind the array. -/
theorem insertBlockStatic_last (full : strlen s = soBlocks) (last : n + 1 = noBlocks) :
    insertBlockStatic n s array = none := by
  have copied : (cString s).length = strlen s := rfl
  have ended : (cString s ++ [nul]).length = strlen s + 1 := by
    rw [List.length_append, copied, List.length_singleton]
  have room : noBlocks * soBlocks = n * soBlocks + soBlocks := by rw [← last, Nat.add_mul, one_mul]
  have accepted : ¬ RejectsStatic n s := by
    intro rejected
    unfold RejectsStatic at rejected
    omega
  have behind := @StaticArray.write_eq_none array (n * soBlocks) (cString s ++ [nul]) (by simp)
    (by omega)
  rw [insertBlockStatic_accepted array accepted, behind]
  rfl

end Accepted

/-- What an insertion is for. -/
structure InsertedStatic (n : Nat) (s : Text) (before after : StaticArray) : Prop where
  terminated : nul ∈ after.block n
  string : cString (after.block n) = cString s
  frame : ∀ address, ¬ (n * soBlocks ≤ address ∧ address < n * soBlocks + soBlocks) →
    after.bytes[address]? = before.bytes[address]?

/-- The call either has nothing to insert and changes nothing, or it inserts. -/
def InsertsStatic (n : Int) (s : Text) (array : StaticArray) : Prop :=
  if RejectsStatic n s then insertBlockStatic n s array = some array
  else ∃ after, insertBlockStatic n s array = some after ∧ InsertedStatic n.toNat s array after

/-- An insertion does what it is for exactly when the string is not as long as a block. -/
theorem insertsStatic_iff (n : Int) (s : Text) (array : StaticArray) :
    InsertsStatic n s array ↔ ¬ ((0 ≤ n ∧ n < noBlocks) ∧ strlen s = soBlocks) := by
  unfold InsertsStatic
  split
  · next rejected =>
      refine iff_of_true (insertBlockStatic_rejected array rejected) ?_
      intro full
      unfold RejectsStatic at rejected
      omega
  · next accepted =>
      have inside : (0 ≤ n ∧ n < noBlocks) ∧ strlen s ≤ soBlocks := by
        unfold RejectsStatic at accepted
        omega
      lift n to Nat using inside.1.1
      have below : n < noBlocks := by omega
      rw [Int.toNat_natCast]
      rcases Nat.eq_or_lt_of_le inside.2 with full | short
      · refine iff_of_false ?_ (fun other => other ⟨inside.1, full⟩)
        intro inserted
        rcases inserted with ⟨after, called, inserted⟩
        rcases Nat.eq_or_lt_of_le below with last | before
        · rw [insertBlockStatic_last array full last] at called
          cases called
        · have fits := full_fits full before
          rw [insertBlockStatic_full array full fits, Option.some.injEq] at called
          subst called
          exact unterminated_full array full fits inserted.terminated
      · refine iff_of_true ?_ (fun other => absurd other.2 short.ne)
        rcases insertBlockStatic_short array below short with ⟨fits, called⟩
        have length : (padded soBlocks s).length = soBlocks := length_padded (by omega)
        have block := array.block_patch length fits n
        rw [if_pos rfl] at block
        have read := @cString_padded soBlocks s (by omega)
        refine ⟨_, called, ?_, ?_, ?_⟩
        · rw [block]
          exact read.1
        · rw [block]
          exact read.2
        · intro address outside
          rw [StaticArray.bytes_patch, length, if_neg outside]

def letterBs : StaticArray where
  bytes := List.replicate (noBlocks * soBlocks) 'b'
  size := List.length_replicate

/-- A string of 100 characters is accepted. In block 0 it changes the first byte of block 1 and
is not terminated; in the last block it is written over the end of the array. -/
theorem insertsStatic_full :
    ¬ RejectsStatic 0 (List.replicate 100 'a') ∧
      (∃ after, insertBlockStatic 0 (List.replicate 100 'a') letterBs = some after ∧
        letterBs.bytes[soBlocks]? = some 'b' ∧ after.bytes[soBlocks]? = some nul ∧
          nul ∉ after.block 0) ∧
      insertBlockStatic (noBlocks - 1) (List.replicate 100 'a') letterBs = none ∧
      ¬ InsertsStatic 0 (List.replicate 100 'a') letterBs ∧
      ¬ InsertsStatic (noBlocks - 1) (List.replicate 100 'a') letterBs := by
  have full : strlen (List.replicate 100 'a') = soBlocks := by decide
  have last : insertBlockStatic (noBlocks - 1) (List.replicate 100 'a') letterBs = none :=
    insertBlockStatic_last letterBs full (n := noBlocks - 1) (by decide)
  have fits := @full_fits 0 (List.replicate 100 'a') full (by decide)
  have first := insertBlockStatic_full letterBs full fits
  have open0 := unterminated_full letterBs full fits
  have accepted0 : ¬ RejectsStatic 0 (List.replicate 100 'a') := by decide
  have accepted1 : ¬ RejectsStatic (noBlocks - 1) (List.replicate 100 'a') := by decide
  refine ⟨accepted0, ⟨_, first, ?_, ?_, open0⟩, last, ?_, ?_⟩
  · rw [letterBs, List.getElem?_replicate, if_pos (by decide)]
  · rw [StaticArray.bytes_patch, if_pos (by decide)]
    decide
  · intro inserts
    rw [InsertsStatic, if_neg accepted0] at inserts
    rcases inserts with ⟨after, called, inserted⟩
    have same : _ = after := Option.some.inj (first.symm.trans called)
    subst same
    exact open0 inserted.terminated
  · intro inserts
    rw [InsertsStatic, if_neg accepted1, last] at inserts
    rcases inserts with ⟨after, called, _⟩
    cases called

/-! ## Runs of calls -/

/-- Every block is a string that NULs fill up. -/
def StaticArray.Padded (array : StaticArray) : Prop :=
  ∀ i < noBlocks, ∃ s, strlen s < soBlocks ∧ array.block i = padded soBlocks s

inductive StaticCall
  | create
  | deleteArray
  | insert (n : Int) (s : Text)
  | delete (n : Int)

def StaticCall.performed (array : StaticArray) : StaticCall → Option StaticArray
  | .create => createArrayStatic array
  | .deleteArray => deleteArrayStatic array
  | .insert n s => insertBlockStatic n s array
  | .delete n => deleteBlockStatic n array

/-- The calls of a program, one after the other. -/
def StaticArray.calls : StaticArray → List StaticCall → Option StaticArray
  | array, [] => some array
  | array, call :: calls => (call.performed array).bind fun following => following.calls calls

/-- An insertion that is accepted leaves room for the NUL. -/
def StaticCall.Short : StaticCall → Prop
  | .insert _ s => strlen s ≠ soBlocks
  | _ => True

namespace StaticArray

variable {array : StaticArray}

theorem zeros_block {i : Nat} (below : i < noBlocks) : zeros.block i = padded soBlocks [] := by
  apply List.ext_getElem?
  intro k
  have room : (i + 1) * soBlocks ≤ noBlocks * soBlocks := Nat.mul_le_mul_right _ below
  rw [Nat.add_mul] at room
  have empty : padded soBlocks [] = List.replicate soBlocks nul := rfl
  rw [block_getElem?, zeros, empty, List.getElem?_replicate, List.getElem?_replicate]
  split
  · rw [if_pos (by omega)]
  · rfl

theorem zeros_padded : zeros.Padded := fun _ below => ⟨[], by decide, zeros_block below⟩

/-- A padded block in place of another one. -/
theorem patch_padded {n : Nat} {s : Text} (short : strlen s < soBlocks) (kept : array.Padded)
    (fits : n * soBlocks + (padded soBlocks s).length ≤ noBlocks * soBlocks) :
    (array.patch (n * soBlocks) (padded soBlocks s) fits).Padded := by
  intro i below
  rw [block_patch (length_padded (by omega)) fits]
  split
  · exact ⟨s, short, rfl⟩
  · exact kept i below

end StaticArray

theorem deleteArrayStatic_eq (array : StaticArray) :
    deleteArrayStatic array = some StaticArray.zeros := by
  have length : (List.replicate (noBlocks * soBlocks) nul).length = noBlocks * soBlocks :=
    List.length_replicate
  have fits : 0 + (List.replicate (noBlocks * soBlocks) nul).length ≤ noBlocks * soBlocks := by
    omega
  rw [deleteArrayStatic, StaticArray.write_eq fits, Option.some.injEq]
  apply StaticArray.ext
  apply List.ext_getElem?
  intro k
  rw [StaticArray.bytes_patch, length, Nat.sub_zero]
  split
  · rfl
  · rw [List.getElem?_eq_none (by rw [array.size]; omega), StaticArray.zeros,
      List.getElem?_replicate, if_neg (by omega)]

theorem deleteBlockStatic_eq {n : Nat} (array : StaticArray) (below : n < noBlocks) :
    ∃ fits, deleteBlockStatic n array =
      some (array.patch (n * soBlocks) (padded soBlocks []) fits) := by
  have inside : ¬ ((n : Int) < 0 ∨ (n : Int) ≥ noBlocks) := by omega
  have fits := @StaticArray.block_fits (List.replicate soBlocks nul) n below
    List.length_replicate
  refine ⟨fits, ?_⟩
  rw [deleteBlockStatic, if_neg inside, Int.toNat_natCast]
  exact StaticArray.write_eq fits

/-- The blocks that `createArrayStatic` makes. -/
def letterAs : Text := List.replicate (soBlocks - 1) 'A'

theorem createBlocksStatic_eq {array : StaticArray} {i left : Nat} (inside : i + left ≤ noBlocks) :
    ∃ after, createBlocksStatic array i left = some after ∧
      ∀ k, after.block k =
        if i ≤ k ∧ k < i + left then padded soBlocks letterAs else array.block k := by
  induction left generalizing array i with
  | zero => exact ⟨array, rfl, fun k => (if_neg (by omega)).symm⟩
  | succ left induction =>
      have ended : padded soBlocks letterAs = letterAs ++ [nul] := rfl
      have length : (letterAs ++ [nul]).length = soBlocks := by decide
      have split : letterAs.length + 1 = soBlocks := by decide
      have whole := StaticArray.block_fits (n := i) (by omega) length
      have front : i * soBlocks + letterAs.length ≤ noBlocks * soBlocks := by omega
      have back : i * soBlocks + letterAs.length + [nul].length ≤ noBlocks * soBlocks := by
        rw [List.length_singleton]
        omega
      have written := @StaticArray.write_eq array _ _ front
      rcases @induction (array.patch (i * soBlocks) (letterAs ++ [nul]) whole) (i + 1)
        (by omega) with ⟨after, later, blocks⟩
      refine ⟨after, ?_, ?_⟩
      · have stored := @StaticArray.store_eq (array.patch (i * soBlocks) letterAs front)
          (i * soBlocks + letterAs.length) nul back
        rw [StaticArray.patch_append whole] at stored
        calc createBlocksStatic array i (left + 1)
          _ = (array.write (i * soBlocks) letterAs).bind fun array =>
                (array.store (i * soBlocks + letterAs.length) nul).bind fun array =>
                  createBlocksStatic array (i + 1) left := rfl
          _ = some after := by
                rw [written, Option.bind_some, stored, Option.bind_some]
                exact later
      · intro k
        rw [blocks, StaticArray.block_patch length whole, ended]
        by_cases here : k = i
        · rw [if_neg (by omega), if_pos here, if_pos (by omega)]
        · by_cases behind : i + 1 ≤ k ∧ k < i + 1 + left
          · rw [if_pos behind, if_pos (by omega)]
          · rw [if_neg behind, if_neg here, if_neg (by omega)]

theorem createArrayStatic_eq (array : StaticArray) :
    ∃ after, createArrayStatic array = some after ∧
      ∀ i < noBlocks, after.block i = padded soBlocks letterAs := by
  rcases @createBlocksStatic_eq array 0 noBlocks (by omega) with ⟨after, created, blocks⟩
  refine ⟨after, created, ?_⟩
  intro i below
  rw [blocks, if_pos ⟨Nat.zero_le i, by omega⟩]

/-- A call that makes no block too full is defined, and every block stays a string that NULs
fill up. -/
theorem performed_padded {call : StaticCall} {array : StaticArray} (kept : array.Padded)
    (short : call.Short) : ∃ after, call.performed array = some after ∧ after.Padded := by
  cases call with
  | create =>
      rcases createArrayStatic_eq array with ⟨after, created, blocks⟩
      exact ⟨after, created, fun i below => ⟨letterAs, by decide, blocks i below⟩⟩
  | deleteArray =>
      exact ⟨StaticArray.zeros, deleteArrayStatic_eq array, StaticArray.zeros_padded⟩
  | insert n s =>
      by_cases rejected : RejectsStatic n s
      · exact ⟨array, insertBlockStatic_rejected array rejected, kept⟩
      · have room : strlen s ≠ soBlocks := short
        unfold RejectsStatic at rejected
        lift n to Nat using by omega
        have shorter : strlen s < soBlocks := by omega
        rcases insertBlockStatic_short array (n := n) (by omega) shorter with ⟨fits, inserted⟩
        exact ⟨_, inserted, StaticArray.patch_padded shorter kept fits⟩
  | delete n =>
      by_cases outside : n < 0 ∨ n ≥ noBlocks
      · exact ⟨array, if_pos outside, kept⟩
      · lift n to Nat using by omega
        rcases deleteBlockStatic_eq array (n := n) (by omega) with ⟨fits, deleted⟩
        exact ⟨_, deleted, StaticArray.patch_padded (by decide) kept fits⟩

/-- In every run without an insertion that fills a block to its last byte, all blocks are
strings that NULs fill up. -/
theorem calls_padded {calls : List StaticCall} {array : StaticArray} (kept : array.Padded)
    (short : ∀ call ∈ calls, call.Short) :
    ∃ after, array.calls calls = some after ∧ after.Padded := by
  induction calls generalizing array with
  | nil => exact ⟨array, rfl, kept⟩
  | cons call calls induction =>
      rcases performed_padded kept (short call List.mem_cons_self) with
        ⟨following, performed, followingKept⟩
      rcases induction followingKept fun other member => short other (List.mem_cons_of_mem _ member)
        with ⟨after, rest, afterKept⟩
      refine ⟨after, ?_, afterKept⟩
      rw [StaticArray.calls, performed]
      exact rest

end OsExercises.BlockArray
