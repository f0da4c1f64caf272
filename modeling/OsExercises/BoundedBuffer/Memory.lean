import Mathlib.Logic.Function.Basic
import Mathlib.Tactic.Simps.Basic
import OsExercises.Foundation.Text

/-! # The bounded buffer: options and shared memory

The global variables that cw09/zad1 and cw09/zad2 have in common, and what the
statements of their two thread routines do to them. Locks and wake-ups differ
between the two programs and are modelled separately. -/

namespace OsExercises.BoundedBuffer

/-- What `setOptions` reads, within the ranges the programs are meant for. -/
structure Options where
  P : Nat
  K : Nat
  N : Nat
  L : Nat
  searchMode : Int
  NK : Nat
  producersPositive : 0 < P
  consumersPositive : 0 < K
  cellsPositive : 0 < N

/-- One cell, one thread of each kind. -/
def oneCell : Options where
  P := 1
  K := 1
  N := 1
  L := 2
  searchMode := 0
  NK := 0
  producersPositive := by decide
  consumersPositive := by decide
  cellsPositive := by decide

inductive Thread (options : Options)
  | producer (index : Fin options.P)
  | consumer (index : Fin options.K)
  deriving DecidableEq

structure Memory where
  globalBuffer : Nat → Option Text
  writingPos : Nat
  readingPos : Nat
  lineNr : Nat
  /-- an `int` -/
  lineCounter : Int
  endTime : Bool
  /-- Position of the stream: how many lines `getline` has returned. -/
  filePos : Nat
  /-- The lines consumers have taken out of cells, in that order. -/
  consumed : List Text

namespace Memory

/-- The memory when `main` starts the threads. -/
def initial : Memory where
  globalBuffer _ := none
  writingPos := 0
  readingPos := 0
  lineNr := 0
  lineCounter := 0
  endTime := false
  filePos := 0
  consumed := []

/-- The cell a producer works on. -/
def writingCell (memory : Memory) : Option Text :=
  memory.globalBuffer memory.writingPos

/-- The cell a consumer works on. -/
def readingCell (memory : Memory) : Option Text :=
  memory.globalBuffer memory.readingPos

/-- `global_buffer[writing_pos] = line_buf; line_nr++` -/
@[simps -fullyApplied] def store (memory : Memory) (line : Text) : Memory :=
  { memory with
    globalBuffer :=
      Function.update memory.globalBuffer memory.writingPos (some line)
    lineNr := memory.lineNr + 1 }

/-- `++writing_pos; writing_pos %= N` -/
@[simps -fullyApplied] def advanceWriting (memory : Memory) (N : Nat) : Memory :=
  { memory with writingPos := (memory.writingPos + 1) % N }

/-- `global_buffer[reading_pos] = NULL`, where the line leaves the buffer. -/
@[simps -fullyApplied] def clear (memory : Memory) : Memory :=
  { memory with
    globalBuffer := Function.update memory.globalBuffer memory.readingPos none
    consumed := memory.consumed ++ memory.readingCell.toList }

/-- `++reading_pos; reading_pos %= N` -/
@[simps -fullyApplied] def advanceReading (memory : Memory) (N : Nat) : Memory :=
  { memory with readingPos := (memory.readingPos + 1) % N }

end Memory

/-- The three tests a consumer makes on a line, one after the other. -/
def searchLine (options : Options) (line : Text) (lineCounter : Int) : Int :=
  let lineCounter :=
    if strlen line < options.L ∧ options.searchMode = 0 then int32 (lineCounter + 1)
    else lineCounter
  let lineCounter :=
    if strlen line = options.L ∧ options.searchMode = 1 then int32 (lineCounter + 1)
    else lineCounter
  if strlen line > options.L ∧ options.searchMode = 2 then int32 (lineCounter + 1)
  else lineCounter

/-- The lines the search mode asks for. -/
def Wanted (options : Options) (line : Text) : Prop :=
  (options.searchMode = 0 ∧ strlen line < options.L) ∨
    (options.searchMode = 1 ∧ strlen line = options.L) ∨
    (options.searchMode = 2 ∧ strlen line > options.L)

instance (options : Options) : DecidablePred (Wanted options) := fun line =>
  inferInstanceAs (Decidable ((options.searchMode = 0 ∧ strlen line < options.L) ∨
    (options.searchMode = 1 ∧ strlen line = options.L) ∨
    (options.searchMode = 2 ∧ strlen line > options.L)))

theorem searchLine_eq (options : Options) (line : Text) (lineCounter : Int) :
    searchLine options line lineCounter =
      if Wanted options line then int32 (lineCounter + 1) else lineCounter := by
  unfold searchLine Wanted
  by_cases shorter : options.searchMode = 0
  · simp [shorter]
  · by_cases exactly : options.searchMode = 1
    · simp [exactly]
    · simp [shorter, exactly, and_comm]

/-- `line_counter` is the number of lines that the search mode asks for. From 2^31 such lines
on that does not fit, and the counter has wrapped around. -/
structure Counted (options : Options) (lines : List Text) (lineCounter : Int) : Prop where
  wraps : lineCounter = int32 (lines.filter fun line => Wanted options line).length
  fits : (lines.filter fun line => Wanted options line).length < 2 ^ 31 →
    lineCounter = (lines.filter fun line => Wanted options line).length

theorem counted_of_eq {options : Options} {lines : List Text} {lineCounter : Int}
    (wraps : lineCounter = int32 (lines.filter fun line => Wanted options line).length) :
    Counted options lines lineCounter := by
  refine ⟨wraps, ?_⟩
  intro few
  rw [wraps]
  exact int32_of_lt (by omega) (by exact_mod_cast few)

/-- The next line is searched. -/
theorem counted_concat {options : Options} {lines : List Text} {lineCounter : Int}
    (counted : Counted options lines lineCounter) (line : Text) :
    Counted options (lines ++ [line]) (searchLine options line lineCounter) := by
  apply counted_of_eq
  rw [searchLine_eq, counted.wraps, List.filter_append, List.length_append]
  by_cases wanted : Wanted options line
  · rw [if_pos wanted, int32_add]
    simp [wanted]
  · simp [wanted]

/-- Where `main` is after it has started all threads. -/
inductive MainPc
  /-- `sleep(NK)`, when `NK` is not zero -/
  | sleep
  | joinProducer (index : Nat)
  | joinConsumer (index : Nat)
  /-- the final `printf` with `line_counter` -/
  | printFound
  | returned
  deriving DecidableEq

namespace MainPc

variable {options : Options}

/-- Where `main` starts to wait for its threads. -/
def initial (options : Options) : MainPc :=
  if options.NK = 0 then .joinProducer 0 else .sleep

/-- One statement of `main`: it joins the producers, then the consumers, and
prints; or it sleeps and ends the process, which in zad2 cancels the threads
first. Joining needs a thread that has returned. -/
def next (producerReturned : Fin options.P → Bool)
    (consumerReturned : Fin options.K → Bool) : MainPc → Option MainPc
  | .sleep => some .returned
  | .joinProducer index =>
      if present : index < options.P then
        if producerReturned ⟨index, present⟩ then some (.joinProducer (index + 1))
        else none
      else
        some (.joinConsumer 0)
  | .joinConsumer index =>
      if present : index < options.K then
        if consumerReturned ⟨index, present⟩ then some (.joinConsumer (index + 1))
        else none
      else
        some .printFound
  | .printFound => some .returned
  | .returned => none

variable {producerReturned : Fin options.P → Bool}
variable {consumerReturned : Fin options.K → Bool} {main : MainPc}

/-- `main` reaches a consumer first, or after it has joined the one before. -/
theorem next_joinConsumer {index : Nat}
    (taken : main.next producerReturned consumerReturned = some (.joinConsumer index)) :
    index = 0 ∨ ∃ previous : Fin options.K, main = .joinConsumer previous ∧
      consumerReturned previous = true ∧ index = previous + 1 := by
  cases main with
  | joinConsumer previous =>
      simp only [next] at taken
      split at taken
      · next present =>
          split at taken
          · next returned =>
              cases taken
              exact .inr ⟨⟨previous, present⟩, rfl, returned, rfl⟩
          · cases taken
      · cases taken
  | joinProducer previous =>
      simp only [next] at taken
      split at taken
      · split at taken <;> cases taken
      · cases taken
        exact .inl rfl
  | sleep | printFound | returned => cases taken

/-- `main` prints after it has joined every consumer. -/
theorem next_printFound
    (taken : main.next producerReturned consumerReturned = some .printFound) :
    ∃ index, main = .joinConsumer index ∧ options.K ≤ index := by
  cases main with
  | joinConsumer index =>
      simp only [next] at taken
      split at taken
      · split at taken <;> cases taken
      · next absent => exact ⟨index, rfl, Nat.le_of_not_lt absent⟩
  | joinProducer index =>
      simp only [next] at taken
      split at taken
      · split at taken <;> cases taken
      · cases taken
  | sleep | printFound | returned => cases taken

/-- After all threads have returned `main` goes on to its end. -/
theorem eq_returned_of_next (producers : ∀ index, producerReturned index = true)
    (consumers : ∀ index, consumerReturned index = true)
    (stuck : main.next producerReturned consumerReturned = none) : main = .returned := by
  cases main with
  | joinProducer index =>
      simp only [next, producers, if_true] at stuck
      split at stuck <;> cases stuck
  | joinConsumer index =>
      simp only [next, consumers, if_true] at stuck
      split at stuck <;> cases stuck
  | sleep | printFound => cases stuck
  | returned => rfl

end MainPc

end OsExercises.BoundedBuffer
