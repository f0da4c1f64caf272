import Mathlib.Tactic.Simps.Basic
import OsExercises.Foundation.Text
import OsExercises.Foundation.TransitionSystem

/-! # The image filter

The threads of cw08/zad1. `main` hands every worker an interval of rows, joins
workers and writes the filtered image. Nobody changes the image that is read or the
filter while the workers run, so a worker computes and stores a pixel in one step.

Numbers of type `int` have 32 bits, and the arithmetic of `double` is left open. An
access outside an image ends the process. What lies behind the block of `thread_ar`
is left open: a handle that is stored there may take the place of the interval of a
worker. -/

namespace OsExercises.ImageFilter

open OsExercises

structure Arithmetic (Double : Type) where
  zero : Double
  add : Double → Double → Double
  /-- An `int` times a `double`. -/
  scale : Int → Double → Double
  /-- `(int) round(s)` -/
  round : Double → Int

/-- What `main` reads before it creates the threads. -/
structure Options (Double : Type) where
  arithmetic : Arithmetic Double
  threadNo : Nat
  height : Nat
  width : Nat
  c : Int
  imgInArray : Int → Int → Int
  filterArray : Nat → Nat → Double
  /-- What `malloc` leaves in `img_out_array`. -/
  garbage : Int → Int → Int
  /-- How many handles fit into the block that `malloc` returns for `thread_ar`. -/
  room : Nat
  threadNo_pos : 0 < threadNo
  threadNo_lt : threadNo < 2 ^ 31
  height_lt : height < 2 ^ 31
  width_pos : 0 < width
  width_lt : width < 2 ^ 31
  c_lt : c < 2 ^ 31
  room_le : threadNo ≤ room

theorem one_lt_int : 1 < 2 ^ 31 := by decide

theorem two_lt_int : 2 < 2 ^ 31 := by decide

theorem three_lt_int : 3 < 2 ^ 31 := by decide

theorem one_int : (1 : Int) < 2 ^ 31 := by decide

theorem one_le_three : 1 ≤ 3 := by decide

theorem two_le_three : 2 ≤ 3 := by decide

/-! ## One pixel -/

/-- The position that the kernel reads, moved to the next pixel of the image when it
is outside. `(int) ceil(c / 2.0)` is `(c + 1) / 2`. The first comparison is one of
numbers of type `double`, which are exact; the others are of type `int`. -/
def clampedIndex (position c : Int) (offset size : Nat) : Int :=
  let shifted := int32 (int32 (position - (c + 1) / 2) + offset)
  if 0 < position - (c + 1) / 2 + offset then
    if shifted < size - 1 then shifted else size - 1
  else
    0

variable {Double : Type}

def indexI (options : Options Double) (x : Int) (i : Nat) : Int :=
  clampedIndex x options.c i options.height

def indexJ (options : Options Double) (y : Int) (j : Nat) : Int :=
  clampedIndex y options.c j options.width

/-- A position of the image. -/
def Inside (options : Options Double) (x y : Int) : Prop :=
  (0 ≤ x ∧ x < options.height) ∧ 0 ≤ y ∧ y < options.width

instance (options : Options Double) (x y : Int) : Decidable (Inside options x y) :=
  inferInstanceAs (Decidable ((_ ∧ _) ∧ _ ∧ _))

/-- `img_in_array[x][y]` -/
def loadPixel (options : Options Double) (x y : Int) : Option Int :=
  if Inside options x y then some (options.imgInArray x y) else none

/-- `s += img_in_array[index_i][index_j] * filter_array[i][j]` -/
def addCell (options : Options Double) (x y : Int) (i : Nat) (s : Double) (j : Nat) :
    Option Double := do
  let value ← loadPixel options (indexI options x i) (indexJ options y j)
  return options.arithmetic.add s (options.arithmetic.scale value (options.filterArray i j))

/-- The two inner loops of `start_routine`: what goes to `img_out_array[x][y]`. -/
def pixel (options : Options Double) (x y : Int) : Option Int := do
  let kernel := List.range options.c.toNat
  let s ← kernel.foldlM (fun s i => kernel.foldlM (addCell options x y i) s)
    options.arithmetic.zero
  return options.arithmetic.round s

/-- `array[x][y] = value` -/
def writePixel (array : Int → Int → Int) (x y value : Int) : Int → Int → Int :=
  Function.update array x (Function.update (array x) y value)

/-- `img_out_array[x][y] = (int) round(s)`, with the loops before it. -/
def storePixel (options : Options Double) (array : Int → Int → Int) (x y : Int) :
    Option (Int → Int → Int) :=
  if Inside options x y then (pixel options x y).map (writePixel array x y) else none

/-- The loop over one row, which `main` keeps in a comment with the loop around it. -/
def sequentialRow (options : Options Double) (array : Int → Int → Int) (x : Int)
    (width : Nat) : Option (Int → Int → Int) :=
  (List.range width).foldlM (fun array (y : Nat) => storePixel options array x y) array

/-- `img_out_array` after the loops that `main` keeps in a comment. -/
def sequential (options : Options Double) : Option (Int → Int → Int) :=
  (List.range options.height).foldlM
    (fun array (x : Nat) => sequentialRow options array x options.width) options.garbage

/-! ## Threads -/

/-- The next statement of a worker; `stop` is its `end`. -/
inductive WorkerPc
  | notCreated
  /-- `int start = ar[0]` -/
  | readStart
  /-- `int end = ar[1]` -/
  | readEnd (start : Int)
  /-- `x < end` -/
  | testRow (x stop : Int)
  /-- `y < width`, and the pixel -/
  | testColumn (x y stop : Int)
  | returned
  deriving DecidableEq

inductive MainPc
  /-- the loop that creates threads -/
  | create (i : Nat)
  /-- the loop that joins them -/
  | join (i : Nat)
  /-- the loops that write the image to the file -/
  | output (i j : Nat)
  | returned
  /-- an access outside an image has ended the process -/
  | killed
  deriving DecidableEq

/-- The worker with number `k` is the one created for `i = 2 * k`. -/
structure State where
  main : MainPc
  worker : Nat → WorkerPc
  /-- What is in the array `ar` of each worker. -/
  ar : Nat → Int × Int
  /-- The handles in `thread_ar`; `none` where nothing was stored. -/
  threadAr : Nat → Option Nat
  imgOutArray : Int → Int → Int
  imgOut : List Int
  /-- The indices at which `main` has stored handles. No step depends on them. -/
  stored : List Nat
  /-- The arguments of the calls of `pthread_join` that have returned. No step depends
  on them. -/
  joined : List (Option Nat)

namespace State

@[simps -fullyApplied] def moveMain (state : State) (main : MainPc) : State :=
  { state with main := main }

@[simps -fullyApplied] def moveWorker (state : State) (k : Nat) (pc : WorkerPc) : State :=
  { state with worker := Function.update state.worker k pc }

@[simps -fullyApplied] def setImgOutArray (state : State) (array : Int → Int → Int) : State :=
  { state with imgOutArray := array }

/-- `pthread_join` has returned. -/
@[simps -fullyApplied] def logJoin (state : State) (handle : Option Nat) : State :=
  { state with joined := state.joined ++ [handle] }

end State

/-- The value of `thread_no * 2`. -/
def twiceThreadNo (options : Options Double) : Int :=
  int32 (options.threadNo * 2)

/-- `ar[0]` -/
def arStart (options : Options Double) (i : Nat) : Int :=
  (int32 ((options.height / options.threadNo : Nat) * i)).tdiv 2

/-- `ar[1]` -/
def arEnd (options : Options Double) (i : Nat) : Int :=
  if (i : Int) = int32 (twiceThreadNo options - 2) then options.height
  else int32 ((options.height / options.threadNo : Nat) * (i / 2 + 1 : Nat))

/-- The two numbers that `main` puts into `ar`. -/
def interval (options : Options Double) (i : Nat) : Int × Int :=
  (arStart options i, arEnd options i)

/-- What a handle takes the place of that is stored behind the block of `thread_ar`: the
array of a worker, and what the handle is as two numbers; or memory of another use. -/
abbrev Behind := Option (Nat × Int × Int)

/-- The arrays of the workers when a handle has been stored at `thread_ar[i]`. -/
def overwrittenAr (options : Options Double) (ar : Nat → Int × Int) (i : Nat) (behind : Behind) :
    Nat → Int × Int :=
  if i < options.room then ar
  else behind.elim ar fun (k, handle) => Function.update ar k handle

/-- The body of the loop that creates threads: the worker gets the number `i / 2`. -/
@[simps -fullyApplied] def createThread (options : Options Double) (state : State) (i : Nat)
    (behind : Behind) : State :=
  { state with
    worker := Function.update state.worker (i / 2) .readStart
    ar := overwrittenAr options (Function.update state.ar (i / 2) (interval options i)) i behind
    threadAr :=
      if i < options.threadNo then Function.update state.threadAr i (some (i / 2))
      else state.threadAr
    stored := state.stored ++ [i] }

/-- One statement of `start_routine`. -/
def startRoutine (options : Options Double) (state : State) (k : Nat) : Option State :=
  match state.worker k with
  | .readStart => some <| state.moveWorker k (.readEnd (state.ar k).1)
  | .readEnd start => some <| state.moveWorker k (.testRow start (state.ar k).2)
  | .testRow x stop =>
      some <| state.moveWorker k (if x < stop then .testColumn x 0 stop else .returned)
  | .testColumn x y stop =>
      if y < options.width then
        match storePixel options state.imgOutArray x y with
        | some array =>
            some <| (state.setImgOutArray array).moveWorker k (.testColumn x (y + 1) stop)
        | none => some <| state.moveMain .killed
      else
        some <| state.moveWorker k (.testRow (x + 1) stop)
  | .notCreated | .returned => none

/-- One statement of `main`. Joining what is no handle returns at once. -/
def mainThread (options : Options Double) (state : State) (behind : Behind) : Option State :=
  match state.main with
  | .create i =>
      if (i : Int) < twiceThreadNo options then
        some <| (createThread options state i behind).moveMain (.create (i + 2))
      else
        some <| state.moveMain (.join 0)
  | .join i =>
      if i < options.threadNo then
        match state.threadAr i with
        | none => some <| (state.logJoin none).moveMain (.join (i + 1))
        | some k =>
            if state.worker k = .returned then
              some <| (state.logJoin (some k)).moveMain (.join (i + 1))
            else
              none
      else
        some <| state.moveMain (.output 0 0)
  | .output i j =>
      if i < options.height then
        if j < options.width then
          some <| { state with imgOut := state.imgOut ++ [state.imgOutArray i j] }.moveMain
            (.output i (j + 1))
        else
          some <| state.moveMain (.output (i + 1) 0)
      else
        some <| state.moveMain .returned
  | .returned | .killed => none

def initial (options : Options Double) : State where
  main := .create 0
  worker _ := .notCreated
  ar _ := (0, 0)
  threadAr _ := none
  imgOutArray := options.garbage
  imgOut := []
  stored := []
  joined := []

inductive Action
  /-- `behind` matters only where a handle is stored behind the block of `thread_ar`. -/
  | main (behind : Behind)
  | worker (k : Nat)
  deriving DecidableEq

/-- The process has ended, and every thread with it. -/
def MainPc.Ended (main : MainPc) : Prop :=
  main = .returned ∨ main = .killed

instance (main : MainPc) : Decidable main.Ended :=
  inferInstanceAs (Decidable (_ ∨ _))

/-- All threads together. -/
def system (options : Options Double) : TransitionSystem State Action where
  initial := initial options
  next state action :=
    if state.main.Ended then
      none
    else
      match action with
      | .main behind => mainThread options state behind
      | .worker k => startRoutine options state k

/-! ## What a statement does -/

section Steps

variable {options : Options Double} {state following : State}

inductive WorkerStep (options : Options Double) (state : State) (k : Nat) : State → Prop
  | readStart (pc : state.worker k = .readStart) :
      WorkerStep options state k (state.moveWorker k (.readEnd (state.ar k).1))
  | readEnd (start : Int) (pc : state.worker k = .readEnd start) :
      WorkerStep options state k (state.moveWorker k (.testRow start (state.ar k).2))
  | enterRow (x stop : Int) (pc : state.worker k = .testRow x stop) (inside : x < stop) :
      WorkerStep options state k (state.moveWorker k (.testColumn x 0 stop))
  | finish (x stop : Int) (pc : state.worker k = .testRow x stop) (beyond : stop ≤ x) :
      WorkerStep options state k (state.moveWorker k .returned)
  | write (x y stop value : Int) (pc : state.worker k = .testColumn x y stop)
      (inside : Inside options x y) (filtered : pixel options x y = some value) :
      WorkerStep options state k
        ((state.setImgOutArray (writePixel state.imgOutArray x y value)).moveWorker k
          (.testColumn x (y + 1) stop))
  | kill (x y stop : Int) (pc : state.worker k = .testColumn x y stop)
      (outside : storePixel options state.imgOutArray x y = none) :
      WorkerStep options state k (state.moveMain .killed)
  | leaveRow (x y stop : Int) (pc : state.worker k = .testColumn x y stop)
      (beyond : options.width ≤ y) :
      WorkerStep options state k (state.moveWorker k (.testRow (x + 1) stop))

theorem storePixel_eq_some {array stored : Int → Int → Int} {x y : Int} :
    storePixel options array x y = some stored ↔
      Inside options x y ∧ ∃ value, pixel options x y = some value ∧
        writePixel array x y value = stored := by
  simp only [storePixel, Option.ite_none_right_eq_some, Option.map_eq_some_iff]

theorem startRoutine_cases {k : Nat} (taken : startRoutine options state k = some following) :
    WorkerStep options state k following := by
  cases pc : state.worker k with
  | readStart =>
      simp only [startRoutine, pc, Option.some.injEq] at taken
      subst taken
      exact .readStart pc
  | readEnd start =>
      simp only [startRoutine, pc, Option.some.injEq] at taken
      subst taken
      exact .readEnd start pc
  | testRow x stop =>
      simp only [startRoutine, pc, Option.some.injEq] at taken
      subst taken
      split
      · next inside => exact .enterRow x stop pc inside
      · next outside => exact .finish x stop pc (Int.not_lt.mp outside)
  | testColumn x y stop =>
      simp only [startRoutine, pc] at taken
      split at taken
      · split at taken
        · next array stored =>
            cases taken
            rcases storePixel_eq_some.mp stored with ⟨inside, value, filtered, rfl⟩
            exact .write x y stop value pc inside filtered
        · next outside =>
            cases taken
            exact .kill x y stop pc outside
      · next outside =>
          cases taken
          exact .leaveRow x y stop pc (Int.not_lt.mp outside)
  | notCreated | returned => simp [startRoutine, pc] at taken

inductive MainStep (options : Options Double) (state : State) : State → Prop
  | create (i : Nat) (behind : Behind) (pc : state.main = .create i)
      (more : (i : Int) < twiceThreadNo options) :
      MainStep options state ((createThread options state i behind).moveMain (.create (i + 2)))
  | startJoining (i : Nat) (pc : state.main = .create i)
      (all : twiceThreadNo options ≤ (i : Int)) :
      MainStep options state (state.moveMain (.join 0))
  | join (i k : Nat) (pc : state.main = .join i) (more : i < options.threadNo)
      (handle : state.threadAr i = some k) (returned : state.worker k = .returned) :
      MainStep options state ((state.logJoin (some k)).moveMain (.join (i + 1)))
  | joinGarbage (i : Nat) (pc : state.main = .join i) (more : i < options.threadNo)
      (handle : state.threadAr i = none) :
      MainStep options state ((state.logJoin none).moveMain (.join (i + 1)))
  | startOutput (i : Nat) (pc : state.main = .join i) (all : options.threadNo ≤ i) :
      MainStep options state (state.moveMain (.output 0 0))
  | output (imgOut : List Int) (i j : Nat) (next : MainPc) (pc : state.main = .output i j)
      (further : (∃ row column, next = .output row column) ∨ next = .returned) :
      MainStep options state ({ state with imgOut := imgOut }.moveMain next)

theorem mainThread_cases {behind : Behind}
    (taken : mainThread options state behind = some following) :
    MainStep options state following := by
  cases pc : state.main with
  | create i =>
      simp only [mainThread, pc] at taken
      split at taken
      · next more =>
          cases taken
          exact .create i behind pc more
      · next all =>
          cases taken
          exact .startJoining i pc (Int.not_lt.mp all)
  | join i =>
      simp only [mainThread, pc] at taken
      split at taken
      · next more =>
          cases handle : state.threadAr i with
          | none =>
              simp only [handle, Option.some.injEq] at taken
              subst taken
              exact .joinGarbage i pc more handle
          | some k =>
              simp only [handle] at taken
              split at taken
              · next returned =>
                  cases taken
                  exact .join i k pc more handle returned
              · cases taken
      · next all =>
          cases taken
          exact .startOutput i pc (Nat.not_lt.mp all)
  | output i j =>
      simp only [mainThread, pc] at taken
      split at taken
      · split at taken
        · cases taken
          exact .output _ i j _ pc (.inl ⟨_, _, rfl⟩)
        · cases taken
          exact .output state.imgOut i j _ pc (.inl ⟨_, _, rfl⟩)
      · cases taken
        exact .output state.imgOut i j _ pc (.inr rfl)
  | returned | killed => simp [mainThread, pc] at taken

/-- One statement of one thread. -/
inductive StepOf (options : Options Double) (state following : State) : Action → Prop
  | main (behind : Behind) (step : MainStep options state following) :
      StepOf options state following (.main behind)
  | worker (k : Nat) (step : WorkerStep options state k following) :
      StepOf options state following (.worker k)

theorem system_step {action : Action}
    (taken : (system options).next state action = some following) :
    StepOf options state following action := by
  simp only [system] at taken
  split at taken
  · cases taken
  · cases action with
    | main behind => exact .main behind (mainThread_cases taken)
    | worker k => exact .worker k (startRoutine_cases taken)

end Steps

end OsExercises.ImageFilter
