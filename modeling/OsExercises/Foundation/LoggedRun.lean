/-! # Runs with a log

What a sequential program does between the calls of a library changes its state; the log
has the state before each call. -/

namespace OsExercises

/-- The states before the calls, and the state at the end. Without one the program has come
to something that is undefined. -/
structure LoggedRun (State : Type u) where
  log : List State
  final : Option State

namespace LoggedRun

variable {State : Type u}

def done (state : State) : LoggedRun State where
  log := []
  final := some state

def undefined : LoggedRun State where
  log := []
  final := none

/-- A call of the library. -/
def call (state : State) (performed : Option State) : LoggedRun State where
  log := [state]
  final := performed

def bind (run : LoggedRun State) (next : State → LoggedRun State) : LoggedRun State :=
  match run.final with
  | none => run
  | some state =>
      { log := run.log ++ (next state).log
        final := (next state).final }

/-- The loop `for (; j < n; j++)` with `left` rounds to go. -/
def rounds (round : Nat → State → LoggedRun State) : (left j : Nat) → State → LoggedRun State
  | 0, _, state => done state
  | left + 1, j, state => (round j state).bind (rounds round left (j + 1))

/-! ## What holds at every call -/

structure Keeps (Holds : State → Prop) (run : LoggedRun State) : Prop where
  log : ∀ state ∈ run.log, Holds state
  final : ∀ state, run.final = some state → Holds state

section Keeps

variable {Holds : State → Prop}

theorem Keeps.done {state : State} (holds : Holds state) : (done state).Keeps Holds where
  log := by
    intro other member
    cases member
  final := by
    intro other same
    cases same
    exact holds

theorem Keeps.call {state : State} {performed : Option State} (holds : Holds state)
    (after : ∀ following, performed = some following → Holds following) :
    (call state performed).Keeps Holds where
  log := by
    intro other member
    rcases List.mem_singleton.mp member with rfl
    exact holds
  final := after

theorem Keeps.bind {run : LoggedRun State} {next : State → LoggedRun State}
    (first : run.Keeps Holds) (later : ∀ state, Holds state → (next state).Keeps Holds) :
    (run.bind next).Keeps Holds := by
  cases ends : run.final with
  | none =>
      rw [LoggedRun.bind, ends]
      exact first
  | some state =>
      have rest := later state (first.final state ends)
      rw [LoggedRun.bind, ends]
      refine ⟨?_, rest.final⟩
      intro other member
      rcases List.mem_append.mp member with before | after
      · exact first.log other before
      · exact rest.log other after

/-- A loop keeps what each of its rounds keeps. -/
theorem Keeps.rounds {round : Nat → State → LoggedRun State} {left j : Nat} {state : State}
    (each : ∀ j state, Holds state → (round j state).Keeps Holds) (holds : Holds state) :
    (rounds round left j state).Keeps Holds := by
  induction left generalizing j state with
  | zero => exact Keeps.done holds
  | succ left induction => exact (each j state holds).bind fun _ kept => induction kept

theorem final_bind (run : LoggedRun State) (next : State → LoggedRun State) :
    (run.bind next).final = run.final.bind fun state => (next state).final := by
  unfold LoggedRun.bind
  split
  · next ends => rw [ends, Option.bind_none]
  · next ends => rw [ends, Option.bind_some]

/-- A loop counts down by what each of its rounds counts down. -/
theorem final_rounds (count : State → Int) (amount : Int)
    {round : Nat → State → LoggedRun State} {left j : Nat} {state ends : State}
    (each : ∀ j state following, Holds state → (round j state).final = some following →
      Holds following ∧ count following = count state - amount)
    (holds : Holds state) (final : (LoggedRun.rounds round left j state).final = some ends) :
    Holds ends ∧ count ends = count state - left * amount := by
  induction left generalizing j state with
  | zero =>
      cases final
      exact ⟨holds, by simp⟩
  | succ left induction =>
      rw [LoggedRun.rounds, final_bind] at final
      rcases Option.bind_eq_some_iff.mp final with ⟨following, first, later⟩
      rcases each j state following holds first with ⟨kept, counted⟩
      rcases induction kept later with ⟨keptAtEnd, countedAtEnd⟩
      refine ⟨keptAtEnd, ?_⟩
      rw [countedAtEnd, counted, Int.natCast_add, Int.add_mul]
      omega

/-- A loop comes to its end if every round does, as long as there is enough to count down. -/
theorem rounds_end (count : State → Int) (amount : Int)
    {round : Nat → State → LoggedRun State} {left j : Nat} {state : State} (nonneg : 0 ≤ amount)
    (each : ∀ j state, Holds state → amount < count state →
      ∃ following, (round j state).final = some following ∧ Holds following ∧
        count following = count state - amount)
    (holds : Holds state) (enough : left * amount < count state) :
    ∃ ends, (LoggedRun.rounds round left j state).final = some ends ∧ Holds ends ∧
      count ends = count state - left * amount := by
  induction left generalizing j state with
  | zero => exact ⟨state, rfl, holds, by simp⟩
  | succ left induction =>
      rw [Int.natCast_add, Int.add_mul] at enough
      have rest : 0 ≤ left * amount := Int.mul_nonneg (Int.natCast_nonneg left) nonneg
      rcases each j state holds (by omega) with ⟨following, first, kept, counted⟩
      rcases induction (j := j + 1) kept (by omega) with ⟨ends, later, keptAtEnd, countedAtEnd⟩
      refine ⟨ends, ?_, keptAtEnd, ?_⟩
      · rw [LoggedRun.rounds, final_bind, first]
        exact later
      · rw [countedAtEnd, counted, Int.natCast_add, Int.add_mul]
        omega

end Keeps

/-! ## What a run comes to -/

/-- The run comes to a state at a call or at its end. -/
def Reaches (run : LoggedRun State) (state : State) : Prop :=
  state ∈ run.log ∨ run.final = some state

section Reaches

variable {run : LoggedRun State} {next : State → LoggedRun State} {state found : State}

theorem mem_log_bind (member : found ∈ run.log) : found ∈ (run.bind next).log := by
  unfold bind
  split
  · exact member
  · exact List.mem_append_left _ member

theorem Reaches.after (ends : run.final = some state) (later : (next state).Reaches found) :
    (run.bind next).Reaches found := by
  rw [LoggedRun.bind, ends]
  exact later.imp_left fun member => List.mem_append_right _ member

/-- What comes next starts with the state. -/
theorem Reaches.bind (first : run.Reaches state) (later : (next state).Reaches state) :
    (run.bind next).Reaches state := by
  rcases first with member | ends
  · exact .inl (mem_log_bind member)
  · exact .after ends later

theorem Reaches.bind_log (first : run.Reaches state) (later : state ∈ (next state).log) :
    state ∈ (run.bind next).log := by
  rcases first with member | ends
  · exact mem_log_bind member
  · rw [LoggedRun.bind, ends]
    exact List.mem_append_right _ later

theorem Reaches.rounds {round : Nat → State → LoggedRun State} {left j : Nat}
    (each : ∀ j, (round j state).Reaches state) :
    (rounds round left j state).Reaches state := by
  induction left generalizing j with
  | zero => exact .inr rfl
  | succ left induction => exact (each j).bind induction

end Reaches

end LoggedRun

end OsExercises
