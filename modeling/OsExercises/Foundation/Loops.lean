import Mathlib.Data.List.Basic

/-! # Loops that may fail

A loop over a list whose rounds are partial goes through when every round does, and
a loop that has gone through has gone through every round. -/

namespace OsExercises

variable {Item Local : Type*} {round : Local → Item → Option Local} {items : List Item}

/-- A loop without a failing round does what its rounds do. -/
theorem foldlM_of_some {effect : Local → Item → Local}
    (each : ∀ state, ∀ item ∈ items, round state item = some (effect state item))
    (state : Local) : items.foldlM round state = some (items.foldl effect state) := by
  induction items generalizing state with
  | nil => rfl
  | cons item items induction =>
      have first := fun state => each state item List.mem_cons_self
      have others := fun state other member => each state other (List.mem_cons_of_mem item member)
      rw [List.foldlM_cons, first state]
      exact induction others (effect state item)

/-- Every round of a loop that has gone through was taken in some state. -/
theorem exists_round {state final : Local} (complete : items.foldlM round state = some final)
    {item : Item} (member : item ∈ items) :
    ∃ before after, round before item = some after := by
  induction items generalizing state with
  | nil => cases member
  | cons first items induction =>
      rw [List.foldlM_cons] at complete
      rcases Option.bind_eq_some_iff.mp complete with ⟨middle, taken, others⟩
      rcases List.mem_cons.mp member with rfl | later
      · exact ⟨state, middle, taken⟩
      · exact induction others later

/-! ## Loops that collect -/

variable {Result : Type*} {call : Item → Option Result}

theorem mapM_of_some {result : Item → Result}
    (each : ∀ item ∈ items, call item = some (result item)) :
    items.mapM call = some (items.map result) := by
  induction items with
  | nil => rfl
  | cons item items induction =>
      have first := each item List.mem_cons_self
      have others := fun other member => each other (List.mem_cons_of_mem item member)
      simp only [List.mapM_cons, first, induction others, Option.bind_eq_bind, Option.bind_some,
        Option.pure_def, List.map_cons]

theorem exists_result {results : List Result} (complete : items.mapM call = some results)
    {item : Item} (member : item ∈ items) : ∃ result, call item = some result := by
  induction items generalizing results with
  | nil => cases member
  | cons first items induction =>
      simp only [List.mapM_cons, Option.bind_eq_bind, Option.bind_eq_some_iff] at complete
      rcases complete with ⟨result, called, others, later, _⟩
      rcases List.mem_cons.mp member with rfl | behind
      · exact ⟨result, called⟩
      · exact induction later behind

end OsExercises
