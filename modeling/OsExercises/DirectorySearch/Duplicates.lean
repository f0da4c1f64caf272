import OsExercises.DirectorySearch.Processes

/-! # Records that are written twice

A child writes out the copy of the buffer that it has got from its parent, so the
bytes that are in the buffer at a fork are written twice. -/

namespace OsExercises.DirectorySearch.Forking

section Output

variable {localtime : Int → Date} {start : Text} {date : Date}
variable {buffering : Buffering} {operator : Operator} {root : Listing}

def records (localtime : Int → Date) (start : Text) (found : List Found) : Text :=
  found.flatMap (record localtime start)

/-- The output of a search that has come to its end is the output of the recursion. -/
theorem output_of_ends {final : State}
    (leads : (searching localtime start date buffering (searchFunction operator) root).Leads
      (initial root) final) (ends : final.processes = []) :
    final.output = (scan localtime start date buffering operator [] [] root).1 ++
        (scan localtime start date buffering operator [] [] root).2 ∧
      final.printed = matching localtime date operator [] root := by
  have stops : ∀ state : State, state.processes = [] → ∀ action,
      (searching localtime start date buffering (searchFunction operator) root).next
        state action = none := by
    intro state ended action
    simp [searching, State.next, ended]
  rcases @search_ends localtime start date buffering operator root (fits_of_ends leads ends) with
    ⟨other, otherLeads, otherEnds, output, printed⟩
  have same := leads.unique otherLeads (stops final ends) (stops other otherEnds)
  rw [same]
  exact ⟨output, printed⟩

end Output

end OsExercises.DirectorySearch.Forking
