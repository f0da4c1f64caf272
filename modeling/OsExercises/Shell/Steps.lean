import OsExercises.Shell.Processes

/-! # What the shell does

The statements of the shell, one case for each outcome. -/

namespace OsExercises.Shell

open OsExercises

variable {line : Line} {state following : State} {ends : PipeEnds}

inductive ParentStep (line : Line) (state : State) (ends : PipeEnds) : State → Prop
  | first (pc : state.parent.pc = .test 0) (more : 0 < line.i) :
      ParentStep line state ends (state.setParent { state.parent with pc := .pipe 0 })
  | again {j : Nat} (pc : state.parent.pc = .test j) (later : 0 < j) (more : j < line.i) :
      ParentStep line state ends (state.setParent { state.parent with pc := .closeRead j })
  | leave {j : Nat} (pc : state.parent.pc = .test j) (done : line.i ≤ j) :
      ParentStep line state ends (state.setParent { state.parent with pc := .closeOlderRead j })
  | closeRead {j : Nat} (pc : state.parent.pc = .closeRead j) :
      ParentStep line state ends (state.setParent
        (state.parent.close (state.parent.pipes (j % 2)).input (.closeWrite j)))
  | closeWrite {j : Nat} (pc : state.parent.pc = .closeWrite j) :
      ParentStep line state ends (state.setParent
        (state.parent.close (state.parent.pipes (j % 2)).output (.pipe j)))
  | pipe {j : Nat} (pc : state.parent.pc = .pipe j)
      (inputFree : state.parent.files ends.input = none)
      (outputFree : state.parent.files ends.output = none)
      (different : ends.input ≠ ends.output) :
      ParentStep line state ends (state.setParent
        { pc := .fork j
          files := (state.parent.files.assign ends.input (.readEnd j)).assign ends.output
            (.writeEnd j)
          pipes := Function.update state.parent.pipes (j % 2) ends })
  | fork {j : Nat} (pc : state.parent.pc = .fork j) :
      ParentStep line state ends
        ((state.setParent { state.parent with pc := .test (j + 1) }).setChild j
          { pc := .testFirst, files := state.parent.files, pipes := state.parent.pipes })
  | closeOlderRead {j : Nat} (pc : state.parent.pc = .closeOlderRead j) :
      ParentStep line state ends (state.setParent
        (state.parent.close (state.parent.pipes (j % 2)).input (.closeOlderWrite j)))
  | closeOlderWrite {j : Nat} (pc : state.parent.pc = .closeOlderWrite j) :
      ParentStep line state ends (state.setParent
        (state.parent.close (state.parent.pipes (j % 2)).output (.closeNewerRead j)))
  | closeNewerRead {j : Nat} (pc : state.parent.pc = .closeNewerRead j) :
      ParentStep line state ends (state.setParent
        (state.parent.close (state.parent.pipes ((j + 1) % 2)).input (.closeNewerWrite j)))
  | closeNewerWrite {j : Nat} (pc : state.parent.pc = .closeNewerWrite j) :
      ParentStep line state ends (state.setParent
        (state.parent.close (state.parent.pipes ((j + 1) % 2)).output (.waitpid j)))

theorem parentStep_cases (taken : parentStep line state ends = some following) :
    ParentStep line state ends following := by
  cases pc : state.parent.pc with
  | test j =>
      simp only [parentStep, pc] at taken
      cases taken
      by_cases more : j < line.i
      · by_cases later : 0 < j
        · simp only [more, later, if_true]
          exact .again pc later more
        · have zero : j = 0 := Nat.eq_zero_of_not_pos later
          subst zero
          simp only [more, Nat.lt_irrefl, if_true, if_false]
          exact .first pc more
      · simp only [more, if_false]
        exact .leave pc (Nat.le_of_not_lt more)
  | closeRead j =>
      simp only [parentStep, pc] at taken
      cases taken
      exact .closeRead pc
  | closeWrite j =>
      simp only [parentStep, pc] at taken
      cases taken
      exact .closeWrite pc
  | pipe j =>
      simp only [parentStep, pc, Option.ite_none_right_eq_some, Option.some.injEq] at taken
      rcases taken with ⟨⟨inputFree, outputFree, different⟩, rfl⟩
      exact .pipe pc inputFree outputFree different
  | fork j =>
      simp only [parentStep, pc] at taken
      cases taken
      exact .fork pc
  | closeOlderRead j =>
      simp only [parentStep, pc] at taken
      cases taken
      exact .closeOlderRead pc
  | closeOlderWrite j =>
      simp only [parentStep, pc] at taken
      cases taken
      exact .closeOlderWrite pc
  | closeNewerRead j =>
      simp only [parentStep, pc] at taken
      cases taken
      exact .closeNewerRead pc
  | closeNewerWrite j =>
      simp only [parentStep, pc] at taken
      cases taken
      exact .closeNewerWrite pc
  | waitpid j =>
      simp only [parentStep, pc] at taken
      cases taken

/-- Where the loop is. -/
def ParentPc.Within (line : Line) : ParentPc → Prop
  | .test j => j ≤ line.i
  | .closeRead j | .closeWrite j => 0 < j ∧ j < line.i
  | .pipe j | .fork j => j < line.i
  | .closeOlderRead j | .closeOlderWrite j | .closeNewerRead j | .closeNewerWrite j
  | .waitpid j => j = line.i

theorem ParentStep.within (step : ParentStep line state ends following)
    (within : state.parent.pc.Within line) : following.parent.pc.Within line := by
  cases step with
  | first pc more => exact more
  | again pc later more => exact ⟨later, more⟩
  | leave pc done =>
      rw [pc] at within
      exact Nat.le_antisymm within done
  | closeWrite pc =>
      rw [pc] at within
      exact within.2
  | closeRead pc | pipe pc | fork pc | closeOlderRead pc | closeOlderWrite pc
  | closeNewerRead pc | closeNewerWrite pc =>
      rw [pc] at within
      exact within

end OsExercises.Shell
