import OsExercises.Shell.Ends

/-! # What the programs of a pipeline exchange

A program reads the pipe that was made before its own, and gets to the end of it only when the
program before it has ended; it is killed only when the program behind it has. So the programs on
a line are a pipeline, whatever the shell and the other children still have open. -/

namespace OsExercises.Shell

open OsExercises

variable {Byte : Type u} {Memory : Type v} {command : Command Byte Memory}
variable {flow following : Flow Byte Memory} {j k : Nat}

/-! ## The channels -/

/-- The standard input of the shell, the pipes between the programs, and the standard output of the
shell. The last pipe that is made is not between two programs. -/
@[simps] def Flow.pipeline (command : Command Byte Memory) (flow : Flow Byte Memory) :
    Pipeline.State Byte Memory where
  process := flow.process
  channel k :=
    if k = 0 then flow.stdin else if k = command.line.i then flow.stdout else flow.pipe (k - 1)

/-- The programs, apart from how they are wired. -/
def Command.pipeline (command : Command Byte Memory) :
    TransitionSystem (Pipeline.State Byte Memory) Pipeline.Action :=
  Pipeline.system command.line.i command.capacity command.program command.input

theorem channel_pipe (flow : Flow Byte Memory) (inner : k + 1 < command.line.i) :
    (flow.pipeline command).channel (k + 1) = flow.pipe k := by
  simp [Nat.ne_of_lt inner]

theorem channel_stdout : (flow.pipeline command).channel command.line.i = flow.stdout := by
  have pipeline := command.line.pipeline
  have positive : command.line.i ≠ 0 := by omega
  simp [positive]

theorem pipeline_setProcess (process : Pipeline.Process Memory) :
    (flow.setProcess j process).pipeline command =
      (flow.pipeline command).setProcess j process := rfl

theorem pipeline_setStdin (bytes : List Byte) :
    (flow.setStdin bytes).pipeline command = (flow.pipeline command).setChannel 0 bytes := by
  simp only [Flow.pipeline, Flow.setStdin, Pipeline.State.setChannel, Pipeline.State.mk.injEq,
    true_and]
  funext k
  rw [Function.update_apply]
  split <;> rfl

theorem pipeline_setStdout (bytes : List Byte) :
    (flow.setStdout bytes).pipeline command =
      (flow.pipeline command).setChannel command.line.i bytes := by
  have pipeline := command.line.pipeline
  simp only [Flow.pipeline, Flow.setStdout, Pipeline.State.setChannel, Pipeline.State.mk.injEq,
    true_and]
  funext k
  rw [Function.update_apply]
  by_cases first : k = 0
  · have different : k ≠ command.line.i := by omega
    rw [if_pos first, if_neg different, if_pos first]
  · rw [if_neg first]
    by_cases last : k = command.line.i
    · rw [if_pos last, if_pos last]
    · rw [if_neg last, if_neg last, if_neg first, if_neg last]

theorem pipeline_setPipe (inner : k + 1 < command.line.i) (bytes : List Byte) :
    (flow.setPipe k bytes).pipeline command =
      (flow.pipeline command).setChannel (k + 1) bytes := by
  simp only [Flow.pipeline, Flow.setPipe, Pipeline.State.setChannel, Pipeline.State.mk.injEq,
    true_and]
  funext other
  rw [Function.update_apply, Function.update_apply]
  by_cases first : other = 0
  · have different : other ≠ k + 1 := by omega
    rw [if_pos first, if_neg different, if_pos first]
  · by_cases last : other = command.line.i
    · have different : other ≠ k + 1 := by omega
      rw [if_neg first, if_pos last, if_neg different, if_neg first, if_pos last]
    · have same : other - 1 = k ↔ other = k + 1 := by omega
      simp only [first, last, same, if_false]

theorem pipeline_initial :
    (pipelines command).initial.pipeline command = command.pipeline.initial := by
  simp only [pipelines, Flow.pipeline, Command.pipeline, Pipeline.system,
    Pipeline.State.mk.injEq, true_and]
  funext k
  rw [Function.update_apply]
  by_cases first : k = 0
  · rw [if_pos first, if_pos first]
  · rw [if_neg first, if_neg first]
    split <;> rfl

/-! ## Known of every state -/

structure Tracked (command : Command Byte Memory) (state : State) : Prop where
  known : Known command.line state
  counted : Counted command.line command.openMax state

namespace Tracked

variable {state : State}

theorem forks_le (tracked : Tracked command state) :
    state.parent.pc.forks command.line ≤ command.line.i := by
  have within := tracked.known.parent.within
  cases pc : state.parent.pc with
  | test | closeRead | closeWrite | pipe | fork =>
      rw [pc] at within
      simp only [ParentPc.Within] at within
      simp only [ParentPc.forks]
      omega
  | closeOlderRead | closeOlderWrite | closeNewerRead | closeNewerWrite | waitpid =>
      exact Nat.le_refl _

theorem inside (tracked : Tracked command state) {child : Child}
    (present : state.child j = some child) : j < command.line.i :=
  Nat.lt_of_lt_of_le (tracked.counted.forked j child present) tracked.forks_le

/-- The children are forked in order. -/
theorem earlier (tracked : Tracked command state) {child : Child}
    (present : state.child (k + 1) = some child) : ∃ earlier, state.child k = some earlier := by
  have forked := tracked.counted.forked (k + 1) child present
  exact Option.isSome_iff_exists.mp (tracked.known.forked k (Nat.lt_of_succ_lt forked))

/-- What a child has made of its descriptors when its program starts. -/
theorem files (tracked : Tracked command state) {child : Child}
    (present : state.child j = some child) (runs : child.pc = .execvp) :
    ∃ base, Forked command.line j child.pipes base ∧
      child.files = writeOwn command.line j child.pipes (readPrevious j child.pipes base) := by
  rcases (tracked.known.children j child present).files with ⟨base, forked, files⟩
  rw [runs] at files
  exact ⟨base, forked, files⟩

theorem stdin_first (tracked : Tracked command state) {child : Child}
    (present : state.child 0 = some child) (runs : child.pc = .execvp) :
    child.files STDIN_FILENO = some (.inherited STDIN_FILENO) := by
  rcases tracked.files present runs with ⟨base, forked, files⟩
  rw [files]
  exact forked.execvp_first

theorem stdin_next (tracked : Tracked command state) {child : Child}
    (present : state.child (k + 1) = some child) (runs : child.pc = .execvp) :
    child.files STDIN_FILENO = some (.readEnd k) := by
  rcases tracked.files present runs with ⟨base, forked, files⟩
  rw [files]
  exact forked.execvp_next

theorem stdout_inner (tracked : Tracked command state) {child : Child}
    (present : state.child j = some child) (runs : child.pc = .execvp)
    (inner : j + 1 < command.line.i) : child.files STDOUT_FILENO = some (.writeEnd j) := by
  rcases tracked.files present runs with ⟨base, forked, files⟩
  rw [files]
  exact Forked.execvp_inner inner

theorem stdout_last (tracked : Tracked command state) {child : Child}
    (present : state.child j = some child) (runs : child.pc = .execvp)
    (last : j + 1 = command.line.i) :
    child.files STDOUT_FILENO = some (.inherited STDOUT_FILENO) := by
  have same : j = command.line.i - 1 := by omega
  subst same
  rcases tracked.files present runs with ⟨base, forked, files⟩
  rw [files]
  exact forked.execvp_last

end Tracked

/-! ## The ends of the pipes -/

theorem inUse_iff (counted : Counted command.line command.openMax flow.state) {file : File} :
    flow.inUse command file = true ↔
      (∃ descriptor, flow.state.parent.files descriptor = some file) ∨
        ∃ j < command.line.i, ∃ child, flow.state.child j = some child ∧
          (flow.process j).ended = false ∧ ∃ descriptor, child.files descriptor = some file := by
  rw [Flow.inUse, Bool.or_eq_true, counted.parent.holds_iff, List.any_eq_true]
  apply or_congr_right
  constructor
  · intro found
    rcases found with ⟨j, inside, held⟩
    split at held
    · next child present =>
        rw [Bool.and_eq_true, Bool.not_eq_true', (counted.children j child present).holds_iff]
          at held
        exact ⟨j, List.mem_range.mp inside, child, present, held⟩
    · cases held
  · intro found
    rcases found with ⟨j, inside, child, present, held⟩
    refine ⟨j, List.mem_range.mpr inside, ?_⟩
    simp only [present]
    rw [Bool.and_eq_true, Bool.not_eq_true', (counted.children j child present).holds_iff]
    exact held

/-- A program that still runs keeps its pipe open for the one behind it. -/
theorem ended_of_endOfFile (tracked : Tracked command flow.state) {child : Child}
    (present : flow.state.child (k + 1) = some child)
    (nobody : flow.inUse command (.writeEnd k) = false) : (flow.process k).ended = true := by
  by_contra running
  rw [Bool.not_eq_true] at running
  have inside := tracked.inside present
  rcases tracked.earlier present with ⟨writer, there⟩
  have writes := (tracked.known.children k writer there).writes inside
  have held := (inUse_iff tracked.counted).mpr
    (.inr ⟨k, Nat.lt_of_succ_lt inside, writer, there, running, writes⟩)
  rw [nobody] at held
  cases held

theorem ended_of_broken (tracked : Tracked command flow.state) {child : Child}
    (present : flow.state.child j = some child) (inner : j + 1 < command.line.i)
    (nobody : flow.inUse command (.readEnd j) = false) : (flow.process (j + 1)).ended = true := by
  by_contra running
  rw [Bool.not_eq_true] at running
  have held : flow.inUse command (.readEnd j) = true := by
    apply (inUse_iff tracked.counted).mpr
    cases found : flow.state.child (j + 1) with
    | some reader =>
        have reads := (tracked.known.children (j + 1) reader found).reads
        exact .inr ⟨j + 1, inner, reader, found, running, reads⟩
    | none =>
        -- it is the next to be forked
        have forked := tracked.counted.forked j child present
        have absent : ¬ j + 1 < flow.state.parent.pc.forks command.line := by
          intro below
          have there := tracked.known.forked (j + 1) below
          rw [found] at there
          cases there
        exact .inl (tracked.known.parent.reads (by omega) inner)
  rw [nobody] at held
  cases held

end OsExercises.Shell
