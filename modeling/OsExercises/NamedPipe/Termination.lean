import OsExercises.Foundation.Termination
import OsExercises.Foundation.Totals
import OsExercises.NamedPipe.Delivery

/-! # The master and the slaves end

Finitely many messages are sent, so there are no infinite runs. In the end only those wait whose
other side never comes: the master when no slave has found the FIFO, a slave when the master has
not created it or has closed it. -/

namespace OsExercises.NamedPipe

open OsExercises

variable {setting : Setting} {state following : State setting} {index : Fin setting.slaves}

/-! ## What is left to do -/

/-- A message that the slave will write counts its statements and the reads that it makes
possible. -/
def SlavePc.rank (count : Nat) : SlavePc → Nat
  | .openFifo => count * (PIPE_BUF + 2) + 6
  | .opening => count * (PIPE_BUF + 2) + 5
  | .test i => (count - i) * (PIPE_BUF + 2) + 4
  | .write i => (count - i) * (PIPE_BUF + 2) + 3
  | .close => 2
  | .remove => 1
  | .waiting | .returned | .failed | .killed _ => 0

def MasterPc.rank : MasterPc → Nat
  | .mkfifo => 6
  | .openFifo => 5
  | .opening => 4
  | .read => 3
  | .close => 2
  | .remove => 1
  | .returned | .failed => 0

/-- What the slaves will still do. -/
def slavesRank (slaves : Fin setting.slaves → SlavePc) : Nat :=
  total id fun index => (slaves index).rank (setting.slave index).count

def State.rank (state : State setting) : Nat :=
  slavesRank state.slaves + state.pipe.content.length + state.master.rank

/-- No run has more steps than this. -/
def mostSteps (setting : Setting) : Nat :=
  (initial setting).rank

theorem slavesRank_update (slaves : Fin setting.slaves → SlavePc) (index : Fin setting.slaves)
    (next : SlavePc) :
    slavesRank (Function.update slaves index next) +
        (slaves index).rank (setting.slave index).count =
      slavesRank slaves + next.rank (setting.slave index).count := by
  have moved : (fun other => (Function.update slaves index next other).rank
      (setting.slave other).count) =
      Function.update (fun other => (slaves other).rank (setting.slave other).count) index
        (next.rank (setting.slave index).count) := by
    funext other
    exact Function.apply_update
      (fun index (pc : SlavePc) => pc.rank (setting.slave index).count) slaves index next other
  simp only [slavesRank, moved]
  exact total_update id _ index _

theorem masterStep_rank (step : MasterStep state following) : following.rank < state.rank := by
  cases step with
  | nameTaken pc | mkfifo pc | openFifo pc | cantOpen pc | opened pc | endOfFile pc | close pc
  | remove pc => simp [State.rank, pc, MasterPc.rank]
  | read pc something =>
      have bytes := List.length_pos_of_ne_nil something
      simp only [State.rank, State.readChunk_slaves, State.readChunk_pipe, State.readChunk_master,
        Pipe.read_content, List.length_drop, PIPE_BUF]
      omega

/-- A slave goes on, and the pipe has at most so many bytes more. -/
theorem slave_rank {next : SlavePc} (more : Nat)
    (slaves : following.slaves = Function.update state.slaves index next)
    (content : following.pipe.content.length ≤ state.pipe.content.length + more)
    (master : following.master = state.master)
    (lower : next.rank (setting.slave index).count + more <
      (state.slaves index).rank (setting.slave index).count) :
    following.rank < state.rank := by
  have sum := slavesRank_update state.slaves index next
  simp only [State.rank, slaves, master]
  omega

theorem slaveStep_rank (within : (state.slaves index).Within (setting.slave index).count)
    (step : SlaveStep state index following) : following.rank < state.rank := by
  cases step with
  | openFifo pc there =>
      refine slave_rank 0 rfl (Nat.le_refl _) rfl ?_
      rw [pc]
      split <;> simp [SlavePc.rank]
  | cantOpen pc | opened pc | more _ pc | enough _ pc | killed _ pc | close pc | remove pc =>
      refine slave_rank 0 rfl (Nat.le_refl _) rfl ?_
      simp [pc, SlavePc.rank]
  | write i pc =>
      rw [pc] at within
      have less : i < (setting.slave index).count := within
      have short := (setting.slave index).fits i
      have split : (setting.slave index).count - i =
          ((setting.slave index).count - (i + 1)) + 1 := by omega
      refine slave_rank ((setting.slave index).message i).length rfl (by simp) rfl ?_
      simp only [pc, SlavePc.rank, split, Nat.add_mul, Slave.message] at short ⊢
      omega

theorem descends (setting : Setting) :
    (system setting).Descends (fun _ _ => True) (fun _ _ => False) State.rank := by
  refine .of_lt ?_
  intro current action following reachable taken
  cases action with
  | master => exact masterStep_rank (master_cases taken)
  | slave index =>
      exact slaveStep_rank ((orderly reachable).slaves index).within (slave_cases taken)

/-! ## The name -/

/-- Where the name is taken, the master fails, and no slave finds a reader. -/
structure Taken (state : State setting) : Prop where
  name : state.name = true
  master : state.master = .mkfifo ∨ state.master = .failed
  slaves : ∀ index, state.slaves index = .openFifo ∨ state.slaves index = .opening

theorem taken (before : setting.taken = true) (reachable : (system setting).Reachable state) :
    Taken state := by
  refine reachable.invariant Taken ⟨before, .inl rfl, fun _ => .inl rfl⟩ ?_
  intro current action following taken _ step
  have closed : current.master.Opened = false := by
    rcases taken.master with pc | pc
    all_goals
      rw [pc]
      rfl
  have known := taken.slaves
  cases action with
  | master =>
      cases master_cases step with
      | nameTaken => exact { taken with master := .inr rfl }
      | mkfifo _ free =>
          rw [taken.name] at free
          cases free
      | openFifo pc | cantOpen pc | opened pc | read pc | endOfFile pc | close pc | remove pc =>
          have master := taken.master
          simp [pc] at master
  | slave index =>
      have here := known index
      cases slave_cases step with
      | openFifo pc there =>
          refine { taken with slaves := ?_ }
          intro other
          by_cases self : other = index
          · subst self
            simp [closed]
          · simpa [self] using known other
      | cantOpen _ gone =>
          rw [taken.name] at gone
          cases gone
      | opened _ other =>
          rw [closed] at other
          cases other
      | more _ pc | enough _ pc | write _ pc | killed _ pc | close pc | remove pc =>
          simp [pc] at here

/-- Where the name is free, the master creates the FIFO and opens it. -/
structure Created (state : State setting) : Prop where
  first : state.master = .mkfifo → state.name = false
  there : state.master = .openFifo → state.name = true
  working : state.master ≠ .failed

theorem created (before : setting.taken = false) (reachable : (system setting).Reachable state) :
    Created state := by
  refine reachable.invariant_of Created (fun _ => orderly)
    { first := fun _ => before, there := nofun, working := nofun } ?_
  intro current action following orderly created _ step
  cases action with
  | master =>
      cases master_cases step with
      | nameTaken pc taken =>
          rw [created.first pc] at taken
          cases taken
      | mkfifo => exact { first := nofun, there := fun _ => rfl, working := nofun }
      | cantOpen pc gone =>
          rw [created.there pc] at gone
          cases gone
      | openFifo | opened | endOfFile | close | remove =>
          exact { first := nofun, there := nofun, working := nofun }
      | read pc =>
          exact { first := created.first, there := created.there, working := created.working }
  | slave index =>
      cases slave_cases step with
      | openFifo | cantOpen | opened | more | enough | write | killed | close =>
          exact { first := created.first, there := created.there, working := created.working }
      | remove pc =>
          have opened := (orderly.slaves index).connected (by rw [pc]; rfl)
          refine { first := fun _ => rfl, there := ?_, working := created.working }
          intro waits
          simp only [State.moveSlave_master, State.removeName_master] at waits
          rw [waits] at opened
          cases opened

/-! ## The end -/

/-- How the processes end. -/
inductive Ended (state : State setting) : Prop
  /-- A slave has returned, or it has not found the FIFO or nobody who reads it. -/
  | returned (master : state.master = .returned)
      (slaves : ∀ index, state.slaves index = .returned ∨ state.slaves index = .failed ∨
        (state.slaves index).Deserted = true)
  /-- The master waits in `open`; the slaves have come too early. -/
  | alone (master : state.master = .opening) (slaves : ∀ index, state.slaves index = .failed)
  /-- The slaves wait in `open`. -/
  | nameTaken (taken : setting.taken = true) (master : state.master = .failed)
      (slaves : ∀ index, state.slaves index = .opening)

section Halted

variable (halted : ∀ action, (system setting).next state action = none)

include halted

/-- A slave that does not go on has ended, or waits for the master. -/
theorem slave_stuck (index : Fin setting.slaves) :
    state.slaves index = .returned ∨ state.slaves index = .failed ∨
      (state.slaves index).Deserted = true ∨
      state.slaves index = .opening ∧ state.master.Opened = false ∨
      ∃ i, state.slaves index = .write i ∧ state.master.Reads = true ∧
        setting.capacity <
          state.pipe.content.length + ((setting.slave index).message i).length := by
  have stuck : slave state index = none := halted (.slave index)
  cases pc : state.slaves index with
  | openFifo =>
      simp only [slave, pc] at stuck
      split at stuck <;> cases stuck
  | opening =>
      simp only [slave, pc] at stuck
      split at stuck
      · cases stuck
      · next closed => exact .inr (.inr (.inr (.inl ⟨rfl, Bool.eq_false_iff.mpr closed⟩)))
  | write i =>
      simp only [slave, pc] at stuck
      split at stuck
      · next reads =>
          split at stuck
          · cases stuck
          · next full =>
              exact .inr (.inr (.inr (.inr ⟨i, rfl, reads, Nat.not_le.mp full⟩)))
      · cases stuck
  | test | close | remove => simp [slave, pc] at stuck
  | waiting | killed => exact .inr (.inr (.inl rfl))
  | returned => exact .inl rfl
  | failed => exact .inr (.inl rfl)

/-- The master waits only in `open`: while it reads, some slave goes on. -/
theorem master_stuck (reachable : (system setting).Reachable state) :
    state.master = .returned ∨ state.master = .failed ∨
      state.master = .opening ∧ ∀ index, (state.slaves index).Opened = false := by
  have stuck : master state = none := halted .master
  cases pc : state.master with
  | mkfifo =>
      simp only [master, pc] at stuck
      split at stuck <;> cases stuck
  | opening =>
      simp only [master, pc] at stuck
      split at stuck
      · cases stuck
      · next alone =>
          refine .inr (.inr ⟨rfl, fun index => ?_⟩)
          exact Bool.eq_false_iff.mpr fun opened => alone ⟨index, opened⟩
  | read =>
      simp only [master, pc] at stuck
      split at stuck
      · cases stuck
      · next nothing =>
          split at stuck
          · next other =>
              rcases other with ⟨index, writes⟩
              have empty := not_not.mp nothing
              rcases slave_stuck halted index with here | here | deserted | waits | full
              · rw [here] at writes
                cases writes
              · rw [here] at writes
                cases writes
              · have known := (orderly reachable).slaves index
                have late := known.deserted deserted
                rw [known.early (by rw [pc]; rfl)] at late
                cases late
              · rw [pc] at waits
                cases waits.2
              · rcases full with ⟨i, _, _, full⟩
                have short := (setting.slave index).fits i
                have roomy := setting.roomy
                rw [empty, List.length_nil, Nat.zero_add, Slave.message] at full
                omega
          · cases stuck
  | openFifo | close | remove => simp [master, pc] at stuck
  | returned => exact .inl rfl
  | failed => exact .inr (.inl rfl)

theorem ended (reachable : (system setting).Reachable state) : Ended state := by
  rcases master_stuck halted reachable with returned | failed | waits
  · refine .returned returned fun index => ?_
    rcases slave_stuck halted index with here | here | deserted | opening | full
    · exact .inl here
    · exact .inr (.inl here)
    · exact .inr (.inr deserted)
    · rw [returned] at opening
      cases opening.2
    · rcases full with ⟨_, _, reads, _⟩
      rw [returned] at reads
      cases reads
  · cases before : setting.taken with
    | false => exact absurd failed (created before reachable).working
    | true =>
        refine .nameTaken before failed fun index => ?_
        rcases (taken before reachable).slaves index with here | here
        · rcases slave_stuck halted index with other | other | other | other | other
          all_goals simp [here, SlavePc.Deserted] at other
        · exact here
  · refine .alone waits.1 fun index => ?_
    have closed := waits.2 index
    rcases slave_stuck halted index with here | here | deserted | opening | full
    · rw [here] at closed
      cases closed
    · exact here
    · cases pc : state.slaves index <;>
        simp [pc, SlavePc.Deserted, SlavePc.Opened] at deserted closed
    · rw [opening.1] at closed
      cases closed
    · rcases full with ⟨i, here, _⟩
      rw [here] at closed
      cases closed

end Halted

/-- Every run has a bounded number of steps and can be continued to its end, and nobody waits
there whose other side could still come. -/
theorem all_end (setting : Setting) :
    (∀ actions final, (system setting).run (initial setting) actions = some final →
      actions.length ≤ mostSteps setting) ∧
    (∀ state, (system setting).Reachable state →
      ∃ final, (system setting).Leads state final ∧ Ended final) ∧
    ∀ final, (system setting).Reachable final →
      (∀ action, (system setting).next final action = none) → Ended final := by
  refine ⟨?_, ?_, fun final reachable halted => ended halted reachable⟩
  · intro actions final evaluated
    exact Nat.le_of_add_right_le ((descends setting).length_le .initial evaluated)
  · intro state reachable
    rcases (descends setting).halts reachable with ⟨final, leads, halted⟩
    exact ⟨final, leads,
      ended (fun action => halted action trivial not_false) (leads.reachable reachable)⟩

/-- The first slave sends its message; the second finds no FIFO. -/
def oneReturned : State twoSlaves :=
  let first : Action twoSlaves := .slave ⟨0, Nat.two_pos⟩
  let second : Action twoSlaves := .slave ⟨1, Nat.one_lt_two⟩
  (system twoSlaves).after
    ([second, .master, .master, first, first, .master, first, first, .master] ++
      List.replicate 3 first ++ List.replicate 3 .master)
    (by decide +kernel)

theorem all_end_oneReturned : oneReturned.master = .returned ∧ Ended oneReturned := by
  have master : oneReturned.master = .returned := by decide +kernel
  have slaves : ∀ index, oneReturned.slaves index = .returned ∨
      oneReturned.slaves index = .failed := by decide +kernel
  refine ⟨master, (all_end twoSlaves).2.2 oneReturned ((system twoSlaves).after_reachable _ _) ?_⟩
  intro action
  cases action with
  | master => simp only [system, NamedPipe.master, master]
  | slave index => rcases slaves index with pc | pc <;> simp only [system, slave, pc]

end OsExercises.NamedPipe
