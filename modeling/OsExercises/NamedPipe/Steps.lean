import OsExercises.NamedPipe.Processes

/-! # What the master and the slaves do

The statements of the master and of a slave, one case each. -/

namespace OsExercises.NamedPipe

open OsExercises

variable {setting : Setting} {state following : State setting} {index : Fin setting.slaves}

inductive MasterStep (state : State setting) : State setting → Prop
  | nameTaken (pc : state.master = .mkfifo) (taken : state.name = true) :
      MasterStep state (state.moveMaster .failed)
  | mkfifo (pc : state.master = .mkfifo) (free : state.name = false) :
      MasterStep state ({ state with name := true }.moveMaster .openFifo)
  | openFifo (pc : state.master = .openFifo) (there : state.name = true) :
      MasterStep state (state.moveMaster .opening)
  | cantOpen (pc : state.master = .openFifo) (gone : state.name = false) :
      MasterStep state (state.moveMaster .failed)
  | opened (pc : state.master = .opening) (other : ∃ index, (state.slaves index).Opened = true) :
      MasterStep state (state.moveMaster .read)
  | read (pc : state.master = .read) (something : state.pipe.content ≠ []) :
      MasterStep state (state.readChunk something)
  | endOfFile (pc : state.master = .read) (nothing : state.pipe.content = [])
      (alone : ∀ index, (state.slaves index).Writes = false) :
      MasterStep state (state.moveMaster .close)
  | close (pc : state.master = .close) : MasterStep state (state.moveMaster .remove)
  | remove (pc : state.master = .remove) :
      MasterStep state (state.removeName.moveMaster .returned)

theorem master_cases (taken : master state = some following) : MasterStep state following := by
  cases pc : state.master with
  | mkfifo =>
      simp only [master, pc] at taken
      split at taken
      · next there =>
          cases taken
          exact .nameTaken pc there
      · next free =>
          cases taken
          exact .mkfifo pc (Bool.eq_false_iff.mpr free)
  | openFifo =>
      simp only [master, pc, Option.some.injEq] at taken
      subst taken
      by_cases there : state.name = true
      · rw [if_pos there]
        exact .openFifo pc there
      · rw [if_neg there]
        exact .cantOpen pc (Bool.eq_false_iff.mpr there)
  | opening =>
      simp only [master, pc] at taken
      split at taken
      · next other =>
          cases taken
          exact .opened pc other
      · cases taken
  | read =>
      simp only [master, pc] at taken
      split at taken
      · next something =>
          cases taken
          exact .read pc something
      · next nothing =>
          split at taken
          · cases taken
          · next alone =>
              cases taken
              exact .endOfFile pc (not_not.mp nothing) fun index =>
                Bool.eq_false_iff.mpr fun writes => alone ⟨index, writes⟩
  | close =>
      simp only [master, pc, Option.some.injEq] at taken
      subst taken
      exact .close pc
  | remove =>
      simp only [master, pc, Option.some.injEq] at taken
      subst taken
      exact .remove pc
  | returned | failed => simp [master, pc] at taken

inductive SlaveStep (state : State setting) (index : Fin setting.slaves) : State setting → Prop
  | openFifo (pc : state.slaves index = .openFifo) (there : state.name = true) :
      SlaveStep state index (state.beginOpen index)
  | cantOpen (pc : state.slaves index = .openFifo) (gone : state.name = false) :
      SlaveStep state index (state.moveSlave index .failed)
  | opened (pc : state.slaves index = .opening) (other : state.master.Opened = true) :
      SlaveStep state index (state.moveSlave index (.test 0))
  | more (i : Nat) (pc : state.slaves index = .test i) (less : i < (setting.slave index).count) :
      SlaveStep state index (state.moveSlave index (.write i))
  | enough (i : Nat) (pc : state.slaves index = .test i)
      (all : (setting.slave index).count ≤ i) :
      SlaveStep state index (state.moveSlave index .close)
  | write (i : Nat) (pc : state.slaves index = .write i) (reads : state.master.Reads = true)
      (room : state.pipe.content.length + ((setting.slave index).message i).length ≤
        setting.capacity) :
      SlaveStep state index ((state.writeMessage index i).moveSlave index (.test (i + 1)))
  | killed (i : Nat) (pc : state.slaves index = .write i) (closed : state.master.Reads = false) :
      SlaveStep state index (state.moveSlave index (.killed i))
  | close (pc : state.slaves index = .close) :
      SlaveStep state index (state.moveSlave index .remove)
  | remove (pc : state.slaves index = .remove) :
      SlaveStep state index (state.removeName.moveSlave index .returned)

theorem slave_cases (taken : slave state index = some following) :
    SlaveStep state index following := by
  cases pc : state.slaves index with
  | openFifo =>
      simp only [slave, pc] at taken
      split at taken
      · next there =>
          cases taken
          exact .openFifo pc there
      · next gone =>
          cases taken
          exact .cantOpen pc (Bool.eq_false_iff.mpr gone)
  | opening =>
      simp only [slave, pc] at taken
      split at taken
      · next other =>
          cases taken
          exact .opened pc other
      · cases taken
  | test i =>
      simp only [slave, pc, Option.some.injEq] at taken
      subst taken
      by_cases less : i < (setting.slave index).count
      · rw [if_pos less]
        exact .more i pc less
      · rw [if_neg less]
        exact .enough i pc (Nat.not_lt.mp less)
  | write i =>
      simp only [slave, pc] at taken
      split at taken
      · next reads =>
          split at taken
          · next room =>
              cases taken
              exact .write i pc reads room
          · cases taken
      · next closed =>
          cases taken
          exact .killed i pc (Bool.eq_false_iff.mpr closed)
  | close =>
      simp only [slave, pc, Option.some.injEq] at taken
      subst taken
      exact .close pc
  | remove =>
      simp only [slave, pc, Option.some.injEq] at taken
      subst taken
      exact .remove pc
  | waiting | returned | failed | killed => simp [slave, pc] at taken

end OsExercises.NamedPipe
