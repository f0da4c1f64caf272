import OsExercises.NamedPipe.Steps

/-! # Which messages arrive

The master reads all messages whole and in the order in which they were written, up to the
end of the file. Lost are just those of slaves that open the FIFO after that. -/

namespace OsExercises.NamedPipe

open OsExercises

variable {setting : Setting} {state following : State setting} {index : Fin setting.slaves}

namespace SlavePc

/-- How many messages the slave has written. -/
def written (count : Nat) : SlavePc → Nat
  | .openFifo | .opening | .waiting | .failed => 0
  | .test i | .write i | .killed i => i
  | .close | .remove | .returned => count

/-- The slave has written no message too many. -/
def Within (count : Nat) : SlavePc → Prop
  | .test i => i ≤ count
  | .write i | .killed i => i < count
  | _ => True

/-- The `open` of the slave has returned. -/
def Connected : SlavePc → Bool
  | .openFifo | .opening | .waiting | .failed => false
  | _ => true

/-- The slave has not opened the FIFO, or has closed it by itself. -/
def Settled : SlavePc → Bool
  | .openFifo | .failed | .remove | .returned => true
  | _ => false

/-- The slave has found nobody who reads. -/
def Deserted : SlavePc → Bool
  | .waiting | .killed _ => true
  | _ => false

theorem settled_of_not_writes {pc : SlavePc} (closed : pc.Writes = false)
    (alive : pc.Deserted = false) : pc.Settled = true := by
  cases pc <;> simp_all [Writes, Deserted, Settled]

end SlavePc

theorem MasterPc.ended_of_not_reads {master : MasterPc} (opened : master.Opened = true)
    (closed : master.Reads = false) : master.Ended = true := by
  cases master <;> simp_all [Opened, Reads, Ended]

/-- What holds of a slave beside the master. -/
structure SlaveOrderly (master : MasterPc) (late : Bool) (count : Nat) (pc : SlavePc) :
    Prop where
  within : pc.Within count
  connected : pc.Connected = true → master.Opened = true
  early : master.Ended = false → late = false
  settled : master.Ended = true → late = false → pc.Settled = true
  deserted : pc.Deserted = true → late = true

structure Orderly (state : State setting) : Prop where
  slaves : ∀ index, SlaveOrderly state.master (state.late index) (setting.slave index).count
    (state.slaves index)
  messages : ∀ index, state.pipe.messages (· = index) =
    (List.range ((state.slaves index).written (setting.slave index).count)).map
      (setting.slave index).message
  read : state.master.Ended = true →
    state.pipe.chunks.flatten = (state.pipe.messages (!state.late ·)).flatten ∧
      state.pipe.content = (state.pipe.messages state.late).flatten

/-- The master goes on, before the end of the file or after it. -/
theorem SlaveOrderly.moveMaster {master next : MasterPc} {late : Bool} {count : Nat}
    {pc : SlavePc} (orderly : SlaveOrderly master late count pc)
    (opened : master.Opened = true → next.Opened = true) (ended : next.Ended = master.Ended) :
    SlaveOrderly next late count pc :=
  { orderly with
    connected := fun connected => opened (orderly.connected connected)
    early := by rw [ended]; exact orderly.early
    settled := by rw [ended]; exact orderly.settled }

namespace Orderly

theorem initial : Orderly (initial setting) where
  slaves := fun _ =>
    { within := trivial
      connected := nofun
      early := fun _ => rfl
      settled := fun _ _ => rfl
      deserted := nofun }
  messages := fun _ => rfl
  read := nofun

theorem moveMaster (orderly : Orderly state) {next : MasterPc} {name : Bool}
    (opened : state.master.Opened = true → next.Opened = true)
    (ended : next.Ended = state.master.Ended) :
    Orderly ({ state with name := name }.moveMaster next) where
  slaves index := (orderly.slaves index).moveMaster opened ended
  messages := orderly.messages
  read := by
    intro atEnd
    exact orderly.read (ended.symm.trans atEnd)

/-- No slave writes any more when the master reads the end of the file. -/
theorem endOfFile (orderly : Orderly state) (pc : state.master = .read)
    (nothing : state.pipe.content = []) (alone : ∀ index, (state.slaves index).Writes = false) :
    Orderly (state.moveMaster .close) := by
  have early (index : Fin setting.slaves) : state.late index = false :=
    (orderly.slaves index).early (by rw [pc]; rfl)
  refine { slaves := ?_, messages := orderly.messages, read := fun _ => ⟨?_, ?_⟩ }
  · intro index
    have known := orderly.slaves index
    have alive : (state.slaves index).Deserted = false := by
      by_contra deserted
      have late := known.deserted (Bool.of_not_eq_false deserted)
      rw [early index] at late
      cases late
    exact
      { known with
        connected := fun _ => rfl
        early := nofun
        settled := fun _ _ => SlavePc.settled_of_not_writes (alone index) alive }
  · simp only [State.moveMaster_pipe, State.moveMaster_late]
    rw [state.pipe.flatten_chunks nothing]
    exact (state.pipe.flatten_messages_all _ fun write _ => by simp [early]).symm
  · simp only [State.moveMaster_pipe, State.moveMaster_late, nothing]
    rw [(state.pipe.messages_eq_nil_iff _).mpr fun write _ => early write.1]
    rfl

theorem masterStep (orderly : Orderly state) (step : MasterStep state following) :
    Orderly following := by
  cases step with
  | nameTaken pc | mkfifo pc | cantOpen pc =>
      refine orderly.moveMaster (fun opened => ?_) (by rw [pc]; rfl)
      rw [pc] at opened
      cases opened
  | openFifo pc | opened pc | close pc | remove pc =>
      exact orderly.moveMaster (fun _ => rfl) (by rw [pc]; rfl)
  | read pc something =>
      refine { slaves := orderly.slaves, messages := orderly.messages, read := ?_ }
      intro ended
      simp only [State.readChunk_master, pc] at ended
      cases ended
  | endOfFile pc nothing alone => exact orderly.endOfFile pc nothing alone

/-- A slave goes on and writes nothing. -/
theorem moveSlave (orderly : Orderly state) {next : SlavePc} {name : Bool}
    (known : SlaveOrderly state.master (state.late index) (setting.slave index).count next)
    (same : next.written (setting.slave index).count =
      (state.slaves index).written (setting.slave index).count) :
    Orderly ({ state with name := name }.moveSlave index next) := by
  refine { slaves := ?_, messages := ?_, read := orderly.read }
  · intro other
    by_cases self : other = index
    · subst self
      simpa using known
    · simpa [self] using orderly.slaves other
  · intro other
    by_cases self : other = index
    · subst self
      simpa [same] using orderly.messages other
    · simpa [self] using orderly.messages other

/-- A slave that has not opened the FIFO has written nothing. -/
theorem silent (orderly : Orderly state) (pc : state.slaves index = .openFifo) :
    ∀ write ∈ state.pipe.writes, write.1 ≠ index := by
  have nothing := orderly.messages index
  simp only [pc, SlavePc.written, List.range_zero, List.map_nil] at nothing
  intro write member
  simpa using (state.pipe.messages_eq_nil_iff _).mp nothing write member

theorem beginOpen (orderly : Orderly state) (pc : state.slaves index = .openFifo) :
    Orderly (state.beginOpen index) := by
  refine { slaves := ?_, messages := ?_, read := ?_ }
  · intro other
    by_cases self : other = index
    · subst self
      simp only [State.beginOpen_master, State.beginOpen_late, State.beginOpen_slaves,
        Function.update_self]
      split
      · next deserted =>
          have ended := MasterPc.ended_of_not_reads deserted.1 (Bool.eq_false_iff.mpr deserted.2)
          exact
            { within := trivial
              connected := nofun
              early := id
              settled := by simp [ended]
              deserted := fun _ => ended }
      · exact
          { within := trivial
            connected := nofun
            early := id
            settled := by
              intro ended early
              rw [ended] at early
              cases early
            deserted := nofun }
    · simpa [self] using orderly.slaves other
  · intro other
    by_cases self : other = index
    · subst self
      have nothing := orderly.messages other
      rw [pc] at nothing
      simp only [State.beginOpen_pipe, State.beginOpen_slaves, Function.update_self]
      split <;> exact nothing
    · simpa [self] using orderly.messages other
  · intro ended
    have silent := orderly.silent pc
    have unchanged : ∀ write ∈ state.pipe.writes,
        Function.update state.late index state.master.Ended write.1 = state.late write.1 :=
      fun write member => Function.update_of_ne (silent write member) _ _
    rcases orderly.read ended with ⟨chunks, content⟩
    simp only [State.beginOpen_pipe, State.beginOpen_late]
    have negated : ∀ write ∈ state.pipe.writes,
        (!Function.update state.late index state.master.Ended write.1) = !state.late write.1 :=
      fun write member => congrArg (!·) (unchanged write member)
    rw [state.pipe.messages_congr unchanged, chunks, content]
    exact ⟨congrArg List.flatten (state.pipe.messages_congr negated).symm, rfl⟩

/-- A slave that writes after the end of the file is late. -/
theorem write (orderly : Orderly state) {i : Nat} (pc : state.slaves index = .write i) :
    Orderly ((state.writeMessage index i).moveSlave index (.test (i + 1))) := by
  have known := orderly.slaves index
  rw [pc] at known
  have less : i < (setting.slave index).count := known.within
  refine { slaves := ?_, messages := ?_, read := ?_ }
  · intro other
    by_cases self : other = index
    · subst self
      simp only [State.moveSlave_master, State.moveSlave_late, State.moveSlave_slaves,
        State.writeMessage_master, State.writeMessage_late, Function.update_self]
      exact
        { within := less
          connected := known.connected
          early := known.early
          settled := known.settled
          deserted := nofun }
    · simpa [self] using orderly.slaves other
  · intro other
    have before := orderly.messages other
    simp only [State.moveSlave_pipe, State.writeMessage_pipe, Pipe.messages_write,
      State.moveSlave_slaves, before]
    by_cases self : other = index
    · subst self
      simp [pc, SlavePc.written, List.range_succ]
    · simp [self, Ne.symm self]
  · intro ended
    have late : state.late index = true := by
      by_contra early
      have settled := known.settled ended (Bool.eq_false_iff.mpr early)
      cases settled
    rcases orderly.read ended with ⟨chunks, content⟩
    simp only [State.moveSlave_pipe, State.writeMessage_pipe, State.moveSlave_late,
      State.writeMessage_late, Pipe.messages_write, late, Pipe.write_chunks, Pipe.write_content]
    constructor
    · simpa using chunks
    · simp [content]

theorem slaveStep (orderly : Orderly state) (step : SlaveStep state index following) :
    Orderly following := by
  have known := orderly.slaves index
  cases step with
  | openFifo pc => exact orderly.beginOpen pc
  | cantOpen pc =>
      rw [pc] at known
      exact orderly.moveSlave { known with connected := nofun, settled := fun _ _ => rfl }
        (by rw [pc]; rfl)
  | opened pc other =>
      rw [pc] at known
      exact orderly.moveSlave
        { known with within := Nat.zero_le _, connected := fun _ => other } (by rw [pc]; rfl)
  | more i pc less =>
      rw [pc] at known
      exact orderly.moveSlave { known with within := less } (by rw [pc]; rfl)
  | enough i pc all =>
      rw [pc] at known
      exact orderly.moveSlave { known with within := trivial }
        (by rw [pc]; exact Nat.le_antisymm all known.within)
  | write i pc => exact orderly.write pc
  | killed i pc closed =>
      rw [pc] at known
      have ended := MasterPc.ended_of_not_reads (known.connected rfl) closed
      have late : state.late index = true := by
        by_contra early
        have settled := known.settled ended (Bool.eq_false_iff.mpr early)
        cases settled
      refine orderly.moveSlave { known with settled := ?_, deserted := fun _ => late }
        (by rw [pc]; rfl)
      simp [late]
  | close pc | remove pc =>
      rw [pc] at known
      exact orderly.moveSlave { known with settled := fun _ _ => rfl } (by rw [pc]; rfl)

end Orderly

theorem orderly (reachable : (system setting).Reachable state) : Orderly state := by
  apply reachable.invariant Orderly .initial
  intro current action following orderly _ taken
  cases action with
  | master => exact orderly.masterStep (master_cases taken)
  | slave index => exact orderly.slaveStep (slave_cases taken)

/-! ## What the master prints -/

def Buffer.readAll (buf : Buffer) (chunks : List Chunk) : Buffer :=
  chunks.foldl Buffer.read buf

theorem readLoop_concat (buf : Buffer) (chunks : List Chunk) (chunk : Chunk) :
    readLoop buf (chunks ++ [chunk]) =
      (readLoop buf chunks).bind fun before =>
        (buf.readAll (chunks ++ [chunk])).print.map (before ++ ·) := by
  induction chunks generalizing buf with
  | nil =>
      simp only [List.nil_append, readLoop, Buffer.readAll, List.foldl_cons, List.foldl_nil]
      cases (buf.read chunk).print <;> simp
  | cons first chunks induction =>
      simp only [List.cons_append, readLoop, induction, Buffer.readAll, List.foldl_cons]
      cases (buf.read first).print with
      | none => rfl
      | some start =>
          cases readLoop (buf.read first) chunks with
          | none => rfl
          | some middle => simp [Option.map_map, Function.comp_def, List.append_assoc]

/-- Every byte that is read is printed, in order, perhaps with others in between. -/
theorem sent_sublist {buf : Buffer} {chunks : List Chunk} {printed : Text}
    (printing : readLoop buf chunks = some printed) : (sent chunks).Sublist printed := by
  induction chunks generalizing buf printed with
  | nil => exact List.nil_sublist _
  | cons chunk chunks induction =>
      rcases Option.bind_eq_some_iff.mp printing with ⟨first, printedFirst, later⟩
      rcases Option.map_eq_some_iff.mp later with ⟨others, printedOthers, rfl⟩
      rw [print_read printedFirst, sent, List.flatMap_cons]
      exact (List.sublist_append_left _ _).append (induction printedOthers)

/-- The master is where its loop would be after the chunks that it has read. -/
structure Looped (state : State setting) (received : List Chunk) : Prop where
  chunks : received.map Chunk.bytes = state.pipe.chunks
  buf : state.buf = setting.buf.readAll received
  printed : state.printed = readLoop setting.buf received

theorem Looped.readChunk {received : List Chunk} (looped : Looped state received)
    (something : state.pipe.content ≠ []) :
    Looped (state.readChunk something) (received ++ [state.chunk something]) where
  chunks := by
    simp only [State.readChunk_pipe, Pipe.read_chunks, List.map_append, looped.chunks]
    rfl
  buf := by
    simp only [State.readChunk_buf, looped.buf, Buffer.readAll, List.foldl_append,
      List.foldl_cons, List.foldl_nil]
  printed := by
    rw [readLoop_concat]
    simp only [State.readChunk_printed, looped.printed, looped.buf, Buffer.readAll,
      List.foldl_append, List.foldl_cons, List.foldl_nil]

theorem looped (reachable : (system setting).Reachable state) :
    ∃ received, Looped state received := by
  refine reachable.invariant (fun state => ∃ received, Looped state received)
    ⟨[], rfl, rfl, rfl⟩ ?_
  intro current action following known _ taken
  rcases known with ⟨received, looped⟩
  cases action with
  | master =>
      cases master_cases taken with
      | read pc something => exact ⟨_, looped.readChunk something⟩
      | nameTaken | mkfifo | openFifo | cantOpen | opened | endOfFile | close | remove =>
          exact ⟨received, looped.chunks, looped.buf, looped.printed⟩
  | slave index =>
      cases slave_cases taken with
      | openFifo | cantOpen | opened | more | enough | write | killed | close | remove =>
          exact ⟨received, looped.chunks, looped.buf, looped.printed⟩

/-! ## All runs -/

structure Delivered (state : State setting) : Prop where
  /-- What has been read are the first of the bytes that were written. -/
  inOrder : state.pipe.chunks.flatten ++ state.pipe.content =
    state.pipe.writes.flatMap Prod.snd
  /-- Each slave has written its first messages, each once and as a whole. -/
  messages : ∀ index, state.pipe.messages (· = index) =
    (List.range ((state.slaves index).written (setting.slave index).count)).map
      (setting.slave index).message
  /-- After the end of the file, the messages of all slaves have been read but of the late. -/
  read : state.master.Ended = true →
    state.pipe.chunks.flatten = (state.pipe.messages (!state.late ·)).flatten ∧
      state.pipe.content = (state.pipe.messages state.late).flatten
  settled : state.master.Ended = true → ∀ index, state.late index = false →
    (state.slaves index).Settled = true
  /-- Only a late slave is killed, or waits for ever. -/
  deserted : ∀ index, (state.slaves index).Deserted = true → state.late index = true
  /-- Every byte that is read is printed, in order. -/
  printed : (∃ received : List Chunk, received.map Chunk.bytes = state.pipe.chunks ∧
      state.printed = readLoop setting.buf received) ∧
    ∀ text, state.printed = some text → state.pipe.chunks.flatten.Sublist text

/-- The messages are delivered whatever the master and the slaves do in which order, but for
those of slaves that open the FIFO after the master has read the end of the file. -/
theorem delivered (setting : Setting) {state : State setting}
    (reachable : (system setting).Reachable state) : Delivered state := by
  have orderly := orderly reachable
  rcases looped reachable with ⟨received, looped⟩
  exact
    { inOrder := state.pipe.intact
      messages := orderly.messages
      read := orderly.read
      settled := fun ended index => (orderly.slaves index).settled ended
      deserted := fun index => (orderly.slaves index).deserted
      printed := by
        refine ⟨⟨received, looped.chunks, looped.printed⟩, ?_⟩
        intro text printed
        rw [looped.printed] at printed
        have inside := sent_sublist printed
        rwa [sent, List.flatMap_def, looped.chunks] at inside }

/-- A slave that sends one message. -/
def oneMessage : Slave where
  count := 1
  pid := 7
  date := fun _ => ['n', 'o', 'w', '\n']
  noNul := fun _ => by decide +kernel
  fits := fun _ => by decide +kernel

def twoSlaves : Setting where
  slaves := 2
  slave := fun _ => oneMessage
  taken := false
  buf := zeros
  capacity := PIPE_BUF
  roomy := Nat.le_refl _

/-- The second slave opens the FIFO between the end of the file and the `close`. -/
def lostMessage : State twoSlaves :=
  let first : Action twoSlaves := .slave ⟨0, Nat.two_pos⟩
  let second : Action twoSlaves := .slave ⟨1, Nat.one_lt_two⟩
  (system twoSlaves).after
    ([.master, .master, first, first, .master, first, first, .master, first, first, .master] ++
      List.replicate 4 second ++ [.master, .master])
    (by decide +kernel)

theorem delivered_lostMessage :
    (lostMessage.master = .returned ∧ lostMessage.pipe.content = oneMessage.message 0) ∧
      Delivered lostMessage :=
  ⟨by decide +kernel, delivered twoSlaves ((system twoSlaves).after_reachable _ _)⟩

end OsExercises.NamedPipe
