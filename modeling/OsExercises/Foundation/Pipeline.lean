import OsExercises.Foundation.Totals
import OsExercises.Foundation.TransitionSystem

/-! # Pipelines

Programs that each read what the one before has written. Where the calls of a program depend on
nothing but what it has read, the last channel gets the same in every order of steps. A channel
holds a bounded number of bytes, a program at the end of its input is told so as soon as nobody can
write any more, and one whose output nobody can read any more may be killed. -/

namespace OsExercises

/-- What a program does next. -/
inductive Call (Byte : Type u) (Memory : Type v)
  /-- it goes on with the next byte, or with the end of the file -/
  | read (received : Option Byte → Memory)
  | write (byte : Byte) (sent : Memory)
  | exit

/-- A program that reads one channel and writes another. -/
structure Transducer (Byte : Type u) (Memory : Type v) where
  start : Memory
  call : Memory → Call Byte Memory

namespace Transducer

variable {Byte : Type u} {Memory : Type v}

/-- With this still to read, and no more to come, the program makes so many calls, writes this and
exits. -/
inductive Produces (transducer : Transducer Byte Memory) :
    Memory → List Byte → List Byte → Nat → Prop
  | receive {memory : Memory} {received : Option Byte → Memory} {byte : Byte}
      {input output : List Byte} {calls : Nat} (call : transducer.call memory = .read received)
      (later : Produces transducer (received (some byte)) input output calls) :
      Produces transducer memory (byte :: input) output (calls + 1)
  | endOfFile {memory : Memory} {received : Option Byte → Memory} {output : List Byte}
      {calls : Nat} (call : transducer.call memory = .read received)
      (later : Produces transducer (received none) [] output calls) :
      Produces transducer memory [] output (calls + 1)
  | send {memory sent : Memory} {byte : Byte} {input output : List Byte} {calls : Nat}
      (call : transducer.call memory = .write byte sent)
      (later : Produces transducer sent input output calls) :
      Produces transducer memory input (byte :: output) (calls + 1)
  | exit {memory : Memory} {input : List Byte} (call : transducer.call memory = .exit) :
      Produces transducer memory input [] 1

namespace Produces

variable {transducer : Transducer Byte Memory} {memory sent : Memory}
variable {received : Option Byte → Memory}
variable {byte : Byte} {input output : List Byte} {calls : Nat}

theorem positive (produces : transducer.Produces memory input output calls) : 0 < calls := by
  cases produces <;> exact Nat.succ_pos _

theorem of_receive (produces : transducer.Produces memory (byte :: input) output calls)
    (call : transducer.call memory = .read received) :
    ∃ fewer < calls, transducer.Produces (received (some byte)) input output fewer := by
  cases produces with
  | receive other later =>
      cases call.symm.trans other
      exact ⟨_, Nat.lt_succ_self _, later⟩
  | send other => cases call.symm.trans other
  | exit other => cases call.symm.trans other

theorem of_endOfFile (produces : transducer.Produces memory [] output calls)
    (call : transducer.call memory = .read received) :
    ∃ fewer < calls, transducer.Produces (received none) [] output fewer := by
  cases produces with
  | endOfFile other later =>
      cases call.symm.trans other
      exact ⟨_, Nat.lt_succ_self _, later⟩
  | send other => cases call.symm.trans other
  | exit other => cases call.symm.trans other

theorem of_send (produces : transducer.Produces memory input output calls)
    (call : transducer.call memory = .write byte sent) :
    ∃ fewer < calls, ∃ rest, output = byte :: rest ∧
      transducer.Produces sent input rest fewer := by
  cases produces with
  | receive other => cases call.symm.trans other
  | endOfFile other => cases call.symm.trans other
  | send other later =>
      cases call.symm.trans other
      exact ⟨_, Nat.lt_succ_self _, _, rfl, later⟩
  | exit other => cases call.symm.trans other

theorem of_exit (produces : transducer.Produces memory input output calls)
    (call : transducer.call memory = .exit) : output = [] := by
  cases produces with
  | receive other => cases call.symm.trans other
  | endOfFile other => cases call.symm.trans other
  | send other => cases call.symm.trans other
  | exit => rfl

end Produces

end Transducer

namespace Pipeline

/-- A process that runs a program. -/
inductive Process (Memory : Type v)
  | running (memory : Memory)
  | exited
  | killed

def Process.ended {Memory : Type v} : Process Memory → Bool
  | .running _ => false
  | .exited | .killed => true

/-- Program `j` reads channel `j` and writes channel `j + 1`. -/
structure State (Byte : Type u) (Memory : Type v) where
  process : Nat → Process Memory
  channel : Nat → List Byte

inductive Action
  /-- the program makes its next call -/
  | run (j : Nat)
  /-- the program is killed when it writes what nobody can read -/
  | breakPipe (j : Nat)

variable {Byte : Type u} {Memory : Type v}

namespace State

def setProcess (state : State Byte Memory) (j : Nat) (process : Process Memory) :
    State Byte Memory :=
  { state with process := Function.update state.process j process }

def setChannel (state : State Byte Memory) (k : Nat) (bytes : List Byte) : State Byte Memory :=
  { state with channel := Function.update state.channel k bytes }

/-- Nothing more comes into channel `k`. -/
def Closed (state : State Byte Memory) (k : Nat) : Prop :=
  k = 0 ∨ (state.process (k - 1)).ended = true

instance (state : State Byte Memory) (k : Nat) : Decidable (state.Closed k) :=
  inferInstanceAs (Decidable (_ ∨ _))

def receive (state : State Byte Memory) (j : Nat) (received : Option Byte → Memory) :
    Option (State Byte Memory) :=
  match state.channel j with
  | byte :: rest => some ((state.setProcess j (.running (received (some byte)))).setChannel j rest)
  | [] =>
      if state.Closed j then some (state.setProcess j (.running (received none))) else none

/-- The last channel takes any number of bytes. -/
def send (state : State Byte Memory) (count capacity j : Nat) (byte : Byte) (sent : Memory) :
    Option (State Byte Memory) :=
  if j + 1 = count ∨ (state.channel (j + 1)).length < capacity then
    some ((state.setProcess j (.running sent)).setChannel (j + 1) (state.channel (j + 1) ++ [byte]))
  else
    none

end State

def run (count capacity : Nat) (program : Nat → Transducer Byte Memory) (state : State Byte Memory)
    (j : Nat) : Option (State Byte Memory) :=
  match state.process j with
  | .running memory =>
      match (program j).call memory with
      | .read received => state.receive j received
      | .write byte sent => state.send count capacity j byte sent
      | .exit => some (state.setProcess j .exited)
  | .exited | .killed => none

def breakPipe (program : Nat → Transducer Byte Memory) (state : State Byte Memory) (j : Nat) :
    Option (State Byte Memory) :=
  match state.process j with
  | .running memory =>
      match (program j).call memory with
      | .write _ _ => some (state.setProcess j .killed)
      | .read _ | .exit => none
  | .exited | .killed => none

/-- Programs `0` to `count - 1`. -/
def system (count capacity : Nat) (program : Nat → Transducer Byte Memory) (input : List Byte) :
    TransitionSystem (State Byte Memory) Action where
  initial :=
    { process j := .running (program j).start
      channel := Function.update (fun _ => []) 0 input }
  next state
    | .run j => if j < count then run count capacity program state j else none
    | .breakPipe j =>
        if j + 1 < count ∧ (state.process (j + 1)).ended then breakPipe program state j else none

/-! ## Steps -/

variable {count capacity : Nat} {program : Nat → Transducer Byte Memory}
variable {state following : State Byte Memory}

/-- What a step does to the program that makes it. -/
inductive Step (count : Nat) (program : Nat → Transducer Byte Memory) (state : State Byte Memory)
    (j : Nat) : State Byte Memory → Prop
  | receive {memory : Memory} {received : Option Byte → Memory} {byte : Byte} {rest : List Byte}
      (runs : state.process j = .running memory) (call : (program j).call memory = .read received)
      (next : state.channel j = byte :: rest) :
      Step count program state j
        ((state.setProcess j (.running (received (some byte)))).setChannel j rest)
  | endOfFile {memory : Memory} {received : Option Byte → Memory}
      (runs : state.process j = .running memory) (call : (program j).call memory = .read received)
      (empty : state.channel j = []) (closed : state.Closed j) :
      Step count program state j (state.setProcess j (.running (received none)))
  | send {memory sent : Memory} {byte : Byte} (runs : state.process j = .running memory)
      (call : (program j).call memory = .write byte sent) :
      Step count program state j ((state.setProcess j (.running sent)).setChannel (j + 1)
        (state.channel (j + 1) ++ [byte]))
  | exit {memory : Memory} (runs : state.process j = .running memory)
      (call : (program j).call memory = .exit) :
      Step count program state j (state.setProcess j .exited)
  | breakPipe {memory : Memory} (runs : state.process j = .running memory)
      (inner : j + 1 < count) (unread : (state.process (j + 1)).ended = true) :
      Step count program state j (state.setProcess j .killed)

theorem run_cases {j : Nat} (taken : run count capacity program state j = some following) :
    Step count program state j following := by
  unfold run at taken
  split at taken
  · next memory runs =>
      split at taken
      · next received call =>
          unfold State.receive at taken
          split at taken
          · next byte rest next =>
              cases taken
              exact .receive runs call next
          · next empty =>
              split at taken
              · next closed =>
                  cases taken
                  exact .endOfFile runs call empty closed
              · cases taken
      · next byte sent call =>
          unfold State.send at taken
          split at taken
          · cases taken
            exact .send runs call
          · cases taken
      · next call =>
          cases taken
          exact .exit runs call
  · cases taken
  · cases taken

theorem breakPipe_cases {j : Nat} (inner : j + 1 < count)
    (unread : (state.process (j + 1)).ended = true)
    (taken : breakPipe program state j = some following) :
    Step count program state j following := by
  unfold breakPipe at taken
  split at taken
  · next memory runs =>
      split at taken
      · cases taken
        exact .breakPipe runs inner unread
      · cases taken
      · cases taken
  · cases taken
  · cases taken

theorem next_cases {input : List Byte} {action : Action}
    (taken : (system count capacity program input).next state action = some following) :
    ∃ j < count, Step count program state j following := by
  cases action with
  | run j =>
      simp only [system, Option.ite_none_right_eq_some] at taken
      exact ⟨j, taken.1, run_cases taken.2⟩
  | breakPipe j =>
      simp only [system, Option.ite_none_right_eq_some] at taken
      rcases taken with ⟨⟨inner, unread⟩, taken⟩
      exact ⟨j, Nat.lt_of_succ_lt inner, breakPipe_cases inner unread taken⟩

/-- A process that has ended stays so. -/
theorem Step.ended {j other : Nat} (step : Step count program state j following)
    (ended : (state.process other).ended = true) : (following.process other).ended = true := by
  have apart {memory : Memory} (runs : state.process j = .running memory) : other ≠ j := by
    intro same
    rw [same, runs] at ended
    cases ended
  cases step with
  | receive runs | endOfFile runs | send runs | exit runs | breakPipe runs =>
      simp only [State.setProcess, State.setChannel, Function.update_of_ne (apart runs)]
      exact ended

/-- `future k` is still to come into channel `k`, and program `j` makes so many more calls. -/
structure Sound (count : Nat) (program : Nat → Transducer Byte Memory) (output : List Byte)
    (state : State Byte Memory) (future : Nat → List Byte) (calls : Nat → Nat) : Prop where
  source : future 0 = []
  running : ∀ j < count, ∀ memory, state.process j = .running memory →
    (program j).Produces memory (state.channel j ++ future j) (future (j + 1)) (calls j)
  exited : ∀ j < count, state.process j = .exited → future (j + 1) = []
  killed : ∀ j < count, state.process j = .killed →
    j + 1 < count ∧ (state.process (j + 1)).ended = true
  output : state.channel count ++ future count = output

namespace Sound

variable {output : List Byte} {future : Nat → List Byte} {calls : Nat → Nat}

/-- Nothing more comes into a closed channel that is read. -/
theorem future_of_closed (sound : Sound count program output state future calls) {j : Nat}
    (inside : j < count) {memory : Memory} (runs : state.process j = .running memory)
    (closed : state.Closed j) : future j = [] := by
  rcases closed with first | ended
  · rw [first]
    exact sound.source
  · cases j with
    | zero => exact sound.source
    | succ k =>
        rw [Nat.add_sub_cancel] at ended
        cases before : state.process k with
        | running other =>
            rw [before] at ended
            cases ended
        | exited => exact sound.exited k (Nat.lt_of_succ_lt inside) before
        | killed =>
            have unread := (sound.killed k (Nat.lt_of_succ_lt inside) before).2
            rw [runs] at unread
            cases unread

/-- A process that has ended stays so. -/
theorem killed_update (sound : Sound count program output state future calls) {j other : Nat}
    {memory : Memory} (runs : state.process j = .running memory) (inside : other < count)
    (process : Process Memory) (dead : state.process other = .killed) : other + 1 < count ∧
      (Function.update state.process j process (other + 1)).ended = true := by
  rcases sound.killed other inside dead with ⟨inner, ended⟩
  have apart : other + 1 ≠ j := by
    intro same
    rw [same, runs] at ended
    cases ended
  rw [Function.update_of_ne apart]
  exact ⟨inner, ended⟩

/-- Where the program goes on, and each channel keeps what was in it or to come. -/
theorem goOn (sound : Sound count program output state future calls) {j fewer : Nat}
    {memory next : Memory} {channel future' : Nat → List Byte}
    (runs : state.process j = .running memory) (source : future' 0 = [])
    (produces : (program j).Produces next (channel j ++ future' j) (future' (j + 1)) fewer)
    (kept : ∀ other, other ≠ j → channel other ++ future' other =
      state.channel other ++ future other)
    (last : channel count ++ future' count = state.channel count ++ future count)
    (others : ∀ other, other ≠ j → future' (other + 1) = future (other + 1)) :
    Sound count program output
      ⟨Function.update state.process j (.running next), channel⟩ future'
      (Function.update calls j fewer) where
  source := source
  running := by
    intro other inside memory running
    by_cases same : other = j
    · subst same
      simp only [Function.update_self, Process.running.injEq] at running ⊢
      rw [← running]
      exact produces
    · simp only [Function.update_of_ne same] at running ⊢
      rw [kept other same, others other same]
      exact sound.running other inside memory running
  exited := by
    intro other inside exited
    by_cases same : other = j
    · subst same
      simp at exited
    · simp only [Function.update_of_ne same] at exited
      rw [others other same]
      exact sound.exited other inside exited
  killed := by
    intro other inside dead
    by_cases same : other = j
    · subst same
      simp at dead
    · simp only [Function.update_of_ne same] at dead
      exact sound.killed_update runs inside _ dead
  output := last.trans sound.output

/-- Where the program ends, nothing else changes. -/
theorem stop (sound : Sound count program output state future calls) {j : Nat} {memory : Memory}
    {process : Process Memory} (runs : state.process j = .running memory)
    (ended : process.ended = true) (exited : process = .exited → future (j + 1) = [])
    (killed : process = .killed → j + 1 < count ∧ (state.process (j + 1)).ended = true) :
    Sound count program output (state.setProcess j process) future (Function.update calls j 0) where
  source := sound.source
  running := by
    intro other inside memory running
    by_cases same : other = j
    · subst same
      simp only [State.setProcess, Function.update_self] at running
      rw [running] at ended
      cases ended
    · simp only [State.setProcess, Function.update_of_ne same] at running ⊢
      exact sound.running other inside memory running
  exited := by
    intro other inside done
    by_cases same : other = j
    · subst same
      simp only [State.setProcess, Function.update_self] at done
      exact exited done
    · simp only [State.setProcess, Function.update_of_ne same] at done
      exact sound.exited other inside done
  killed := by
    intro other inside dead
    by_cases same : other = j
    · subst same
      simp only [State.setProcess, Function.update_self] at dead
      have apart : other + 1 ≠ other := Nat.succ_ne_self other
      simp only [State.setProcess, Function.update_of_ne apart]
      exact killed dead
    · simp only [State.setProcess, Function.update_of_ne same] at dead
      exact sound.killed_update runs inside _ dead
  output := sound.output

/-- Every call is one of those that were left. -/
theorem step (sound : Sound count program output state future calls) {j : Nat} (inside : j < count)
    (step : Step count program state j following) :
    ∃ future' fewer, fewer < calls j ∧
      Sound count program output following future' (Function.update calls j fewer) := by
  have notLast : count ≠ j := Nat.ne_of_gt inside
  cases step with
  | @receive memory received byte rest runs call next =>
      have produces := sound.running j inside memory runs
      rw [next, List.cons_append] at produces
      rcases produces.of_receive call with ⟨fewer, less, later⟩
      refine ⟨future, fewer, less, sound.goOn runs sound.source ?_ ?_ ?_ fun _ _ => rfl⟩
      · rw [Function.update_self]
        exact later
      · intro other different
        simp only [State.setProcess, Function.update_of_ne different]
      · simp only [State.setProcess, Function.update_of_ne notLast]
  | @endOfFile memory received runs call empty closed =>
      have produces := sound.running j inside memory runs
      have nothing := sound.future_of_closed inside runs closed
      rw [empty, nothing, List.append_nil] at produces
      rcases produces.of_endOfFile call with ⟨fewer, less, later⟩
      refine ⟨future, fewer, less,
        sound.goOn runs sound.source ?_ (fun _ _ => rfl) rfl fun _ _ => rfl⟩
      rw [empty, nothing, List.append_nil]
      exact later
  | @send memory sent byte runs call =>
      have produces := sound.running j inside memory runs
      rcases produces.of_send call with ⟨fewer, less, rest, next, later⟩
      have kept (other : Nat) (different : other ≠ j) :
          Function.update state.channel (j + 1) (state.channel (j + 1) ++ [byte]) other ++
            Function.update future (j + 1) rest other = state.channel other ++ future other := by
        by_cases reader : other = j + 1
        · subst reader
          simp [next]
        · simp only [Function.update_of_ne reader]
      have apart : j ≠ j + 1 := Nat.ne_of_lt (Nat.lt_succ_self j)
      refine ⟨Function.update future (j + 1) rest, fewer, less,
        sound.goOn runs ?_ ?_ kept (kept count notLast) ?_⟩
      · rw [Function.update_of_ne (Nat.succ_ne_zero j).symm]
        exact sound.source
      · simp only [State.setProcess, Function.update_of_ne apart, Function.update_self]
        exact later
      · intro other different
        rw [Function.update_of_ne fun same => different (Nat.succ.inj same)]
  | @exit memory runs call =>
      have produces := sound.running j inside memory runs
      refine ⟨future, 0, produces.positive, sound.stop runs rfl ?_ nofun⟩
      intro _
      exact produces.of_exit call
  | @breakPipe memory runs inner unread =>
      have produces := sound.running j inside memory runs
      exact ⟨future, 0, produces.positive, sound.stop runs rfl nofun fun _ => ⟨inner, unread⟩⟩

end Sound

/-- Each program makes of the result before it the next result. -/
structure Computes (count : Nat) (program : Nat → Transducer Byte Memory) (input : List Byte)
    (result : Nat → List Byte) (calls : Nat → Nat) : Prop where
  input : result 0 = input
  produces : ∀ j < count,
    (program j).Produces (program j).start (result j) (result (j + 1)) (calls j)

section Results

variable {input : List Byte} {result : Nat → List Byte} {calls : Nat → Nat}

theorem Sound.initial (computes : Computes count program input result calls)
    (positive : 0 < count) :
    Sound count program (result count) (system count capacity program input).initial
      (Function.update result 0 []) calls where
  source := Function.update_self ..
  running := by
    intro j inside memory running
    cases running
    have produces := computes.produces j inside
    rw [Function.update_of_ne (Nat.succ_ne_zero j)]
    cases j with
    | zero => simpa [system, computes.input] using produces
    | succ j => simpa [system] using produces
  exited := nofun
  killed := nofun
  output := by
    simp [system, Function.update_of_ne (Nat.ne_of_gt positive)]

theorem sound (computes : Computes count program input result calls) (positive : 0 < count)
    (reachable : (system count capacity program input).Reachable state) :
    ∃ future left, Sound count program (result count) state future left := by
  refine reachable.invariant (fun state => ∃ future left,
    Sound count program (result count) state future left) ⟨_, _, .initial computes positive⟩ ?_
  intro current action following holds _ taken
  rcases holds with ⟨future, left, sound⟩
  rcases next_cases taken with ⟨j, inside, step⟩
  rcases sound.step inside step with ⟨future', fewer, _, later⟩
  exact ⟨future', _, later⟩

/-- What has been written is right so far, and all of it is there when the last program has
ended. -/
theorem Sound.written {output : List Byte} {future : Nat → List Byte}
    (sound : Sound count program output state future calls) (positive : 0 < count) :
    state.channel count <+: output ∧
      ((state.process (count - 1)).ended = true → state.channel count = output) := by
  have inside : count - 1 < count := Nat.sub_lt positive Nat.one_pos
  have next : count - 1 + 1 = count := Nat.sub_add_cancel positive
  have all := sound.output
  refine ⟨⟨future count, all⟩, fun ended => ?_⟩
  cases last : state.process (count - 1) with
  | running memory =>
      rw [last] at ended
      cases ended
  | exited =>
      have nothing := sound.exited (count - 1) inside last
      rw [next] at nothing
      rw [nothing, List.append_nil] at all
      exact all
  | killed =>
      have inner := (sound.killed (count - 1) inside last).1
      rw [next] at inner
      exact absurd inner (Nat.lt_irrefl count)

end Results

/-! ## Nobody waits for ever -/

section Progress

variable {input : List Byte}

theorem enabled_run {j : Nat} (inside : j < count)
    (possible : (run count capacity program state j).isSome = true) :
    (system count capacity program input).Enabled state (.run j) := by
  simpa [TransitionSystem.Enabled, system, inside] using possible

/-- A program that has something to read, or is told that nothing comes, goes on, or one of those
behind it does, or it is killed. -/
theorem fed_proceeds (room : 0 < capacity) {j : Nat} (inside : j < count) {memory : Memory}
    (runs : state.process j = .running memory) (fed : state.channel j ≠ [] ∨ state.Closed j) :
    ∃ action, (system count capacity program input).Enabled state action := by
  induction distance : count - j generalizing j memory with
  | zero => omega
  | succ distance induction =>
      cases call : (program j).call memory with
      | read received =>
          refine ⟨.run j, enabled_run inside ?_⟩
          simp only [run, runs, call, State.receive]
          cases next : state.channel j with
          | nil =>
              have closed := fed.resolve_left (not_not.mpr next)
              simp [closed]
          | cons byte rest => rfl
      | exit =>
          refine ⟨.run j, enabled_run inside ?_⟩
          simp [run, runs, call]
      | write byte sent =>
          by_cases fits : j + 1 = count ∨ (state.channel (j + 1)).length < capacity
          · refine ⟨.run j, enabled_run inside ?_⟩
            simp [run, runs, call, State.send, fits]
          · rcases not_or.mp fits with ⟨notLast, full⟩
            have inner : j + 1 < count := by omega
            cases reader : state.process (j + 1) with
            | running other =>
                -- the reader of a full channel is not waiting for input
                refine induction inner reader (.inl ?_) (by omega)
                intro empty
                rw [empty] at full
                exact full room
            | exited | killed =>
                refine ⟨.breakPipe j, ?_⟩
                simp [TransitionSystem.Enabled, system, inner, reader, Process.ended, breakPipe,
                  runs, call]

/-- While a program runs, some program goes on. -/
theorem proceeds (room : 0 < capacity) {j : Nat} (inside : j < count)
    (runs : (state.process j).ended = false) :
    ∃ action, (system count capacity program input).Enabled state action := by
  induction j with
  | zero =>
      cases process : state.process 0 with
      | running memory => exact fed_proceeds room inside process (.inr (.inl rfl))
      | exited | killed =>
          rw [process] at runs
          cases runs
  | succ j induction =>
      cases before : (state.process j).ended with
      | false => exact induction (Nat.lt_of_succ_lt inside) before
      | true =>
          cases process : state.process (j + 1) with
          | running memory => exact fed_proceeds room inside process (.inr (.inr before))
          | exited | killed =>
              rw [process] at runs
              cases runs

end Progress

end Pipeline

end OsExercises
