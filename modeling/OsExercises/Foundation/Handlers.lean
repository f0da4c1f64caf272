import Mathlib.Data.List.Basic

/-! # Signal handlers

A signal that is delivered interrupts the main program, or the handler of another
signal, until its own handler returns. A signal is blocked while its handler runs, so
that the stack holds at most one handler of each signal. A standard signal can be
pending once, and a second instance is merged into the pending one. -/

namespace OsExercises

structure HandlerStack (Signal : Type u) (Pc : Type v) where
  /-- The handlers that have been entered and not left, the running one first. -/
  frames : List (Signal × Pc)
  nodup : (frames.map Prod.fst).Nodup

namespace HandlerStack

variable {Signal : Type u} {Pc : Type v}

def empty : HandlerStack Signal Pc := ⟨[], List.nodup_nil⟩

def Blocks (stack : HandlerStack Signal Pc) (signal : Signal) : Prop :=
  signal ∈ stack.frames.map Prod.fst

instance [DecidableEq Signal] (stack : HandlerStack Signal Pc) (signal : Signal) :
    Decidable (stack.Blocks signal) :=
  inferInstanceAs (Decidable (_ ∈ _))

/-- The handler that runs, and its next statement. -/
def running (stack : HandlerStack Signal Pc) : Option (Signal × Pc) :=
  stack.frames.head?

def enter (stack : HandlerStack Signal Pc) (signal : Signal) (pc : Pc)
    (unblocked : ¬ stack.Blocks signal) : HandlerStack Signal Pc where
  frames := (signal, pc) :: stack.frames
  nodup := List.nodup_cons.mpr ⟨unblocked, stack.nodup⟩

/-- The running handler goes on to another statement. -/
def move (stack : HandlerStack Signal Pc) (pc : Pc) : HandlerStack Signal Pc where
  frames :=
    match stack.frames with
    | [] => []
    | (signal, _) :: rest => (signal, pc) :: rest
  nodup := by
    have nodup := stack.nodup
    split
    · exact List.nodup_nil
    · next same =>
        rw [same] at nodup
        exact nodup

/-- The running handler returns. -/
def leave (stack : HandlerStack Signal Pc) : HandlerStack Signal Pc where
  frames := stack.frames.tail
  nodup := by
    rw [List.map_tail]
    exact stack.nodup.tail

variable {stack : HandlerStack Signal Pc} {signal other : Signal} {pc : Pc}

@[simp] theorem running_empty : (empty : HandlerStack Signal Pc).running = none := rfl

theorem frames_of_running (running : stack.running = some (signal, pc)) :
    ∃ rest, stack.frames = (signal, pc) :: rest :=
  List.head?_eq_some_iff.mp running

/-! ## Where the handlers are -/

section PcOf

variable [DecidableEq Signal]

/-- The next statement of the handler of the signal in a list of frames. -/
def framePc (signal : Signal) : List (Signal × Pc) → Option Pc
  | [] => none
  | frame :: rest => if signal = frame.1 then some frame.2 else framePc signal rest

/-- The next statement of the handler of the signal, running or interrupted. -/
def pcOf (stack : HandlerStack Signal Pc) (signal : Signal) : Option Pc :=
  framePc signal stack.frames

@[simp] theorem pcOf_empty : (empty : HandlerStack Signal Pc).pcOf signal = none := rfl

theorem framePc_eq_none_iff {frames : List (Signal × Pc)} :
    framePc signal frames = none ↔ signal ∉ frames.map Prod.fst := by
  induction frames with
  | nil => simp [framePc]
  | cons frame rest induction =>
      by_cases same : signal = frame.1 <;> simp [framePc, same, induction]

theorem blocks_iff : stack.Blocks signal ↔ stack.pcOf signal ≠ none := by
  rw [Blocks, pcOf, Ne, framePc_eq_none_iff, not_not]

theorem pcOf_running (running : stack.running = some (signal, pc)) :
    stack.pcOf signal = some pc := by
  rcases frames_of_running running with ⟨rest, frames⟩
  rw [pcOf, frames, framePc, if_pos rfl]

/-- While no handler runs, none has been interrupted. -/
theorem pcOf_idle (idle : stack.running = none) (signal : Signal) :
    stack.pcOf signal = none := by
  rw [pcOf, List.head?_eq_none_iff.mp idle]
  rfl

@[simp] theorem pcOf_enter (unblocked : ¬ stack.Blocks signal) :
    (stack.enter signal pc unblocked).pcOf other =
      if other = signal then some pc else stack.pcOf other := rfl

theorem pcOf_move (running : stack.running = some (signal, pc)) (next : Pc) :
    (stack.move next).pcOf other =
      if other = signal then some next else stack.pcOf other := by
  rcases frames_of_running running with ⟨rest, frames⟩
  simp only [pcOf, move, frames, framePc]
  split <;> rfl

theorem pcOf_leave (running : stack.running = some (signal, pc)) :
    stack.leave.pcOf other = if other = signal then none else stack.pcOf other := by
  rcases frames_of_running running with ⟨rest, frames⟩
  have nodup := stack.nodup
  rw [frames, List.map_cons, List.nodup_cons] at nodup
  simp only [pcOf, leave, frames, List.tail_cons, framePc]
  by_cases same : other = signal
  · subst same
    rw [if_pos rfl]
    exact framePc_eq_none_iff.mpr nodup.1
  · rw [if_neg same, if_neg same]

end PcOf

/-! ## What the handlers amount to -/

def weight (amount : Pc → Nat) (stack : HandlerStack Signal Pc) : Nat :=
  stack.frames.foldr (fun frame rest => amount frame.2 + rest) 0

section Weight

variable (amount : Pc → Nat)

@[simp] theorem weight_empty : (empty : HandlerStack Signal Pc).weight amount = 0 := rfl

theorem weight_idle (idle : stack.running = none) : stack.weight amount = 0 := by
  rw [weight, List.head?_eq_none_iff.mp idle]
  rfl

@[simp] theorem weight_enter (unblocked : ¬ stack.Blocks signal) :
    (stack.enter signal pc unblocked).weight amount = amount pc + stack.weight amount := by
  simp [weight, enter]

theorem weight_move (running : stack.running = some (signal, pc)) (next : Pc) :
    (stack.move next).weight amount + amount pc = stack.weight amount + amount next := by
  rcases frames_of_running running with ⟨rest, frames⟩
  simp only [weight, move, frames, List.foldr_cons]
  omega

theorem weight_leave (running : stack.running = some (signal, pc)) :
    stack.leave.weight amount + amount pc = stack.weight amount := by
  rcases frames_of_running running with ⟨rest, frames⟩
  simp only [weight, leave, frames, List.tail_cons, List.foldr_cons]
  omega

end Weight

/-! ## What is known of the handlers -/

def All (holds : Signal → Pc → Prop) (stack : HandlerStack Signal Pc) : Prop :=
  ∀ frame ∈ stack.frames, holds frame.1 frame.2

section All

variable {holds : Signal → Pc → Prop}

theorem all_empty : (empty : HandlerStack Signal Pc).All holds := nofun

theorem All.running (all : stack.All holds) (running : stack.running = some (signal, pc)) :
    holds signal pc := by
  rcases frames_of_running running with ⟨rest, frames⟩
  exact all (signal, pc) (by simp [frames])

theorem All.enter (all : stack.All holds) (unblocked : ¬ stack.Blocks signal)
    (entered : holds signal pc) : (stack.enter signal pc unblocked).All holds := by
  intro frame member
  rcases List.mem_cons.mp member with rfl | member
  · exact entered
  · exact all frame member

theorem All.move (all : stack.All holds) (running : stack.running = some (signal, pc)) {next : Pc}
    (moved : holds signal next) : (stack.move next).All holds := by
  rcases frames_of_running running with ⟨rest, frames⟩
  intro frame member
  simp only [HandlerStack.move, frames, List.mem_cons] at member
  rcases member with rfl | member
  · exact moved
  · exact all frame (by simp [frames, member])

theorem All.leave (all : stack.All holds) : stack.leave.All holds := fun frame member =>
  all frame (List.mem_of_mem_tail member)

end All

end HandlerStack

/-! ## Pending standard signals -/

structure StandardSignal (Sender : Type u) where
  /-- Who sent the pending instance. -/
  sender : Option Sender
  /-- How many instances were lost because one was pending. -/
  merged : Nat

namespace StandardSignal

variable {Sender : Type u}

def empty : StandardSignal Sender := ⟨none, 0⟩

/-- One more instance is sent. -/
def post (signal : StandardSignal Sender) (sender : Sender) : StandardSignal Sender :=
  match signal.sender with
  | none => { signal with sender := some sender }
  | some _ => { signal with merged := signal.merged + 1 }

/-- The pending instance is delivered. -/
def take (signal : StandardSignal Sender) : StandardSignal Sender :=
  { signal with sender := none }

def instances (signal : StandardSignal Sender) : Nat :=
  signal.sender.elim 0 fun _ => 1

variable {signal : StandardSignal Sender} {sender : Sender}

@[simp] theorem sender_empty : (empty : StandardSignal Sender).sender = none := rfl

@[simp] theorem merged_empty : (empty : StandardSignal Sender).merged = 0 := rfl

@[simp] theorem instances_empty : (empty : StandardSignal Sender).instances = 0 := rfl

@[simp] theorem sender_take : signal.take.sender = none := rfl

@[simp] theorem merged_take : signal.take.merged = signal.merged := rfl

@[simp] theorem instances_take : signal.take.instances = 0 := rfl

/-- Whether or not an instance was pending before. -/
theorem instances_posted : (signal.post sender).instances = 1 := by
  cases pending : signal.sender <;> simp [instances, post, pending]

theorem instances_eq_zero : signal.instances = 0 ↔ signal.sender = none := by
  cases pending : signal.sender <;> simp [instances, pending]

theorem instances_eq_one (pending : signal.sender = some sender) : signal.instances = 1 := by
  simp [instances, pending]

/-- What finds nothing pending is not lost. -/
theorem post_eq (nothing : signal.sender = none) :
    signal.post sender = { signal with sender := some sender } := by
  simp only [post, nothing]

theorem instances_post (nothing : signal.sender = none) : (signal.post sender).instances = 1 := by
  rw [post_eq nothing]
  rfl

theorem merged_post (nothing : signal.sender = none) :
    (signal.post sender).merged = signal.merged := by
  rw [post_eq nothing]

end StandardSignal

end OsExercises
