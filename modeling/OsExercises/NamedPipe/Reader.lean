import OsExercises.Foundation.Text

/-! # The reader of the FIFO

The master of cw05/zad2 reads every chunk into the same array and prints the array as a
string. It puts no NUL behind the chunk: what is printed goes on to the first NUL that an
earlier chunk, or whatever was in the array before, has left there. -/

namespace OsExercises.NamedPipe

open OsExercises

def PIPE_BUF : Nat := 4096

/-- `char buf[PIPE_BUF]` -/
structure Buffer where
  bytes : Text
  size : bytes.length = PIPE_BUF

/-- What one `read` returns of the text that the slaves have sent. -/
structure Chunk where
  bytes : Text
  nonempty : bytes ≠ []
  noNul : nul ∉ bytes
  fits : bytes.length ≤ PIPE_BUF

namespace Buffer

/-- `read(pipe_fd, buf, PIPE_BUF)` -/
def read (buf : Buffer) (chunk : Chunk) : Buffer where
  bytes := chunk.bytes ++ buf.bytes.drop chunk.bytes.length
  size := by
    rw [List.length_append, List.length_drop, buf.size]
    exact Nat.add_sub_cancel' chunk.fits

/-- `printf("%s", buf)`; `none` goes on behind the array. -/
def print (buf : Buffer) : Option Text :=
  if nul ∈ buf.bytes then some (cString buf.bytes) else none

end Buffer

/-- The loop of the master, up to the end of the file: the text that it prints. -/
def readLoop (buf : Buffer) : List Chunk → Option Text
  | [] => some []
  | chunk :: chunks =>
      (buf.read chunk).print.bind fun printed =>
        (readLoop (buf.read chunk) chunks).map (printed ++ ·)

/-- What was sent. -/
def sent (chunks : List Chunk) : Text :=
  chunks.flatMap Chunk.bytes

/-- Behind each chunk there is a NUL in the array from the start, and no earlier chunk has
reached it. -/
structure Terminated (buf : Buffer) (chunks : List Chunk) : Prop where
  behind : ∀ chunk ∈ chunks, buf.bytes[chunk.bytes.length]? = some nul
  growing : chunks.Pairwise fun earlier later => earlier.bytes.length ≤ later.bytes.length

/-- A string is empty where the array starts with a NUL. -/
theorem empty_iff {text : Text} : nul ∈ text ∧ cString text = [] ↔ text[0]? = some nul := by
  cases text with
  | nil => simp
  | cons character text =>
      by_cases first : character = nul
      · simp [cString, first]
      · simp [cString, first]

section Chunks

variable {buf : Buffer} {chunk : Chunk} {chunks : List Chunk} {printed : Text}

/-- What is printed starts with the chunk. -/
theorem print_read (printing : (buf.read chunk).print = some printed) :
    printed = chunk.bytes ++ cString (buf.bytes.drop chunk.bytes.length) := by
  rw [Buffer.print] at printing
  split at printing
  · rw [← Option.some.inj printing]
    exact cString_append chunk.noNul _
  · cases printing

theorem print_read_eq_iff :
    (buf.read chunk).print = some chunk.bytes ↔
      buf.bytes[chunk.bytes.length]? = some nul := by
  have ends := @empty_iff (buf.bytes.drop chunk.bytes.length)
  rw [List.getElem?_drop, Nat.add_zero] at ends
  rw [← ends]
  constructor
  · intro printing
    have whole := print_read printing
    refine ⟨?_, List.append_cancel_left (whole.symm.trans (List.append_nil _).symm)⟩
    rw [Buffer.print] at printing
    split at printing
    · next member => exact (List.mem_append.mp member).resolve_left chunk.noNul
    · cases printing
  · intro terminated
    have member : nul ∈ (buf.read chunk).bytes := List.mem_append_right _ terminated.1
    have string : cString (buf.read chunk).bytes =
        chunk.bytes ++ cString (buf.bytes.drop chunk.bytes.length) := cString_append chunk.noNul _
    rw [Buffer.print, if_pos member, string, terminated.2, List.append_nil]

/-- Nothing that was sent is left out. -/
theorem length_sent_le (printing : readLoop buf chunks = some printed) :
    (sent chunks).length ≤ printed.length := by
  induction chunks generalizing buf printed with
  | nil => exact Nat.zero_le _
  | cons chunk chunks induction =>
      rcases Option.bind_eq_some_iff.mp printing with ⟨first, printedFirst, later⟩
      rcases Option.map_eq_some_iff.mp later with ⟨others, printedOthers, rfl⟩
      have more := induction printedOthers
      rw [print_read printedFirst, sent, List.flatMap_cons]
      simp only [List.length_append, sent] at more ⊢
      omega

/-- The whole text is right when every chunk is printed as it is. -/
theorem readLoop_cons_iff :
    readLoop buf (chunk :: chunks) = some (sent (chunk :: chunks)) ↔
      (buf.read chunk).print = some chunk.bytes ∧
        readLoop (buf.read chunk) chunks = some (sent chunks) := by
  constructor
  · intro printing
    rcases Option.bind_eq_some_iff.mp printing with ⟨first, printedFirst, later⟩
    rcases Option.map_eq_some_iff.mp later with ⟨others, printedOthers, same⟩
    have enough := length_sent_le printedOthers
    have start := print_read printedFirst
    rw [start, sent, List.flatMap_cons, List.append_assoc] at same
    have rest : cString (buf.bytes.drop chunk.bytes.length) ++ others = sent chunks :=
      List.append_cancel_left same
    have nothing : cString (buf.bytes.drop chunk.bytes.length) = [] := by
      have lengths := congrArg List.length rest
      rw [List.length_append] at lengths
      exact List.eq_nil_of_length_eq_zero (by omega)
    rw [nothing, List.append_nil] at start
    rw [nothing, List.nil_append] at rest
    exact ⟨start ▸ printedFirst, rest ▸ printedOthers⟩
  · intro both
    rw [readLoop, both.1, Option.bind_some, both.2]
    rfl

/-- A chunk leaves no NUL where it has been, and does not change what is behind it. -/
theorem read_behind_iff (n : Nat) :
    (buf.read chunk).bytes[n]? = some nul ↔
      chunk.bytes.length ≤ n ∧ buf.bytes[n]? = some nul := by
  by_cases inside : n < chunk.bytes.length
  · constructor
    · intro found
      rw [Buffer.read, List.getElem?_append_left inside] at found
      exact absurd (List.mem_of_getElem? found) chunk.noNul
    · intro beyond
      exact absurd inside (Nat.not_lt.mpr beyond.1)
  · have beyond : chunk.bytes.length ≤ n := Nat.le_of_not_lt inside
    rw [Buffer.read, List.getElem?_append_right beyond, List.getElem?_drop,
      Nat.add_sub_cancel' beyond]
    exact (and_iff_right beyond).symm

theorem terminated_cons_iff :
    Terminated buf (chunk :: chunks) ↔ buf.bytes[chunk.bytes.length]? = some nul ∧
      Terminated (buf.read chunk) chunks := by
  constructor
  · intro terminated
    have growing := List.pairwise_cons.mp terminated.growing
    refine ⟨terminated.behind chunk List.mem_cons_self, ?_, growing.2⟩
    intro later member
    exact (read_behind_iff _).mpr
      ⟨growing.1 later member, terminated.behind later (List.mem_cons_of_mem _ member)⟩
  · intro both
    rcases both with ⟨first, behind, growing⟩
    refine ⟨?_, List.pairwise_cons.mpr ⟨?_, growing⟩⟩
    · intro later member
      rcases List.mem_cons.mp member with rfl | member
      · exact first
      · exact ((read_behind_iff _).mp (behind later member)).2
    · intro later member
      exact ((read_behind_iff _).mp (behind later member)).1

/-- The master prints what was sent exactly when each chunk is shorter than the array, has
a NUL behind it in the array as it was at first, and follows no longer one. -/
theorem prints_sent_iff (buf : Buffer) (chunks : List Chunk) :
    readLoop buf chunks = some (sent chunks) ↔ Terminated buf chunks := by
  induction chunks generalizing buf with
  | nil => exact iff_of_true rfl ⟨by simp, .nil⟩
  | cons chunk chunks induction =>
      rw [readLoop_cons_iff, terminated_cons_iff, print_read_eq_iff, induction]

end Chunks

/-! ## Two slaves -/

/-- `sprintf(buf2, "My pid from pipe: %d, date: %s\n", getpid(), buf1)` -/
def message (pid : Nat) (date : Text) : Text :=
  ['M', 'y', ' ', 'p', 'i', 'd', ' ', 'f', 'r', 'o', 'm', ' ', 'p', 'i', 'p', 'e', ':', ' '] ++
    decimal pid ++ [',', ' ', 'd', 'a', 't', 'e', ':', ' '] ++ date ++ ['\n']

def longer : Chunk where
  bytes := message 10 ['n', 'o', 'w', '\n']
  nonempty := by decide
  noNul := by decide +kernel
  fits := by decide +kernel

def shorter : Chunk where
  bytes := message 9 ['n', 'o', 'w', '\n']
  nonempty := by decide
  noNul := by decide +kernel
  fits := by decide +kernel

def zeros : Buffer where
  bytes := List.replicate PIPE_BUF nul
  size := List.length_replicate

/-- The last byte of the longer message is printed again. -/
theorem newline_printed_again :
    readLoop zeros [longer, shorter] = some (sent [longer, shorter] ++ ['\n']) ∧
      readLoop zeros [longer, shorter] ≠ some (sent [longer, shorter]) := by
  decide +kernel

end OsExercises.NamedPipe
