import OsExercises.DirectorySearch.FileTree
import OsExercises.Foundation.StandardOutput
import OsExercises.Foundation.TransitionSystem

/-! # The search with a process for each directory

A child is a copy of its parent: it has the frames of all calls that the parent is
in, and what is in the output buffer of the parent. `fork` succeeds. -/

namespace OsExercises.DirectorySearch.Forking

/-- A call of a search function. -/
structure Frame where
  path : List Text
  /-- What `readdir` still returns; nothing when `opendir` has failed. -/
  left : Listing
  /-- The process is in the branch `childPID == 0`, and `return` comes next. -/
  inChild : Bool
  /-- The process that has opened the directory. -/
  opener : Nat

structure Process where
  pid : Nat
  /-- The calls that the process is in, the innermost first. -/
  frames : List Frame
  buffer : Text

structure State where
  /-- The process that runs, its parent, which waits for it, and so on. -/
  processes : List Process
  /-- What has been written to standard output. -/
  output : Text
  /-- The files whose records have been printed. -/
  printed : List Found
  nextPid : Nat

/-- What the search functions differ in. -/
structure SearchFunction where
  kinds : FileKind → Bool
  wanted : Int

def searchOlder : SearchFunction where
  kinds kind := kind = .regular ∨ kind = .symbolicLink
  wanted := -1

def searchNewer : SearchFunction where
  kinds := isRegular
  wanted := 1

def searchDate : SearchFunction where
  kinds := isRegular
  wanted := 0

def searchFunction : Operator → SearchFunction
  | .older => searchOlder
  | .newer => searchNewer
  | .date => searchDate

/-- The nine `printf` of the permissions. -/
def permissionText (permissions : BitVec 9) : Text :=
  ['r', 'w', 'x', 'r', 'w', 'x', 'r', 'w', 'x'].zipIdx.map fun (letter, place) =>
    if permissions.getMsbD place then letter else '-'

section Program

variable (localtime : Int → Date) (start : Text) (date : Date)

/-- What is printed about a file. -/
def record (found : Found) : Text :=
  let modTimeTM := localtime found.info.mtime
  pathText start found.names ++ ['\n', ' '] ++ decimal found.info.size ++ ['B', ' ', ' '] ++
    decimal modTimeTM.tm_mday ++ ['/'] ++ decimal (modTimeTM.tm_mon + 1) ++ ['/'] ++
    decimal (modTimeTM.tm_year + 1900) ++ [' ', ' '] ++
    permissionText found.info.permissions ++ ['\n']

variable (buffering : Buffering) (function : SearchFunction)

/-- The innermost call of the running process returns. -/
def State.returned (state : State) (process : Process) (callers : List Frame)
    (waiting : List Process) : State :=
  { state with processes := { process with frames := callers } :: waiting }

/-- The running process goes on with the next entry of its directory. -/
def State.advanced (state : State) (process : Process) (frame : Frame) (rest : Listing)
    (callers : List Frame) (waiting : List Process) : State :=
  { state with
    processes := { process with frames := { frame with left := rest } :: callers } :: waiting }

/-- The running process prints the record of a file. -/
def State.print (state : State) (process : Process) (found : Found) (waiting : List Process) :
    State :=
  let (written, buffer) := buffering.print process.buffer (record localtime start found)
  { state with
    processes := { process with buffer := buffer } :: waiting
    output := state.output ++ written
    printed := state.printed ++ [found] }

/-- The running process forks for the directory `path`; its child calls the search
function, and it waits for the child. -/
def State.forked (state : State) (process : Process) (frame : Frame) (path : List Text)
    (root rest : Listing) (callers : List Frame) (waiting : List Process) : State :=
  { state with
    processes :=
      { pid := state.nextPid
        frames :=
          { path := path, left := root, inChild := false, opener := state.nextPid } ::
            { frame with left := rest, inChild := true } :: callers
        buffer := process.buffer } ::
      { process with frames := { frame with left := rest } :: callers } :: waiting
    nextPid := state.nextPid + 1 }

/-- `main` returns, which writes out the buffer; the parent does not wait any longer. -/
def State.exited (state : State) (process : Process) (waiting : List Process) : State :=
  { state with processes := waiting, output := state.output ++ process.buffer }

/-- The next step of the running process; a path name that does not fit has none. -/
def State.next (state : State) : Option State :=
  match state.processes with
  | [] => none
  | process :: waiting =>
      match process.frames with
      | [] => some (state.exited process waiting)
      | frame :: callers =>
          if frame.inChild then some (state.returned process callers waiting)
          else
            match frame.left with
            | .done => some (state.returned process callers waiting)
            | .entry name info _ opens below rest =>
                (childPath start frame.path name).map fun filePath =>
                  let advanced := { process with frames := { frame with left := rest } :: callers }
                  if function.kinds info.kind then
                    if cmpTM (localtime info.mtime) date = function.wanted then
                      state.print localtime start buffering advanced
                        { names := filePath, info := info } waiting
                    else state.advanced process frame rest callers waiting
                  else if info.kind = .directory ∧ isDot name = false then
                    state.forked process frame filePath (if opens then below else .done) rest
                      callers waiting
                  else state.advanced process frame rest callers waiting

/-- `main` calls the search function for what `opendir` finds at the start path. -/
def initial (root : Listing) : State where
  processes :=
    [{ pid := 0
       frames := [{ path := [], left := root, inChild := false, opener := 0 }]
       buffer := [] }]
  output := []
  printed := []
  nextPid := 1

def searching (root : Listing) : TransitionSystem State Unit where
  initial := initial root
  next state _ := state.next localtime start date buffering function

end Program

end OsExercises.DirectorySearch.Forking
