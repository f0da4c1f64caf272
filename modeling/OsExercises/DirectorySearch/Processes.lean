import OsExercises.DirectorySearch.Forking

/-! # What the processes of a search do together

A parent waits for its child, so what a child and all its descendants do can be
summed up by recursion on the tree. -/

namespace OsExercises.DirectorySearch.Forking

section Runs

variable {localtime : Int → Date} {start : Text} {date : Date}
variable {buffering : Buffering} {operator : Operator} {root : Listing}

theorem wanted_searchFunction (operator : Operator) :
    (searchFunction operator).wanted = operator.wanted := by
  cases operator <;> rfl

theorem kinds_directory (operator : Operator) :
    (searchFunction operator).kinds .directory = false := by
  cases operator <;> rfl

/-- The files whose records are printed. -/
def prints (localtime : Int → Date) (date : Date) (operator : Operator) (found : Found) : Bool :=
  selected localtime date operator (searchFunction operator).kinds found

theorem not_directory_of_prints {names : List Text} {info : Stat}
    (printed : prints localtime date operator { names := names, info := info }) :
    info.kind ≠ .directory := by
  intro directory
  simp [prints, selected, directory, kinds_directory] at printed

/-- The files that are to be reported. -/
def matching (localtime : Int → Date) (date : Date) (operator : Operator) (path : List Text)
    (listing : Listing) : List Found :=
  (files path listing).filter (prints localtime date operator)

/-! ## The three kinds of entries -/

section Entries

variable {path : List Text} {name : Text} {info : Stat}
variable {dots : isDot name = true → info.kind = .directory} {opens : Bool}
variable {below rest : Listing}

theorem matching_print
    (chosen : prints localtime date operator { names := path ++ [name], info := info }) :
    matching localtime date operator path (.entry name info dots opens below rest) =
      { names := path ++ [name], info := info } :: matching localtime date operator path rest := by
  rw [matching, files_of_other (not_directory_of_prints chosen), List.filter_cons_of_pos chosen]
  rfl

theorem matching_fork (directory : info.kind = .directory) (noDot : isDot name = false) :
    matching localtime date operator path (.entry name info dots opens below rest) =
      (if opens then matching localtime date operator (path ++ [name]) below else []) ++
        matching localtime date operator path rest := by
  cases opens with
  | true =>
      rw [matching, files_of_enters ⟨directory, noDot, rfl⟩, List.filter_append]
      rfl
  | false => rw [matching, files_of_directory directory fun enters => by cases enters.2.2]; rfl

theorem matching_skip
    (skipped : ¬prints localtime date operator { names := path ++ [name], info := info })
    (noFork : ¬(info.kind = .directory ∧ isDot name = false)) :
    matching localtime date operator path (.entry name info dots opens below rest) =
      matching localtime date operator path rest := by
  by_cases directory : info.kind = .directory
  · rw [matching, files_of_directory directory fun enters => noFork ⟨enters.1, enters.2.1⟩]
    rfl
  · rw [matching, files_of_other directory, List.filter_cons_of_neg skipped]
    rfl

end Entries

/-! ## Steps -/

/-- A search function in its loop, and everything around it that it leaves alone. -/
structure Context where
  pid : Nat
  opener : Nat
  path : List Text
  callers : List Frame
  waiting : List Process

/-- The process of the context has `left` still to read. -/
def Context.state (context : Context) (left : Listing) (buffer output : Text)
    (printed : List Found) (nextPid : Nat) : State where
  processes :=
    { pid := context.pid
      frames :=
        { path := context.path, left := left, inChild := false, opener := context.opener } ::
          context.callers
      buffer := buffer } :: context.waiting
  output := output
  printed := printed
  nextPid := nextPid

/-- The child for the entry `name`. -/
def Context.child (context : Context) (name : Text) (rest : Listing) (buffer : Text)
    (nextPid : Nat) : Context where
  pid := nextPid
  opener := nextPid
  path := context.path ++ [name]
  callers :=
    { path := context.path, left := rest, inChild := true, opener := context.opener } ::
      context.callers
  waiting :=
    { pid := context.pid
      frames :=
        { path := context.path, left := rest, inChild := false, opener := context.opener } ::
          context.callers
      buffer := buffer } :: context.waiting

section Steps

variable {context : Context} {name : Text} {info : Stat}
variable {dots : isDot name = true → info.kind = .directory} {opens : Bool}
variable {below rest : Listing} {buffer output : Text} {printed : List Found} {nextPid : Nat}

theorem next_print (fits : (pathText start context.path ++ '/' :: name).length < 200)
    (chosen : prints localtime date operator { names := context.path ++ [name], info := info }) :
    (context.state (.entry name info dots opens below rest) buffer output printed nextPid).next
        localtime start date buffering (searchFunction operator) =
      some (context.state rest
        (buffering.print buffer (record localtime start
          { names := context.path ++ [name], info := info })).2
        (output ++ (buffering.print buffer (record localtime start
          { names := context.path ++ [name], info := info })).1)
        (printed ++ [{ names := context.path ++ [name], info := info }]) nextPid) := by
  simp only [prints, selected, Bool.and_eq_true, decide_eq_true_eq] at chosen
  have matching : cmpTM (localtime info.mtime) date = operator.wanted := chosen.2
  simp [State.next, Context.state, childPath_of_fits fits, chosen.1, wanted_searchFunction,
    matching, State.print]

theorem next_fork (fits : (pathText start context.path ++ '/' :: name).length < 200)
    (directory : info.kind = .directory) (noDot : isDot name = false) :
    (context.state (.entry name info dots opens below rest) buffer output printed nextPid).next
        localtime start date buffering (searchFunction operator) =
      some ((context.child name rest buffer nextPid).state (if opens then below else .done) buffer
        output printed (nextPid + 1)) := by
  simp [State.next, Context.state, Context.child, childPath_of_fits fits, directory,
    kinds_directory, noDot, State.forked]

theorem next_skip (fits : (pathText start context.path ++ '/' :: name).length < 200)
    (skipped : prints localtime date operator
      { names := context.path ++ [name], info := info } = false)
    (noFork : ¬(info.kind = .directory ∧ isDot name = false)) :
    (context.state (.entry name info dots opens below rest) buffer output printed nextPid).next
        localtime start date buffering (searchFunction operator) =
      some (context.state rest buffer output printed nextPid) := by
  simp only [prints, selected, Bool.and_eq_false_iff, decide_eq_false_iff_not] at skipped
  rcases skipped with otherKind | otherDate
  · simp [State.next, Context.state, childPath_of_fits fits, otherKind, noFork, State.advanced]
  · have mismatch : cmpTM (localtime info.mtime) date ≠ operator.wanted := otherDate
    simp [State.next, Context.state, childPath_of_fits fits, wanted_searchFunction, mismatch,
      noFork, State.advanced]

end Steps

/-! ## Whole calls -/

/-- What is written while a search function reads a directory, by the process and by
its descendants, and what the process then has in its buffer. -/
def scan (localtime : Int → Date) (start : Text) (date : Date) (buffering : Buffering)
    (operator : Operator) : Text → List Text → Listing → Text × Text
  | buffer, _, .done => ([], buffer)
  | buffer, path, .entry name info _ opens below rest =>
      if prints localtime date operator { names := path ++ [name], info := info } then
        let line := buffering.print buffer
          (record localtime start { names := path ++ [name], info := info })
        let others := scan localtime start date buffering operator line.2 path rest
        (line.1 ++ others.1, others.2)
      else if info.kind = .directory ∧ isDot name = false then
        let child :=
          if opens then scan localtime start date buffering operator buffer (path ++ [name]) below
          else ([], buffer)
        let others := scan localtime start date buffering operator buffer path rest
        (child.1 ++ child.2 ++ others.1, others.2)
      else scan localtime start date buffering operator buffer path rest

theorem leads_next {state following final : State}
    (taken : state.next localtime start date buffering (searchFunction operator) = some following)
    (later : (searching localtime start date buffering (searchFunction operator) root).Leads
      following final) :
    (searching localtime start date buffering (searchFunction operator) root).Leads state final :=
  @TransitionSystem.Leads.step _ _ _ _ _ _ () taken later

/-- A process that is in nothing but calls that return ends. -/
theorem exit_leads {pid nextPid : Nat} {frames : List Frame} {buffer output : Text}
    {waiting : List Process} {printed : List Found}
    (returning : ∀ frame ∈ frames, frame.inChild = true) :
    (searching localtime start date buffering (searchFunction operator) root).Leads
      { processes := { pid := pid, frames := frames, buffer := buffer } :: waiting
        output := output, printed := printed, nextPid := nextPid }
      { processes := waiting, output := output ++ buffer, printed := printed
        nextPid := nextPid } := by
  induction frames with
  | nil => exact leads_next rfl (.refl _ _)
  | cons frame frames induction =>
      have returns := returning frame List.mem_cons_self
      refine leads_next ?_ (induction fun other member =>
        returning other (List.mem_cons_of_mem _ member))
      simp [State.next, returns, State.returned]

/-- What the child for a subdirectory and its descendants write, and what is then in
the buffer of the child. -/
def childScan (localtime : Int → Date) (start : Text) (date : Date) (buffering : Buffering)
    (operator : Operator) (buffer : Text) (path : List Text) (opens : Bool) (below : Listing) :
    Text × Text :=
  if opens then scan localtime start date buffering operator buffer path below else ([], buffer)

/-- The child for an entry reads its directory, if it can open it, returns out of all
the calls that it has a copy of, and ends. -/
theorem child_leads {context : Context} {name : Text} {opens : Bool} {below rest : Listing}
    {buffer output : Text} {printed : List Found} {nextPid : Nat}
    (returning : ∀ frame ∈ context.callers, frame.inChild = true)
    (reads : opens = true → ∃ childPid,
      (searching localtime start date buffering (searchFunction operator) root).Leads
        ((context.child name rest buffer nextPid).state below buffer output printed (nextPid + 1))
        ((context.child name rest buffer nextPid).state .done
          (scan localtime start date buffering operator buffer (context.path ++ [name]) below).2
          (output ++
            (scan localtime start date buffering operator buffer (context.path ++ [name]) below).1)
          (printed ++ matching localtime date operator (context.path ++ [name]) below)
          childPid)) :
    ∃ childPid,
      (searching localtime start date buffering (searchFunction operator) root).Leads
        ((context.child name rest buffer nextPid).state (if opens then below else .done)
          buffer output printed (nextPid + 1))
        (context.state rest buffer
          (output ++
            (childScan localtime start date buffering operator buffer (context.path ++ [name]) opens
              below).1 ++
            (childScan localtime start date buffering operator buffer (context.path ++ [name]) opens
              below).2)
          (printed ++
            if opens then matching localtime date operator (context.path ++ [name]) below else [])
          childPid) := by
  have childReturning : ∀ frame ∈ (context.child name rest buffer nextPid).callers,
      frame.inChild = true := by
    intro frame member
    rcases List.mem_cons.mp member with rfl | caller
    · rfl
    · exact returning frame caller
  cases opens with
  | false =>
      have ends := @exit_leads localtime start date buffering operator root nextPid (nextPid + 1) _
        buffer output (context.child name rest buffer nextPid).waiting printed childReturning
      refine ⟨nextPid + 1, leads_next rfl ?_⟩
      simpa [Context.child, Context.state, State.returned, childScan] using ends
  | true =>
      rcases reads rfl with ⟨childPid, read⟩
      exact ⟨childPid, read.trans (leads_next rfl (exit_leads childReturning))⟩

/-- A search function reads its directory to the end; the induction follows the
recursion, into the children and then behind them. -/
theorem scan_leads (listing : Listing) (context : Context) (buffer output : Text)
    (printed : List Found) (nextPid : Nat) (fit : PathsFit start context.path listing)
    (returning : ∀ frame ∈ context.callers, frame.inChild = true) :
    ∃ finalPid,
      (searching localtime start date buffering (searchFunction operator) root).Leads
        (context.state listing buffer output printed nextPid)
        (context.state .done
          (scan localtime start date buffering operator buffer context.path listing).2
          (output ++ (scan localtime start date buffering operator buffer context.path listing).1)
          (printed ++ matching localtime date operator context.path listing) finalPid) := by
  induction listing generalizing context buffer output printed nextPid with
  | done =>
      refine ⟨nextPid, ?_⟩
      simp only [scan, matching, files, List.filter_nil, List.append_nil]
      exact .refl _ _
  | entry name info dots opens below rest inside behind =>
      rcases fit with ⟨fits, fitInside, fitBehind⟩
      by_cases chosen : prints localtime date operator
          { names := context.path ++ [name], info := info }
      · have taken := @next_print localtime start date buffering operator context name info dots
          opens below rest buffer output printed nextPid fits chosen
        rcases behind context
          (buffering.print buffer (record localtime start
            { names := context.path ++ [name], info := info })).2
          (output ++ (buffering.print buffer (record localtime start
            { names := context.path ++ [name], info := info })).1)
          (printed ++ [{ names := context.path ++ [name], info := info }]) nextPid fitBehind
          returning with ⟨finalPid, later⟩
        refine ⟨finalPid, leads_next taken ?_⟩
        rw [matching_print chosen, scan, if_pos chosen]
        simpa only [List.append_assoc, List.singleton_append] using later
      · have skipped := Bool.eq_false_iff.mpr chosen
        by_cases forks : info.kind = .directory ∧ isDot name = false
        · have taken := @next_fork localtime start date buffering operator context name info dots
            opens below rest buffer output printed nextPid fits forks.1 forks.2
          have reads := fun opened => inside (context.child name rest buffer nextPid) buffer output
            printed (nextPid + 1) (fitInside ⟨forks.1, forks.2, opened⟩) fun frame member =>
              (List.mem_cons.mp member).elim (fun same => same ▸ rfl) (returning frame)
          rcases child_leads returning reads with ⟨childPid, descended⟩
          rcases behind context buffer
            (output ++
              (childScan localtime start date buffering operator buffer (context.path ++ [name])
                opens below).1 ++
              (childScan localtime start date buffering operator buffer (context.path ++ [name])
                opens below).2)
            (printed ++
              if opens then matching localtime date operator (context.path ++ [name]) below
              else [])
            childPid fitBehind returning with ⟨finalPid, later⟩
          have written : scan localtime start date buffering operator buffer context.path
              (.entry name info dots opens below rest) =
              ((childScan localtime start date buffering operator buffer (context.path ++ [name])
                  opens below).1 ++
                (childScan localtime start date buffering operator buffer (context.path ++ [name])
                  opens below).2 ++
                (scan localtime start date buffering operator buffer context.path rest).1,
                (scan localtime start date buffering operator buffer context.path rest).2) := by
            rw [scan, if_neg chosen, if_pos forks]
            rfl
          refine ⟨finalPid, leads_next taken (descended.trans ?_)⟩
          rw [matching_fork forks.1 forks.2, written]
          simpa only [List.append_assoc] using later
        · have taken := @next_skip localtime start date buffering operator context name info dots
            opens below rest buffer output printed nextPid fits skipped forks
          rcases behind context buffer output printed nextPid fitBehind returning with
            ⟨finalPid, later⟩
          refine ⟨finalPid, leads_next taken ?_⟩
          rw [matching_skip chosen forks, scan, if_neg chosen, if_neg forks]
          exact later

/-- Where the path names fit, the search comes to its end. -/
theorem search_ends (fit : PathsFit start [] root) :
    ∃ final, (searching localtime start date buffering (searchFunction operator) root).Leads
        (initial root) final ∧
      final.processes = [] ∧
      final.output = (scan localtime start date buffering operator [] [] root).1 ++
        (scan localtime start date buffering operator [] [] root).2 ∧
      final.printed = matching localtime date operator [] root := by
  let main : Context := { pid := 0, opener := 0, path := [], callers := [], waiting := [] }
  have noCallers : ∀ frame ∈ main.callers, frame.inChild = true := by
    intro frame member
    cases member
  rcases @scan_leads localtime start date buffering operator root root main [] [] [] 1 fit
    noCallers with ⟨nextPid, read⟩
  exact ⟨_, read.trans (leads_next rfl (exit_leads noCallers)), rfl, rfl, rfl⟩

/-! ## Single steps -/

/-- What a step can do. -/
inductive Stepped (start : Text) (state : State) : State → Prop
  | exited {process : Process} {waiting : List Process}
      (running : state.processes = process :: waiting) (ends : process.frames = []) :
      Stepped start state (state.exited process waiting)
  | returned {process : Process} {waiting : List Process} {frame : Frame} {callers : List Frame}
      (running : state.processes = process :: waiting) (frames : process.frames = frame :: callers)
      (returns : frame.inChild = true ∨ frame.left = .done) :
      Stepped start state (state.returned process callers waiting)
  | advanced {process : Process} {waiting : List Process} {frame : Frame} {callers : List Frame}
      {name : Text} {info : Stat} {dots : isDot name = true → info.kind = .directory}
      {opens : Bool} {below rest : Listing} {buffer : Text} {following : State}
      (running : state.processes = process :: waiting) (frames : process.frames = frame :: callers)
      (reads : frame.inChild = false) (left : frame.left = .entry name info dots opens below rest)
      (fits : (pathText start frame.path ++ '/' :: name).length < 200)
      (stays : ¬Enters name info opens)
      (processes : following.processes =
        { process with frames := { frame with left := rest } :: callers, buffer := buffer } ::
          waiting) :
      Stepped start state following
  | forked {process : Process} {waiting : List Process} {frame : Frame} {callers : List Frame}
      {name : Text} {info : Stat} {dots : isDot name = true → info.kind = .directory}
      {opens : Bool} {below rest : Listing}
      (running : state.processes = process :: waiting) (frames : process.frames = frame :: callers)
      (reads : frame.inChild = false) (left : frame.left = .entry name info dots opens below rest)
      (fits : (pathText start frame.path ++ '/' :: name).length < 200) :
      Stepped start state (state.forked process frame (frame.path ++ [name])
        (if opens then below else .done) rest callers waiting)

theorem next_stepped {state following : State}
    (taken : state.next localtime start date buffering (searchFunction operator) =
      some following) : Stepped start state following := by
  unfold State.next at taken
  split at taken
  · cases taken
  · next process waiting running =>
      split at taken
      · next ends =>
          cases taken
          exact .exited running ends
      · next frame callers frames =>
          split at taken
          · next inChild =>
              cases taken
              exact .returned running frames (.inl inChild)
          · next reads =>
              have here := Bool.eq_false_iff.mpr reads
              split at taken
              · next done =>
                  cases taken
                  exact .returned running frames (.inr done)
              · next name info dots opens below rest left =>
                  rcases Option.map_eq_some_iff.mp taken with ⟨filePath, built, result⟩
                  have fits : (pathText start frame.path ++ '/' :: name).length < 200 := by
                    by_contra long
                    rw [childPath, if_neg long] at built
                    cases built
                  rw [childPath_of_fits fits] at built
                  cases built
                  by_cases kind : (searchFunction operator).kinds info.kind = true
                  · have stays : ¬Enters name info opens := by
                      intro enters
                      rw [enters.1, kinds_directory] at kind
                      cases kind
                    rw [if_pos kind] at result
                    by_cases matching : cmpTM (localtime info.mtime) date =
                        (searchFunction operator).wanted
                    · rw [if_pos matching] at result
                      exact .advanced running frames here left fits stays (by rw [← result]; rfl)
                    · rw [if_neg matching] at result
                      exact .advanced running frames here left fits stays (by rw [← result]; rfl)
                  · rw [if_neg kind] at result
                    by_cases forks : info.kind = .directory ∧ isDot name = false
                    · rw [if_pos forks] at result
                      rw [← result]
                      exact .forked running frames here left fits
                    · rw [if_neg forks] at result
                      exact .advanced running frames here left fits
                        (fun enters => forks ⟨enters.1, enters.2.1⟩) (by rw [← result]; rfl)

/-- The path names that the innermost call of the process still builds fit. -/
def Process.Fits (start : Text) (process : Process) : Prop :=
  ∀ frame callers, process.frames = frame :: callers → frame.inChild = false →
    PathsFit start frame.path frame.left

/-- Where all that is left after a step fits, so does what the step reads. -/
theorem fits_of_next {state following : State} (stepped : Stepped start state following)
    (fit : ∀ process ∈ following.processes, process.Fits start) :
    ∀ process ∈ state.processes, process.Fits start := by
  cases stepped with
  | @exited process waiting running ends =>
      rw [running]
      intro other member
      rcases List.mem_cons.mp member with rfl | waits
      · intro frame callers frames
        rw [ends] at frames
        cases frames
      · exact fit other waits
  | @returned process waiting frame callers running frames returns =>
      rw [running]
      intro other member
      rcases List.mem_cons.mp member with rfl | waits
      · intro top callers' same reads
        cases frames.symm.trans same
        rcases returns with inChild | done
        · rw [inChild] at reads
          cases reads
        · rw [done]
          trivial
      · exact fit other (List.mem_cons_of_mem _ waits)
  | @advanced process waiting frame callers name info dots opens below rest buffer following
      running frames reads left fits stays processes =>
      rw [running]
      rw [processes] at fit
      intro other member
      rcases List.mem_cons.mp member with rfl | waits
      · intro top callers' same _
        cases frames.symm.trans same
        rw [left]
        exact ⟨fits, fun enters => absurd enters stays,
          fit _ List.mem_cons_self _ _ rfl reads⟩
      · exact fit other (List.mem_cons_of_mem _ waits)
  | @forked process waiting frame callers name info dots opens below rest running frames reads
      left fits =>
      rw [running]
      intro other member
      rcases List.mem_cons.mp member with rfl | waits
      · intro top callers' same _
        cases frames.symm.trans same
        rw [left]
        refine ⟨fits, ?_, ?_⟩
        · intro enters
          have child := fit _ List.mem_cons_self _ _ rfl rfl
          rw [if_pos enters.2.2] at child
          exact child
        · exact fit _ (List.mem_cons_of_mem _ List.mem_cons_self) _ _ rfl reads
      · exact fit other (List.mem_cons_of_mem _ (List.mem_cons_of_mem _ waits))

/-- A search that comes to its end has built no path name that does not fit. -/
theorem fits_of_ends {final : State}
    (leads : (searching localtime start date buffering (searchFunction operator) root).Leads
      (initial root) final) (ends : final.processes = []) : PathsFit start [] root := by
  have backward : ∀ actions state,
      (searching localtime start date buffering (searchFunction operator) root).run state actions =
        some final → ∀ process ∈ state.processes, process.Fits start := by
    intro actions
    induction actions with
    | nil =>
        intro state evaluated process member
        cases evaluated
        rw [ends] at member
        cases member
    | cons action actions induction =>
        intro state evaluated
        rcases Option.bind_eq_some_iff.mp evaluated with ⟨following, taken, rest⟩
        exact fits_of_next (next_stepped taken) (induction following rest)
  rcases leads with ⟨actions, evaluated⟩
  exact backward actions _ evaluated _ List.mem_cons_self _ _ rfl rfl

/-! ## Whose directory is read -/

/-- The running process and the process that has opened the directory that it reads. -/
def State.reads (state : State) : Option (Nat × Nat) :=
  match state.processes with
  | [] => none
  | process :: _ =>
      match process.frames with
      | [] => none
      | frame :: _ => if frame.inChild then none else some (process.pid, frame.opener)

end Runs

end OsExercises.DirectorySearch.Forking
