import OsExercises.DirectorySearch.Recursive

/-! # The search with `nftw`

`nftw` with `FTW_DEPTH | FTW_PHYS` calls back for the start path and for every
entry below it, and says by a type flag what the entry is. -/

namespace OsExercises.DirectorySearch.TreeWalk

/-- The type flags of `nftw` with `FTW_DEPTH | FTW_PHYS`. -/
inductive TypeFlag
  | ftwF
  | ftwDP
  | ftwDNR
  | ftwSL
  deriving DecidableEq, Repr

def typeFlag (info : Stat) (opens : Bool) : TypeFlag :=
  match info.kind with
  | .symbolicLink => .ftwSL
  | .directory => if opens then .ftwDP else .ftwDNR
  | _ => .ftwF

/-- What the start path leads to. -/
inductive Start
  | missing
  | file (info : Stat) (kind : info.kind ≠ .directory)
  | directory (info : Stat) (kind : info.kind = .directory) (opens : Bool) (listing : Listing)
  /-- A symbolic link to a directory. -/
  | link (info : Stat) (kind : info.kind = .symbolicLink) (opens : Bool) (listing : Listing)

/-- `opendir` follows a symbolic link. -/
def Start.opendir : Start → Option Listing
  | .missing => none
  | .file _ _ => none
  | .directory _ _ opens listing => if opens then some listing else none
  | .link _ _ opens listing => if opens then some listing else none

/-- The calls for the entries of a directory, a directory after what is below it. -/
def nftwEntries : List Text → Listing → List (Found × TypeFlag)
  | _, .done => []
  | path, .entry name info _ opens below rest =>
      (if isDot name then []
      else (if Enters name info opens then nftwEntries (path ++ [name]) below else []) ++
        [({ names := path ++ [name], info := info }, typeFlag info opens)]) ++
        nftwEntries path rest

/-- The calls that `nftw` makes. -/
def nftw : Start → List (Found × TypeFlag)
  | .missing => []
  | .file info _ => [({ names := [], info := info }, typeFlag info false)]
  | .directory info _ opens listing =>
      (if opens then nftwEntries [] listing else []) ++
        [({ names := [], info := info }, typeFlag info opens)]
  | .link info _ opens _ => [({ names := [], info := info }, typeFlag info opens)]

section Search

variable (localtime : Int → Date) (date : Date)

/-- The three callbacks, which differ in the result of `cmpTM` that they look for:
whether the record of the file is printed. -/
def callback (wanted : Int) (found : Found) (fileflags : TypeFlag) : Option Found :=
  if fileflags = .ftwSL then none
  else if fileflags = .ftwF ∧ cmpTM (localtime found.info.mtime) date = wanted then some found
  else none

def searchOlder (found : Found) (fileflags : TypeFlag) : Option Found :=
  callback localtime date (-1) found fileflags

def searchNewer (found : Found) (fileflags : TypeFlag) : Option Found :=
  callback localtime date 1 found fileflags

def searchDate (found : Found) (fileflags : TypeFlag) : Option Found :=
  callback localtime date 0 found fileflags

/-- The files whose records `main` prints. -/
def search (operator : Operator) (start : Start) : List Found :=
  (nftw start).filterMap fun (found, fileflags) =>
    match operator with
    | .older => searchOlder localtime date found fileflags
    | .newer => searchNewer localtime date found fileflags
    | .date => searchDate localtime date found fileflags

end Search

section Agreement

variable {localtime : Int → Date} {startText : Text} {date : Date}

/-- `FTW_F` is also the flag of a FIFO, a socket or a device. -/
def hasFlagF (kind : FileKind) : Bool :=
  kind ≠ .directory ∧ kind ≠ .symbolicLink

theorem search_eq_callback (operator : Operator) (start : Start) :
    search localtime date operator start =
      (nftw start).filterMap fun (found, fileflags) =>
        callback localtime date operator.wanted found fileflags := by
  cases operator <;> rfl

theorem callback_typeFlag (operator : Operator) (names : List Text) (info : Stat)
    (opens : Bool) :
    callback localtime date operator.wanted { names := names, info := info }
        (typeFlag info opens) =
      if selected localtime date operator hasFlagF { names := names, info := info } then
        some { names := names, info := info } else none := by
  by_cases matching : Matches localtime date operator info
  · have same : cmpTM (localtime info.mtime) date = operator.wanted := matching
    cases kind : info.kind <;> cases opens <;>
      simp [callback, typeFlag, selected, hasFlagF, kind, same, matching]
  · have other : cmpTM (localtime info.mtime) date ≠ operator.wanted := matching
    cases kind : info.kind <;> cases opens <;>
      simp [callback, typeFlag, selected, hasFlagF, kind, other, matching]

theorem nftwEntries_callback (operator : Operator) (path : List Text) (listing : Listing) :
    (nftwEntries path listing).filterMap
        (fun (found, fileflags) => callback localtime date operator.wanted found fileflags) =
      (files path listing).filter (selected localtime date operator hasFlagF) := by
  induction listing generalizing path with
  | done => rfl
  | entry name info dots opens below rest inside behind =>
      rw [nftwEntries, List.filterMap_append, behind]
      by_cases directory : info.kind = .directory
      · have unselected : selected localtime date operator hasFlagF
            { names := path ++ [name], info := info } = false := by
          simp [selected, hasFlagF, directory]
        by_cases enters : Enters name info opens
        · rw [files_of_enters enters, List.filter_append, enters.2.1]
          simp [enters, inside, callback_typeFlag, unselected]
        · rw [files_of_directory directory enters]
          cases dot : isDot name <;> simp [enters, callback_typeFlag, unselected]
      · have noDot : isDot name = false := by
          by_contra dot
          exact directory (dots (by simpa using dot))
        have noDescent : ¬Enters name info opens := fun enters => directory enters.1
        rw [files_of_other directory, List.filter_cons]
        cases chosen : selected localtime date operator hasFlagF
            { names := path ++ [name], info := info } <;>
          simp [noDot, noDescent, callback_typeFlag, chosen]

/-- Both programs report the same files. -/
def Agree (localtime : Int → Date) (startText : Text) (date : Date) (operator : Operator)
    (start : Start) : Prop :=
  ∃ reported, Recursive.search localtime startText date operator start.opendir = some reported ∧
    reported.Perm (search localtime date operator start)

/-- Nothing that matches is of a kind that only one of the programs reports: a FIFO,
a socket, a device or a start path that is itself a file, or a regular file below
a start path that is a symbolic link. -/
def NothingElseMatches (localtime : Int → Date) (startText : Text) (date : Date)
    (operator : Operator) : Start → Prop
  | .missing => True
  | .file info _ => info.kind = .symbolicLink ∨ ¬Matches localtime date operator info
  | .directory _ _ opens listing => opens = true → PathsFit startText [] listing ∧
      ∀ found ∈ files [] listing, found.info.kind = .regular ∨
        found.info.kind = .symbolicLink ∨ ¬Matches localtime date operator found.info
  | .link _ _ opens listing => opens = true → PathsFit startText [] listing ∧
      ∀ found ∈ files [] listing, found.info.kind ≠ .regular ∨
        ¬Matches localtime date operator found.info

theorem agree_unopened {operator : Operator} {start : Start} (unopened : start.opendir = none) :
    Agree localtime startText date operator start ↔ search localtime date operator start = [] := by
  have nothing : Recursive.search localtime startText date operator start.opendir = some [] := by
    rw [unopened, Recursive.search_eq_searchFrom]
    rfl
  constructor
  · intro agree
    rcases agree with ⟨reported, returns, same⟩
    rw [nothing] at returns
    cases returns
    exact same.nil_eq.symm
  · intro empty
    exact ⟨[], nothing, List.Perm.of_eq empty.symm⟩

theorem agree_opened {operator : Operator} {start : Start} {listing : Listing}
    (opened : start.opendir = some listing) :
    Agree localtime startText date operator start ↔ PathsFit startText [] listing ∧
      ((files [] listing).filter (selected localtime date operator isRegular)).Perm
        (search localtime date operator start) := by
  unfold Agree
  simp only [opened, Recursive.search_eq_some_iff]
  constructor
  · intro agree
    rcases agree with ⟨reported, ⟨fit, rfl⟩, same⟩
    exact ⟨fit, same⟩
  · intro agree
    exact ⟨_, ⟨agree.1, rfl⟩, agree.2⟩

/-- The call for a start path that is a directory or a symbolic link reports nothing. -/
theorem callback_start {operator : Operator} {info : Stat} {opens : Bool}
    (kind : hasFlagF info.kind = false) :
    callback localtime date operator.wanted { names := [], info := info }
      (typeFlag info opens) = none := by
  have unselected : selected localtime date operator hasFlagF
      { names := [], info := info } = false := by
    simp [selected, kind]
  rw [callback_typeFlag, unselected]
  rfl

/-! ## What each start path gives -/

theorem search_file (operator : Operator) (info : Stat) (kind : info.kind ≠ .directory) :
    search localtime date operator (.file info kind) =
      [{ names := [], info := info }].filter (selected localtime date operator hasFlagF) := by
  rw [search_eq_callback]
  cases selection : selected localtime date operator hasFlagF { names := [], info := info } <;>
    simp [nftw, callback_typeFlag, selection]

theorem search_directory (operator : Operator) (info : Stat) (kind : info.kind = .directory)
    (opens : Bool) (listing : Listing) :
    search localtime date operator (.directory info kind opens listing) =
      if opens then (files [] listing).filter (selected localtime date operator hasFlagF)
      else [] := by
  have start := @callback_start localtime date operator info opens (by rw [kind]; rfl)
  rw [search_eq_callback, ← nftwEntries_callback]
  cases opens <;> simp [nftw, start]

theorem search_link (operator : Operator) (info : Stat) (kind : info.kind = .symbolicLink)
    (opens : Bool) (listing : Listing) :
    search localtime date operator (.link info kind opens listing) = [] := by
  have start := @callback_start localtime date operator info opens (by rw [kind]; rfl)
  rw [search_eq_callback]
  simp [nftw, start]

theorem agree_file (operator : Operator) (info : Stat) (kind : info.kind ≠ .directory) :
    Agree localtime startText date operator (.file info kind) ↔
      info.kind = .symbolicLink ∨ ¬Matches localtime date operator info := by
  rw [agree_unopened rfl, search_file, List.filter_eq_nil_iff]
  simp only [List.mem_singleton, forall_eq, selected, hasFlagF, Bool.and_eq_true,
    decide_eq_true_eq]
  tauto

theorem agree_directory (operator : Operator) (info : Stat) (kind : info.kind = .directory)
    (listing : Listing) :
    Agree localtime startText date operator (.directory info kind true listing) ↔
      PathsFit startText [] listing ∧ ∀ found ∈ files [] listing, found.info.kind = .regular ∨
        found.info.kind = .symbolicLink ∨ ¬Matches localtime date operator found.info := by
  have narrower : ∀ found, selected localtime date operator isRegular found →
      selected localtime date operator hasFlagF found := by
    intro found
    simp only [selected, isRegular, hasFlagF, Bool.and_eq_true, decide_eq_true_eq]
    intro chosen
    rw [chosen.1]
    exact ⟨by decide, chosen.2⟩
  rw [agree_opened rfl, search_directory, if_pos rfl, filter_perm_filter_iff narrower]
  apply and_congr_right
  intro _
  apply forall₂_congr
  intro found member
  have other := files_kind member
  simp only [selected, isRegular, hasFlagF, Bool.and_eq_true, decide_eq_true_eq]
  tauto

theorem agree_link (operator : Operator) (info : Stat) (kind : info.kind = .symbolicLink)
    (listing : Listing) :
    Agree localtime startText date operator (.link info kind true listing) ↔
      PathsFit startText [] listing ∧ ∀ found ∈ files [] listing, found.info.kind ≠ .regular ∨
        ¬Matches localtime date operator found.info := by
  rw [agree_opened rfl, search_link, List.perm_nil, List.filter_eq_nil_iff]
  apply and_congr_right
  intro _
  apply forall₂_congr
  intro found _
  simp only [selected, isRegular, Bool.and_eq_true, decide_eq_true_eq]
  tauto

/-- The two searches agree exactly where nothing matches that only one reports. -/
theorem agree_iff (operator : Operator) (start : Start) :
    Agree localtime startText date operator start ↔
      NothingElseMatches localtime startText date operator start := by
  cases start with
  | missing => exact iff_of_true ((agree_unopened rfl).mpr (search_eq_callback _ _)) trivial
  | file info kind => exact agree_file operator info kind
  | directory info kind opens listing =>
      cases opens with
      | false =>
          have nothing := @search_directory localtime date operator info kind false listing
          exact iff_of_true ((agree_unopened rfl).mpr nothing) Bool.noConfusion
      | true =>
          have opened := @agree_directory localtime startText date operator info kind listing
          exact opened.trans ⟨fun agrees _ => agrees, fun agrees => agrees rfl⟩
  | link info kind opens listing =>
      cases opens with
      | false =>
          have nothing := @search_link localtime date operator info kind false listing
          exact iff_of_true ((agree_unopened rfl).mpr nothing) Bool.noConfusion
      | true =>
          have opened := @agree_link localtime startText date operator info kind listing
          exact opened.trans ⟨fun agrees _ => agrees, fun agrees => agrees rfl⟩

/-- A directory with nothing but a FIFO `p`, changed in 2000: of the two searches for
files newer than 1999 only the one with `nftw` reports it. -/
theorem fifo_reported :
    ¬Agree (fun _ => { tm_year := 100, tm_mon := 0, tm_mday := 1 }) ['/', 't']
      { tm_year := 99, tm_mon := 0, tm_mday := 1 } .newer
      (.directory { kind := .directory, permissions := 0, mtime := 0, size := 0 } rfl true
        (.entry ['p'] { kind := .fifo, permissions := 0, mtime := 0, size := 0 } (by decide) false
          .done .done)) := by
  rw [agree_opened rfl]
  decide

end Agreement

end OsExercises.DirectorySearch.TreeWalk
