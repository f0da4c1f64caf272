import Mathlib.Data.List.Basic
import OsExercises.Foundation.Text

/-! # File trees and dates

What the directory searches see of the file system: the entries that `readdir`
returns, with what `lstat` says about each. -/

namespace OsExercises.DirectorySearch

/-- The file types of `st_mode & S_IFMT`. -/
inductive FileKind
  | regular
  | directory
  | symbolicLink
  | fifo
  | socket
  | characterDevice
  | blockDevice
  deriving DecidableEq, Repr

/-- `struct stat` -/
structure Stat where
  kind : FileKind
  /-- The nine permission bits, from `S_IRUSR` down to `S_IXOTH`. -/
  permissions : BitVec 9
  mtime : Int
  size : Nat
  deriving DecidableEq

/-- The name is not passed by `strcmp(file->d_name, "..") && strcmp(file->d_name, ".")`. -/
def isDot (name : Text) : Bool :=
  name = ['.', '.'] ∨ name = ['.']

/-- The rest of a directory, in the order of `readdir`. For a directory `opens` is
whether `opendir` succeeds, and `below` is what is then in it. -/
inductive Listing
  | done
  | entry (name : Text) (info : Stat) (dots : isDot name = true → info.kind = .directory)
      (opens : Bool) (below rest : Listing)

/-- A file, named by the directories on the way from the start path. -/
structure Found where
  names : List Text
  info : Stat
  deriving DecidableEq

/-- The search goes into the directory and finds something there. -/
def Enters (name : Text) (info : Stat) (opens : Bool) : Prop :=
  info.kind = .directory ∧ isDot name = false ∧ opens = true

instance (name : Text) (info : Stat) (opens : Bool) : Decidable (Enters name info opens) :=
  inferInstanceAs (Decidable (_ ∧ _ ∧ _))

/-! ## Path names -/

def pathText (start : Text) (names : List Text) : Text :=
  start ++ names.flatMap ('/' :: ·)

/-- `strcpy(filePath, path); strcat(filePath, "/"); strcat(filePath, name)` into an
array of 200 bytes; `none` writes behind its end. -/
def childPath (start : Text) (path : List Text) (name : Text) : Option (List Text) :=
  if (pathText start path ++ '/' :: name).length < 200 then some (path ++ [name]) else none

theorem childPath_of_fits {start : Text} {path : List Text}
    {name : Text}
    (fits : (pathText start path ++ '/' :: name).length < 200) :
    childPath start path name = some (path ++ [name]) :=
  if_pos fits

/-- Every path name that a search below `path` builds fits into its array. -/
def PathsFit (start : Text) : List Text → Listing → Prop
  | _, .done => True
  | path, .entry name info _ opens below rest =>
      (pathText start path ++ '/' :: name).length < 200 ∧
        (Enters name info opens → PathsFit start (path ++ [name]) below) ∧
        PathsFit start path rest

def decidePathsFit (start : Text) : ∀ path listing, Decidable (PathsFit start path listing)
  | _, .done => isTrue trivial
  | path, .entry name _ _ _ below rest =>
      have := decidePathsFit start (path ++ [name]) below
      have := decidePathsFit start path rest
      inferInstanceAs (Decidable (_ ∧ _ ∧ _))

instance (start : Text) (path : List Text) (listing : Listing) :
    Decidable (PathsFit start path listing) :=
  decidePathsFit start path listing

/-! ## The files of a tree -/

/-- Everything below `path` that is not a directory, in the order of `readdir`. -/
def files : List Text → Listing → List Found
  | _, .done => []
  | path, .entry name info _ opens below rest =>
      (if info.kind = .directory then
        if Enters name info opens then files (path ++ [name]) below else []
      else [{ names := path ++ [name], info := info }]) ++ files path rest

theorem files_of_enters {path : List Text} {name : Text} {info : Stat}
    {dots : isDot name = true → info.kind = .directory} {opens : Bool} {below rest : Listing}
    (enters : Enters name info opens) :
    files path (.entry name info dots opens below rest) =
      files (path ++ [name]) below ++ files path rest := by
  rw [files, if_pos enters.1, if_pos enters]

theorem files_of_directory {path : List Text} {name : Text} {info : Stat}
    {dots : isDot name = true → info.kind = .directory} {opens : Bool} {below rest : Listing}
    (directory : info.kind = .directory)
    (skipped : ¬Enters name info opens) :
    files path (.entry name info dots opens below rest) = files path rest := by
  rw [files, if_pos directory, if_neg skipped, List.nil_append]

theorem files_of_other {path : List Text} {name : Text} {info : Stat}
    {dots : isDot name = true → info.kind = .directory} {opens : Bool} {below rest : Listing}
    (other : info.kind ≠ .directory) :
    files path (.entry name info dots opens below rest) =
      { names := path ++ [name], info := info } :: files path rest := by
  rw [files, if_neg other]
  rfl

theorem files_kind {path : List Text} {listing : Listing} {found : Found}
    (member : found ∈ files path listing) : found.info.kind ≠ .directory := by
  induction listing generalizing path with
  | done => cases member
  | entry name info dots opens below rest inside behind =>
      by_cases directory : info.kind = .directory
      · by_cases enters : Enters name info opens
        · rw [files_of_enters enters] at member
          rcases List.mem_append.mp member with below | later
          · exact inside below
          · exact behind later
        · rw [files_of_directory directory enters] at member
          exact behind member
      · rw [files_of_other directory] at member
        rcases List.mem_cons.mp member with rfl | later
        · exact directory
        · exact behind later

/-- Of two selections from a list the narrower one has as many elements as the
wider one only if it leaves nothing out. -/
theorem filter_perm_filter_iff {Item : Type u} {narrow wide : Item → Bool} {items : List Item}
    (narrower : ∀ item, narrow item → wide item) :
    (items.filter narrow).Perm (items.filter wide) ↔ ∀ item ∈ items, wide item → narrow item := by
  have selected : items.filter narrow = (items.filter wide).filter narrow := by
    rw [List.filter_filter]
    apply List.filter_congr
    intro item _
    cases chosen : narrow item with
    | false => rfl
    | true => simp [narrower item chosen]
  constructor
  · intro same item member chosen
    rw [selected] at same
    have all := List.length_filter_eq_length_iff.mp same.length_eq
    exact all item (List.mem_filter.mpr ⟨member, chosen⟩)
  · intro all
    apply List.Perm.of_eq
    apply List.filter_congr
    intro item member
    exact Bool.eq_iff_iff.mpr ⟨narrower item, all item member⟩

/-! ## Dates -/

/-- The fields of `struct tm` that are compared. -/
structure Date where
  tm_year : Int
  tm_mon : Int
  tm_mday : Int
  deriving DecidableEq

def cmpTM (first second : Date) : Int :=
  if first.tm_year < second.tm_year then -1
  else if first.tm_year > second.tm_year then 1
  else if first.tm_mon < second.tm_mon then -1
  else if first.tm_mon > second.tm_mon then 1
  else if first.tm_mday < second.tm_mday then -1
  else if first.tm_mday > second.tm_mday then 1
  else 0

/-- The operators of the command line. -/
inductive Operator
  | older
  | newer
  | date
  deriving DecidableEq, Repr

/-- The result of `cmpTM` that the search for the operator tests for. -/
def Operator.wanted : Operator → Int
  | .older => -1
  | .newer => 1
  | .date => 0

/-- The file has the date that the operator asks for; `localtime` is the time zone. -/
def Matches (localtime : Int → Date) (date : Date) (operator : Operator) (info : Stat) : Prop :=
  cmpTM (localtime info.mtime) date = operator.wanted

instance (localtime : Int → Date) (date : Date) (operator : Operator) (info : Stat) :
    Decidable (Matches localtime date operator info) :=
  inferInstanceAs (Decidable (cmpTM (localtime info.mtime) date = operator.wanted))

/-- The files of the given kinds that match. -/
def selected (localtime : Int → Date) (date : Date) (operator : Operator)
    (kinds : FileKind → Bool) (found : Found) : Bool :=
  kinds found.info.kind && decide (Matches localtime date operator found.info)

def isRegular (kind : FileKind) : Bool :=
  kind = .regular

/-- `cmpTM` has the three results that the three searches test for. -/
theorem exists_wanted (first second : Date) :
    ∃ operator : Operator, cmpTM first second = operator.wanted := by
  unfold cmpTM
  split
  · exact ⟨.older, rfl⟩
  · split
    · exact ⟨.newer, rfl⟩
    · split
      · exact ⟨.older, rfl⟩
      · split
        · exact ⟨.newer, rfl⟩
        · split
          · exact ⟨.older, rfl⟩
          · split
            · exact ⟨.newer, rfl⟩
            · exact ⟨.date, rfl⟩

end OsExercises.DirectorySearch
