import OsExercises.DirectorySearch.FileTree

/-! # The search with `opendir` and `readdir`

The time zone enters as the function `localtime`. -/

namespace OsExercises.DirectorySearch.Recursive

section Search

variable (localtime : Int → Date) (start : Text) (date : Date)

/-- The loop of the three search functions, which differ in the result of `cmpTM`
that they look for. `none` is a path name that does not fit. -/
def searchEntries (wanted : Int) : List Text → Listing → Option (List Found)
  | _, .done => some []
  | path, .entry name info _ opens below rest =>
      (childPath start path name).bind fun filePath =>
        (if info.kind = .regular then
          some (if cmpTM (localtime info.mtime) date = wanted then
            [{ names := filePath, info := info }] else [])
        else if info.kind = .directory ∧ isDot name = false then
          if opens then searchEntries wanted filePath below else some []
        else some []).bind fun found =>
          (searchEntries wanted path rest).map (found ++ ·)

/-- A search function, with what `opendir` finds at its path. -/
def searchFrom (wanted : Int) (path : List Text) : Option Listing → Option (List Found)
  | none => some []
  | some root => searchEntries localtime start date wanted path root

def searchOlder (path : List Text) (root : Option Listing) : Option (List Found) :=
  searchFrom localtime start date (-1) path root

def searchNewer (path : List Text) (root : Option Listing) : Option (List Found) :=
  searchFrom localtime start date 1 path root

def searchDate (path : List Text) (root : Option Listing) : Option (List Found) :=
  searchFrom localtime start date 0 path root

/-- The search that `main` starts. -/
def search : Operator → Option Listing → Option (List Found)
  | .older => searchOlder localtime start date []
  | .newer => searchNewer localtime start date []
  | .date => searchDate localtime start date []

end Search

section Selection

variable {localtime : Int → Date} {start : Text} {date : Date}

theorem search_eq_searchFrom (operator : Operator) (root : Option Listing) :
    search localtime start date operator root =
      searchFrom localtime start date operator.wanted [] root := by
  cases operator <;> rfl

/-- Where the path names fit, the search selects the matching regular files; the
induction follows the recursion, into a directory and then behind it. -/
theorem searchEntries_of_fit {operator : Operator} {path : List Text} {root : Listing}
    (fit : PathsFit start path root) :
    searchEntries localtime start date operator.wanted path root =
      some ((files path root).filter (selected localtime date operator isRegular)) := by
  induction root generalizing path with
  | done => rfl
  | entry name info dots opens below rest inside behind =>
      rcases fit with ⟨fits, fitInside, fitBehind⟩
      rw [searchEntries, childPath_of_fits fits, Option.bind_some, behind fitBehind]
      by_cases directory : info.kind = .directory
      · have irregular : info.kind ≠ .regular := by
          rw [directory]
          decide
        rw [if_neg irregular]
        by_cases enters : Enters name info opens
        · rw [if_pos ⟨directory, enters.2.1⟩, if_pos enters.2.2, inside (fitInside enters),
            files_of_enters enters, List.filter_append]
          rfl
        · rw [files_of_directory directory enters]
          cases dot : isDot name with
          | true => simp
          | false =>
              have shut : opens ≠ true := fun opened => enters ⟨directory, dot, opened⟩
              simp [directory, shut]
      · rw [files_of_other directory, List.filter_cons]
        by_cases regular : info.kind = .regular
        · by_cases matching : cmpTM (localtime info.mtime) date = operator.wanted <;>
            simp [regular, matching, selected, isRegular, Matches]
        · simp [regular, directory, selected, isRegular]

theorem pathsFit_of_searchEntries {wanted : Int} {path : List Text} {root : Listing}
    {result : List Found}
    (returns : searchEntries localtime start date wanted path root = some result) :
    PathsFit start path root := by
  induction root generalizing path result with
  | done => trivial
  | entry name info dots opens below rest inside behind =>
      rcases Option.bind_eq_some_iff.mp returns with ⟨filePath, built, searched⟩
      rcases Option.bind_eq_some_iff.mp searched with ⟨found, descended, continued⟩
      rcases Option.map_eq_some_iff.mp continued with ⟨others, continued, _⟩
      have fits : (pathText start path ++ '/' :: name).length < 200 := by
        by_contra long
        rw [childPath, if_neg long] at built
        cases built
      refine ⟨fits, ?_, behind continued⟩
      intro enters
      have irregular : info.kind ≠ .regular := by
        rw [enters.1]
        decide
      rw [childPath_of_fits fits] at built
      rw [← Option.some.inj built, if_neg irregular, if_pos ⟨enters.1, enters.2.1⟩,
        if_pos enters.2.2] at descended
      exact inside descended

/-- The search of an opened directory ends exactly where all path names fit. -/
theorem search_eq_some_iff {operator : Operator} {root : Listing} {result : List Found} :
    search localtime start date operator (some root) = some result ↔
      PathsFit start [] root ∧
        result = (files [] root).filter (selected localtime date operator isRegular) := by
  rw [search_eq_searchFrom, searchFrom]
  constructor
  · intro returns
    have fit := pathsFit_of_searchEntries returns
    rw [searchEntries_of_fit fit] at returns
    exact ⟨fit, (Option.some.inj returns).symm⟩
  · intro selection
    rw [searchEntries_of_fit selection.1, selection.2]

end Selection

end OsExercises.DirectorySearch.Recursive
