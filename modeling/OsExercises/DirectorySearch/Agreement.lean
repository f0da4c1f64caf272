import OsExercises.DirectorySearch.Duplicates
import OsExercises.DirectorySearch.Recursive

/-! # The forking search against the recursive one

The searches for newer files and for files of a date test for regular files in both
programs; the search for older files also takes symbolic links when it forks. -/

namespace OsExercises.DirectorySearch.Forking

section Agreement

variable {localtime : Int → Date} {start : Text} {date : Date}
variable {buffering : Buffering} {operator : Operator} {root : Listing}

/-- Some run of the search comes to its end and has printed the records of `found`. -/
def Prints (localtime : Int → Date) (start : Text) (date : Date) (buffering : Buffering)
    (operator : Operator) (root : Listing) (found : List Found) : Prop :=
  ∃ final, (searching localtime start date buffering (searchFunction operator) root).Leads
    (initial root) final ∧ final.processes = [] ∧ final.printed = found

theorem prints_iff {found : List Found} :
    Prints localtime start date buffering operator root found ↔
      PathsFit start [] root ∧ found = matching localtime date operator [] root := by
  constructor
  · intro printing
    rcases printing with ⟨final, leads, ends, rfl⟩
    exact ⟨fits_of_ends leads ends, (output_of_ends leads ends).2⟩
  · intro selection
    rcases @search_ends localtime start date buffering operator root selection.1 with
      ⟨final, leads, ends, _, printed⟩
    exact ⟨final, leads, ends, printed.trans selection.2.symm⟩

/-- The recursive and the forking program select the same files. -/
def SelectSame (localtime : Int → Date) (start : Text) (date : Date) (buffering : Buffering)
    (root : Listing) (operator : Operator) : Prop :=
  ∃ reported found,
    Recursive.search localtime start date operator (some root) = some reported ∧
      Prints localtime start date buffering operator root found ∧ found.Perm reported

/-- The three operators of the forking program together select every regular file once
and nothing else. -/
def SelectEachOnce (localtime : Int → Date) (start : Text) (date : Date) (buffering : Buffering)
    (root : Listing) : Prop :=
  ∃ older newer same,
    Prints localtime start date buffering .older root older ∧
      Prints localtime start date buffering .newer root newer ∧
      Prints localtime start date buffering .date root same ∧
      (older ++ (newer ++ same)).Perm
        ((files [] root).filter fun found => isRegular found.info.kind)

/-- No symbolic link is older than the date. -/
def NoOlderLink (localtime : Int → Date) (date : Date) (root : Listing) : Prop :=
  ∀ found ∈ files [] root, found.info.kind = .symbolicLink →
    ¬Matches localtime date .older found.info

/-- The regular files that match. -/
def regularMatching (localtime : Int → Date) (date : Date) (operator : Operator)
    (root : Listing) : List Found :=
  (files [] root).filter (selected localtime date operator isRegular)

theorem kinds_of_isRegular {kind : FileKind} (regular : isRegular kind) :
    (searchFunction operator).kinds kind := by
  have same : kind = .regular := of_decide_eq_true regular
  cases operator <;> simp [searchFunction, searchOlder, searchNewer, searchDate, isRegular, same]

/-- The two selections for an operator differ in nothing but older symbolic links. -/
theorem regularMatching_perm_iff :
    (matching localtime date operator [] root).Perm (regularMatching localtime date operator root) ↔
      (operator = .older → NoOlderLink localtime date root) := by
  have narrower : ∀ found, selected localtime date operator isRegular found →
      prints localtime date operator found := by
    intro found chosen
    simp only [selected, prints, Bool.and_eq_true] at chosen ⊢
    exact ⟨kinds_of_isRegular chosen.1, chosen.2⟩
  rw [List.perm_comm, regularMatching, matching, filter_perm_filter_iff narrower]
  cases operator with
  | older =>
      simp only [forall_true_left, NoOlderLink]
      refine forall₂_congr fun found _ => ?_
      simp only [prints, selected, isRegular, searchFunction, searchOlder, Bool.and_eq_true,
        decide_eq_true_eq]
      constructor
      · intro regular link matches'
        have both := (regular ⟨.inr link, matches'⟩).1
        rw [link] at both
        cases both
      · intro noLink chosen
        rcases chosen.1 with regular | link
        · exact ⟨regular, chosen.2⟩
        · exact absurd chosen.2 (noLink link)
  | newer => exact iff_of_true (fun _ _ chosen => chosen) (fun impossible => by cases impossible)
  | date => exact iff_of_true (fun _ _ chosen => chosen) (fun impossible => by cases impossible)

/-- Every regular file matches for exactly one operator. -/
theorem regularMatching_partition :
    (regularMatching localtime date .older root ++ (regularMatching localtime date .newer root ++
      regularMatching localtime date .date root)).Perm
      ((files [] root).filter fun found => isRegular found.info.kind) := by
  let regular := (files [] root).filter fun found => isRegular found.info.kind
  let older : Found → Bool := fun found => decide (Matches localtime date .older found.info)
  let newer : Found → Bool := fun found => decide (Matches localtime date .newer found.info)
  have olderPart : regularMatching localtime date .older root = regular.filter older := by
    simp only [regularMatching, regular, List.filter_filter]
    exact List.filter_congr fun found _ => Bool.and_comm _ _
  have newerPart : regularMatching localtime date .newer root =
      (regular.filter (!older ·)).filter newer := by
    simp only [regularMatching, regular, List.filter_filter]
    apply List.filter_congr
    intro found _
    cases matches' : newer found with
    | false => simp only [newer] at matches'; simp [selected, matches']
    | true =>
        have result : cmpTM (localtime found.info.mtime) date = 1 := of_decide_eq_true matches'
        simp [selected, older, Matches, Operator.wanted, result]
  have datePart : regularMatching localtime date .date root =
      (regular.filter (!older ·)).filter (!newer ·) := by
    simp only [regularMatching, regular, List.filter_filter]
    apply List.filter_congr
    intro found _
    rcases exists_wanted (localtime found.info.mtime) date with ⟨operator, result⟩
    cases operator <;>
      simp [selected, older, newer, Matches, Operator.wanted, result]
  rw [olderPart, newerPart, datePart]
  have rest := List.filter_append_perm newer (regular.filter (!older ·))
  have all := List.filter_append_perm older regular
  exact (List.Perm.append_left _ rest).trans all

/-- For each operator the programs select the same files, and the three operators
together every regular file once, exactly where every path name fits and, for the
older files, no symbolic link is older than the date. -/
theorem selections_iff :
    (∀ operator, SelectSame localtime start date buffering root operator ↔
      PathsFit start [] root ∧ (operator = .older → NoOlderLink localtime date root)) ∧
    (SelectEachOnce localtime start date buffering root ↔
      PathsFit start [] root ∧ NoOlderLink localtime date root) := by
  constructor
  · intro operator
    rw [← regularMatching_perm_iff]
    constructor
    · intro same
      rcases same with ⟨reported, found, searched, printing, perm⟩
      rcases prints_iff.mp printing with ⟨fit, rfl⟩
      rw [(Recursive.search_eq_some_iff.mp searched).2] at perm
      exact ⟨fit, perm⟩
    · intro same
      exact ⟨_, _, Recursive.search_eq_some_iff.mpr ⟨same.1, rfl⟩,
        prints_iff.mpr ⟨same.1, rfl⟩, same.2⟩
  · have newer : (matching localtime date .newer [] root) =
        regularMatching localtime date .newer root := rfl
    have dated : (matching localtime date .date [] root) =
        regularMatching localtime date .date root := rfl
    have older := @regularMatching_perm_iff localtime date .older root
    simp only [forall_true_left] at older
    rw [← older, ← List.perm_append_right_iff (regularMatching localtime date .newer root ++
      regularMatching localtime date .date root)]
    constructor
    · intro once
      rcases once with ⟨_, _, _, printsOlder, printsNewer, printsDate, perm⟩
      rcases prints_iff.mp printsOlder with ⟨fit, rfl⟩
      rcases prints_iff.mp printsNewer with ⟨_, rfl⟩
      rcases prints_iff.mp printsDate with ⟨_, rfl⟩
      exact ⟨fit, perm.trans regularMatching_partition.symm⟩
    · intro same
      exact ⟨_, _, _, prints_iff.mpr ⟨same.1, rfl⟩, prints_iff.mpr ⟨same.1, rfl⟩,
        prints_iff.mpr ⟨same.1, rfl⟩, same.2.trans regularMatching_partition⟩

/-- In a directory with nothing but a symbolic link from 2000, only the forking
search for files older than 2001 selects the link. -/
theorem link_selected :
    ¬SelectSame (fun _ => { tm_year := 100, tm_mon := 0, tm_mday := 1 }) ['/', 't']
      { tm_year := 101, tm_mon := 0, tm_mday := 1 }
      { size := 4096, positive := Nat.zero_lt_succ _, lines := true }
      (.entry ['l'] { kind := .symbolicLink, permissions := 0, mtime := 0, size := 0 } (by decide)
        false .done .done) .older := by
  intro same
  rcases same with ⟨reported, found, searched, printing, perm⟩
  rcases prints_iff.mp printing with ⟨_, rfl⟩
  rw [(Recursive.search_eq_some_iff.mp searched).2] at perm
  exact absurd perm.length_eq (by decide)

end Agreement

end OsExercises.DirectorySearch.Forking
