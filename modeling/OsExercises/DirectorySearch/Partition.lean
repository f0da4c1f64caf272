import Mathlib.Data.Prod.Lex
import OsExercises.DirectorySearch.Recursive

/-! # The three searches by date

Below a start directory whose directories can all be read, every regular file is found
once, by the search that its date belongs to. -/

namespace OsExercises.DirectorySearch

/-! ## The order of dates -/

/-- The year counts first, then the month, then the day. -/
def Date.fields (date : Date) : ℤ ×ₗ ℤ ×ₗ ℤ :=
  toLex (date.tm_year, toLex (date.tm_mon, date.tm_mday))

/-- What a search asks of the date of a file and the date on the command line. -/
def Operator.Relates : Operator → Date → Date → Prop
  | .older, first, second => first.fields < second.fields
  | .newer, first, second => second.fields < first.fields
  | .date, first, second => first.fields = second.fields

theorem fields_lt_iff {first second : Date} :
    first.fields < second.fields ↔ first.tm_year < second.tm_year ∨
      first.tm_year = second.tm_year ∧ (first.tm_mon < second.tm_mon ∨
        first.tm_mon = second.tm_mon ∧ first.tm_mday < second.tm_mday) := by
  simp only [Date.fields, Prod.Lex.toLex_lt_toLex]

theorem fields_eq_iff {first second : Date} :
    first.fields = second.fields ↔ first.tm_year = second.tm_year ∧
      first.tm_mon = second.tm_mon ∧ first.tm_mday = second.tm_mday := by
  simp only [Date.fields, EmbeddingLike.apply_eq_iff_eq, Prod.mk.injEq]

/-- The cascade of comparisons is the comparison of the fields. -/
theorem cmpTM_eq_wanted_iff {operator : Operator} {first second : Date} :
    cmpTM first second = operator.wanted ↔ operator.Relates first second := by
  cases operator with
  | older =>
      simp only [Operator.Relates, Operator.wanted, fields_lt_iff, cmpTM]
      split_ifs <;> simp <;> omega
  | newer =>
      simp only [Operator.Relates, Operator.wanted, fields_lt_iff, cmpTM]
      split_ifs <;> simp <;> omega
  | date =>
      simp only [Operator.Relates, Operator.wanted, fields_eq_iff, cmpTM]
      split_ifs <;> simp <;> omega

theorem relates_unique (first second : Date) :
    ∃! operator : Operator, operator.Relates first second := by
  rcases lt_trichotomy first.fields second.fields with less | same | greater
  · refine ⟨.older, less, ?_⟩
    intro operator relates
    cases operator with
    | older => rfl
    | newer => exact absurd less relates.not_gt
    | date => exact absurd less (relates ▸ lt_irrefl _)
  · refine ⟨.date, same, ?_⟩
    intro operator relates
    cases operator with
    | older => exact absurd same relates.ne
    | newer => exact absurd same relates.ne'
    | date => rfl
  · refine ⟨.newer, greater, ?_⟩
    intro operator relates
    cases operator with
    | older => exact absurd greater relates.not_gt
    | newer => rfl
    | date => exact absurd greater (relates ▸ lt_irrefl _)

/-! ## What is below a directory -/

/-- A file of the tree, by the names that lead to it. The two dots are not in the tree. -/
inductive Listing.Holds : Listing → List Text → Stat → Prop
  | here {name : Text} {info : Stat} {dots : isDot name = true → info.kind = .directory}
      {opens : Bool} {below rest : Listing} (proper : isDot name = false) :
      Holds (.entry name info dots opens below rest) [name] info
  | inside {name : Text} {info : Stat} {dots : isDot name = true → info.kind = .directory}
      {opens : Bool} {below rest : Listing} {names : List Text} {found : Stat}
      (proper : isDot name = false) (directory : info.kind = .directory)
      (held : Holds below names found) :
      Holds (.entry name info dots opens below rest) (name :: names) found
  | behind {name : Text} {info : Stat} {dots : isDot name = true → info.kind = .directory}
      {opens : Bool} {below rest : Listing} {names : List Text} {found : Stat}
      (held : Holds rest names found) :
      Holds (.entry name info dots opens below rest) names found

def Listing.names : Listing → List Text
  | .done => []
  | .entry name _ _ _ _ rest => name :: rest.names

/-- A directory has no name twice, nor has one below it. -/
def Listing.Distinct : Listing → Prop
  | .done => True
  | .entry name info _ _ below rest =>
      name ∉ rest.names ∧
        (isDot name = false → info.kind = .directory → below.Distinct) ∧ rest.Distinct

/-- `opendir` succeeds for all directories of the tree. -/
def Listing.Readable : Listing → Prop
  | .done => True
  | .entry name info _ opens below rest =>
      (isDot name = false → info.kind = .directory → opens = true ∧ below.Readable) ∧
        rest.Readable

/-- The start directory. -/
structure Directory where
  listing : Listing
  distinct : listing.Distinct

section Files

variable {path : List Text} {listing : Listing} {found : Found}

theorem head_mem_names {names : List Text} {info : Stat} (held : listing.Holds names info) :
    ∃ name others, names = name :: others ∧ name ∈ listing.names := by
  induction held with
  | here proper => exact ⟨_, [], rfl, List.mem_cons_self⟩
  | inside proper directory held induction => exact ⟨_, _, rfl, List.mem_cons_self⟩
  | behind held induction =>
      rcases induction with ⟨name, others, same, member⟩
      exact ⟨name, others, same, List.mem_cons_of_mem _ member⟩

/-- A file is the entry itself, is inside it, or is behind it. -/
theorem holds_entry_iff {name : Text} {info : Stat}
    {dots : isDot name = true → info.kind = .directory} {opens : Bool} {below rest : Listing}
    {names : List Text} {file : Stat} :
    (Listing.entry name info dots opens below rest).Holds names file ↔
      isDot name = false ∧ names = [name] ∧ file = info ∨
        (isDot name = false ∧ info.kind = .directory ∧
          ∃ others, names = name :: others ∧ below.Holds others file) ∨
        rest.Holds names file := by
  constructor
  · intro held
    cases held with
    | here proper => exact .inl ⟨proper, rfl, rfl⟩
    | inside proper directory held => exact .inr (.inl ⟨proper, directory, _, rfl, held⟩)
    | behind held => exact .inr (.inr held)
  · intro either
    rcases either with ⟨proper, rfl, rfl⟩ | ⟨proper, directory, _, rfl, held⟩ | held
    · exact .here proper
    · exact .inside proper directory held
    · exact .behind held

/-- The list of files has what is below the directory. -/
theorem mem_files_iff (readable : listing.Readable) :
    found ∈ files path listing ↔ found.info.kind ≠ .directory ∧
      ∃ names, found.names = path ++ names ∧ listing.Holds names found.info := by
  induction listing generalizing path with
  | done =>
      constructor
      · intro member
        cases member
      · intro held
        rcases held with ⟨_, _, _, held⟩
        cases held
  | entry name info dots opens below rest inside behind =>
      rcases readable with ⟨opened, readableRest⟩
      by_cases directory : info.kind = .directory
      · cases dot : isDot name with
        | true =>
            have skipped : ¬ Enters name info opens := by
              intro enters
              rw [enters.2.1] at dot
              cases dot
            rw [files_of_directory directory skipped, behind readableRest]
            simp [holds_entry_iff, dot]
        | false =>
            rcases opened dot directory with ⟨succeeds, readableBelow⟩
            rw [files_of_enters ⟨directory, dot, succeeds⟩, List.mem_append,
              inside readableBelow, behind readableRest, ← and_or_left]
            refine and_congr_right fun other => ?_
            constructor
            · intro either
              rcases either with ⟨names, same, held⟩ | ⟨names, same, held⟩
              · refine ⟨name :: names, ?_, .inside dot directory held⟩
                rw [same, List.append_assoc, List.singleton_append]
              · exact ⟨names, same, .behind held⟩
            · intro held
              rcases held with ⟨names, same, held⟩
              rcases holds_entry_iff.mp held with
                ⟨_, _, itself⟩ | ⟨_, _, others, rfl, inner⟩ | later
              · exact absurd (itself ▸ directory) other
              · refine .inl ⟨others, ?_, inner⟩
                rw [same, List.append_assoc, List.singleton_append]
              · exact .inr ⟨names, same, later⟩
      · have proper : isDot name = false :=
          Bool.eq_false_of_not_eq_true fun dot => directory (dots dot)
        rw [files_of_other directory, List.mem_cons, behind readableRest]
        constructor
        · intro either
          rcases either with rfl | ⟨other, names, same, held⟩
          · exact ⟨directory, [name], rfl, .here proper⟩
          · exact ⟨other, names, same, .behind held⟩
        · intro held
          rcases held with ⟨other, names, same, held⟩
          rcases holds_entry_iff.mp held with ⟨_, rfl, info⟩ | ⟨_, isDirectory, _⟩ | held
          · exact .inl (congrArg₂ Found.mk same info)
          · exact absurd isDirectory directory
          · exact .inr ⟨other, names, same, held⟩

theorem head_of_mem_files (readable : listing.Readable) (member : found ∈ files path listing) :
    ∃ name others, found.names = path ++ name :: others ∧ name ∈ listing.names := by
  rcases ((mem_files_iff readable).mp member).2 with ⟨names, same, held⟩
  rcases head_mem_names held with ⟨name, others, rfl, member⟩
  exact ⟨name, others, same, member⟩

/-- The first name tells an entry's files from those of the entries behind it. -/
theorem files_distinct (readable : listing.Readable) (distinct : listing.Distinct) :
    ((files path listing).map Found.names).Nodup := by
  induction listing generalizing path with
  | done => exact List.nodup_nil
  | entry name info dots opens below rest inside behind =>
      rcases readable with ⟨opened, readableRest⟩
      rcases distinct with ⟨fresh, distinctBelow, distinctRest⟩
      have later := @behind path readableRest distinctRest
      have apart : ∀ found ∈ files path rest, ∀ others, found.names ≠ path ++ name :: others := by
        intro found member others same
        rcases head_of_mem_files readableRest member with ⟨other, tail, named, present⟩
        rw [same, List.append_cancel_left_eq] at named
        exact fresh ((List.cons.inj named).1 ▸ present)
      by_cases directory : info.kind = .directory
      · by_cases enters : Enters name info opens
        · have readableBelow := (opened enters.2.1 directory).2
          rw [files_of_enters enters, List.map_append, List.nodup_append]
          refine ⟨inside readableBelow (distinctBelow enters.2.1 directory), later, ?_⟩
          intro names early others late
          rcases List.mem_map.mp early with ⟨first, memberFirst, rfl⟩
          rcases List.mem_map.mp late with ⟨second, memberSecond, rfl⟩
          rcases head_of_mem_files readableBelow memberFirst with ⟨next, tail, named, _⟩
          rw [named, List.append_assoc, List.singleton_append]
          exact (apart second memberSecond _).symm
        · rw [files_of_directory directory enters]
          exact later
      · rw [files_of_other directory, List.map_cons, List.nodup_cons]
        refine ⟨?_, later⟩
        intro member
        rcases List.mem_map.mp member with ⟨found, memberFound, same⟩
        exact apart found memberFound [] same

end Files

/-! ## The three searches -/

/-- The search is to report the file. -/
structure Asked (localtime : Int → Date) (date : Date) (root : Directory) (operator : Operator)
    (found : Found) : Prop where
  held : root.listing.Holds found.names found.info
  regular : found.info.kind = .regular
  relates : operator.Relates (localtime found.info.mtime) date

/-- Every regular file has one search that reports it, once. -/
structure Partition (localtime : Int → Date) (date : Date) (root : Directory)
    (reports : Operator → List Found) : Prop where
  reported : ∀ operator found,
    found ∈ reports operator ↔ Asked localtime date root operator found
  once : ∀ operator, ((reports operator).map Found.names).Nodup
  one : ∀ found, root.listing.Holds found.names found.info → found.info.kind = .regular →
    ∃! operator, found ∈ reports operator

section Searches

variable {localtime : Int → Date} {date : Date} {root : Directory}

theorem mem_selected_iff (readable : root.listing.Readable) {operator : Operator}
    {found : Found} :
    found ∈ (files [] root.listing).filter (selected localtime date operator isRegular) ↔
      Asked localtime date root operator found := by
  have relates : Matches localtime date operator found.info ↔
      operator.Relates (localtime found.info.mtime) date := cmpTM_eq_wanted_iff
  simp only [List.mem_filter, mem_files_iff readable, selected, isRegular, Bool.and_eq_true,
    decide_eq_true_eq, relates, List.nil_append]
  constructor
  · intro chosen
    rcases chosen with ⟨⟨_, names, rfl, held⟩, regular, relates⟩
    exact ⟨held, regular, relates⟩
  · intro asked
    have other : found.info.kind ≠ .directory := by
      rw [asked.regular]
      decide
    exact ⟨⟨other, _, rfl, asked.held⟩, asked.regular, asked.relates⟩

/-- The searches return, and report every regular file according to its date. -/
theorem searches_partition (localtime : Int → Date) (start : Text) (date : Date)
    (root : Directory) (readable : root.listing.Readable) (fit : PathsFit start [] root.listing) :
    ∃ reports : Operator → List Found,
      Recursive.searchOlder localtime start date [] (some root.listing) =
          some (reports .older) ∧
        Recursive.searchNewer localtime start date [] (some root.listing) =
          some (reports .newer) ∧
        Recursive.searchDate localtime start date [] (some root.listing) =
          some (reports .date) ∧
        Partition localtime date root reports := by
  have returns := fun operator => (@Recursive.search_eq_some_iff localtime start date operator
    root.listing _).mpr ⟨fit, rfl⟩
  refine ⟨fun operator => (files [] root.listing).filter
    (selected localtime date operator isRegular), returns .older, returns .newer,
    returns .date, ?_⟩
  exact
    { reported := fun operator found => mem_selected_iff readable
      once := by
        intro operator
        have all := @files_distinct [] root.listing readable root.distinct
        exact all.sublist (List.filter_sublist.map Found.names)
      one := by
        intro found held regular
        rcases relates_unique (localtime found.info.mtime) date with ⟨operator, relates, unique⟩
        refine ⟨operator, (mem_selected_iff readable).mpr ⟨held, regular, relates⟩, ?_⟩
        intro other member
        exact unique other ((mem_selected_iff readable).mp member).relates }

end Searches

def dayFile (mtime : Int) : Stat where
  kind := .regular
  permissions := 0
  mtime := mtime
  size := 0

def plainDirectory : Stat where
  kind := .directory
  permissions := 0
  mtime := 0
  size := 0

/-- A directory `d` with a file of 1999, behind the dots and before a file of 2000. -/
def twoYears : Directory where
  listing :=
    .entry ['.'] plainDirectory (fun _ => rfl) true .done
      (.entry ['d'] plainDirectory (fun _ => rfl) true
        (.entry ['f'] (dayFile 99) (by decide) false .done .done)
        (.entry ['g'] (dayFile 100) (by decide) false .done .done))
  distinct := by simp [Listing.Distinct, Listing.names, dayFile]

def newYear (year : Int) : Date where
  tm_year := year
  tm_mon := 0
  tm_mday := 1

theorem searches_partition_two :
    Recursive.searchOlder newYear ['/', 't'] (newYear 100) [] (some twoYears.listing) =
        some [{ names := [['d'], ['f']], info := dayFile 99 }] ∧
      ∃ reports, Partition newYear (newYear 100) twoYears reports := by
  have readable : twoYears.listing.Readable := by
    simp [twoYears, Listing.Readable, dayFile]
  rcases searches_partition newYear ['/', 't'] (newYear 100) twoYears readable (by decide) with
    ⟨reports, _, _, _, partition⟩
  exact ⟨by decide, reports, partition⟩

end OsExercises.DirectorySearch
