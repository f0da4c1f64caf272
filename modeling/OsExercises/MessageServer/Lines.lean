import OsExercises.MessageServer.Requests

/-! # Lines that clients type

The client of cw06/zad1 looks for the keyword of a line behind any number of blanks,
but copies the operands from a fixed place and always removes the last character of
what it has copied. The server expects to find two operands in what is left. -/

namespace OsExercises.MessageServer

open OsExercises

def MessageType.HasOperands : MessageType → Bool
  | .add | .mul | .sub | .div => true
  | _ => false

/-- The word that asks for an operation. START and STOP are not asked for. -/
def keyword : MessageType → Text
  | .mirror => ['M', 'I', 'R', 'R', 'O', 'R']
  | .add => ['A', 'D', 'D']
  | .mul => ['M', 'U', 'L']
  | .sub => ['S', 'U', 'B']
  | .div => ['D', 'I', 'V']
  | .time => ['T', 'I', 'M', 'E']
  | .serverEnd => ['E', 'N', 'D']
  | .start | .stop => []

theorem eq_keyword {fWord : Text} {mType : MessageType} (known : operation fWord = some mType) :
    fWord = keyword mType := by
  unfold operation at known
  repeat' split at known
  all_goals
    cases known
    try assumption

theorem length_keyword {mType : MessageType} (two : mType.HasOperands) :
    (keyword mType).length = 3 := by
  cases mType <;> first | rfl | cases two

/-! ## The parts of a line -/

def leading (string : Text) : Text :=
  string.takeWhile isDelimiter

def firstWord (string : Text) : Text :=
  (string.dropWhile isDelimiter).takeWhile (!isDelimiter ·)

def afterWord (string : Text) : Text :=
  (string.dropWhile isDelimiter).dropWhile (!isDelimiter ·)

/-- What follows a keyword at the start of the line and one delimiter. Behind a bare
keyword that is what an earlier line has left in the array. -/
def arguments (string behind : Text) : Text :=
  match afterWord string with
  | [] => cString behind
  | _ :: rest => rest

/-- What the array holds behind the NUL of a line. -/
def behindLine (buffer line : Text) : Text :=
  (getline buffer line).drop (strlen line + 1)

section Parts

variable {before word rest behind : Text}

theorem leading_eq (blanks : ∀ character ∈ before, isDelimiter character)
    (isWord : IsWord isDelimiter word) : leading (before ++ (word ++ rest)) = before := by
  rw [leading, List.takeWhile_append_of_pos blanks]
  cases word with
  | nil => exact absurd rfl isWord.nonempty
  | cons letter word => simp [isWord.solid letter List.mem_cons_self]

theorem firstWord_eq (blanks : ∀ character ∈ before, isDelimiter character)
    (isWord : IsWord isDelimiter word) (ends : EndsWord isDelimiter rest) :
    firstWord (before ++ (word ++ rest)) = word := by
  rw [firstWord, dropWhile_blanks blanks isWord, takeWhile_word isWord.solid ends]

theorem afterWord_eq (blanks : ∀ character ∈ before, isDelimiter character)
    (isWord : IsWord isDelimiter word) (ends : EndsWord isDelimiter rest) :
    afterWord (before ++ (word ++ rest)) = rest := by
  rw [afterWord, dropWhile_blanks blanks isWord, dropWhile_word isWord.solid ends]

/-- The text at a fixed place behind the keyword, after `strtok`. -/
theorem cString_drop (noNul : nul ∉ before ++ word) (tail : Text) {place : Nat}
    (keyword : word.length + 1 = place) :
    cString ((before ++ (word ++ nul :: tail)).drop place) =
      if before = [] then cString tail else (before ++ word).drop place := by
  by_cases atStart : before = []
  · subst atStart
    rw [if_pos rfl, List.nil_append, List.drop_append, List.drop_eq_nil_of_le (by omega),
      List.nil_append, ← keyword, Nat.add_sub_cancel_left]
    rfl
  · have some := List.length_pos_iff.mpr atStart
    have long : place ≤ (before ++ word).length := by
      rw [List.length_append]
      omega
    have noNulLater : nul ∉ (before ++ word).drop place :=
      fun member => noNul (List.mem_of_mem_drop member)
    rw [if_neg atStart, ← List.append_assoc, List.drop_append_of_le_length long,
      cString_append_nul noNulLater]

end Parts

/-- A line that is not blank, with what the array holds behind it. -/
structure Typed (buffer before word rest behind : Text) : Prop where
  array : buffer = before ++ (word ++ rest) ++ nul :: behind
  noNul : nul ∉ before ++ (word ++ rest)
  blanks : ∀ character ∈ before, isDelimiter character
  isWord : IsWord isDelimiter word
  ends : EndsWord isDelimiter rest

namespace Typed

variable {buffer before word rest behind : Text}

theorem string (typed : Typed buffer before word rest behind) :
    cString buffer = before ++ (word ++ rest) := by
  rw [typed.array, cString_append_nul typed.noNul]

theorem strtok_eq (typed : Typed buffer before word rest behind) :
    strtok (cString buffer) = some (word, rest.tail) := by
  rw [typed.string]
  exact strtok_word typed.blanks typed.isWord typed.ends

theorem leading_eq (typed : Typed buffer before word rest behind) :
    leading (cString buffer) = before := by
  rw [typed.string]
  exact MessageServer.leading_eq typed.blanks typed.isWord

theorem firstWord_eq (typed : Typed buffer before word rest behind) :
    firstWord (cString buffer) = word := by
  rw [typed.string]
  exact MessageServer.firstWord_eq typed.blanks typed.isWord typed.ends

theorem cString_tail (typed : Typed buffer before word rest behind) :
    cString (rest ++ nul :: behind).tail = arguments (cString buffer) behind := by
  have noNulRest : nul ∉ rest := by
    intro member
    exact typed.noNul (List.mem_append_right _ (List.mem_append_right _ member))
  rw [typed.string, arguments, afterWord_eq typed.blanks typed.isWord typed.ends]
  cases rest with
  | nil => rfl
  | cons delimiter rest =>
      exact cString_append_nul (fun member => noNulRest (List.mem_cons_of_mem _ member)) behind

theorem arguments_cons {delimiter : Char}
    (typed : Typed buffer before word (delimiter :: rest) behind) :
    arguments (cString buffer) behind = rest := by
  rw [typed.string, arguments, afterWord_eq typed.blanks typed.isWord typed.ends]

/-- What is copied from a place just behind the keyword. -/
theorem cString_drop (typed : Typed buffer before word rest behind) {place : Nat}
    (keyword : word.length + 1 = place) :
    cString ((cutFirstWord buffer).drop place) =
      if before = [] then arguments (cString buffer) behind
      else (before ++ word).drop place := by
  have noNul : nul ∉ before ++ word := by
    intro member
    apply typed.noNul
    rw [← List.append_assoc]
    exact List.mem_append_left _ member
  rw [← typed.cString_tail]
  conv => lhs; rw [typed.array]
  rw [cutFirstWord_word typed.blanks typed.isWord typed.ends typed.noNul,
    MessageServer.cString_drop noNul _ keyword]

end Typed

/-! ## Two operands -/

theorem exists_solid_of_strtok {text : Text} (some : strtok text ≠ none) :
    ∃ character ∈ text, isDelimiter character = false := by
  by_contra blank
  apply some
  rw [strtok_eq_none_iff]
  intro character member
  by_contra solid
  exact blank ⟨character, member, by simpa using solid⟩

theorem strtok_ne_none {text : Text} (solid : ∃ character ∈ text, isDelimiter character = false) :
    strtok text ≠ none := by
  rcases solid with ⟨character, member, isSolid⟩
  intro none
  have isBlank := (strtok_eq_none_iff text).mp none character member
  exact absurd (isSolid.symm.trans isBlank) (by decide)

theorem operands_word {before word rest : Text}
    (blanks : ∀ character ∈ before, isDelimiter character) (isWord : IsWord isDelimiter word)
    (ends : EndsWord isDelimiter rest) :
    operands (before ++ (word ++ rest)) =
      (strtok rest.tail).map fun (second, _) => (stringToInt word, stringToInt second) := by
  simp [operands, strtok_word blanks isWord ends]

theorem operands_ne_none_iff (msg : Text) : operands msg ≠ none ↔ HasTwoWords msg := by
  constructor
  · intro both
    have first : strtok msg ≠ none := by
      intro none
      simp [operands, none] at both
    rcases exists_firstWord (exists_solid_of_strtok first) with
      ⟨before, word, rest, rfl, blanks, isWord, ends⟩
    rw [operands_word blanks isWord ends, ne_eq, Option.map_eq_none_iff] at both
    cases rest with
    | nil => exact absurd rfl both
    | cons delimiter rest =>
        exact .intro blanks isWord (ends delimiter rfl) (exists_solid_of_strtok both)
  · intro two
    cases two with
    | intro blanks isWord separated further =>
        rw [operands_word blanks isWord (EndsWord.cons separated _), ne_eq,
          Option.map_eq_none_iff]
        exact strtok_ne_none further

/-- Blanks and one word, and no part of them, are two words. -/
theorem not_hasTwoWords {before word text : Text}
    (blanks : ∀ character ∈ before, isDelimiter character) (isWord : IsWord isDelimiter word)
    (part : text.Sublist (before ++ word)) : ¬ HasTwoWords text := by
  intro two
  cases two with
  | @intro gap first delimiter rest _ isFirst separated _ =>
      rcases List.exists_mem_of_ne_nil first isFirst.nonempty with ⟨letter, member⟩
      have letterSolid := isFirst.solid letter member
      -- A letter and then a delimiter occur in this order only across the two parts.
      have pair : [letter, delimiter].Sublist (before ++ word) := by
        apply List.Sublist.trans _ part
        apply List.Sublist.trans _ (List.sublist_append_right gap _)
        exact (List.singleton_sublist.mpr member).append
          (List.singleton_sublist.mpr List.mem_cons_self)
      rcases List.sublist_append_iff.mp pair with ⟨left, right, parts, inBefore, inWord⟩
      cases left with
      | nil =>
          have inWord : [letter, delimiter].Sublist word := by
            rwa [parts]
          have solid := isWord.solid delimiter (inWord.subset (by simp))
          exact absurd (solid.symm.trans separated) (by decide)
      | cons head left =>
          have same : letter = head := (List.cons.inj parts).1
          have blank := blanks head (inBefore.subset List.mem_cons_self)
          rw [same] at letterSolid
          exact absurd (letterSolid.symm.trans blank) (by decide)

/-! ## What is copied -/

namespace Typed

variable {buffer before word rest behind : Text} {mType : MessageType}

/-- With blanks before the keyword the end of the keyword itself is copied. -/
theorem payload_mirror (typed : Typed buffer before word rest behind)
    (mirror : word = keyword .mirror) :
    payload .mirror (cutFirstWord buffer) =
      if before = [] then arguments (cString buffer) behind else (before ++ word).drop 7 := by
  have length : word.length + 1 = 7 := by
    rw [mirror]
    rfl
  exact typed.cString_drop length

theorem payload_operands (typed : Typed buffer before word rest behind)
    (two : mType.HasOperands) (isKeyword : word = keyword mType) :
    payload mType (cutFirstWord buffer) =
      if before = [] then arguments (cString buffer) behind else (before ++ word).drop 4 := by
  have length : word.length + 1 = 4 := by
    rw [isKeyword, length_keyword two]
  rw [← typed.cString_drop length]
  cases mType <;> first | rfl | cases two

theorem parse_eq (typed : Typed buffer before word rest behind)
    (known : operation word = some mType) :
    parse buffer =
      if (payload mType (cutFirstWord buffer)).length < maxMsgSize then
        .request mType (payload mType (cutFirstWord buffer)).dropLast
      else
        .crash := by
  simp only [parse, typed.strtok_eq, known]

end Typed

theorem length_payload {mType : MessageType} (two : mType.HasOperands) (buffer : Text) :
    (payload mType (cutFirstWord buffer)).length ≤ buffer.length - 4 := by
  have copied : payload mType (cutFirstWord buffer) = cString ((cutFirstWord buffer).drop 4) := by
    cases mType <;> first | rfl | cases two
  have length : (cutFirstWord buffer).length = buffer.length := by
    simp [cutFirstWord]
  have shorter := (List.takeWhile_sublist (fun character => decide (character ≠ nul))
    (l := (cutFirstWord buffer).drop 4)).length_le
  rw [copied]
  rwa [List.length_drop, length] at shorter

theorem length_getline (buffer line : Text) :
    (getline buffer line).length = max (line.length + 1) buffer.length := by
  simp only [getline, List.length_append, List.length_cons, List.length_drop]
  omega

theorem cString_getline (buffer line : Text) : cString (getline buffer line) = cString line := by
  rw [getline, cString, List.takeWhile_append]
  split
  · next whole =>
      have all : line.takeWhile (fun character => decide (character ≠ nul)) = line :=
        (List.takeWhile_sublist _).eq_of_length whole
      rw [List.takeWhile_cons_of_neg (by simp), List.append_nil]
      exact all.symm
  · rfl

theorem getline_eq (buffer line : Text) :
    getline buffer line = cString line ++ nul :: behindLine buffer line := by
  have member : nul ∈ getline buffer line :=
    List.mem_append_right _ List.mem_cons_self
  have split := cString_append_behind member
  rwa [strlen, cString_getline] at split

theorem exists_typed (buffer : Text) {line : Text}
    (solid : ∃ character ∈ cString line, isDelimiter character = false) :
    ∃ before word rest, Typed (getline buffer line) before word rest (behindLine buffer line) := by
  rcases exists_firstWord solid with ⟨before, word, rest, parts, blanks, isWord, ends⟩
  exact ⟨before, word, rest,
    { array := by rw [← parts, getline_eq]
      noNul := by
        rw [← parts]
        exact nul_not_mem_cString line
      blanks := blanks
      isWord := isWord
      ends := ends }⟩

/-! ## Lines that do harm -/

/-- No step that a line leads to uses a null pointer or the index -1. -/
structure NotBroughtDown (buffer : Text) : Prop where
  /-- `fWord` in the comparisons of the client -/
  firstWord : strtok (cString buffer) ≠ none
  /-- `strlen(mMsg.msg) - 1` -/
  lastIndex : ∀ fWord rest mType, strtok (cString buffer) = some (fWord, rest) →
    operation fWord = some mType → payload mType (cutFirstWord buffer) ≠ []
  /-- the two operands, in the server, of a message that it can receive -/
  operands : ∀ mType msg, parse buffer = .request mType msg → mType.HasOperands →
    sizeofPid + msg.length + 1 ≤ maxMsgSize → MessageServer.operands msg ≠ none

/-- The lines that do no harm. -/
structure Harmless (string behind : Text) : Prop where
  notBlank : ∃ character ∈ string, isDelimiter character = false
  mirrored : firstWord string = keyword .mirror →
    (leading string).length ≠ 1 ∧ (leading string = [] → arguments string behind ≠ [])
  twoOperands : ∀ mType, mType.HasOperands → firstWord string = keyword mType →
    leading string = [] ∧ HasTwoWords (arguments string behind).dropLast

theorem not_hasTwoWords_nil : ¬ HasTwoWords [] := by
  intro two
  exact (operands_ne_none_iff []).mpr two rfl

namespace Typed

variable {buffer before word rest behind : Text}

theorem harmless (typed : Typed buffer before word rest behind)
    (short : buffer.length ≤ maxMsgSize) (notBroughtDown : NotBroughtDown buffer) :
    Harmless (cString buffer) behind where
  notBlank := exists_solid_of_strtok notBroughtDown.firstWord
  mirrored := by
    rw [typed.firstWord_eq, typed.leading_eq]
    intro mirror
    have known : operation word = some .mirror := by
      rw [mirror]
      rfl
    have copied := notBroughtDown.lastIndex _ _ _ typed.strtok_eq known
    rw [typed.payload_mirror mirror] at copied
    constructor
    · intro one
      have notStart : before ≠ [] := List.ne_nil_of_length_eq_add_one one
      apply copied
      rw [if_neg notStart, mirror]
      apply List.drop_eq_nil_of_le
      rw [List.length_append, one]
      decide
    · intro atStart
      rwa [if_pos atStart] at copied
  twoOperands := by
    intro mType two isKeyword
    rw [typed.firstWord_eq] at isKeyword
    rw [typed.leading_eq]
    have known : operation word = some mType := by
      rw [isKeyword]
      cases mType <;> first | rfl | cases two
    have copied := length_payload two buffer
    simp only [maxMsgSize] at short
    have fits : (payload mType (cutFirstWord buffer)).length < maxMsgSize := by
      simp only [maxMsgSize]
      omega
    have received : sizeofPid + (payload mType (cutFirstWord buffer)).dropLast.length + 1 ≤
        maxMsgSize := by
      rw [List.length_dropLast]
      simp only [sizeofPid, maxMsgSize]
      omega
    have both := notBroughtDown.operands mType _ ((typed.parse_eq known).trans (if_pos fits)) two
      received
    rw [operands_ne_none_iff, typed.payload_operands two isKeyword] at both
    by_cases atStart : before = []
    · rw [if_pos atStart] at both
      exact ⟨atStart, both⟩
    · rw [if_neg atStart] at both
      refine absurd both (not_hasTwoWords typed.blanks typed.isWord ?_)
      exact (List.dropLast_sublist _).trans (List.drop_sublist _ _)

theorem notBroughtDown (typed : Typed buffer before word rest behind)
    (harmless : Harmless (cString buffer) behind) : NotBroughtDown buffer where
  firstWord := by
    rw [typed.strtok_eq]
    exact Option.some_ne_none _
  lastIndex := by
    intro fWord _ mType found known
    rw [typed.strtok_eq] at found
    cases found
    have isKeyword := eq_keyword known
    cases two : mType.HasOperands with
    | true =>
        have parts := harmless.twoOperands mType two (by rw [typed.firstWord_eq, isKeyword])
        rw [typed.leading_eq] at parts
        rw [typed.payload_operands two isKeyword, if_pos parts.1]
        intro nothing
        rw [nothing] at parts
        exact not_hasTwoWords_nil parts.2
    | false =>
        cases mType with
        | mirror =>
            have parts := harmless.mirrored (by rw [typed.firstWord_eq, isKeyword])
            rw [typed.leading_eq] at parts
            rw [typed.payload_mirror isKeyword]
            by_cases atStart : before = []
            · rw [if_pos atStart]
              exact parts.2 atStart
            · have some := List.length_pos_iff.mpr atStart
              have several : 2 ≤ before.length := by omega
              rw [if_neg atStart]
              apply List.ne_nil_of_length_pos
              rw [List.length_drop, List.length_append, isKeyword]
              simp only [keyword, List.length_cons, List.length_nil]
              omega
        | time | serverEnd | start | stop => exact List.cons_ne_nil _ _
        | add | mul | sub | div => cases two
  operands := by
    intro mType msg parsed two _
    have known : operation word = some mType := by
      simp only [parse, typed.strtok_eq] at parsed
      split at parsed
      · cases parsed
      · next known =>
          split at parsed
          · cases parsed
            exact known
          · cases parsed
    have isKeyword := eq_keyword known
    have parts := harmless.twoOperands mType two (by rw [typed.firstWord_eq, isKeyword])
    rw [typed.leading_eq] at parts
    rw [typed.parse_eq known] at parsed
    split at parsed
    · cases parsed
      rw [operands_ne_none_iff, typed.payload_operands two isKeyword, if_pos parts.1]
      exact parts.2
    · cases parsed

end Typed

/-- A line brings no process down exactly when it is harmless. -/
theorem not_brought_down_iff {line : Text} (typed : line.length ≤ 252) {buffer : Text}
    (array : buffer.length ≤ maxMsgSize) :
    NotBroughtDown (getline buffer line) ↔ Harmless (cString line) (behindLine buffer line) := by
  have short : (getline buffer line).length ≤ maxMsgSize := by
    rw [length_getline]
    simp only [maxMsgSize] at array ⊢
    omega
  rw [← cString_getline buffer line]
  constructor
  · intro notBroughtDown
    have solid := exists_solid_of_strtok notBroughtDown.firstWord
    rw [cString_getline] at solid
    rcases exists_typed buffer solid with ⟨before, word, rest, parts⟩
    exact parts.harmless short notBroughtDown
  · intro harmless
    have solid := harmless.notBlank
    rw [cString_getline] at solid
    rcases exists_typed buffer solid with ⟨before, word, rest, parts⟩
    exact parts.notBroughtDown harmless

/-- An array that has not been written to. -/
def clearedArray : Text := List.replicate maxMsgSize nul

theorem not_brought_down_iff_add :
    NotBroughtDown (getline clearedArray ['A', 'D', 'D', ' ', '1', ' ', '2', '\n']) ↔
      Harmless ['A', 'D', 'D', ' ', '1', ' ', '2', '\n']
        (behindLine clearedArray ['A', 'D', 'D', ' ', '1', ' ', '2', '\n']) :=
  not_brought_down_iff (by decide) (le_of_eq List.length_replicate)

/-- A blank line, a bare keyword and a missing operand. -/
theorem brought_down :
    ¬ NotBroughtDown (getline clearedArray ['\n']) ∧
      ¬ NotBroughtDown (getline clearedArray ['M', 'I', 'R', 'R', 'O', 'R', '\n']) ∧
        ¬ NotBroughtDown (getline clearedArray ['A', 'D', 'D', ' ', '1', '\n']) := by
  refine ⟨?_, ?_, ?_⟩
  · intro survives
    exact survives.firstWord (by decide)
  · intro survives
    exact survives.lastIndex ['M', 'I', 'R', 'R', 'O', 'R'] [] .mirror (by decide) (by decide)
      (by decide)
  · intro survives
    exact survives.operands .add ['1'] (by rfl) rfl (by decide) (by decide)

end OsExercises.MessageServer
