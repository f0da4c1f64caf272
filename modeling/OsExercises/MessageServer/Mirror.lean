import OsExercises.MessageServer.Requests

/-! # MIRROR in the message buffer

Both servers turn the string in `recMsg.msg` around in place. The indices of an exchange
are computed from `strlen` of the buffer, also between the two writes. -/

namespace OsExercises.MessageServer

open OsExercises

/-- `recMsg.msg[i] = character` -/
def put (msg : Text) (i : Nat) (character : Char) : Option Text :=
  if i < msg.length then some (msg.set i character) else none

/-- One iteration of the loop. -/
def exchangeEnds (msg : Text) (j : Nat) : Option Text := do
  let tmp ← msg[j]?
  let other ← msg[strlen msg - j - 1]?
  let msg ← put msg j other
  put msg (strlen msg - j - 1) tmp

/-- The loop `for (; j < strlen(recMsg.msg) / 2; j++)`; `fuel` bounds its rounds. -/
def mirrorFrom : Nat → Text → Nat → Option Text
  | 0, _, _ => none
  | fuel + 1, msg, j =>
      if j < strlen msg / 2 then
        (exchangeEnds msg j).bind fun msg => mirrorFrom fuel msg (j + 1)
      else some msg

/-- The loop of MIRROR; a buffer has `maxMsgSize` bytes. -/
def mirrorMsg (msg : Text) : Option Text :=
  mirrorFrom maxMsgSize msg 0

/-! ## The string and the bytes behind it -/

section Buffer

variable {string behind : Text} {j : Nat}

theorem strlen_append_nul (noNul : nul ∉ string) (behind : Text) :
    strlen (string ++ nul :: behind) = string.length := by
  rw [strlen, cString_append_nul noNul]

theorem put_append {i : Nat} (inside : i < string.length) (character : Char) :
    put (string ++ nul :: behind) i character =
      some (string.set i character ++ nul :: behind) := by
  have within : i < (string ++ nul :: behind).length := by
    rw [List.length_append]
    omega
  rw [put, if_pos within, List.set_append_left _ _ inside]

theorem nul_not_mem_set {i : Nat} {character : Char} (noNul : nul ∉ string)
    (other : character ≠ nul) : nul ∉ string.set i character := by
  intro member
  rcases List.mem_or_eq_of_mem_set member with old | new
  · exact noNul old
  · exact other new.symm

theorem getD_ne_nul {i : Nat} (noNul : nul ∉ string) (inside : i < string.length) :
    string.getD i nul ≠ nul := by
  rw [List.getD_eq_getElem?_getD, List.getElem?_eq_getElem inside, Option.getD_some]
  intro same
  exact noNul (same ▸ List.getElem_mem inside)

/-- An exchange stays inside the string, whose length is the same between the two writes. -/
theorem exchangeEnds_append (noNul : nul ∉ string) (before : j < string.length / 2) :
    exchangeEnds (string ++ nul :: behind) j = some (swapEnds string j ++ nul :: behind) ∧
      nul ∉ swapEnds string j := by
  have first : j < string.length := by omega
  have last : string.length - j - 1 < string.length := by omega
  have length := strlen_append_nul noNul behind
  have tmpFound : (string ++ nul :: behind)[j]? = some (string.getD j nul) := by
    rw [List.getElem?_append_left first, List.getD_eq_getElem?_getD,
      List.getElem?_eq_getElem first, Option.getD_some]
  have otherFound : (string ++ nul :: behind)[string.length - j - 1]? =
      some (string.getD (string.length - j - 1) nul) := by
    rw [List.getElem?_append_left last, List.getD_eq_getElem?_getD,
      List.getElem?_eq_getElem last, Option.getD_some]
  have tmpSolid := getD_ne_nul noNul first
  have otherSolid := getD_ne_nul noNul last
  have between := @nul_not_mem_set string j _ noNul otherSolid
  have lengthBetween := strlen_append_nul between behind
  rw [List.length_set] at lengthBetween
  have lastBetween : string.length - j - 1 <
      (string.set j (string.getD (string.length - j - 1) nul)).length := by
    rw [List.length_set]
    exact last
  constructor
  · unfold exchangeEnds
    rw [length]
    simp only [tmpFound, otherFound, put_append first, lengthBetween, put_append lastBetween,
      Option.bind_eq_bind, Option.bind_some]
    rw [swapEnds, List.length_set]
  · rw [swapEnds]
    exact nul_not_mem_set between tmpSolid

/-- The loop does to the string what `mirror` does, and nothing to the bytes behind it. -/
theorem mirrorFrom_append {fuel : Nat} (noNul : nul ∉ string)
    (enough : string.length / 2 - j < fuel) :
    mirrorFrom fuel (string ++ nul :: behind) j =
      some ((List.range' j (string.length / 2 - j)).foldl swapEnds string ++ nul :: behind) := by
  induction fuel generalizing string j with
  | zero => cases enough
  | succ fuel induction =>
      rw [mirrorFrom, strlen_append_nul noNul]
      split
      · next before =>
          rcases @exchangeEnds_append string behind j noNul before with ⟨exchanged, solid⟩
          have rounds : string.length / 2 - j = string.length / 2 - (j + 1) + 1 := by omega
          have fewer : (swapEnds string j).length / 2 - (j + 1) < fuel := by
            rw [length_swapEnds]
            omega
          have rest := induction solid fewer
          rw [length_swapEnds] at rest
          rw [exchanged, Option.bind_some, rest, rounds, List.range'_succ, List.foldl_cons]
      · next finished =>
          have none : string.length / 2 - j = 0 := by omega
          rw [none, List.range'_zero, List.foldl_nil]

/-- In the buffer is the answer that the server has for the string. -/
theorem mirrorMsg_append (noNul : nul ∉ string) (fits : string.length < maxMsgSize) :
    mirrorMsg (string ++ nul :: behind) = some (mirror string ++ nul :: behind) := by
  have enough : string.length / 2 - 0 < maxMsgSize := by omega
  rw [mirrorMsg, mirrorFrom_append noNul enough, Nat.sub_zero, ← List.range_eq_range', ← mirror]

end Buffer

/-- MIRROR turns the string in the buffer around and leaves the bytes behind it, and a second
MIRROR turns it back. -/
theorem mirrorMsg_reverse {msg : Text} (size : msg.length = maxMsgSize)
    (terminated : nul ∈ msg) :
    ∃ mirrored, mirrorMsg msg = some mirrored ∧ cString mirrored = (cString msg).reverse ∧
      strlen mirrored = strlen msg ∧ mirrored.length = msg.length ∧
      mirrored.drop (strlen msg) = msg.drop (strlen msg) ∧ mirrorMsg mirrored = some msg := by
  have parts := cString_append_behind terminated
  have noNul := nul_not_mem_cString msg
  have noNulReversed : nul ∉ (cString msg).reverse := by
    rw [List.mem_reverse]
    exact noNul
  have fits : (cString msg).length < maxMsgSize := by
    have lengths := congrArg List.length parts
    rw [List.length_append, List.length_cons] at lengths
    omega
  have fitsReversed : (cString msg).reverse.length < maxMsgSize := by
    rw [List.length_reverse]
    exact fits
  have there := @mirrorMsg_append _ (msg.drop (strlen msg + 1)) noNul fits
  have back := @mirrorMsg_append _ (msg.drop (strlen msg + 1)) noNulReversed fitsReversed
  rw [mirror_eq_reverse, List.reverse_reverse, ← parts] at back
  rw [mirror_eq_reverse, ← parts] at there
  have string := cString_append_nul noNulReversed (msg.drop (strlen msg + 1))
  refine ⟨_, there, string, ?_, ?_, ?_, back⟩
  · rw [strlen, string, List.length_reverse]
    rfl
  · have lengths := congrArg List.length parts
    rw [List.length_append] at lengths ⊢
    rw [List.length_reverse, lengths]
  · have front : strlen msg = (cString msg).reverse.length := List.length_reverse.symm
    have behind : msg.drop (strlen msg) = nul :: msg.drop (strlen msg + 1) :=
      calc msg.drop (strlen msg)
        _ = (cString msg ++ nul :: msg.drop (strlen msg + 1)).drop (strlen msg) :=
            congrArg (List.drop (strlen msg)) parts
        _ = nul :: msg.drop (strlen msg + 1) := List.drop_left
    rw [behind, front, List.drop_left]

/-- A string of three characters, with old bytes behind its NUL. -/
theorem mirrorMsg_reverse_three :
    ∃ mirrored, mirrorMsg (['a', 'b', 'c', nul] ++ List.replicate 252 'x') = some mirrored ∧
      cString mirrored = ['c', 'b', 'a'] ∧ mirrored.drop 3 = nul :: List.replicate 252 'x' ∧
      mirrorMsg mirrored = some (['a', 'b', 'c', nul] ++ List.replicate 252 'x') := by
  have size : (['a', 'b', 'c', nul] ++ List.replicate 252 'x').length = maxMsgSize := by
    rw [List.length_append, List.length_replicate]
    rfl
  have terminated : nul ∈ ['a', 'b', 'c', nul] ++ List.replicate 252 'x' :=
    List.mem_append_left _ (by decide)
  rcases mirrorMsg_reverse size terminated with ⟨mirrored, there, string, _, _, behind, back⟩
  exact ⟨mirrored, there, string, behind, back⟩

end OsExercises.MessageServer
