import Mathlib.Algebra.Order.Group.Abs
import Mathlib.Tactic.ByContra

/-! # Running minima

A loop over consecutive places that takes a place when its value is below all it has
taken, and below the bound that it has started with. -/

namespace OsExercises

variable {Value : Type u} [LinearOrder Value]

/-- The place taken last among `left` places from `i` on; `pos` if none is taken. -/
def minimumFrom (value : Nat → Value) (candidate : Nat → Bool) :
    (left i pos : Nat) → (bound : Value) → Nat
  | 0, _, pos, _ => pos
  | left + 1, i, pos, bound =>
      if value i < bound ∧ candidate i then minimumFrom value candidate left (i + 1) i (value i)
      else minimumFrom value candidate left (i + 1) pos bound

variable {value : Nat → Value} {candidate : Nat → Bool}

/-- What holds of the first place and of the later ones. -/
theorem forall_places {left i : Nat} {Holds : Nat → Prop} (first : Holds i)
    (later : ∀ j, i + 1 ≤ j → j < i + 1 + left → Holds j) :
    ∀ j, i ≤ j → j < i + (left + 1) → Holds j := by
  intro j after before
  rcases Nat.eq_or_lt_of_le after with rfl | after
  · exact first
  · exact later j after (by omega)

/-- Where no candidate is below the bound, none is taken. -/
theorem minimumFrom_eq {left i pos : Nat} {bound : Value}
    (above : ∀ j, i ≤ j → j < i + left → candidate j → bound ≤ value j) :
    minimumFrom value candidate left i pos bound = pos := by
  induction left generalizing i with
  | zero => rfl
  | succ left induction =>
      have passed : ¬ (value i < bound ∧ candidate i) := by
        intro taken
        exact absurd taken.1 (not_lt.mpr (above i (Nat.le_refl i) (by omega) taken.2))
      rw [minimumFrom, if_neg passed]
      apply induction
      intro j after before
      exact above j (by omega) (by omega)

/-- Where a candidate is below the bound, a least one is taken. -/
theorem minimumFrom_least {left i pos : Nat} {bound : Value}
    (below : ∃ j, i ≤ j ∧ j < i + left ∧ candidate j ∧ value j < bound) :
    i ≤ minimumFrom value candidate left i pos bound ∧
      minimumFrom value candidate left i pos bound < i + left ∧
      candidate (minimumFrom value candidate left i pos bound) ∧
      ∀ j, i ≤ j → j < i + left → candidate j →
        value (minimumFrom value candidate left i pos bound) ≤ value j := by
  induction left generalizing i pos bound with
  | zero =>
      rcases below with ⟨j, after, before, _⟩
      omega
  | succ left induction =>
      rw [minimumFrom]
      split
      · next taken =>
          by_cases later : ∃ j, i + 1 ≤ j ∧ j < i + 1 + left ∧ candidate j ∧ value j < value i
          · rcases @induction (i + 1) i (value i) later with ⟨after, before, chosen, least⟩
            rcases later with ⟨k, afterK, beforeK, candidateK, less⟩
            have first := (least k afterK beforeK candidateK).trans less.le
            exact ⟨by omega, by omega, chosen, forall_places (fun _ => first) least⟩
          · have least : ∀ j, i + 1 ≤ j → j < i + 1 + left → candidate j → value i ≤ value j := by
              intro j after before isCandidate
              by_contra less
              exact later ⟨j, after, before, isCandidate, not_le.mp less⟩
            rw [minimumFrom_eq least]
            exact ⟨Nat.le_refl i, by omega, taken.2, forall_places (fun _ => le_refl _) least⟩
      · next passed =>
          have later : ∃ j, i + 1 ≤ j ∧ j < i + 1 + left ∧ candidate j ∧ value j < bound := by
            rcases below with ⟨j, after, before, isCandidate, less⟩
            have different : j ≠ i := fun same => passed (same ▸ ⟨less, isCandidate⟩)
            exact ⟨j, by omega, by omega, isCandidate, less⟩
          rcases @induction (i + 1) pos bound later with ⟨after, before, chosen, least⟩
          rcases later with ⟨k, afterK, beforeK, candidateK, less⟩
          refine ⟨by omega, by omega, chosen, forall_places ?_ least⟩
          intro isCandidate
          have above : bound ≤ value i := not_lt.mp fun less => passed ⟨less, isCandidate⟩
          exact ((least k afterK beforeK candidateK).trans less.le).trans above

/-! ## Minima of absolute values

The search for the least absolute value can be spoiled: taking a place, it keeps the value
itself for the bound. -/

section Signed

variable {Value : Type u} [AddCommGroup Value] [LinearOrder Value]

/-- The search that keeps the signed value. -/
def signedMinimumFrom (value : Nat → Value) (candidate : Nat → Bool) :
    (left i pos : Nat) → (bound : Value) → Nat
  | 0, _, pos, _ => pos
  | left + 1, i, pos, bound =>
      if |value i| < bound ∧ candidate i then
        signedMinimumFrom value candidate left (i + 1) i (value i)
      else signedMinimumFrom value candidate left (i + 1) pos bound

variable {value : Nat → Value} {candidate : Nat → Bool}

/-- Where no absolute value is below the bound, none is taken. -/
theorem signedMinimumFrom_eq {left i pos : Nat} {bound : Value}
    (above : ∀ j, i ≤ j → j < i + left → candidate j → bound ≤ |value j|) :
    signedMinimumFrom value candidate left i pos bound = pos := by
  induction left generalizing i with
  | zero => rfl
  | succ left induction =>
      have passed : ¬ (|value i| < bound ∧ candidate i) := by
        intro taken
        exact absurd taken.1 (not_lt.mpr (above i (Nat.le_refl i) (by omega) taken.2))
      rw [signedMinimumFrom, if_neg passed]
      apply induction
      intro j after before
      exact above j (by omega) (by omega)

/-- The search from place `i` on for the least absolute value takes place `r`. -/
structure Takes (value : Nat → Value) (candidate : Nat → Bool) (i : Nat) (bound : Value)
    (r : Nat) : Prop where
  after : i ≤ r
  isCandidate : candidate r
  below : |value r| < bound
  first : ∀ k, i ≤ k → k < r → candidate k → |value r| < |value k|

/-- No place that is taken with a negative value is followed by a lower one. -/
def NegativesLast (value : Nat → Value) (candidate : Nat → Bool) (left i : Nat)
    (bound : Value) : Prop :=
  ∀ r, Takes value candidate i bound r → value r < 0 →
    ∀ j, r < j → j < i + left → candidate j → |value r| ≤ |value j|

theorem takes_passed_iff {i r : Nat} {bound : Value}
    (passed : ¬ (|value i| < bound ∧ candidate i)) :
    Takes value candidate i bound r ↔ Takes value candidate (i + 1) bound r := by
  constructor
  · intro takes
    have other : i ≠ r := fun same => passed (same ▸ ⟨takes.below, takes.isCandidate⟩)
    exact
      { after := Nat.lt_of_le_of_ne takes.after other
        isCandidate := takes.isCandidate
        below := takes.below
        first := fun k after before => takes.first k (Nat.le_of_succ_le after) before }
  · intro takes
    refine ⟨Nat.le_of_succ_le takes.after, takes.isCandidate, takes.below, ?_⟩
    intro k after before isCandidate
    rcases Nat.eq_or_lt_of_le after with rfl | later
    · exact takes.below.trans_le (not_lt.mp fun below => passed ⟨below, isCandidate⟩)
    · exact takes.first k later before isCandidate

/-- After a place is taken, the later ones have to be below it. -/
theorem takes_taken_iff {i r : Nat} {bound : Value} (taken : |value i| < bound ∧ candidate i)
    (later : i < r) :
    Takes value candidate i bound r ↔ Takes value candidate (i + 1) |value i| r := by
  constructor
  · intro takes
    exact
      { after := later
        isCandidate := takes.isCandidate
        below := takes.first i (Nat.le_refl i) later taken.2
        first := fun k after before => takes.first k (Nat.le_of_succ_le after) before }
  · intro takes
    refine ⟨later.le, takes.isCandidate, takes.below.trans taken.1, ?_⟩
    intro k after before isCandidate
    rcases Nat.eq_or_lt_of_le after with rfl | behind
    · exact takes.below
    · exact takes.first k behind before isCandidate

variable [IsOrderedAddMonoid Value]

/-- Nothing is below a bound that is not positive. -/
theorem signedMinimumFrom_nonpos {left i pos : Nat} {bound : Value} (nonpos : bound ≤ 0) :
    signedMinimumFrom value candidate left i pos bound = pos :=
  signedMinimumFrom_eq fun _ _ _ _ => nonpos.trans (abs_nonneg _)

/-- Keeping the sign does no harm exactly when no negative value is taken too early. -/
theorem signedMinimumFrom_eq_minimumFrom_iff {left i pos : Nat} {bound : Value} :
    signedMinimumFrom value candidate left i pos bound =
        minimumFrom (fun j => |value j|) candidate left i pos bound ↔
      NegativesLast value candidate left i bound := by
  induction left generalizing i pos bound with
  | zero =>
      refine iff_of_true rfl ?_
      intro r takes _ j later before
      have after := takes.after
      omega
  | succ left induction =>
      have places : i + 1 + left = i + (left + 1) := by omega
      rw [signedMinimumFrom, minimumFrom]
      by_cases taken : |value i| < bound ∧ candidate i
      · rw [if_pos taken, if_pos taken]
        rcases lt_or_ge (value i) 0 with negative | nonneg
        · -- The signed search has come to its end; the other one goes on.
          rw [signedMinimumFrom_nonpos negative.le]
          constructor
          · intro same r takes _ j later before isCandidate
            by_contra lower
            have last := @minimumFrom_least _ _ (fun j => |value j|) candidate left (i + 1) i
              |value i|
            by_cases here : r = i
            · subst here
              have further := (last ⟨j, later, by omega, isCandidate, not_le.mp lower⟩).1
              omega
            · have behind : i < r := by
                have after := takes.after
                omega
              have less := takes.first i (Nat.le_refl i) behind taken.2
              have further := (last ⟨r, behind, by omega, takes.isCandidate, less⟩).1
              omega
          · intro negativesLast
            have takes : Takes value candidate i bound i :=
              ⟨Nat.le_refl i, taken.2, taken.1, fun k after before => by omega⟩
            refine (minimumFrom_eq ?_).symm
            intro j later before
            exact negativesLast i takes negative j later (by omega)
        · -- Both go on from the same bound.
          have same : signedMinimumFrom value candidate left (i + 1) i (value i) =
              signedMinimumFrom value candidate left (i + 1) i |value i| := by
            rw [abs_of_nonneg nonneg]
          rw [same, induction]
          unfold NegativesLast
          rw [places]
          refine forall_congr' fun r => ?_
          rcases Nat.lt_or_ge i r with later | notLater
          · rw [takes_taken_iff taken later]
          · constructor
            · intro _ takes negative
              have here : r = i := Nat.le_antisymm notLater takes.after
              exact absurd (here ▸ negative) (not_lt.mpr nonneg)
            · intro _ takes
              have after := takes.after
              omega
      · rw [if_neg taken, if_neg taken, induction]
        unfold NegativesLast
        rw [places]
        refine forall_congr' fun r => ?_
        rw [takes_passed_iff taken]

end Signed

end OsExercises
