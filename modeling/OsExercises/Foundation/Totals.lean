import Mathlib.Algebra.BigOperators.Group.Finset.Piecewise
import Mathlib.Algebra.Group.Action.Defs
import Mathlib.Algebra.Order.BigOperators.Group.Finset
import Mathlib.Data.Fintype.Basic

/-! # Totals

What finitely many processes hold together, and what a step of one of them does to
that total. -/

namespace OsExercises

variable {Process : Type u} {Local : Type v} [Fintype Process]

def total (amount : Local → Nat) (locals : Process → Local) : Nat :=
  ∑ process, amount (locals process)

variable (amount : Local → Nat) (locals : Process → Local)

theorem le_total (process : Process) : amount (locals process) ≤ total amount locals :=
  Finset.single_le_sum (f := fun process => amount (locals process)) (fun _ _ => Nat.zero_le _)
    (Finset.mem_univ process)

/-- Where every share grows by at most `more`, the total grows by at most as much for each. -/
theorem total_le_add {larger : Local → Nat} {more : Nat}
    (grows : ∀ process, larger (locals process) ≤ amount (locals process) + more) :
    total larger locals ≤ total amount locals + Fintype.card Process * more := by
  refine (Finset.sum_le_sum fun process _ => grows process).trans ?_
  rw [Finset.sum_add_distrib, Finset.sum_const, Finset.card_univ, smul_eq_mul]
  exact Nat.le_refl _

variable [DecidableEq Process]

/-- The total changes by as much as the share of the one process that moves. -/
theorem total_update (self : Process) (local' : Local) :
    total amount (Function.update locals self local') + amount (locals self) =
      total amount locals + amount local' := by
  have split (shares : Process → Local) :
      total amount shares =
        amount (shares self) + ∑ process ∈ Finset.univ.erase self, amount (shares process) :=
    (Finset.add_sum_erase _ _ (Finset.mem_univ self)).symm
  have others :
      ∑ process ∈ Finset.univ.erase self, amount (Function.update locals self local' process) =
        ∑ process ∈ Finset.univ.erase self, amount (locals process) := by
    apply Finset.sum_congr rfl
    intro process member
    rw [Function.update_of_ne (Finset.ne_of_mem_erase member)]
  rw [split, split locals, others, Function.update_self]
  omega

end OsExercises
