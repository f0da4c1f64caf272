import Mathlib.Logic.Function.Basic

/-! # Mutual exclusion

Two ways in which a program keeps a region to itself: a lock that records its
owner, and a binary semaphore that does not. `inside` says which processes are
in the region. One step of a process enters the region, leaves it, or does
neither; both disciplines survive every such step. -/

namespace OsExercises

variable {Process : Type u}

/-! ## Owned locks -/

/-- The lock is held exactly by the process inside the region. -/
def OwnedBy (owner : Option Process) (inside : Process → Prop) : Prop :=
  ∀ process, inside process ↔ owner = some process

/-- What a step of `self` may do to a lock: nothing, take it when it is free and
enter, or leave and free it. -/
def LockMove (self : Process) (owner following : Option Process)
    (was is : Prop) : Prop :=
  (following = owner ∧ (is ↔ was)) ∨
    (owner = none ∧ following = some self ∧ is) ∨
    (was ∧ following = none ∧ ¬ is)

namespace OwnedBy

variable {owner following : Option Process} {inside after : Process → Prop}

theorem unique (owned : OwnedBy owner inside) {left right : Process}
    (leftInside : inside left) (rightInside : inside right) : left = right := by
  have leftOwner := (owned left).mp leftInside
  have rightOwner := (owned right).mp rightInside
  exact Option.some.inj (leftOwner.symm.trans rightOwner)

theorem move (owned : OwnedBy owner inside) (self : Process)
    (others : ∀ process, process ≠ self → (after process ↔ inside process))
    (moved : LockMove self owner following (inside self) (after self)) :
    OwnedBy following after := by
  intro process
  by_cases same : process = self
  · subst same
    rcases moved with ⟨kept, sameRegion⟩ | ⟨_, taken, entered⟩ | ⟨_, freed, left⟩
    · rw [kept, sameRegion, owned process]
    · simp [taken, entered]
    · simp [freed, left]
  · rw [others process same]
    rcases moved with ⟨kept, _⟩ | ⟨free, taken, _⟩ | ⟨wasInside, freed, _⟩
    · rw [kept, owned process]
    · rw [owned process, free, taken]
      simp [Ne.symm same]
    · have notInside : ¬ inside process := fun isInside =>
        same (owned.unique isInside wasInside)
      simp [notInside, freed]

end OwnedBy

/-! ## Binary semaphores -/

/-- Waiting for a semaphore takes one unit, and blocks while there is none. -/
def semWait (value : Nat) : Option Nat :=
  if value = 0 then none else some (value - 1)

theorem semWait_eq_some {value following : Nat} :
    semWait value = some following ↔ value = following + 1 := by
  cases value <;> simp [semWait]

/-- A semaphore of value one or zero whose missing unit is the process inside
the region. -/
structure Excludes (value : Nat) (inside : Process → Prop) : Prop where
  binary : value ≤ 1
  closed : ∀ process, inside process → value = 0
  unique : ∀ left right, inside left → inside right → left = right
  held : value = 0 → ∃ process, inside process

/-- What a step may do to a semaphore: nothing, wait for a unit and enter, or
leave and post a unit. -/
def SemaphoreMove (value following : Nat) (was is : Prop) : Prop :=
  (following = value ∧ (is ↔ was)) ∨
    (value = following + 1 ∧ is) ∨
    (was ∧ following = value + 1 ∧ ¬ is)

namespace Excludes

variable {value following : Nat} {inside after : Process → Prop}

theorem nobody (excludes : Excludes value inside) (open' : value = 1)
    (process : Process) : ¬ inside process := by
  intro isInside
  have closed := excludes.closed process isInside
  omega

private theorem of_only (self : Process) (isInside : after self)
    (only : ∀ process, after process → process = self) : Excludes 0 after where
  binary := Nat.zero_le _
  closed _ _ := rfl
  unique left right leftInside rightInside :=
    (only left leftInside).trans (only right rightInside).symm
  held _ := ⟨self, isInside⟩

/-- A semaphore starts open while nobody is inside. -/
theorem of_nobody (nobody : ∀ process, ¬ after process) :
    Excludes 1 after where
  binary := Nat.le_refl _
  closed process isInside := absurd isInside (nobody process)
  unique left _ isInside := absurd isInside (nobody left)
  held empty := absurd empty (by decide)

theorem move (excludes : Excludes value inside) (self : Process)
    (others : ∀ process, process ≠ self → (after process ↔ inside process))
    (moved : SemaphoreMove value following (inside self) (after self)) :
    Excludes following after := by
  rcases moved with ⟨kept, sameRegion⟩ | ⟨waited, entered⟩ | ⟨wasInside, posted, left⟩
  · have same : after = inside := by
      funext process
      by_cases isSelf : process = self
      · subst isSelf
        exact propext sameRegion
      · exact propext (others process isSelf)
    rw [kept, same]
    exact excludes
  · have binary := excludes.binary
    have taken : following = 0 := by omega
    rw [taken]
    refine of_only self entered fun process isInside => ?_
    by_contra different
    exact excludes.nobody (by omega) process ((others process different).mp isInside)
  · have closed := excludes.closed self wasInside
    rw [posted, closed]
    refine of_nobody fun process isInside => ?_
    by_cases isSelf : process = self
    · exact left (isSelf ▸ isInside)
    · exact isSelf (excludes.unique _ _ ((others process isSelf).mp isInside) wasInside)

end Excludes

/-! ## A lock as a semaphore -/

/-- What a binary semaphore in place of the lock is worth. -/
def lockUnits : Option Process → Nat
  | none => 1
  | some _ => 0

@[simp] theorem lockUnits_none : lockUnits (none : Option Process) = 1 := rfl

@[simp] theorem lockUnits_some (process : Process) : lockUnits (some process) = 0 := rfl

theorem lockUnits_eq_succ {owner : Option Process} {value : Nat} :
    lockUnits owner = value + 1 ↔ owner = none ∧ value = 0 := by
  cases owner <;> simp [eq_comm]

theorem OwnedBy.excludes {owner : Option Process} {inside : Process → Prop}
    (owned : OwnedBy owner inside) : Excludes (lockUnits owner) inside where
  binary := by cases owner <;> simp
  closed process isInside := by simp [(owned process).mp isInside]
  unique _ _ leftInside rightInside := owned.unique leftInside rightInside
  held empty := by
    cases owner with
    | none => cases empty
    | some process => exact ⟨process, (owned process).mpr rfl⟩

end OsExercises
