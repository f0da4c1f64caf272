import Mathlib.Logic.Function.Basic

/-! # Computed transition systems

Interleaved programs are modelled as systems whose nondeterminism sits entirely
in the action: an action is disabled in a state, or leads to exactly one next
state. Runs are then lists of actions that can be evaluated. -/

namespace OsExercises

structure TransitionSystem (State : Type u) (Action : Type v) where
  initial : State
  next : State → Action → Option State

namespace TransitionSystem

variable {State : Type u} {Action : Type v}

/-- The states of all runs whose every step satisfies `allowed`, a condition on
the action and on the state it is taken from. -/
inductive ReachableUnder (system : TransitionSystem State Action)
    (allowed : State → Action → Prop) : State → Prop
  | initial : ReachableUnder system allowed system.initial
  | step {current following : State} {action : Action} :
      ReachableUnder system allowed current → allowed current action →
      system.next current action = some following →
      ReachableUnder system allowed following

/-- The states of all runs. -/
def Reachable (system : TransitionSystem State Action) : State → Prop :=
  system.ReachableUnder fun _ _ => True

def Enabled (system : TransitionSystem State Action) (state : State)
    (action : Action) : Prop :=
  (system.next state action).isSome

instance (system : TransitionSystem State Action) (state : State)
    (action : Action) : Decidable (system.Enabled state action) :=
  inferInstanceAs (Decidable ((system.next state action).isSome = true))

section Reachability

variable {system : TransitionSystem State Action}
variable {allowed : State → Action → Prop}

/-- What holds initially and survives every allowed step holds in every state
reached. -/
theorem ReachableUnder.invariant (Holds : State → Prop)
    (initially : Holds system.initial)
    (preserved : ∀ current action following, Holds current →
      allowed current action → system.next current action = some following →
      Holds following)
    {state : State} (reachable : system.ReachableUnder allowed state) :
    Holds state := by
  induction reachable with
  | initial => exact initially
  | step _ permitted taken induction =>
      exact preserved _ _ _ induction permitted taken

theorem ReachableUnder.mono {weaker : State → Action → Prop}
    (implied : ∀ state action, allowed state action → weaker state action)
    {state : State} (reachable : system.ReachableUnder allowed state) :
    system.ReachableUnder weaker state := by
  induction reachable with
  | initial => exact .initial
  | step _ permitted taken induction =>
      exact .step induction (implied _ _ permitted) taken

theorem ReachableUnder.reachable {state : State}
    (reachable : system.ReachableUnder allowed state) :
    system.Reachable state :=
  reachable.mono fun _ _ _ => trivial

/-- An invariant of the restricted runs may use one already known of all runs. -/
theorem ReachableUnder.invariant_of (Holds : State → Prop)
    {Known : State → Prop} (known : ∀ state, system.Reachable state → Known state)
    (initially : Holds system.initial)
    (preserved : ∀ current action following, Known current → Holds current →
      allowed current action → system.next current action = some following →
      Holds following)
    {state : State} (reachable : system.ReachableUnder allowed state) :
    Holds state := by
  induction reachable with
  | initial => exact initially
  | step earlier permitted taken induction =>
      exact preserved _ _ _ (known _ earlier.reachable) induction permitted taken

end Reachability

/-! ## Evaluated runs -/

/-- Take the actions one after the other; `none` when one of them is disabled. -/
def run (system : TransitionSystem State Action) :
    State → List Action → Option State
  | state, [] => some state
  | state, action :: actions =>
      (system.next state action).bind fun following => system.run following actions

theorem run_single {system : TransitionSystem State Action} {state following : State}
    {action : Action} (taken : system.next state action = some following) :
    system.run state [action] = some following := by
  simp [run, taken]

theorem run_append {system : TransitionSystem State Action} (state : State)
    (first second : List Action) :
    system.run state (first ++ second) =
      (system.run state first).bind fun middle => system.run middle second := by
  induction first generalizing state with
  | nil => rfl
  | cons action actions induction =>
      simp only [List.cons_append, run, Option.bind_assoc]
      congr 1
      funext following
      exact induction following

/-- Some run leads from the one state to the other. -/
def Leads (system : TransitionSystem State Action) (state final : State) : Prop :=
  ∃ actions, system.run state actions = some final

theorem Leads.refl (system : TransitionSystem State Action) (state : State) :
    system.Leads state state :=
  ⟨[], rfl⟩

theorem Leads.trans {system : TransitionSystem State Action} {first second third : State}
    (earlier : system.Leads first second) (later : system.Leads second third) :
    system.Leads first third := by
  rcases earlier with ⟨start, evaluated⟩
  rcases later with ⟨rest, continued⟩
  exact ⟨start ++ rest, by rw [run_append, evaluated, Option.bind_some, continued]⟩

theorem Leads.step {system : TransitionSystem State Action} {state following final : State}
    {action : Action} (taken : system.next state action = some following)
    (later : system.Leads following final) : system.Leads state final :=
  .trans ⟨[action], run_single taken⟩ later

/-- Where there is never a choice, all runs that go on to the end lead to one state. -/
theorem Leads.unique [Subsingleton Action] {system : TransitionSystem State Action}
    {state first second : State} (toFirst : system.Leads state first)
    (toSecond : system.Leads state second) (firstEnds : ∀ action, system.next first action = none)
    (secondEnds : ∀ action, system.next second action = none) : first = second := by
  rcases toFirst with ⟨actions, evaluated⟩
  rcases toSecond with ⟨others, othersEvaluated⟩
  induction actions generalizing state others with
  | nil =>
      cases evaluated
      cases others with
      | nil => exact Option.some.inj othersEvaluated
      | cons action others =>
          rw [run, firstEnds] at othersEvaluated
          cases othersEvaluated
  | cons action actions induction =>
      rcases Option.bind_eq_some_iff.mp evaluated with ⟨following, taken, rest⟩
      cases others with
      | nil =>
          cases othersEvaluated
          rw [secondEnds] at taken
          cases taken
      | cons other others =>
          rw [Subsingleton.elim other action, run, taken, Option.bind_some] at othersEvaluated
          exact induction rest others othersEvaluated

/-- Every action of the run satisfies `allowed` where it is taken. -/
def AllowedAlong (system : TransitionSystem State Action)
    (allowed : State → Action → Prop) : State → List Action → Prop
  | _, [] => True
  | state, action :: actions =>
      allowed state action ∧
        ∀ following, system.next state action = some following →
          system.AllowedAlong allowed following actions

/-- Whether a run is allowed can be evaluated with the run. -/
def decideAllowedAlong (system : TransitionSystem State Action)
    (allowed : State → Action → Prop) [∀ state action, Decidable (allowed state action)] :
    ∀ state actions, Decidable (system.AllowedAlong allowed state actions)
  | _, [] => isTrue trivial
  | state, action :: actions =>
      have : Decidable (∀ following, system.next state action = some following →
          system.AllowedAlong allowed following actions) :=
        match taken : system.next state action with
        | none => isTrue fun _ impossible => by cases impossible
        | some following =>
            @decidable_of_iff _ (system.AllowedAlong allowed following actions)
              ⟨fun along _ same => Option.some.inj same ▸ along, fun along => along _ rfl⟩
              (system.decideAllowedAlong allowed following actions)
      inferInstanceAs (Decidable (_ ∧ _))

instance (system : TransitionSystem State Action) (allowed : State → Action → Prop)
    [∀ state action, Decidable (allowed state action)] (state : State)
    (actions : List Action) : Decidable (system.AllowedAlong allowed state actions) :=
  system.decideAllowedAlong allowed state actions

theorem ReachableUnder.run {system : TransitionSystem State Action}
    {allowed : State → Action → Prop} {current final : State}
    {actions : List Action}
    (reachable : system.ReachableUnder allowed current)
    (permitted : system.AllowedAlong allowed current actions)
    (evaluated : system.run current actions = some final) :
    system.ReachableUnder allowed final := by
  induction actions generalizing current with
  | nil =>
      cases evaluated
      exact reachable
  | cons action actions induction =>
      rcases Option.bind_eq_some_iff.mp evaluated with
        ⟨following, taken, rest⟩
      exact induction (.step reachable permitted.1 taken)
        (permitted.2 following taken) rest

theorem allowedAlong_true (system : TransitionSystem State Action)
    (state : State) (actions : List Action) :
    system.AllowedAlong (fun _ _ => True) state actions := by
  induction actions generalizing state with
  | nil => trivial
  | cons action actions induction =>
      exact ⟨trivial, fun following _ => induction following⟩

theorem Leads.reachable {system : TransitionSystem State Action} {state final : State}
    (leads : system.Leads state final) (reachable : system.Reachable state) :
    system.Reachable final := by
  rcases leads with ⟨actions, evaluated⟩
  exact ReachableUnder.run reachable (system.allowedAlong_true state actions) evaluated

/-- The state after a run from the initial state. -/
def after (system : TransitionSystem State Action) (actions : List Action)
    (enabled : (system.run system.initial actions).isSome) : State :=
  (system.run system.initial actions).get enabled

theorem run_after (system : TransitionSystem State Action) (actions : List Action)
    (enabled : (system.run system.initial actions).isSome) :
    system.run system.initial actions = some (system.after actions enabled) :=
  (Option.some_get enabled).symm

theorem after_reachableUnder (system : TransitionSystem State Action)
    {allowed : State → Action → Prop} (actions : List Action)
    (enabled : (system.run system.initial actions).isSome)
    (permitted : system.AllowedAlong allowed system.initial actions) :
    system.ReachableUnder allowed (system.after actions enabled) :=
  ReachableUnder.run .initial permitted (Option.some_get enabled).symm

theorem after_reachable (system : TransitionSystem State Action)
    (actions : List Action)
    (enabled : (system.run system.initial actions).isSome) :
    system.Reachable (system.after actions enabled) :=
  system.after_reachableUnder actions enabled (system.allowedAlong_true _ actions)

/-! ## Reports -/

section Reports

variable {Event : Type w}

/-- The system beside the list of what its steps have reported. -/
def reporting (system : TransitionSystem State Action) (report : State → Action → List Event) :
    TransitionSystem (State × List Event) Action where
  initial := (system.initial, [])
  next current action :=
    (system.next current.1 action).map fun following =>
      (following, current.2 ++ report current.1 action)

variable {system : TransitionSystem State Action} {report : State → Action → List Event}
variable {allowed : State → Action → Prop}

theorem reporting_next_eq_some {current following : State × List Event} {action : Action} :
    (system.reporting report).next current action = some following ↔
      system.next current.1 action = some following.1 ∧
        following.2 = current.2 ++ report current.1 action := by
  simp only [reporting, Option.map_eq_some_iff]
  constructor
  · intro taken
    rcases taken with ⟨next, taken, rfl⟩
    exact ⟨taken, rfl⟩
  · intro taken
    exact ⟨following.1, taken.1, Prod.ext rfl taken.2.symm⟩

/-- The reports do not change what the system does. -/
theorem ReachableUnder.of_reporting {current : State × List Event}
    (reachable : (system.reporting report).ReachableUnder
      (fun current action => allowed current.1 action) current) :
    system.ReachableUnder allowed current.1 := by
  induction reachable with
  | initial => exact .initial
  | step _ permitted taken induction =>
      exact .step induction permitted (reporting_next_eq_some.mp taken).1

theorem ReachableUnder.reported {state : State} (reachable : system.ReachableUnder allowed state) :
    ∃ events, (system.reporting report).ReachableUnder
      (fun current action => allowed current.1 action) (state, events) := by
  induction reachable with
  | initial => exact ⟨[], .initial⟩
  | step _ permitted taken induction =>
      rcases induction with ⟨events, earlier⟩
      exact ⟨_, .step earlier permitted (reporting_next_eq_some.mpr ⟨taken, rfl⟩)⟩

/-- What holds initially of a state and no reports, and survives every allowed step with
what it reports, holds of every state reached and the reports on the way. -/
theorem ReachableUnder.report_invariant (Holds : State → List Event → Prop)
    {Known : State → Prop} (known : ∀ state, system.Reachable state → Known state)
    (initially : Holds system.initial [])
    (preserved : ∀ current events action following, Known current → Holds current events →
      allowed current action → system.next current action = some following →
      Holds following (events ++ report current action))
    {current : State × List Event}
    (reachable : (system.reporting report).ReachableUnder
      (fun current action => allowed current.1 action) current) :
    Holds current.1 current.2 := by
  induction reachable with
  | initial => exact initially
  | step earlier permitted taken induction =>
      rcases reporting_next_eq_some.mp taken with ⟨stepped, extended⟩
      rw [extended]
      exact preserved _ _ _ _ (known _ earlier.of_reporting.reachable) induction permitted stepped

end Reports

/-! ## Forward simulation -/

/-- `related` links each concrete state to abstract ones so that the abstract
system can answer every allowed concrete step with a run of its own. -/
structure Simulates {Abstract : Type u'} {AbstractAction : Type v'}
    (concrete : TransitionSystem State Action)
    (allowed : State → Action → Prop)
    (abstract : TransitionSystem Abstract AbstractAction)
    (related : State → Abstract → Prop) : Prop where
  initially : related concrete.initial abstract.initial
  answered : ∀ current action following matching,
    concrete.ReachableUnder allowed current → abstract.Reachable matching →
    related current matching → allowed current action →
    concrete.next current action = some following →
    ∃ answer final, abstract.run matching answer = some final ∧
      related following final

theorem Simulates.abstraction {Abstract : Type u'} {AbstractAction : Type v'}
    {concrete : TransitionSystem State Action}
    {allowed : State → Action → Prop}
    {abstract : TransitionSystem Abstract AbstractAction}
    {related : State → Abstract → Prop}
    (simulates : concrete.Simulates allowed abstract related)
    {state : State} (reachable : concrete.ReachableUnder allowed state) :
    ∃ matching, abstract.Reachable matching ∧ related state matching := by
  induction reachable with
  | initial => exact ⟨_, .initial, simulates.initially⟩
  | step earlier permitted taken induction =>
      rcases induction with ⟨matching, matchingReachable, matchingRelated⟩
      rcases simulates.answered _ _ _ _ earlier matchingReachable
        matchingRelated permitted taken with ⟨answer, final, evaluated, finalRelated⟩
      exact ⟨final, ReachableUnder.run matchingReachable
        (abstract.allowedAlong_true _ _) evaluated, finalRelated⟩

end TransitionSystem

end OsExercises
