import OsExercises.WorkRequests.Token

/-! # Releases

The first K - 1 requests are only recorded, the K-th releases all of them, and each
later one is released by itself. This holds for every order of the requests, and every
order occurs. -/

namespace OsExercises.WorkRequests

open OsExercises

variable {N : Nat} {K : Int} {state following : State N}

/-! ## In every run -/

/-- What the parent has done, in terms of the requests that it has counted. -/
structure Releases (K : Int) (state : State N) : Prop where
  distinct : state.parent.requesters.Nodup
  counted : state.parent.k = state.parent.requesters.length
  /-- Between two requests: nobody below the threshold, every requester once from it on. -/
  permitted : state.parent.handlers.pcOf .usr1 = none → ∀ cpid,
    (state.child cpid).permitted =
      if K ≤ state.parent.k ∧ cpid ∈ state.parent.requesters then 1 else 0
  /-- `childBuf[k] = cpid` stays within `childBuf`. -/
  stores : ∀ cpid, state.parent.handlers.pcOf .usr1 = some (.record cpid) →
    state.parent.k < K → state.parent.k < N
  /-- `childBuf[l]` does too, and reads an entry that was stored. -/
  loads : ∀ l, state.parent.handlers.pcOf .usr1 = some (.allowBulk l) → l < state.parent.k →
    l < N ∧ ∃ cpid, state.parent.childBuf l = some cpid

theorem Permissions.distinct (permissions : Permissions K state) :
    state.parent.requesters.Nodup := by
  rw [List.nodup_iff_count_le_one]
  intro cpid
  have accounted := (permissions.served cpid).accounted
  have once := (state.child cpid).pc.requests_le
  omega

/-- Between two requests. -/
theorem Permissions.permitted_eq (permissions : Permissions K state)
    (idle : state.parent.handlers.pcOf .usr1 = none) (cpid : Fin N) :
    (state.child cpid).permitted =
      if K ≤ state.parent.k ∧ cpid ∈ state.parent.requesters then 1 else 0 := by
  have permitted := (permissions.served cpid).permitted
  simp only [Parent.released, idle, released] at permitted
  rw [permitted]
  by_cases reached : K ≤ state.parent.k
  · rw [if_neg (not_lt.mpr reached)]
    by_cases requested : cpid ∈ state.parent.requesters
    · rw [if_pos ⟨reached, requested⟩]
      exact List.count_eq_one_of_mem permissions.distinct requested
    · rw [if_neg fun both => requested both.2]
      exact List.count_eq_zero_of_not_mem requested
  · rw [if_pos (not_le.mp reached), if_neg fun both => reached both.1]
    rfl

theorem releases (atMost : K ≤ N) (reachable : (system N K).Reachable state) :
    Releases K state := by
  have permissions := (orderly reachable).2
  have ordered := permissions.ordered
  exact
    { distinct := permissions.distinct
      counted := ordered.counted
      permitted := permissions.permitted_eq
      stores := by
        intro cpid _ below
        omega
      loads := by
        intro l pc more
        have prepared := ordered.prepared
        rw [pc] at prepared
        have reached : (state.parent.k : Int) = K := prepared.1
        exact ⟨by omega, ordered.bulk_filled pc more⟩ }

/-! ## Every order -/

/-- The parent is in no handler, and the children in `rest` have not begun. -/
structure Ready (state : State N) (rest : List (Fin N)) : Prop where
  flag : state.flag = 1
  frames : state.parent.handlers.frames = []
  nothing : state.parent.usr1.sender = none
  waiting : ∀ cpid ∈ rest, (state.child cpid).pc = .waitRequest ∧
    (state.child cpid).handler = none

/-- `catchUSR1` is at `pc`, and has interrupted no other handler. -/
structure Handling (state : State N) (pc : HandlerPc N) (requesters rest : List (Fin N)) :
    Prop where
  flag : state.flag + pc.holds = 1
  frames : state.parent.handlers.frames = [(.usr1, pc)]
  nothing : state.parent.usr1.sender = none
  known : state.parent.requesters = requesters
  waiting : ∀ cpid ∈ rest, (state.child cpid).pc = .waitRequest ∧
    (state.child cpid).handler = none

/-- The run goes on until `catchUSR1` has returned. -/
def Completes (K : Int) (state : State N) (requesters rest : List (Fin N)) : Prop :=
  ∃ following, (system N K).Leads state following ∧ Ready following rest ∧
    following.parent.requesters = requesters

theorem Completes.step {action : Action N} {requesters rest : List (Fin N)}
    (taken : (system N K).next state action = some following)
    (completes : Completes K following requesters rest) : Completes K state requesters rest := by
  rcases completes with ⟨final, leads, ready⟩
  exact ⟨final, .step taken leads, ready⟩

namespace Handling

variable {pc : HandlerPc N} {requesters rest : List (Fin N)}

theorem running (handling : Handling state pc requesters rest) :
    state.parent.handlers.running = some (.usr1, pc) := by
  rw [HandlerStack.running, handling.frames]
  rfl

/-- The next step of the parent is the statement of `catchUSR1`. -/
theorem next_eq (handling : Handling state pc requesters rest) :
    (system N K).next state (.parent none) = catchUSR1 K state pc := by
  change parentStep K state none = _
  rw [parentStep, handling.running]

theorem move (handling : Handling state pc requesters rest) {flag : Nat} (parent : Parent N)
    (next : HandlerPc N) (holds : flag + next.holds = 1)
    (handlers : parent.handlers = state.parent.handlers.move next)
    (usr1 : parent.usr1 = state.parent.usr1) :
    Handling ((state.setFlag flag).setParent parent) next parent.requesters rest where
  flag := holds
  frames := by
    rw [State.setParent_parent, handlers]
    simp [HandlerStack.move, handling.frames]
  nothing := by
    rw [State.setParent_parent, usr1]
    exact handling.nothing
  known := rfl
  waiting := handling.waiting

/-- Only the place in the handler changes. -/
theorem goTo (handling : Handling state pc requesters rest) {flag : Nat} (next : HandlerPc N)
    (holds : flag + next.holds = 1) :
    Handling ((state.setFlag flag).setParent (state.parent.move next)) next requesters rest :=
  handling.known ▸ handling.move (state.parent.move next) next holds rfl rfl

/-- SIGUSR2 changes nothing about the children that have not begun. -/
theorem kill (handling : Handling state pc requesters rest) (cpid : Fin N) :
    Handling (state.killChild cpid) pc requesters rest :=
  { handling with
    waiting := by
      intro other member
      have waits := handling.waiting other member
      by_cases same : other = cpid
      · subst same
        simpa [State.killChild] using waits
      · simpa [State.killChild, same] using waits }

theorem completes_done (handling : Handling state .done requesters rest) :
    Completes K state requesters rest := by
  have left : (system N K).next state (.parent none) =
      some (state.setParent
        { state.parent with handlers := state.parent.handlers.leave }) := handling.next_eq
  refine .step left ⟨_, .refl _ _, ?_, handling.known⟩
  exact
    { flag := handling.flag
      frames := by simp [HandlerStack.leave, handling.frames]
      nothing := handling.nothing
      waiting := handling.waiting }

theorem completes_post (handling : Handling state .post requesters rest) :
    Completes K state requesters rest := by
  have posted : (system N K).next state (.parent none) =
      some ((state.setFlag (state.flag + 1)).setParent (state.parent.move .done)) :=
    handling.next_eq
  have moved := handling.goTo .done handling.flag
  exact .step posted moved.completes_done

theorem completes_allow {cpid : Fin N} (handling : Handling state (.allow cpid) requesters rest) :
    Completes K state requesters rest := by
  have allowed : (system N K).next state (.parent none) =
      some ((state.setParent (state.parent.move .post)).killChild cpid) := handling.next_eq
  have moved := (handling.goTo .post handling.flag).kill cpid
  exact .step allowed moved.completes_post

/-- The loop over `childBuf`, with `remaining` children to go. -/
theorem completes_allowBulk {l : Nat} (remaining : Nat)
    (handling : Handling state (.allowBulk l) requesters rest)
    (reachable : (system N K).Reachable state) (left : state.parent.k = l + remaining) :
    Completes K state requesters rest := by
  induction remaining generalizing state l with
  | zero =>
      have all : ¬ l < state.parent.k := by omega
      have ended : (system N K).next state (.parent none) =
          some (state.setParent (state.parent.move .post)) := by
        rw [handling.next_eq]
        simp only [catchUSR1, if_neg all]
      have moved := handling.goTo .post handling.flag
      exact .step ended moved.completes_post
  | succ remaining induction =>
      have more : l < state.parent.k := by omega
      rcases (orderly reachable).2.ordered.bulk_filled
        (HandlerStack.pcOf_running handling.running) more with ⟨cpid, entry⟩
      have allowed : (system N K).next state (.parent none) =
          some ((state.setParent (state.parent.move (.allowBulk (l + 1)))).killChild cpid) := by
        rw [handling.next_eq]
        simp only [catchUSR1, if_pos more, entry, Option.map_some]
      have moved := (handling.goTo (.allowBulk (l + 1)) handling.flag).kill cpid
      refine .step allowed (induction moved (.step reachable trivial allowed) ?_)
      change state.parent.k = l + 1 + remaining
      omega

theorem completes_test {cpid : Fin N} (handling : Handling state (.test cpid) requesters rest)
    (reachable : (system N K).Reachable state) : Completes K state requesters rest := by
  by_cases above : state.parent.k > K
  · have late : (system N K).next state (.parent none) =
        some (state.setParent (state.parent.move (.allow cpid))) := by
      rw [handling.next_eq]
      simp only [catchUSR1, if_pos above]
    have moved := handling.goTo (.allow cpid) handling.flag
    exact .step late moved.completes_allow
  · by_cases reached : state.parent.k = K
    · have last : (system N K).next state (.parent none) =
          some (state.setParent (state.parent.move (.allowBulk 0))) := by
        rw [handling.next_eq]
        simp only [catchUSR1, if_neg above, if_pos reached]
      have moved := handling.goTo (.allowBulk 0) handling.flag
      refine .step last (completes_allowBulk state.parent.k moved
        (.step reachable trivial last) ?_)
      exact (Nat.zero_add _).symm
    · have early : (system N K).next state (.parent none) =
          some (state.setParent (state.parent.move .post)) := by
        rw [handling.next_eq]
        simp only [catchUSR1, if_neg above, if_neg reached]
      have moved := handling.goTo .post handling.flag
      exact .step early moved.completes_post

theorem completes_count {cpid : Fin N} (handling : Handling state (.count cpid) requesters rest)
    (reachable : (system N K).Reachable state) :
    Completes K state (requesters ++ [cpid]) rest := by
  have counted : (system N K).next state (.parent none) =
      some (state.setParent
        { state.parent.move (.test cpid) with
          k := state.parent.k + 1, requesters := state.parent.requesters ++ [cpid] }) :=
    handling.next_eq
  have moved := handling.move
    { state.parent.move (.test cpid) with
      k := state.parent.k + 1, requesters := state.parent.requesters ++ [cpid] }
    (.test cpid) handling.flag rfl rfl
  rw [handling.known] at moved counted
  exact .step counted (moved.completes_test (.step reachable trivial counted))

/-- From its first statement `catchUSR1` goes on to count the request and to return. -/
theorem completes_record {cpid : Fin N} (handling : Handling state (.record cpid) requesters rest)
    (reachable : (system N K).Reachable state) :
    Completes K state (requesters ++ [cpid]) rest := by
  have recorded : ∃ childBuf, (system N K).next state (.parent none) =
      some (state.setParent { state.parent.move (.count cpid) with childBuf := childBuf }) :=
    ⟨_, handling.next_eq⟩
  rcases recorded with ⟨childBuf, recorded⟩
  have moved := handling.move { state.parent.move (.count cpid) with childBuf := childBuf }
    (.count cpid) handling.flag rfl rfl
  have counting : Handling
      (state.setParent { state.parent.move (.count cpid) with childBuf := childBuf })
      (.count cpid) requesters rest :=
    { moved with known := handling.known }
  exact .step recorded (counting.completes_count (.step reachable trivial recorded))

end Handling

/-- SIGUSR1 interrupts the parent, which is in no handler. -/
theorem completes_pending {cpid : Fin N} {rest : List (Fin N)}
    (reachable : (system N K).Reachable state) (flag : state.flag = 0)
    (frames : state.parent.handlers.frames = [])
    (pending : state.parent.usr1.sender = some cpid)
    (waiting : ∀ other ∈ rest, (state.child other).pc = .waitRequest ∧
      (state.child other).handler = none) :
    Completes K state (state.parent.requesters ++ [cpid]) rest := by
  have unblocked : ¬ state.parent.handlers.Blocks .usr1 := by
    simp [HandlerStack.Blocks, frames]
  have entered : (system N K).next state (.interruptParent .usr1) =
      some (state.setParent
        { state.parent with
          pc := state.parent.pc.resumed
          handlers := state.parent.handlers.enter .usr1 (.record cpid) unblocked
          usr1 := state.parent.usr1.take }) := by
    simp [system, interruptParent, unblocked, Parent.take, pending]
  refine .step entered (Handling.completes_record ?_ (.step reachable trivial entered))
  exact
    { flag := by simp [flag, HandlerPc.holds]
      frames := by simp [HandlerStack.enter, frames]
      nothing := rfl
      known := rfl
      waiting := waiting }

/-- A child that has not begun takes the unit of `flag`, requests work, and the parent
handles the request. -/
theorem Ready.request {cpid : Fin N} {rest : List (Fin N)} (ready : Ready state (cpid :: rest))
    (fresh : cpid ∉ rest) (reachable : (system N K).Reachable state) :
    Completes K state (state.parent.requesters ++ [cpid]) rest := by
  rcases ready.waiting cpid List.mem_cons_self with ⟨begins, idle⟩
  have waited : (system N K).next state (.child cpid 0) =
      some ((state.setFlag 0).setChild cpid { state.child cpid with pc := .sendRequest }) := by
    simp [system, childStep, childMain, idle, begins, ready.flag, semWait]
  have sent : (system N K).next
      ((state.setFlag 0).setChild cpid { state.child cpid with pc := .sendRequest })
        (.child cpid 0) =
      some (((state.setFlag 0).setParent
        { state.parent with usr1 := state.parent.usr1.post cpid }).setChild cpid
          { state.child cpid with pc := .pause }) := by
    simp [system, childStep, childMain, idle, State.setChild, State.setParent]
  refine .step waited (.step sent (completes_pending ?_ rfl ready.frames ?_ ?_))
  · exact .step (.step reachable trivial waited) trivial sent
  · exact congrArg StandardSignal.sender (StandardSignal.post_eq ready.nothing)
  · intro other member
    have different : other ≠ cpid := by
      intro same
      exact fresh (same ▸ member)
    simp only [State.setChild_child, State.setParent_child, State.setFlag_child,
      Function.update_of_ne different]
    exact ready.waiting other (List.mem_cons_of_mem cpid member)

/-- The children request work in the given order, one after the other. -/
theorem completes_order (reachable : (system N K).Reachable state) (order : List (Fin N))
    (distinct : order.Nodup) (ready : Ready state order) :
    ∃ final, (system N K).Leads state final ∧
      final.parent.requesters = state.parent.requesters ++ order ∧
      final.parent.handlers.pcOf .usr1 = none := by
  induction order generalizing state with
  | nil =>
      refine ⟨state, .refl _ _, (List.append_nil _).symm, ?_⟩
      rw [HandlerStack.pcOf, ready.frames]
      rfl
  | cons cpid rest induction =>
      rcases List.nodup_cons.mp distinct with ⟨fresh, distinct⟩
      rcases ready.request fresh reachable with ⟨middle, leads, readyNext, known⟩
      rcases induction (leads.reachable reachable) distinct readyNext with
        ⟨final, further, requested, idle⟩
      refine ⟨final, leads.trans further, ?_, idle⟩
      rw [requested, known, List.append_assoc]
      rfl

/-- In every run the requesters, from the K-th request on, have each been allowed once, and
before it nobody; and the requests come in any order. -/
theorem releases_in_every_order (N : Nat) (K : Int) (atMost : K ≤ N) :
    (∀ state, (system N K).Reachable state → Releases K state) ∧
      ∀ order : List (Fin N), order.Nodup →
        ∃ state, (system N K).Reachable state ∧ state.parent.requesters = order ∧
          state.parent.handlers.pcOf .usr1 = none := by
  constructor
  · intro state reachable
    exact releases atMost reachable
  · intro order distinct
    have ready : Ready (initial N) order := ⟨rfl, rfl, rfl, fun _ _ => ⟨rfl, rfl⟩⟩
    rcases completes_order (K := K) .initial order distinct ready with
      ⟨state, leads, requested, idle⟩
    exact ⟨state, leads.reachable .initial, requested, idle⟩

/-- Child 1 requests before child 0, and both are allowed at the second request. -/
def bothRequested : State 2 :=
  (system 2 2).after
    ([.child 1 0, .child 1 0, .interruptParent .usr1] ++ List.replicate 5 (.parent none) ++
      [.child 0 0, .child 0 0, .interruptParent .usr1] ++ List.replicate 8 (.parent none)) rfl

theorem releases_in_every_order_two :
    bothRequested.parent.requesters = [1, 0] ∧ (bothRequested.child 0).permitted = 1 ∧
      Releases 2 bothRequested :=
  ⟨by decide, by decide, (releases_in_every_order 2 2 (by decide)).1 bothRequested
    ((system 2 2).after_reachable _ rfl)⟩

end OsExercises.WorkRequests
