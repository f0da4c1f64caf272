import OsExercises.WorkRequests.Steps

/-! # Requests and permissions

Every request is in one place: pending, in `catchUSR1`, or counted. SIGUSR2 is sent once
for a counted request, and a child that goes past its `pause()` has had it. -/

namespace OsExercises.WorkRequests

open OsExercises

variable {N : Nat} {K : Int} {state following : State N}

/-! ## Where the requests are -/

/-- Whether `catchUSR1` has taken the request of the child and not counted it yet. -/
def HandlerPc.uncountedOf (self : Fin N) : HandlerPc N → Nat
  | .record cpid | .count cpid => if cpid = self then 1 else 0
  | _ => 0

/-- Whether the request of the child was sent and is still to be counted. -/
def Parent.awaiting (parent : Parent N) (self : Fin N) : Nat :=
  (if parent.usr1.sender = some self then 1 else 0) +
    (parent.handlers.pcOf .usr1).elim 0 (HandlerPc.uncountedOf self)

/-- The children that SIGUSR2 has been sent to, by the next statement of `catchUSR1`. -/
def released (K : Int) (k : Nat) (requesters : List (Fin N)) :
    Option (HandlerPc N) → List (Fin N)
  | some (.test _) => if k ≤ K then [] else requesters.dropLast
  | some (.allow _) => requesters.dropLast
  | some (.allowBulk l) => requesters.take l
  | _ => if k < K then [] else requesters

def Parent.released (K : Int) (parent : Parent N) : List (Fin N) :=
  WorkRequests.released K parent.k parent.requesters (parent.handlers.pcOf .usr1)

theorem released_sublist (K : Int) (k : Nat) (requesters : List (Fin N))
    (pc : Option (HandlerPc N)) : (released K k requesters pc).Sublist requesters := by
  unfold released
  split
  · split
    · exact List.nil_sublist _
    · exact List.dropLast_sublist _
  · exact List.dropLast_sublist _
  · exact List.take_sublist _ _
  · split
    · exact List.nil_sublist _
    · exact List.Sublist.refl _

/-- What `catchUSR1` relies on at its next statement. -/
def Prepared (K : Int) (parent : Parent N) : Option (HandlerPc N) → Prop
  | some (.count cpid) => parent.k < K → parent.childBuf parent.k = some cpid
  | some (.test cpid) => parent.requesters = parent.requesters.dropLast ++ [cpid]
  | some (.allow cpid) => parent.requesters = parent.requesters.dropLast ++ [cpid] ∧ K < parent.k
  | some (.allowBulk l) => parent.k = K ∧ l ≤ parent.k
  | _ => True

/-- The children that `catchUSR1` has counted. -/
structure Ordered (K : Int) (parent : Parent N) : Prop where
  counted : parent.k = parent.requesters.length
  filled : ∀ l, l < parent.k → l < K → parent.childBuf l = parent.requesters[l]?
  prepared : Prepared K parent (parent.handlers.pcOf .usr1)

/-- The loop over `childBuf` reads entries that requests have filled. -/
theorem Ordered.bulk_filled {parent : Parent N} (ordered : Ordered K parent) {l : Nat}
    (pc : parent.handlers.pcOf .usr1 = some (.allowBulk l)) (more : l < parent.k) :
    ∃ cpid, parent.childBuf l = some cpid := by
  have prepared := ordered.prepared
  rw [pc] at prepared
  have within : l < parent.requesters.length := ordered.counted ▸ more
  have filled := ordered.filled l more (prepared.1 ▸ Int.ofNat_lt.mpr more)
  exact ⟨parent.requesters[l], filled.trans (List.getElem?_eq_getElem within)⟩

/-- The child has gone on after `pause()`. -/
def ChildPc.PastPause : ChildPc → Prop
  | .waitExit | .exit | .zombie | .reaped => True
  | _ => False

structure Served (K : Int) (parent : Parent N) (cpid : Fin N) (child : Child) : Prop where
  accounted : parent.requesters.count cpid + parent.awaiting cpid = child.pc.requests
  permitted : child.permitted = (parent.released K).count cpid
  delivered : child.usr2.instances + child.delivered = child.permitted
  kept : child.usr2.merged = 0
  resumed : child.pc.PastPause → 0 < child.delivered

structure Permissions (K : Int) (state : State N) : Prop where
  ordered : Ordered K state.parent
  served : ∀ self, Served K state.parent self (state.child self)

/-- What the parent knows of the requests stays as it is. -/
structure Parent.Keeps (parent following : Parent N) : Prop where
  usr1 : following.usr1 = parent.usr1
  k : following.k = parent.k
  childBuf : following.childBuf = parent.childBuf
  requesters : following.requesters = parent.requesters

theorem ChildPc.requests_le (pc : ChildPc) : pc.requests ≤ 1 := by
  cases pc <;> decide

namespace Served

variable {parent : Parent N} {self : Fin N} {child : Child}

/-- Nobody is permitted that has not made a request. -/
theorem permitted_le (served : Served K parent self child) :
    child.permitted ≤ child.pc.requests := by
  have sublist : (parent.released K).Sublist parent.requesters := released_sublist ..
  calc child.permitted
      _ = (parent.released K).count self := served.permitted
      _ ≤ parent.requesters.count self := sublist.count_le self
      _ ≤ child.pc.requests := by
        have accounted := served.accounted
        omega

/-- SIGUSR2 does not find a child in a `sem_wait` of its own program. -/
theorem uninterrupted (served : Served K parent self child)
    (sent : child.usr2.sender = some ())
    (waits : child.pc = .waitRequest ∨ child.pc = .waitExit) : False := by
  have permitted := served.permitted_le
  have delivered := served.delivered
  rw [StandardSignal.instances_eq_one sent] at delivered
  rcases waits with pc | pc
  · rw [pc] at permitted
    simp only [ChildPc.requests] at permitted
    omega
  · have resumed := served.resumed (by rw [pc]; trivial)
    rw [pc] at permitted
    simp only [ChildPc.requests] at permitted
    omega

end Served

namespace Permissions

theorem initial : Permissions K (initial N) where
  ordered :=
    { counted := rfl
      filled := fun l below _ => absurd below (Nat.not_lt_zero l)
      prepared := trivial }
  served cpid :=
    { accounted := rfl
      permitted := by
        have sublist := released_sublist K 0 ([] : List (Fin N)) none
        have nobody : released K 0 ([] : List (Fin N)) none = [] := List.sublist_nil.mp sublist
        simp [WorkRequests.initial, Parent.released, nobody]
      delivered := rfl
      kept := rfl
      resumed := fun past => past.elim }

/-! ## Steps of a child -/

/-- A child moves, and the others keep their place in the parent's accounts. -/
theorem moveChild (self : Fin N) {flag : Nat} {parent : Parent N} {child : Child}
    (ordered : Ordered K parent) (served : Served K parent self child)
    (others : ∀ other, other ≠ self → Served K parent other (state.child other)) :
    Permissions K (((state.setFlag flag).setParent parent).setChild self child) where
  ordered := ordered
  served := (Function.forall_update_iff state.child (Served K parent)).mpr ⟨served, others⟩

theorem childStep {self : Fin N} (permissions : Permissions K state)
    (unsent : (state.child self).pc = .sendRequest → state.parent.usr1.sender = none)
    (step : ChildStep state self following) : Permissions K following := by
  have served := permissions.served self
  have accounted := served.accounted
  cases step with
  | waitRequest _ pc =>
      refine moveChild self permissions.ordered ?_ fun other _ => permissions.served other
      exact
        { served with
          accounted := by simpa [pc, ChildPc.requests] using accounted
          resumed := fun past => past.elim }
  | sendRequest _ pc =>
      have nothing := unsent pc
      rw [StandardSignal.post_eq nothing]
      have before : state.parent.awaiting self =
          (state.parent.handlers.pcOf .usr1).elim 0 (HandlerPc.uncountedOf self) := by
        simp [Parent.awaiting, nothing]
      refine moveChild self { permissions.ordered with } ?_ ?_
      · exact
          { served with
            accounted := by
              rw [pc, before] at accounted
              simp only [Parent.awaiting, if_true, ChildPc.requests] at accounted ⊢
              omega
            resumed := fun past => past.elim }
      · intro other different
        have elsewhere := permissions.served other
        exact
          { elsewhere with
            accounted := by
              simpa [Parent.awaiting, nothing, different.symm] using elsewhere.accounted }
  | pause _ pc =>
      refine moveChild self permissions.ordered ?_ fun other _ => permissions.served other
      exact
        { served with
          accounted := by simpa [pc, ChildPc.requests] using accounted
          resumed := fun past => past.elim }
  | waitExit _ pc =>
      refine moveChild self permissions.ordered ?_ fun other _ => permissions.served other
      exact
        { served with
          accounted := by simpa [pc, ChildPc.requests] using accounted
          resumed := fun _ => served.resumed (by rw [pc]; trivial) }
  | exit _ pc =>
      rw [pc] at accounted
      refine moveChild self { permissions.ordered with } ?_
        fun other _ => { permissions.served other with }
      exact
        { served with
          accounted := accounted
          resumed := fun _ => served.resumed (by rw [pc]; trivial) }

theorem answerStep {self : Fin N} (permissions : Permissions K state)
    (step : AnswerStep state self following) : Permissions K following := by
  have served := permissions.served self
  cases step with
  | wait | post | leave =>
      refine moveChild self permissions.ordered ?_ fun other _ => permissions.served other
      exact { served with }
  | queue =>
      refine moveChild self { permissions.ordered with } { served with } ?_
      exact fun other _ => { permissions.served other with }

theorem interruptChild {self : Fin N} (permissions : Permissions K state)
    (interruption : ChildInterruption state self following) : Permissions K following := by
  cases interruption with
  | resumes sent idle =>
      have served := permissions.served self
      have accounted := served.accounted
      have delivered := served.delivered
      rw [StandardSignal.instances_eq_one sent] at delivered
      refine moveChild self permissions.ordered ?_ fun other _ => permissions.served other
      exact
        { served with
          accounted := by
            rw [accounted]
            cases pc : (state.child self).pc <;>
              simp [Child.deliver, ChildPc.resumed, ChildPc.requests]
          delivered := by
            rw [StandardSignal.instances_eq_zero.mpr rfl]
            simp only [Child.deliver]
            omega
          resumed := fun _ => Nat.succ_pos _ }

/-! ## Steps of the parent -/

/-- The parent moves, and no permission is sent. -/
theorem moveParent (permissions : Permissions K state) {flag : Nat} {parent : Parent N}
    (ordered : Ordered K parent)
    (accounted : ∀ cpid, parent.requesters.count cpid + parent.awaiting cpid =
      state.parent.requesters.count cpid + state.parent.awaiting cpid)
    (released : parent.released K = state.parent.released K) :
    Permissions K ((state.setFlag flag).setParent parent) where
  ordered := ordered
  served := by
    intro cpid
    have served := permissions.served cpid
    exact
      { served with
        accounted := (accounted cpid).trans served.accounted
        permitted := by
          rw [State.setParent_parent, released]
          exact served.permitted }

/-- The parent moves, and sends a permission to a child that has had none. -/
theorem permit (permissions : Permissions K state) {parent : Parent N} {cpid : Fin N}
    (ordered : Ordered K parent)
    (accounted : ∀ other, parent.requesters.count other + parent.awaiting other =
      state.parent.requesters.count other + state.parent.awaiting other)
    (released : parent.released K = state.parent.released K ++ [cpid]) :
    Permissions K ((state.setParent parent).killChild cpid) := by
  have moved (other : Fin N) :
      parent.requesters.count other + parent.awaiting other = (state.child other).pc.requests :=
    (accounted other).trans (permissions.served other).accounted
  have served := permissions.served cpid
  have fresh : (state.child cpid).permitted = 0 := by
    have sublist : (parent.released K).Sublist parent.requesters := released_sublist ..
    have counts := sublist.count_le cpid
    rw [released, List.count_append, List.count_singleton_self, ← served.permitted] at counts
    have moved := moved cpid
    have once := (state.child cpid).pc.requests_le
    omega
  have delivered := served.delivered
  have nothing : (state.child cpid).usr2.sender = none := by
    apply StandardSignal.instances_eq_zero.mp
    omega
  refine moveChild cpid ordered ?_ ?_
  · exact
      { served with
        accounted := moved cpid
        permitted := by
          rw [released, List.count_append, List.count_singleton_self, ← served.permitted]
          rfl
        delivered := by
          rw [State.setParent_child, StandardSignal.post_eq nothing,
            StandardSignal.instances_eq_one rfl]
          simp only
          omega
        kept := by
          rw [State.setParent_child, StandardSignal.post_eq nothing]
          exact served.kept }
  · intro other different
    have elsewhere := permissions.served other
    exact
      { elsewhere with
        accounted := moved other
        permitted := by
          have unnamed : [cpid].count other = 0 := by simp [different.symm]
          rw [released, List.count_append, unnamed]
          exact elsewhere.permitted }

/-- Another handler moves, or `catchUSR1` goes on to a statement with the same accounts. -/
theorem moveHandlers (permissions : Permissions K state) {flag : Nat} {parent : Parent N}
    {pc next : Option (HandlerPc N)} (keeps : state.parent.Keeps parent)
    (before : state.parent.handlers.pcOf .usr1 = pc) (after : parent.handlers.pcOf .usr1 = next)
    (prepared : Prepared K state.parent pc → Prepared K state.parent next)
    (uncounted : ∀ cpid, next.elim 0 (HandlerPc.uncountedOf cpid) =
      pc.elim 0 (HandlerPc.uncountedOf cpid))
    (released : Prepared K state.parent pc →
      released K state.parent.k state.parent.requesters next =
        released K state.parent.k state.parent.requesters pc) :
    Permissions K ((state.setFlag flag).setParent parent) := by
  rcases keeps with ⟨usr1, k, childBuf, requesters⟩
  rcases permissions.ordered with ⟨counted, filled, known⟩
  rw [before] at known
  refine permissions.moveParent ⟨?_, ?_, ?_⟩ ?_ ?_
  · rw [k, requesters]
    exact counted
  · rw [k, childBuf, requesters]
    exact filled
  · rw [after]
    have prepared := prepared known
    unfold Prepared at prepared ⊢
    rw [k, childBuf, requesters]
    exact prepared
  · intro cpid
    rw [Parent.awaiting, Parent.awaiting, before, after, usr1, requesters, uncounted cpid]
  · rw [Parent.released, Parent.released, before, after, k, requesters]
    exact released known

/-- A step that leaves `catchUSR1` where it is. -/
theorem moveElsewhere (permissions : Permissions K state) {flag : Nat} {parent : Parent N}
    (keeps : state.parent.Keeps parent)
    (same : parent.handlers.pcOf .usr1 = state.parent.handlers.pcOf .usr1) :
    Permissions K ((state.setFlag flag).setParent parent) :=
  permissions.moveHandlers keeps rfl same id (fun _ => rfl) fun _ => rfl

/-- The next statement of `catchUSR1` after a step of it. -/
theorem pcOf_usr1_move {parent : Parent N} {pc : HandlerPc N} (next : HandlerPc N)
    (running : parent.handlers.running = some (.usr1, pc)) :
    (parent.move next).handlers.pcOf .usr1 = some next := by
  rw [Parent.move_handlers, HandlerStack.pcOf_move running, if_pos rfl]

theorem requestStep (permissions : Permissions K state) (step : RequestStep K state following) :
    Permissions K following := by
  have ordered := permissions.ordered
  have prepared := ordered.prepared
  cases step with
  | @record cpid childBuf running recorded kept =>
      have here := HandlerStack.pcOf_running running
      have there := pcOf_usr1_move (.count cpid) running
      rw [here] at prepared
      refine permissions.moveParent
        { counted := ordered.counted
          filled := ?_
          prepared := ?_ } ?_ ?_
      · intro l below early
        exact (kept l (Nat.ne_of_lt below)).trans (ordered.filled l below early)
      · exact there ▸ recorded
      · intro other
        rw [Parent.awaiting, Parent.awaiting, here, there]
        rfl
      · rw [Parent.released, Parent.released, here, there]
        rfl
  | @count cpid running =>
      have here := HandlerStack.pcOf_running running
      have there := pcOf_usr1_move (.test cpid) running
      rw [here] at prepared
      refine permissions.moveParent
        { counted := ?_
          filled := ?_
          prepared := ?_ } ?_ ?_
      · rw [List.length_append, ← ordered.counted]
        rfl
      · intro l below early
        rcases Nat.lt_succ_iff_lt_or_eq.mp below with earlier | same
        · rw [List.getElem?_append_left (ordered.counted ▸ earlier)]
          exact ordered.filled l earlier early
        · subst same
          rw [ordered.counted, List.getElem?_concat_length, ← ordered.counted]
          exact prepared early
      · rw [there]
        simp [Prepared]
      · intro other
        rw [Parent.awaiting, Parent.awaiting, here, there]
        simp only [Parent.move_usr1, HandlerPc.uncountedOf, List.count_append,
          List.count_singleton, beq_iff_eq, Option.elim]
        omega
      · rw [Parent.released, Parent.released, here, there]
        simp only [WorkRequests.released, List.dropLast_concat, Int.natCast_add, Int.natCast_one,
          Int.add_one_le_iff]
  | @late cpid running above =>
      refine permissions.moveHandlers ⟨rfl, rfl, rfl, rfl⟩ (HandlerStack.pcOf_running running)
        (pcOf_usr1_move (.allow cpid) running) ?_ (fun _ => rfl) ?_
      · exact fun last => ⟨last, above⟩
      · intro _
        exact (if_neg (not_le.mpr above)).symm
  | last running reached =>
      refine permissions.moveHandlers ⟨rfl, rfl, rfl, rfl⟩ (HandlerStack.pcOf_running running)
        (pcOf_usr1_move (.allowBulk 0) running) ?_ (fun _ => rfl) ?_
      · exact fun _ => ⟨reached, Nat.zero_le _⟩
      · intro _
        exact (if_pos reached.le).symm
  | early running below =>
      refine permissions.moveHandlers ⟨rfl, rfl, rfl, rfl⟩ (HandlerStack.pcOf_running running)
        (pcOf_usr1_move .post running) (fun _ => trivial) (fun _ => rfl) ?_
      intro _
      exact (if_pos below).trans (if_pos below.le).symm
  | @allow cpid running =>
      have here := HandlerStack.pcOf_running running
      have there := pcOf_usr1_move .post running
      rw [here] at prepared
      rcases prepared with ⟨last, above⟩
      refine permissions.permit
        { counted := ordered.counted
          filled := ordered.filled
          prepared := ?_ } ?_ ?_
      · rw [there]
        trivial
      · intro other
        rw [Parent.awaiting, Parent.awaiting, here, there]
        rfl
      · rw [Parent.released, Parent.released, here, there]
        exact (if_neg (not_lt.mpr above.le)).trans last
  | @allowBulk l cpid running more entry =>
      have here := HandlerStack.pcOf_running running
      have there := pcOf_usr1_move (.allowBulk (l + 1)) running
      rw [here] at prepared
      rcases prepared with ⟨reached, _⟩
      have named := ordered.filled l more (by omega)
      rw [entry] at named
      refine permissions.permit
        { counted := ordered.counted
          filled := ordered.filled
          prepared := ?_ } ?_ ?_
      · rw [there]
        exact ⟨reached, more⟩
      · intro other
        rw [Parent.awaiting, Parent.awaiting, here, there]
        rfl
      · rw [Parent.released, Parent.released, here, there]
        simp only [WorkRequests.released, Parent.move_requesters]
        rw [List.take_add_one, ← named]
        rfl
  | bulkDone running all =>
      refine permissions.moveHandlers ⟨rfl, rfl, rfl, rfl⟩ (HandlerStack.pcOf_running running)
        (pcOf_usr1_move .post running) (fun _ => trivial) (fun _ => rfl) ?_
      intro prepared
      have counted := ordered.counted
      have whole : state.parent.requesters.take _ = state.parent.requesters :=
        List.take_of_length_le (counted.symm.trans_le all)
      exact (if_neg (not_lt.mpr prepared.1.ge)).trans whole.symm
  | post running =>
      exact permissions.moveHandlers ⟨rfl, rfl, rfl, rfl⟩ (HandlerStack.pcOf_running running)
        (pcOf_usr1_move .done running) (fun _ => trivial) (fun _ => rfl) fun _ => rfl
  | leave running =>
      exact permissions.moveHandlers ⟨rfl, rfl, rfl, rfl⟩ (HandlerStack.pcOf_running running)
        (HandlerStack.pcOf_leave running) (fun _ => trivial) (fun _ => rfl) fun _ => rfl

theorem workStep (permissions : Permissions K state) (step : WorkStep state following) :
    Permissions K following := by
  cases step with
  | main => exact permissions.moveElsewhere ⟨rfl, rfl, rfl, rfl⟩ rfl
  | countWork running =>
      exact permissions.moveElsewhere ⟨rfl, rfl, rfl, rfl⟩ (HandlerStack.pcOf_move running _)
  | leave running =>
      exact permissions.moveElsewhere ⟨rfl, rfl, rfl, rfl⟩ (HandlerStack.pcOf_leave running)

theorem reapStep (permissions : Permissions K state) (step : ReapStep state following) :
    Permissions K following := by
  cases step with
  | @reap cpid running zombie =>
      have moved : Permissions K (state.setParent (state.parent.move .post)) :=
        permissions.moveElsewhere ⟨rfl, rfl, rfl, rfl⟩ (HandlerStack.pcOf_move running _)
      have served := moved.served cpid
      refine moveChild cpid moved.ordered ?_ fun other _ => moved.served other
      exact
        { served with
          accounted := by simpa [zombie, ChildPc.requests] using served.accounted
          resumed := fun _ => served.resumed (by simp [zombie, ChildPc.PastPause]) }
  | fail running | post running =>
      exact permissions.moveElsewhere ⟨rfl, rfl, rfl, rfl⟩ (HandlerStack.pcOf_move running _)
  | leave running =>
      exact permissions.moveElsewhere ⟨rfl, rfl, rfl, rfl⟩ (HandlerStack.pcOf_leave running)

theorem interruptParent (permissions : Permissions K state)
    (interruption : ParentInterruption state following) : Permissions K following := by
  have ordered := permissions.ordered
  cases interruption with
  | @request _ _ cpid unblocked sent entered =>
      have there := entered .usr1
      rw [if_pos rfl] at there
      refine permissions.moveParent
        { counted := ordered.counted
          filled := ordered.filled
          prepared := ?_ } ?_ ?_
      · rw [there]
        trivial
      · intro other
        rw [Parent.awaiting, Parent.awaiting, unblocked, there, sent]
        simp [HandlerPc.uncountedOf]
      · rw [Parent.released, Parent.released, unblocked, there]
        rfl
  | work entered => exact permissions.moveElsewhere ⟨rfl, rfl, rfl, rfl⟩ (entered .usr1)
  | exited _ _ entered => exact permissions.moveElsewhere ⟨rfl, rfl, rfl, rfl⟩ (entered .usr1)

end Permissions

end OsExercises.WorkRequests
