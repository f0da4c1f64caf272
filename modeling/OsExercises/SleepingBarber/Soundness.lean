import OsExercises.SleepingBarber.Encounter

/-! # The encounters are sound

Every step of the barber shop keeps the dialogue between one client and the
barber, the line in order and the visits counted. -/

namespace OsExercises.SleepingBarber.Encounter

open OsExercises

variable {options : Options} {encounter following : Encounter options}

theorem role_setRole_eq {index other : Fin options.noOfClients} {role : Role} :
    (encounter.setRole index role).role other =
      if other = index then role else encounter.role other := by
  simp [Function.update_apply]

/-! ## The meeting -/

namespace Meeting

/-- While the barber is free, nobody is in the dialogue. -/
theorem of_idle (meeting : encounter.Meeting)
    (idle : ∀ visit turn, encounter.duty ≠ .engaged visit turn) :
    encounter.NobodyEngaged ∧ encounter.recMsgSem = [] ∧ encounter.sendMsgSem = [] ∧
      encounter.log.left = encounter.log.completed := by
  cases meeting with
  | apart _ nobody recEmpty sendEmpty left => exact ⟨nobody, recEmpty, sendEmpty, left⟩
  | together visit turn _ duty => exact absurd duty (idle visit turn)
  | parting visit duty => exact absurd duty (idle visit 3)

/-- A step that keeps the dialogue, and moves a client that is not in it, keeps
the meeting. -/
theorem of_bystander (meeting : encounter.Meeting)
    (index : Fin options.noOfClients)
    (outside : ∀ turn, encounter.role index ≠ .engaged turn)
    (stays : ∀ turn, following.role index ≠ .engaged turn)
    (others : ∀ other, other ≠ index → following.role other = encounter.role other)
    (visits : ∀ other, other ≠ index → following.visit other = encounter.visit other)
    (duty : following.duty = encounter.duty)
    (recMsgSem : following.recMsgSem = encounter.recMsgSem)
    (sendMsgSem : following.sendMsgSem = encounter.sendMsgSem)
    (left : following.log.left = encounter.log.left)
    (completed : following.log.completed = encounter.log.completed) :
    following.Meeting := by
  have engaged : ∀ other turn,
      following.role other = .engaged turn ↔ encounter.role other = .engaged turn := by
    intro other turn
    by_cases self : other = index
    · subst self
      simp [outside turn, stays turn]
    · rw [others other self]
  cases meeting with
  | apart idle nobody recEmpty sendEmpty same =>
      refine .apart ?_ ?_ ?_ ?_ ?_
      · rwa [duty]
      · exact fun other turn now => nobody other turn ((engaged other turn).mp now)
      · rw [recMsgSem, recEmpty]
      · rw [sendMsgSem, sendEmpty]
      · rw [left, completed, same]
  | together visit turn partner busy role same only turnBound partnerBound dialogue logged =>
      have apart : visit.pid ≠ index := by
        intro same
        subst same
        exact outside partner role
      refine .together visit turn partner ?_ ?_ ?_ ?_ turnBound partnerBound ?_ ?_
      · rw [duty, busy]
      · exact (engaged _ _).mpr role
      · rw [visits _ apart, same]
      · exact fun other turn now => only other turn ((engaged other turn).mp now)
      · rwa [sendMsgSem, recMsgSem]
      · rw [left, completed, logged]
  | parting visit busy nobody recOne sendEmpty logged =>
      refine .parting visit ?_ ?_ ?_ ?_ ?_
      · rw [duty, busy]
      · exact fun other turn now => nobody other turn ((engaged other turn).mp now)
      · rw [recMsgSem, recOne]
      · rw [sendMsgSem, sendEmpty]
      · rw [left, completed, logged]

/-- The client in the dialogue is the barber's. -/
theorem of_engaged (meeting : encounter.Meeting) {index : Fin options.noOfClients}
    {partner : Nat} (role : encounter.role index = .engaged partner) :
    ∃ turn, encounter.duty = .engaged (encounter.visit index) turn ∧
      (∀ other turn, encounter.role other = .engaged turn → other = index) ∧
      turn ≤ 3 ∧ partner ≤ 3 ∧
      Alternates (message (encounter.visit index)) turn partner
        encounter.sendMsgSem encounter.recMsgSem ∧
      encounter.log.left = encounter.log.completed := by
  cases meeting with
  | apart _ nobody => exact absurd role (nobody index partner)
  | together visit turn known duty engaged same only turnBound bound dialogue left =>
      have self : index = visit.pid := only index partner role
      have samePartner : known = partner := by
        rw [self, engaged] at role
        exact Role.engaged.inj role
      subst samePartner
      rw [self, same]
      exact ⟨turn, duty, only, turnBound, bound, dialogue, left⟩
  | parting _ _ nobody => exact absurd role (nobody index partner)

theorem turn_bound (meeting : encounter.Meeting) {visit : Visit options} {turn : Nat}
    (duty : encounter.duty = .engaged visit turn) : turn ≤ 3 := by
  cases meeting with
  | apart idle => exact absurd duty (idle visit turn)
  | together other known _ busy _ _ _ turnBound =>
      obtain ⟨rfl, rfl⟩ := Duty.engaged.inj (busy.symm.trans duty)
      exact turnBound
  | parting other busy =>
      obtain ⟨rfl, rfl⟩ := Duty.engaged.inj (busy.symm.trans duty)
      exact Nat.le_refl 3

/-- The barber takes the unit it waits for. -/
theorem barber_receives (meeting : encounter.Meeting) {visit : Visit options}
    {turn : Nat} {taken : Token options} {rest : List (Token options)}
    (duty : encounter.duty = .engaged visit turn) (odd : turn % 2 = 1)
    (received : encounter.recMsgSem = taken :: rest) : taken = message visit turn := by
  cases meeting with
  | apart idle => exact absurd duty (idle visit turn)
  | together other known partner busy _ _ _ _ _ dialogue =>
      obtain ⟨rfl, rfl⟩ := Duty.engaged.inj (busy.symm.trans duty)
      rw [received] at dialogue
      exact (dialogue.caller_receives odd).1
  | parting other busy _ recOne =>
      obtain ⟨rfl, rfl⟩ := Duty.engaged.inj (busy.symm.trans duty)
      rw [received] at recOne
      exact (List.cons.inj recOne).1

theorem step (meeting : encounter.Meeting) (lined : encounter.Lined)
    (stepped : EncounterStep encounter following) : following.Meeting := by
  cases stepped with
  | join index role =>
      refine meeting.of_bystander index ?_ ?_ ?_ ?_ rfl rfl rfl rfl rfl
      · simp [role]
      · simp [role_setRole_eq]
      · intro other different
        simp [role_setRole_eq, different]
      · exact fun _ _ => rfl
  | count index role =>
      refine meeting.of_bystander index ?_ ?_ ?_ ?_ rfl rfl rfl rfl rfl
      · simp [role]
      · simp [role_setRole_eq]
      · intro other different
        simp [role_setRole_eq, different]
      · intro other different
        simp [Encounter.visit, different]
  | wake index role shaves duty queue =>
      rcases meeting.of_idle (by simp [duty]) with ⟨nobody, recEmpty, sendEmpty, left⟩
      refine .together (encounter.visit index) 0 0 rfl ?_ rfl ?_ (by omega) (by omega) ?_ left
      · simp [role_setRole_eq, Encounter.visit]
      · intro other turn engaged
        by_contra different
        have apart : other ≠ index := different
        simp only [role_setRole_eq, apart, if_false] at engaged
        exact nobody other turn engaged
      · simp only [setRole_sendMsgSem, setRole_recMsgSem, sendEmpty, recEmpty]
        exact .level 0
  | call visit rest duty queue =>
      rcases meeting.of_idle (by simp [duty]) with ⟨nobody, recEmpty, sendEmpty, left⟩
      exact .apart (by simp) nobody recEmpty sendEmpty left
  | invite visit duty =>
      rcases meeting.of_idle (by simp [duty]) with ⟨nobody, recEmpty, sendEmpty, left⟩
      have same : encounter.visit visit.pid = visit :=
        lined.current visit (by simp [Encounter.line, duty, Duty.inHand])
      refine .together visit 1 1 rfl ?_ same ?_ (by omega) (by omega) ?_ left
      · simp [role_setRole_eq]
      · intro other turn engaged
        by_contra different
        simp only [role_setRole_eq, different, if_false] at engaged
        exact nobody other turn engaged
      · simp only [setRole_sendMsgSem, setRole_recMsgSem, sendEmpty, recEmpty]
        exact .level 1
  | barberSends visit turn duty even =>
      cases meeting with
      | apart idle => exact absurd duty (idle visit turn)
      | together other known partner busy role same only turnBound partnerBound dialogue left =>
          obtain ⟨rfl, rfl⟩ := Duty.engaged.inj (busy.symm.trans duty)
          exact .together other (known + 1) partner rfl role same only (by omega) partnerBound
            (dialogue.caller_sends even) left
      | parting other busy =>
          obtain ⟨rfl, rfl⟩ := Duty.engaged.inj (busy.symm.trans duty)
          omega
  | barberStarts visit turn taken rest duty odd notLast received =>
      cases meeting with
      | apart idle => exact absurd duty (idle visit turn)
      | together other known partner busy role same only turnBound partnerBound dialogue left =>
          obtain ⟨rfl, rfl⟩ := Duty.engaged.inj (busy.symm.trans duty)
          rw [received] at dialogue
          exact .together other (known + 1) partner rfl role same only (by omega) partnerBound
            (dialogue.caller_receives odd).2 left
      | parting other busy =>
          obtain ⟨rfl, rfl⟩ := Duty.engaged.inj (busy.symm.trans duty)
          omega
  | barberCompletes visit taken rest duty received =>
      cases meeting with
      | apart idle => exact absurd duty (idle visit 3)
      | together other known partner busy role same only turnBound partnerBound dialogue =>
          obtain ⟨rfl, rfl⟩ := Duty.engaged.inj (busy.symm.trans duty)
          rw [received] at dialogue
          have ahead := dialogue.callee_ahead
          omega
      | parting other busy nobody recOne sendEmpty left =>
          obtain ⟨rfl, -⟩ := Duty.engaged.inj (busy.symm.trans duty)
          have last : rest = [] := by
            rw [received] at recOne
            exact (List.cons.inj recOne).2
          exact .apart (by simp) nobody last sendEmpty left
  | clientTakes index partner taken rest role even received =>
      rcases meeting.of_engaged role with
        ⟨turn, duty, only, turnBound, partnerBound, dialogue, left⟩
      rw [received] at dialogue
      refine .together (encounter.visit index) turn (partner + 1) duty ?_ rfl ?_ turnBound
        (by omega) (dialogue.callee_receives even).2 left
      · simp [role_setRole_eq, Encounter.visit]
      · intro other turn engaged
        by_contra different
        have apart : other ≠ index := different
        simp only [role_setRole_eq, apart, if_false] at engaged
        exact apart (only other turn engaged)
  | clientSends index partner role odd notLast =>
      rcases meeting.of_engaged role with
        ⟨turn, duty, only, turnBound, partnerBound, dialogue, left⟩
      refine .together (encounter.visit index) turn (partner + 1) duty ?_ rfl ?_ turnBound
        (by omega) (dialogue.callee_sends odd) left
      · simp [role_setRole_eq, Encounter.visit]
      · intro other turn engaged
        by_contra different
        have apart : other ≠ index := different
        simp only [role_setRole_eq, apart, if_false] at engaged
        exact apart (only other turn engaged)
  | clientLeaves index role =>
      rcases meeting.of_engaged role with
        ⟨turn, duty, only, turnBound, _, dialogue, left⟩
      have after := dialogue.callee_sends (by omega)
      have last : turn = 3 := by
        have close := after.close
        omega
      subst last
      have parted := after.of_callee_ahead rfl
      refine .parting (encounter.visit index) duty ?_ parted.2 parted.1 ?_
      · intro other turn engaged
        by_cases self : other = index
        · simp [role_setRole_eq, self] at engaged
        · simp only [role_setRole_eq, self, if_false] at engaged
          exact self (only other turn engaged)
      · simp [left]

end Meeting

/-! ## The line -/

namespace Lined

/-- Whoever has a visit in line is queued. -/
theorem queued_of_mem (lined : encounter.Lined) {visit : Visit options}
    (waiting : visit ∈ encounter.line) : encounter.role visit.pid = .queued := by
  rw [lined.queued, lined.current visit waiting]
  exact waiting

/-- A step that moves a client outside the line keeps the line. -/
theorem of_bystander (lined : encounter.Lined) (index : Fin options.noOfClients)
    (outside : encounter.role index ≠ .queued)
    (stays : following.role index ≠ .queued)
    (others : ∀ other, other ≠ index → following.role other = encounter.role other)
    (visits : ∀ other, other ≠ index → following.visit other = encounter.visit other)
    (line : following.line = encounter.line) : following.Lined where
  distinct := by
    rw [line]
    exact lined.distinct
  queued := by
    intro other
    rw [line]
    by_cases self : other = index
    · subst self
      have absent : following.visit other ∉ encounter.line := fun waiting =>
        outside (lined.queued_of_mem waiting)
      simp [stays, absent]
    · rw [others other self, visits other self, lined.queued]
  current := by
    intro visit waiting
    rw [line] at waiting
    have apart : visit.pid ≠ index := by
      intro same
      subst same
      exact outside (lined.queued_of_mem waiting)
    rw [visits _ apart, lined.current visit waiting]

theorem step (lined : encounter.Lined) (stepped : EncounterStep encounter following) :
    following.Lined := by
  cases stepped with
  | join index role =>
      have line : Encounter.line { encounter.setRole index .queued with
          queue := encounter.queue ++ [encounter.visit index]
          log := encounter.log.admitVisit (encounter.visit index) } =
          encounter.line ++ [encounter.visit index] := by
        simp [Encounter.line]
      have absent : ∀ visit ∈ encounter.line, visit.pid ≠ index := by
        intro visit waiting same
        subst same
        simp [lined.queued_of_mem waiting] at role
      constructor
      · rw [line, List.map_append, List.map_singleton]
        refine List.nodup_append.mpr ⟨lined.distinct, by simp, ?_⟩
        intro pid waiting self same
        rcases List.mem_map.mp waiting with ⟨visit, member, rfl⟩
        rw [List.mem_singleton.mp same]
        exact absent visit member
      · intro other
        rw [line]
        change (encounter.setRole index .queued).role other = .queued ↔
          encounter.visit other ∈ encounter.line ++ [encounter.visit index]
        by_cases self : other = index
        · subst self
          simp [role_setRole_eq, Encounter.visit]
        · have different : encounter.visit other ≠ encounter.visit index := fun same =>
            self (congrArg Visit.pid same)
          simpa [role_setRole_eq, self, different] using lined.queued other
      · intro visit waiting
        rw [line, List.mem_append, List.mem_singleton] at waiting
        rcases waiting with earlier | rfl
        · exact lined.current visit earlier
        · rfl
  | wake index role shaves duty queue =>
      refine lined.of_bystander index (by simp [role])
        (by simp [role_setRole_eq]) ?_ (fun _ _ => rfl) ?_
      · intro other different
        simp [role_setRole_eq, different]
      · simp [Encounter.line, duty, Duty.inHand]
  | call visit rest duty queue =>
      have line : Encounter.line { encounter with duty := .holding visit, queue := rest } =
          encounter.line := by
        simp [Encounter.line, duty, queue, Duty.inHand]
      exact ⟨line ▸ lined.distinct, line ▸ lined.queued, line ▸ lined.current⟩
  | invite visit duty =>
      have line : encounter.line = visit :: encounter.queue := by
        simp [Encounter.line, duty, Duty.inHand]
      have distinct := lined.distinct
      rw [line, List.map_cons, List.nodup_cons] at distinct
      constructor
      · simpa [Encounter.line, Duty.inHand] using distinct.2
      · intro other
        change (encounter.setRole visit.pid (.engaged 1)).role other = .queued ↔
          encounter.visit other ∈ encounter.queue
        by_cases self : other = visit.pid
        · have absent : encounter.visit visit.pid ∉ encounter.queue := fun waiting =>
            distinct.1 (List.mem_map.mpr ⟨_, waiting, rfl⟩)
          subst self
          simpa [role_setRole_eq] using absent
        · have different : encounter.visit other ≠ visit := fun same =>
            self (congrArg Visit.pid same)
          have queued := lined.queued other
          rw [line, List.mem_cons] at queued
          simpa [role_setRole_eq, self, different] using queued
      · intro other waiting
        refine lined.current other ?_
        rw [line]
        exact List.mem_cons_of_mem _ (by simpa [Encounter.line, Duty.inHand] using waiting)
  | barberSends visit turn duty =>
      have line : Encounter.line { encounter with
          duty := .engaged visit (turn + 1)
          sendMsgSem := encounter.sendMsgSem ++ [message visit turn] } =
          encounter.line := by
        simp [Encounter.line, duty, Duty.inHand]
      exact ⟨line ▸ lined.distinct, line ▸ lined.queued, line ▸ lined.current⟩
  | barberStarts visit turn taken rest duty =>
      have line : Encounter.line { encounter with
          duty := .engaged visit (turn + 1)
          recMsgSem := rest
          log := (encounter.log.exchange taken (message visit turn)).start visit } =
          encounter.line := by
        simp [Encounter.line, duty, Duty.inHand]
      exact ⟨line ▸ lined.distinct, line ▸ lined.queued, line ▸ lined.current⟩
  | barberCompletes visit taken rest duty =>
      have line : Encounter.line { encounter with
          duty := .free
          recMsgSem := rest
          log := (encounter.log.exchange taken (message visit 3)).complete visit } =
          encounter.line := by
        simp [Encounter.line, duty, Duty.inHand]
      exact ⟨line ▸ lined.distinct, line ▸ lined.queued, line ▸ lined.current⟩
  | clientTakes index turn taken rest role
  | clientSends index turn role
  | clientLeaves index role
  | count index role =>
      refine lined.of_bystander index (by simp [role])
        (by simp [role_setRole_eq]) ?_ ?_ rfl
      · intro other different
        simp [role_setRole_eq, different]
      · intro other different
        simp [Encounter.visit, different]

end Lined

/-! ## The log -/

/-- Shaves start in the order of the admissions. -/
theorem order_step (meeting : encounter.Meeting)
    (order : encounter.log.admitted =
      encounter.log.started ++ (encounter.duty.expected ++ encounter.queue))
    (stepped : EncounterStep encounter following) :
    following.log.admitted =
      following.log.started ++ (following.duty.expected ++ following.queue) := by
  cases stepped with
  | join index role => simp [order]
  | wake index role shaves duty queue => simp [order, duty, queue, Duty.expected]
  | call visit rest duty queue => simp [order, duty, queue, Duty.expected]
  | invite visit duty => simp [order, duty, Duty.expected]
  | barberSends visit turn duty even =>
      have sameSide : turn + 1 ≤ 1 ↔ turn ≤ 1 := by omega
      simp [order, duty, Duty.expected, sameSide]
  | barberStarts visit turn taken rest duty odd notLast received =>
      have bound := meeting.turn_bound duty
      have first : turn = 1 := by omega
      subst first
      simp [order, duty, Duty.expected]
  | barberCompletes visit taken rest duty received => simp [order, duty, Duty.expected]
  | clientTakes | clientSends | clientLeaves | count => simp [order]

/-- Every unit is taken by whom it was meant for. -/
theorem exchanged_step (meeting : encounter.Meeting)
    (exchanged : ∀ exchange ∈ encounter.log.exchanged, exchange.1 = exchange.2)
    (stepped : EncounterStep encounter following) :
    ∀ exchange ∈ following.log.exchanged, exchange.1 = exchange.2 := by
  have added : ∀ taken awaited : Token options, taken = awaited →
      ∀ exchange ∈ encounter.log.exchanged ++ [(taken, awaited)],
        exchange.1 = exchange.2 := by
    intro taken awaited same exchange member
    rcases List.mem_append.mp member with earlier | last
    · exact exchanged exchange earlier
    · rw [List.mem_singleton.mp last]
      exact same
  cases stepped with
  | barberStarts visit turn taken rest duty odd notLast received =>
      exact added _ _ (meeting.barber_receives duty odd received)
  | barberCompletes visit taken rest duty received =>
      exact added _ _ (meeting.barber_receives duty (by omega) received)
  | clientTakes index turn taken rest role even received =>
      rcases meeting.of_engaged role with ⟨_, _, _, _, _, dialogue, _⟩
      rw [received] at dialogue
      exact added _ _ (dialogue.callee_receives even).1
  | join | wake | call | invite | barberSends | clientSends | clientLeaves | count =>
      exact exchanged

/-- A client's visits and the shaves it has left make up its shaves. -/
theorem counted_step (lined : encounter.Lined)
    (shavesLeft : ∀ index, encounter.role index ≠ .free → 0 < encounter.noOfShaves index)
    (counted : ∀ index, encounter.visits index + encounter.noOfShaves index =
      options.noOfShaves index + if encounter.role index = .free then 0 else 1)
    (stepped : EncounterStep encounter following) (index : Fin options.noOfClients) :
    following.visits index + following.noOfShaves index =
      options.noOfShaves index + if following.role index = .free then 0 else 1 := by
  have before := counted index
  have remaining := shavesLeft index
  unfold Encounter.visits at before ⊢
  cases stepped with
  | join mover role | wake mover role =>
      by_cases self : index = mover
      · subst self
        simp [role] at before
        simp [List.countP_append, Encounter.visit]
        omega
      · have different : mover ≠ index := Ne.symm self
        simpa [role_setRole_eq, self, List.countP_append, Encounter.visit, different]
          using before
  | count mover role =>
      by_cases self : index = mover
      · subst self
        simp [role] at before remaining
        simp
        omega
      · simpa [role_setRole_eq, self] using before
  | invite visit duty =>
      have role : encounter.role visit.pid = .queued :=
        lined.queued_of_mem (by simp [Encounter.line, duty, Duty.inHand])
      by_cases self : index = visit.pid
      · subst self
        simpa [role] using before
      · simpa [role_setRole_eq, self] using before
  | clientTakes mover turn taken rest role
  | clientSends mover turn role
  | clientLeaves mover role =>
      by_cases self : index = mover
      · subst self
        simpa [role] using before
      · simpa [role_setRole_eq, self] using before
  | call | barberSends | barberStarts | barberCompletes => simpa using before

/-- Only a client with shaves left has anything to do with the barber. -/
theorem shavesLeft_step (lined : encounter.Lined)
    (shavesLeft : ∀ index, encounter.role index ≠ .free → 0 < encounter.noOfShaves index)
    (stepped : EncounterStep encounter following) (index : Fin options.noOfClients)
    (busy : following.role index ≠ .free) : 0 < following.noOfShaves index := by
  have remaining := shavesLeft index
  cases stepped with
  | join mover role shaves | wake mover role shaves =>
      by_cases self : index = mover
      · subst self
        exact shaves
      · exact remaining (by simpa [role_setRole_eq, self] using busy)
  | count mover role =>
      by_cases self : index = mover
      · simp [role_setRole_eq, self] at busy
      · simpa [self] using remaining (by simpa [role_setRole_eq, self] using busy)
  | invite visit duty =>
      have role : encounter.role visit.pid = .queued :=
        lined.queued_of_mem (by simp [Encounter.line, duty, Duty.inHand])
      by_cases self : index = visit.pid
      · subst self
        exact remaining (by simp [role])
      · exact remaining (by simpa [role_setRole_eq, self] using busy)
  | clientTakes mover turn taken rest role
  | clientSends mover turn role
  | clientLeaves mover role =>
      by_cases self : index = mover
      · subst self
        exact remaining (by simp [role])
      · exact remaining (by simpa [role_setRole_eq, self] using busy)
  | call | barberSends | barberStarts | barberCompletes => exact remaining busy

theorem Sound.step (sound : encounter.Sound)
    (stepped : EncounterStep encounter following) : following.Sound where
  meeting := sound.meeting.step sound.lined stepped
  lined := sound.lined.step stepped
  order := order_step sound.meeting sound.order stepped
  exchanged := exchanged_step sound.meeting sound.exchanged stepped
  counted := counted_step sound.lined sound.shavesLeft sound.counted stepped
  shavesLeft := shavesLeft_step sound.lined sound.shavesLeft stepped

theorem sound (reachable : (encounters options).Reachable encounter) :
    encounter.Sound := by
  refine reachable.invariant Sound ?_ ?_
  · refine ⟨.apart ?_ ?_ rfl rfl rfl, ⟨?_, ?_, ?_⟩, rfl, ?_, ?_, ?_⟩
    · simp [encounters]
    · simp [NobodyEngaged, encounters]
    · simp [Encounter.line, encounters, Duty.inHand]
    · simp [Encounter.line, encounters, Duty.inHand]
    · simp [Encounter.line, encounters, Duty.inHand]
    · simp [encounters, Log.empty]
    · simp [Encounter.visits, encounters, Log.empty]
    · simp [encounters]
  · intro current action following invariant _ taken
    exact invariant.step (encounters_step taken)

end OsExercises.SleepingBarber.Encounter
