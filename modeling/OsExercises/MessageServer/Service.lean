import OsExercises.MessageServer.Sessions

/-! # The service

Runs in which nobody is told to stop: there is a slot for every client, every line is a request
that the server can answer, and no SIGINT arrives. No message is lost then. -/

namespace OsExercises.MessageServer

open OsExercises

variable {options : Options} {state following : State options} {index : Fin options.noOfClients}

/-! ## The server -/

/-- The server is in its loop. -/
def ServerPc.AtWork : ServerPc options → Prop
  | .receive | .handle _ | .reply _ _ | .testStop => True
  | .removeQueue | .returned | .crashed | .outOfBounds => False

structure Serving (state : State options) : Prop where
  running : ¬ (state.server.serverStop = true ∨ state.server.serverEnd = true)
  here : state.queueExists = true
  atWork : state.server.pc.AtWork
  messages : ∀ message ∈ state.server.pc.handling ++ state.queue, message.Served
  inboxes : ∀ index, (state.recMsgq index).isSome
  clients : ∀ index, Attends index (state.client index) (state.log index)
  table : Table state
  awaited : ∀ index, (state.conversation index).Awaited

/-- What the server does in its loop. -/
inductive ServeStep (state : State options) : State options → Prop
  | poll (pc : state.server.pc = .receive) (empty : state.queue = []) :
      ServeStep state (state.moveServer .testStop)
  | receive {recMsg : Message options} {rest : List (Message options)}
      (pc : state.server.pc = .receive) (queue : state.queue = recMsg :: rest) :
      ServeStep state ((state.setQueue rest).moveServer (.handle recMsg))
  | again (pc : state.server.pc = .testStop) : ServeStep state (state.moveServer .receive)
  | register {recMsg : Message options} {clientNo : Nat}
      {opened : List (Fin options.noOfClients)} {qID : Int}
      (pc : state.server.pc = .handle recMsg)
      (unknown : ¬ Registered state.server.clientMsgQs recMsg.pid)
      (below : clientNo < maxNoOfClients)
      (free : (state.server.clientMsgQs clientNo).pid = none)
      (kept : opened = state.server.opened ∨ opened = state.server.opened ++ [recMsg.pid])
      (found : recipient options opened qID = some recMsg.pid) :
      ServeStep state
        { state with server := { state.server with
            pc := .reply clientNo { recMsg with msg := decimal clientNo }
            clientMsgQs := Function.update state.server.clientMsgQs clientNo ⟨recMsg.pid, qID⟩
            clientNo := clientNo
            opened := opened } }
  | answer {recMsg answered : Message options} {i : Nat} (pc : state.server.pc = .handle recMsg) :
      ServeStep state (state.moveServer (.reply i answered))
  | deliver {i : Nat} {recMsg : Message options} (pc : state.server.pc = .reply i recMsg) :
      ServeStep state
        (((state.setRecMsgq recMsg.pid (some [recMsg])).setLog recMsg.pid
          { state.log recMsg.pid with
            delivered := (state.log recMsg.pid).delivered ++ [recMsg] }).moveServer .testStop)

/-- An empty queue takes every message that can be received. -/
theorem hasRoom_nil (modest : Modest options) {message : Message options} (fits : message.Fits) :
    hasRoom [] message = true := by
  unfold hasRoom
  split
  · next zad1 =>
      have bytes := modest.bytes zad1
      have size := fits zad1
      simp only [List.map_nil, List.sum_nil, decide_eq_true_eq]
      omega
  · rfl

namespace Serving

/-- A client whose START is being handled has no slot yet. -/
theorem unknown (serving : Serving state) {recMsg : Message options}
    (pc : state.server.pc = .handle recMsg) (start : recMsg.mType = .start) :
    ¬ Registered state.server.clientMsgQs recMsg.pid := by
  intro registered
  refine (serving.table.fresh recMsg.pid registered).2 recMsg ?_ start
  simp [State.pending, pc, ServerPc.handling]

theorem handleStart_cases (serving : Serving state) (modest : Modest options)
    (consistent : Consistent state) {recMsg : Message options}
    (pc : state.server.pc = .handle recMsg) (start : recMsg.mType = .start) :
    ServeStep state (handleStart state recMsg) := by
  have unknown := serving.unknown pc start
  have text := consistent.starts recMsg (by simp [pc, ServerPc.handling]) start
  have room (zad2 : options.program = .zad2) : state.server.opened.length < options.openMax :=
    (serving.table.opened_lt unknown).trans_le (modest.descriptors zad2)
  rcases findFree_eq_some state.server.clientMsgQs consistent.clientNo with ⟨result, found, slot⟩
  unfold handleStart
  rw [found]
  cases slot with
  | full occupied => exact absurd occupied (serving.table.not_full modest.slots unknown)
  | free clientNo flag below early free =>
      rcases openQueue_leads (serving.inboxes recMsg.pid) room text with
        ⟨opened, qID, opens, kept, leads⟩
      simp only [if_neg early, opens]
      exact .register pc unknown below free kept leads

theorem reply_cases (serving : Serving state) (modest : Modest options)
    (consistent : Consistent state)
    (turns : ∀ client, (state.conversation client).Paced IsAnswer) {i : Nat}
    {recMsg : Message options} (pc : state.server.pc = .reply i recMsg)
    (below : i < maxNoOfClients) :
    ∃ following, reply state i recMsg = some following ∧ ServeStep state following := by
  have slot := consistent.replies i recMsg pc below
  have found := serving.table.leads i recMsg.pid below slot
  rcases Option.isSome_iff_exists.mp (serving.inboxes recMsg.pid) with ⟨queue, held⟩
  have first := replying_of_reply recMsg.pid pc
  rw [if_pos rfl] at first
  have empty : queue = [] := by
    have alone := ((turns recMsg.pid).of_replying first).2
    simpa [State.conversation, held] using alone
  subst empty
  have room := hasRoom_nil modest (consistent.taken recMsg (by simp [pc, ServerPc.replying]))
  simp only [reply, if_pos below, found, held, room, if_true, enqueueReply_nil]
  exact ⟨_, rfl, .deliver pc⟩

theorem serveStep_cases (serving : Serving state) (modest : Modest options)
    (consistent : Consistent state)
    (turns : ∀ client, (state.conversation client).Paced IsAnswer)
    (safe : SlotsSafe state) {seconds : Nat}
    (taken : serverStep state seconds = some following) : ServeStep state following := by
  have atWork := serving.atWork
  cases pc : state.server.pc with
  | receive =>
      simp only [serverStep, pc] at taken
      split at taken
      · next empty =>
          cases taken
          exact .poll pc empty
      · next recMsg rest queue =>
          have served := serving.messages recMsg (by simp [queue])
          rw [if_pos served.fits] at taken
          cases taken
          exact .receive pc queue
  | handle recMsg =>
      have served := serving.messages recMsg (by simp [pc, ServerPc.handling])
      simp only [serverStep, pc, Option.some.injEq] at taken
      subst taken
      cases mType : recMsg.mType with
      | start =>
          simp only [handle, mType]
          exact serving.handleStart_cases modest consistent pc mType
      | serverEnd => exact absurd mType served.goesOn.1
      | stop => exact absurd mType served.goesOn.2
      | mirror | add | mul | sub | div | time =>
          have answered := served.wellFormed.answer_ne_none (by simp [mType]) seconds
          simp only [handle, mType] at answered ⊢
          split
          · next crashed => exact absurd crashed answered
          · exact .answer pc
  | reply i recMsg =>
      rcases serving.reply_cases modest consistent turns pc (safe.reply i recMsg pc) with
        ⟨delivered, replied, step⟩
      simp only [serverStep, pc] at taken
      rw [replied, Option.some.injEq] at taken
      exact taken ▸ step
  | testStop =>
      simp only [serverStep, pc, if_neg serving.running, Option.some.injEq] at taken
      exact taken ▸ .again pc
  | removeQueue | returned | crashed | outOfBounds =>
      rw [pc] at atWork
      exact atWork.elim

/-- START is handled. -/
theorem register (serving : Serving state)
    (turns : ∀ client, (state.conversation client).Paced IsAnswer) {recMsg reply : Message options}
    {clientNo : Nat} {opened : List (Fin options.noOfClients)} {qID : Int}
    (pc : state.server.pc = .handle recMsg)
    (unknown : ¬ Registered state.server.clientMsgQs recMsg.pid)
    (free : (state.server.clientMsgQs clientNo).pid = none) (below : clientNo < maxNoOfClients)
    (kept : opened = state.server.opened ∨ opened = state.server.opened ++ [recMsg.pid])
    (found : recipient options opened qID = some recMsg.pid) :
    Table { state with server := { state.server with
      pc := .reply clientNo reply
      clientMsgQs := Function.update state.server.clientMsgQs clientNo ⟨recMsg.pid, qID⟩
      clientNo := clientNo
      opened := opened } } where
  distinct := by
    intro i j pid inside within here there
    simp only [Function.update_apply] at here there
    split at here <;> split at there
    · next first second => exact first.trans second.symm
    · next first second =>
        cases here
        exact absurd ⟨j, within, there⟩ unknown
    · next first second =>
        cases there
        exact absurd ⟨i, inside, here⟩ unknown
    · exact serving.table.distinct i j pid inside within here there
  leads := by
    intro i pid inside here
    simp only [Function.update_apply] at here ⊢
    split at here
    · next same =>
        cases here
        rw [if_pos same]
        exact found
    · next different =>
        rw [if_neg different]
        have before := serving.table.leads i pid inside here
        rcases kept with rfl | rfl
        · exact before
        · exact recipient_append before _
  opened := by
    rcases kept with rfl | rfl
    · exact serving.table.opened
    · refine List.nodup_append'.mpr ⟨serving.table.opened, List.nodup_singleton _, ?_⟩
      intro pid earlier here
      rw [List.mem_singleton.mp here] at earlier
      exact unknown (serving.table.known _ earlier)
  known := by
    intro pid member
    have either : pid ∈ state.server.opened ∨ pid = recMsg.pid := by
      rcases kept with rfl | rfl
      · exact .inl member
      · simpa using member
    rcases either with earlier | rfl
    · exact (serving.table.known pid earlier).update (by simp [free])
    · exact ⟨clientNo, below, by simp⟩
  fresh := by
    have first := pending_of_handle recMsg.pid pc
    rw [if_pos rfl] at first
    have started : (state.client recMsg.pid).pc ≠ .sendStart := by
      intro unsent
      have nothing := ((turns recMsg.pid).at_rest (by simp [Client.stage, unsent])).1
      exact absurd (nothing.symm.trans first) (by simp)
    have last : state.queue.filter (·.pid = recMsg.pid) = [] := by
      have alone := (turns recMsg.pid).inFlight (.inr (serving.clients recMsg.pid).undisturbed)
      simp only [State.conversation, first, List.length_cons] at alone
      exact List.eq_nil_of_length_eq_zero (by omega)
    intro pid registered
    by_cases mine : pid = recMsg.pid
    · subst mine
      refine ⟨started, ?_⟩
      simp [State.pending, ServerPc.handling, last]
    · have before : Registered state.server.clientMsgQs pid := by
        rcases registered with ⟨i, inside, here⟩
        simp only [Function.update_apply] at here
        split at here
        · exact absurd (Option.some.inj here).symm mine
        · exact ⟨i, inside, here⟩
      rcases serving.table.fresh pid before with ⟨started, none⟩
      refine ⟨started, fun message member => none message ?_⟩
      simp only [State.pending, pc, ServerPc.handling, List.mem_filter, List.mem_append] at member ⊢
      simp at member
      simp [member]

/-- The server goes on. -/
theorem serve (serving : Serving state)
    (turns : ∀ client, (state.conversation client).Paced IsAnswer)
    (step : ServeStep state following)
    (awaited : ∀ index, (following.conversation index).Awaited) : Serving following := by
  have messages := serving.messages
  have same (following : State options) (clientMsgQs : following.server.clientMsgQs =
      state.server.clientMsgQs) (opened : following.server.opened = state.server.opened)
      (client : following.client = state.client)
      (fewer : ∀ message ∈ following.server.pc.handling ++ following.queue,
        message ∈ state.server.pc.handling ++ state.queue) : Table following := by
    refine serving.table.congr clientMsgQs opened (fun _ => by rw [client]; exact id) ?_
    intro pid message member _
    rcases List.mem_filter.mp member with ⟨either, mine⟩
    exact .inl (List.mem_filter.mpr ⟨fewer message either, mine⟩)
  cases step with
  | poll pc | again pc =>
      have fewer : ∀ message ∈ state.queue, message ∈ state.server.pc.handling ++ state.queue :=
        fun _ member => List.mem_append_right _ member
      exact
        { serving with
          atWork := trivial
          messages := fun message member => messages message (fewer message member)
          table := same _ rfl rfl rfl fewer
          awaited := awaited }
  | @receive recMsg rest pc queue =>
      have fewer : ∀ message ∈ recMsg :: rest,
          message ∈ state.server.pc.handling ++ state.queue := by
        intro message member
        rw [queue]
        exact List.mem_append_right _ member
      exact
        { serving with
          atWork := trivial
          messages := fun message member => messages message (fewer message member)
          table := same _ rfl rfl rfl fewer
          awaited := awaited }
  | register pc unknown below free kept found =>
      exact
        { serving with
          atWork := trivial
          messages := fun message member => messages message (List.mem_append_right _ member)
          table := serving.register turns pc unknown free below kept found
          awaited := awaited }
  | answer pc =>
      have fewer : ∀ message ∈ state.queue, message ∈ state.server.pc.handling ++ state.queue :=
        fun _ member => List.mem_append_right _ member
      exact
        { serving with
          atWork := trivial
          messages := fun message member => messages message (fewer message member)
          table := same _ rfl rfl rfl fewer
          awaited := awaited }
  | @deliver i recMsg pc =>
      have fewer : ∀ message ∈ state.queue, message ∈ state.server.pc.handling ++ state.queue :=
        fun _ member => List.mem_append_right _ member
      exact
        { serving with
          atWork := trivial
          messages := fun message member => messages message (fewer message member)
          inboxes := by
            refine (Function.forall_update_iff state.recMsgq fun _ queue => queue.isSome).mpr ?_
            exact ⟨rfl, fun other _ => serving.inboxes other⟩
          clients := by
            intro index
            have attends := serving.clients index
            by_cases mine : index = recMsg.pid
            · subst mine
              simpa using { attends with asks := attends.asks }
            · simpa [mine] using attends
          table := same _ rfl rfl rfl fewer
          awaited := awaited }

theorem attends_update (serving : Serving state) {next : Client options} {log : Log options}
    (attends : Attends index next log) (other : Fin options.noOfClients) :
    Attends other (Function.update state.client index next other)
      (Function.update state.log index log other) := by
  by_cases mine : other = index
  · subst mine
    simpa using attends
  · simpa [mine] using serving.clients other

/-- A client sends messages of its own, and START only in the beginning. -/
theorem outgoing_cases (consistent : Consistent state) {message : Message options}
    (outgoing : (state.client index).pc.outgoing index = some message) :
    message.pid = index ∧ ((state.client index).pc = .sendStart ∨ message.mType ≠ .start) := by
  have request := (consistent.clients index).request
  cases pc : (state.client index).pc with
  | sendStart =>
      rw [pc] at outgoing
      cases outgoing
      exact ⟨rfl, .inl rfl⟩
  | sendRequest mMsg =>
      rw [pc] at outgoing
      cases outgoing
      rcases request message pc with ⟨mine, notStart, _⟩
      exact ⟨mine, .inr notStart⟩
  | sendStop =>
      rw [pc] at outgoing
      cases outgoing
      exact ⟨rfl, .inr (by simp [stopMessage])⟩
  | awaitStart | loopTest | getline | testStop | awaitReply | testSend | testStopAgain | awaitStop
  | removeQueue | returned | crashed =>
      rw [pc] at outgoing
      cases outgoing

/-- A client asks or reads. -/
theorem ask (serving : Serving state) (consistent : Consistent state)
    (step : AskStep state index following)
    (awaited : ∀ index, (following.conversation index).Awaited) : Serving following := by
  have attends := serving.clients index
  have begun {next : Client options}
      (stays : next.pc = .sendStart → (state.client index).pc = .sendStart)
      (pid : Fin options.noOfClients)
      (unsent : (Function.update state.client index next pid).pc = .sendStart) :
      (state.client pid).pc = .sendStart := by
    by_cases mine : pid = index
    · subst mine
      exact stays (by simpa using unsent)
    · simpa [mine] using unsent
  cases step with
  | @send message outgoing =>
      rcases outgoing_cases consistent outgoing with ⟨sender, started⟩
      exact
        { serving with
          messages := by
            intro other member
            rcases List.mem_append.mp member with handled | queued
            · exact serving.messages other (List.mem_append_left _ handled)
            · rcases List.mem_append.mp queued with earlier | last
              · exact serving.messages other (List.mem_append_right _ earlier)
              · exact List.mem_singleton.mp last ▸ attends.outgoing message outgoing
          clients := serving.attends_update (attends.send outgoing)
          table := by
            refine serving.table.congr rfl rfl (begun Client.resume_sendStart) ?_
            intro pid other member start
            rcases List.mem_filter.mp member with ⟨either, mine⟩
            have cases' : other ∈ state.server.pc.handling ++ state.queue ∨ other = message := by
              simpa [or_assoc] using either
            rcases cases' with earlier | rfl
            · exact .inl (List.mem_filter.mpr ⟨earlier, mine⟩)
            · have addressed : other.pid = pid := by simpa using mine
              have same : pid = index := addressed.symm.trans sender
              subst same
              exact .inr (started.resolve_right fun different => different start)
          awaited := awaited }
  | @receive message rest waiting arrived =>
      exact
        { serving with
          inboxes := by
            refine (Function.forall_update_iff state.recMsgq fun _ queue => queue.isSome).mpr ?_
            exact ⟨rfl, fun other _ => serving.inboxes other⟩
          clients := serving.attends_update (attends.receive waiting)
          table := by
            exact serving.table.congr rfl rfl (begun Client.resume_sendStart)
              fun _ _ member _ => .inl member
          awaited := awaited }
  | @read next step =>
      exact
        { serving with
          clients := by
            intro other
            have updated := serving.attends_update (attends.read step) other
            rwa [Function.update_eq_self] at updated
          table := by
            exact serving.table.congr rfl rfl
              (begun fun unsent => absurd unsent step.not_sendStart)
              fun _ _ member _ => .inl member
          awaited := awaited }

theorem initial (modest : Modest options) : Serving (initial options) where
  running := by simp [MessageServer.initial]
  here := rfl
  atWork := trivial
  messages := by simp [MessageServer.initial, ServerPc.handling]
  inboxes _ := rfl
  clients := Attends.initial modest
  table := .initial options
  awaited index := by
    intro waiting
    cases waiting

/-- The conditions under which no client waits in vain are met. -/
theorem undisturbed (serving : Serving state) (modest : Modest options) {action : Action options}
    (quiet : Quiet state action) : Undisturbed state action ∧ FindsRoom state action := by
  cases action with
  | server seconds =>
      cases pc : state.server.pc with
      | handle recMsg =>
          have served := serving.messages recMsg (by simp [pc, ServerPc.handling])
          simp only [Undisturbed, FindsRoom, pc]
          refine ⟨⟨served.goesOn.1, served.wellFormed⟩, fun start => ?_⟩
          exact serving.table.not_full modest.slots (serving.unknown pc start)
      | receive | reply | testStop | removeQueue | returned | crashed | outOfBounds =>
          simp [Undisturbed, FindsRoom, pc]
  | client index => exact ⟨trivial, trivial⟩
  | interruptServer | interruptClient => exact quiet.elim

/-- No message is lost. -/
theorem no_loss (serving : Serving state) (modest : Modest options) (consistent : Consistent state)
    (safe : SlotsSafe state) {action : Action options} (quiet : Quiet state action) :
    ¬ LossCause state index action := by
  intro cause
  have served {recMsg : Message options} (pc : state.server.pc = .handle recMsg) : recMsg.Served :=
    serving.messages recMsg (by simp [pc, ServerPc.handling])
  have atWork := serving.atWork
  cases cause with
  | refused seconds recMsg pc mine start full =>
      exact serving.table.not_full modest.slots (serving.unknown pc start) full
  | ended seconds recMsg pc ends => exact (served pc).goesOn.1 ends
  | stopped seconds recMsg pc mine stop => exact (served pc).goesOn.2 stop
  | crashed seconds recMsg pc request missing =>
      exact (served pc).wellFormed.answer_ne_none request seconds missing
  | unreachable seconds i recMsg pc mine below nobody =>
      have found := serving.table.leads i recMsg.pid below (consistent.replies i recMsg pc below)
      rcases Option.isSome_iff_exists.mp (serving.inboxes recMsg.pid) with ⟨queue, held⟩
      exact nobody recMsg.pid queue found held
  | beyond seconds i recMsg pc beyond =>
      have below := safe.reply i recMsg pc
      omega
  | removed seconds pc =>
      rw [pc] at atWork
      exact atWork.elim
  | unsent gone => exact Bool.false_ne_true (gone.symm.trans serving.here)
  | signalled | interrupted => exact quiet.elim

end Serving

/-! ## Every run -/

/-- What is known of a state that is reached without a signal. -/
structure Known (state : State options) : Prop where
  serving : Serving state
  consistent : Consistent state
  turns : ∀ client, (state.conversation client).Paced IsAnswer
  safe : SlotsSafe state

theorem Known.next (known : Known state) (modest : Modest options) {action : Action options}
    (quiet : Quiet state action) (taken : (system options).next state action = some following) :
    Serving following := by
  rcases known with ⟨serving, consistent, turns, safe⟩
  have awaited (index : Fin options.noOfClients) : (following.conversation index).Awaited := by
    cases advances consistent (turns index) taken with
    | unchanged same => exact same ▸ serving.awaited index
    | serves step => exact (serving.awaited index).serves step
    | loses step cause => exact absurd cause (serving.no_loss modest consistent safe quiet)
  cases action with
  | server seconds =>
      exact serving.serve turns (serving.serveStep_cases modest consistent turns safe taken) awaited
  | client index =>
      have step := askStep_cases (serving.clients index) serving.here (serving.inboxes index)
        (consistent.inboxes index) taken
      exact serving.ask consistent step awaited
  | interruptServer | interruptClient => exact quiet.elim

theorem known_of_undisturbed
    (reachable : (system options).ReachableUnder
      (fun state action => Undisturbed state action ∧ FindsRoom state action) state)
    (serving : Serving state) : Known state where
  serving := serving
  consistent := consistent reachable.reachable
  turns := paced reachable.reachable
  safe := slotsSafe keepsStrangersWaiting_of_room reachable

theorem known (modest : Modest options)
    (reachable : (system options).ReachableUnder Quiet state) : Known state := by
  suffices both : (system options).ReachableUnder
      (fun state action => Undisturbed state action ∧ FindsRoom state action) state ∧
        Serving state from known_of_undisturbed both.1 both.2
  induction reachable with
  | initial => exact ⟨.initial, .initial modest⟩
  | step _ quiet taken induction =>
      have known := known_of_undisturbed induction.1 induction.2
      exact ⟨.step induction.1 (induction.2.undisturbed modest quiet) taken,
        known.next modest quiet taken⟩

end OsExercises.MessageServer
