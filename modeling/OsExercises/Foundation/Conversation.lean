import Mathlib.Data.List.Basic
import Mathlib.Data.List.Forall2

/-! # Requests and replies

A client that waits for a reply after each request, seen alone: its requests on
the way to a server, the replies on their way back, and everything that was asked
and answered so far. A client that is gone receives nothing more, but may send
messages that have no answer. Requests and replies can be lost. -/

namespace OsExercises

inductive Stage
  | ready
  | waiting
  | gone
  deriving DecidableEq

structure Conversation (Request : Type u) (Reply : Type v) where
  stage : Stage
  /-- The client was told to leave. -/
  interrupted : Bool
  /-- Messages that have not been served yet, the oldest first. -/
  pending : List Request
  /-- Replies that have not been delivered yet. -/
  replying : List Reply
  /-- Replies that have been delivered, but not received yet. -/
  inbox : List Reply
  asked : List Request
  delivered : List Reply
  received : List Reply

namespace Conversation

variable {Request : Type u} {Reply : Type v}

/-- The steps on which no request and no reply is lost. -/
inductive Serves (IsAnswer : Request → Reply → Prop) :
    Conversation Request Reply → Conversation Request Reply → Prop
  | ask {current} (request : Request) (ready : current.stage = .ready) :
      Serves IsAnswer current
        { current with
          stage := .waiting
          pending := current.pending ++ [request]
          asked := current.asked ++ [request] }
  | receive {current reply rest} (next : Stage) (onward : next ≠ .waiting)
      (waiting : current.stage = .waiting) (arrived : current.inbox = reply :: rest) :
      Serves IsAnswer current
        { current with
          stage := next
          inbox := rest
          received := current.received ++ [reply] }
  | leave {current} : Serves IsAnswer current { current with stage := .gone }
  | interrupt {current} (next : Stage) (stays : next = current.stage ∨ next = .gone) :
      Serves IsAnswer current { current with stage := next, interrupted := true }
  | part {current} (farewell : Request) (gone : current.stage = .gone)
      (interrupted : current.interrupted = true)
      (silent : ∀ reply, ¬ IsAnswer farewell reply) :
      Serves IsAnswer current { current with pending := current.pending ++ [farewell] }
  | answer {current request rest} (reply : Reply) (first : current.pending = request :: rest)
      (answers : IsAnswer request reply) :
      Serves IsAnswer current
        { current with pending := rest, replying := current.replying ++ [reply] }
  | deliver {current reply rest} (first : current.replying = reply :: rest) :
      Serves IsAnswer current
        { current with
          replying := rest
          inbox := current.inbox ++ [reply]
          delivered := current.delivered ++ [reply] }
  | close {current} (gone : current.stage = .gone) :
      Serves IsAnswer current { current with inbox := [] }

/-- The steps on which something is lost. -/
inductive Loses : Conversation Request Reply → Conversation Request Reply → Prop
  | unsent {current} (interrupted : Bool) (ready : current.stage = .ready)
      (kept : current.interrupted = true → interrupted = true) :
      Loses current { current with stage := .waiting, interrupted := interrupted }
  | discard {current request rest} (first : current.pending = request :: rest) :
      Loses current { current with pending := rest }
  | drop {current reply rest} (first : current.replying = reply :: rest) :
      Loses current { current with replying := rest }
  | shutDown {current} : Loses current { current with pending := [] }

/-- A step of the client or the server that may concern the conversation, and
loses something only in case of `cause`. -/
inductive Advances (IsAnswer : Request → Reply → Prop) (cause : Prop)
    (current following : Conversation Request Reply) : Prop
  | unchanged (same : following = current)
  | serves (step : Serves IsAnswer current following)
  | loses (step : Loses current following) (because : cause)

/-- Where the latest unanswered request has got to. `awaited` is its part of the
pending messages and `arrived` the replies that were not received. -/
inductive Outstanding (IsAnswer : Request → Reply → Prop) :
    (unsettled awaited : List Request) → (replying arrived : List Reply) → Prop
  | nowhere (unsettled) (one : unsettled.length ≤ 1) :
      Outstanding IsAnswer unsettled [] [] []
  | pending (request) : Outstanding IsAnswer [request] [request] [] []
  | replying (request reply) (answers : IsAnswer request reply) :
      Outstanding IsAnswer [request] [] [reply] []
  | arrived (request reply) (answers : IsAnswer request reply) :
      Outstanding IsAnswer [request] [] [] [reply]

/-- A conversation split into the settled requests, the latest one, which may be
unanswered, and the farewells. -/
structure Ledger (IsAnswer : Request → Reply → Prop) (current : Conversation Request Reply)
    (settled unsettled awaited farewells : List Request) (arrived : List Reply) :
    Prop where
  asked : current.asked = settled ++ unsettled
  pending : current.pending = awaited ++ farewells
  delivered : current.delivered = current.received ++ arrived
  answered : List.Forall₂ IsAnswer settled current.received
  outstanding : Outstanding IsAnswer unsettled awaited current.replying arrived
  inbox : current.inbox = arrived ∨ current.stage = .gone ∧ current.inbox = []
  ready : current.stage = .ready → unsettled = []
  silent : ∀ farewell ∈ farewells, ∀ reply, ¬ IsAnswer farewell reply
  parting : farewells ≠ [] → current.stage = .gone ∧ current.interrupted = true

/-- The client and the server take turns. -/
def Paced (IsAnswer : Request → Reply → Prop) (current : Conversation Request Reply) :
    Prop :=
  ∃ settled unsettled awaited farewells arrived,
    Ledger IsAnswer current settled unsettled awaited farewells arrived

/-- A client that waits has something to wait for. -/
def Awaited (current : Conversation Request Reply) : Prop :=
  current.stage = .waiting →
    current.pending ≠ [] ∨ current.replying ≠ [] ∨ current.inbox ≠ []

variable {IsAnswer : Request → Reply → Prop} {current following : Conversation Request Reply}

/-! ## Turns -/

/-- On the client's turn everything is settled. -/
theorem Ledger.at_rest {settled unsettled awaited farewells : List Request}
    {arrived : List Reply}
    (ledger : Ledger IsAnswer current settled unsettled awaited farewells arrived)
    (ready : current.stage = .ready) :
    unsettled = [] ∧ awaited = [] ∧ farewells = [] ∧ current.replying = [] ∧
      arrived = [] := by
  have none := ledger.ready ready
  have here : farewells = [] := by
    by_contra some
    have gone := (ledger.parting some).1
    rw [ready] at gone
    cases gone
  have outstanding := ledger.outstanding
  generalize current.replying = replying at outstanding
  subst none
  cases outstanding
  exact ⟨rfl, rfl, here, rfl, rfl⟩

theorem Paced.serves (paced : Paced IsAnswer current)
    (step : Serves IsAnswer current following) : Paced IsAnswer following := by
  rcases paced with ⟨settled, unsettled, awaited, farewells, arrived, ledger⟩
  cases step with
  | ask request ready =>
      rcases ledger.at_rest ready with ⟨rfl, rfl, rfl, replying, rfl⟩
      exact ⟨settled, [request], [request], [], [],
        { asked := by simp [ledger.asked]
          pending := by simp [ledger.pending]
          delivered := ledger.delivered
          answered := ledger.answered
          outstanding := by
            rw [replying]
            exact .pending request
          inbox := .inl (by
            rcases ledger.inbox with same | ⟨_, empty⟩
            · exact same
            · exact empty)
          ready := by simp
          silent := by simp
          parting := by simp }⟩
  | @receive reply rest next onward waiting inbox =>
      have arrivedInbox : arrived = reply :: rest := by
        rcases ledger.inbox with same | ⟨gone, _⟩
        · exact same.symm.trans inbox
        · rw [waiting] at gone
          cases gone
      have outstanding := ledger.outstanding
      rw [arrivedInbox] at outstanding
      generalize replyingIs : current.replying = replying at outstanding
      cases outstanding with
      | arrived request _ answers =>
          have stays : farewells = [] := by
            by_contra some
            have gone := (ledger.parting some).1
            rw [waiting] at gone
            cases gone
          exact ⟨settled ++ [request], [], [], [], [],
            { asked := by simp [ledger.asked]
              pending := by simp [ledger.pending, stays]
              delivered := by simp [ledger.delivered, arrivedInbox]
              answered := List.rel_append ledger.answered (.cons answers .nil)
              outstanding := .nowhere [] (by simp)
              inbox := .inl rfl
              ready := fun _ => rfl
              silent := by simp
              parting := by simp }⟩
  | leave =>
      exact ⟨settled, unsettled, awaited, farewells, arrived,
        { ledger with
          inbox := ledger.inbox.imp id fun ⟨_, empty⟩ => ⟨rfl, empty⟩
          ready := by simp
          parting := fun some => ⟨rfl, (ledger.parting some).2⟩ }⟩
  | interrupt next stays =>
      have stillGone (gone : current.stage = .gone) : next = .gone := by
        rcases stays with rfl | rfl
        · exact gone
        · rfl
      exact ⟨settled, unsettled, awaited, farewells, arrived,
        { ledger with
          inbox := ledger.inbox.imp id fun ⟨gone, empty⟩ => ⟨stillGone gone, empty⟩
          ready := by
            intro ready
            apply ledger.ready
            rcases stays with same | gone
            · exact same.symm.trans ready
            · cases ready.symm.trans gone
          parting := fun some => ⟨stillGone (ledger.parting some).1, rfl⟩ }⟩
  | part farewell gone interrupted silent =>
      exact ⟨settled, unsettled, awaited, farewells ++ [farewell], arrived,
        { ledger with
          pending := by simp [ledger.pending]
          silent := by
            intro other member
            rcases List.mem_append.mp member with earlier | last
            · exact ledger.silent other earlier
            · rw [List.mem_singleton.mp last]
              exact silent
          parting := fun _ => ⟨gone, interrupted⟩ }⟩
  | @answer request rest reply first answers =>
      have outstanding := ledger.outstanding
      have pending := ledger.pending.symm.trans first
      generalize replyingIs : current.replying = replying at outstanding
      cases outstanding with
      | pending request' =>
          cases pending
          exact ⟨settled, [request], [], farewells, [],
            { ledger with
              pending := rfl
              outstanding := .replying request reply answers }⟩
      | nowhere | replying | arrived =>
          have farewell : request ∈ farewells := by
            rw [List.nil_append] at pending
            simp [pending]
          exact (ledger.silent request farewell reply answers).elim
  | @deliver reply rest first =>
      have outstanding := ledger.outstanding
      rw [first] at outstanding
      cases outstanding with
      | replying request _ answers =>
          have empty : current.inbox = [] := by
            rcases ledger.inbox with same | ⟨_, empty⟩
            · exact same
            · exact empty
          exact ⟨settled, [request], [], farewells, [reply],
            { ledger with
              delivered := by simp [ledger.delivered]
              outstanding := .arrived request reply answers
              inbox := .inl (by simp [empty]) }⟩
  | close gone =>
      exact ⟨settled, unsettled, awaited, farewells, arrived,
        { ledger with inbox := .inr ⟨gone, rfl⟩ }⟩

/-- What is lost leaves the request unanswered. -/
theorem Paced.loses (paced : Paced IsAnswer current) (step : Loses current following) :
    Paced IsAnswer following := by
  rcases paced with ⟨settled, unsettled, awaited, farewells, arrived, ledger⟩
  cases step with
  | unsent interrupted ready kept =>
      rcases ledger.at_rest ready with ⟨rfl, rfl, rfl, replying, rfl⟩
      exact ⟨settled, [], [], [], [],
        { ledger with
          inbox := .inl (by
            rcases ledger.inbox with same | ⟨_, empty⟩
            · exact same
            · exact empty)
          ready := by simp
          parting := by simp }⟩
  | @discard request rest first =>
      have outstanding := ledger.outstanding
      have pending := ledger.pending.symm.trans first
      generalize replyingIs : current.replying = replying at outstanding
      cases outstanding with
      | pending request' =>
          cases pending
          exact ⟨settled, [request], [], farewells, [],
            { ledger with
              pending := rfl
              outstanding := .nowhere [request] (by simp) }⟩
      | nowhere | replying | arrived =>
          have later : farewells = request :: rest := pending
          exact ⟨settled, _, [], rest, _,
            { ledger with
              pending := rfl
              outstanding := replyingIs ▸ ledger.outstanding
              silent := by
                intro farewell member
                apply ledger.silent
                simp [later, member]
              parting := fun _ => ledger.parting (by simp [later]) }⟩
  | @drop reply rest first =>
      have outstanding := ledger.outstanding
      rw [first] at outstanding
      cases outstanding with
      | replying request _ answers =>
          exact ⟨settled, [request], [], farewells, [],
            { ledger with outstanding := .nowhere [request] (by simp) }⟩
  | shutDown =>
      have outstanding := ledger.outstanding
      generalize replyingIs : current.replying = replying at outstanding
      have short : Outstanding IsAnswer unsettled [] replying arrived := by
        cases outstanding with
        | nowhere _ one => exact .nowhere _ one
        | pending request => exact .nowhere _ (by simp)
        | replying request reply answers => exact .replying request reply answers
        | arrived request reply answers => exact .arrived request reply answers
      exact ⟨settled, unsettled, [], [], arrived,
        { ledger with
          pending := rfl
          outstanding := short
          silent := by simp
          parting := by simp }⟩

theorem Paced.advances {cause : Prop} (paced : Paced IsAnswer current)
    (step : Advances IsAnswer cause current following) : Paced IsAnswer following := by
  cases step with
  | unchanged same => exact same ▸ paced
  | serves step => exact paced.serves step
  | loses step _ => exact paced.loses step

/-- Something to wait for is only lost when something is lost. -/
theorem Awaited.serves (awaited : Awaited current)
    (step : Serves IsAnswer current following) : Awaited following := by
  intro waiting
  cases step with
  | ask => exact .inl (by simp)
  | receive next onward => exact absurd waiting onward
  | leave => cases waiting
  | interrupt next stays =>
      apply awaited
      rcases stays with same | gone
      · exact same.symm.trans waiting
      · cases gone.symm.trans waiting
  | part => exact .inl (by simp)
  | answer => exact .inr (.inl (by simp))
  | deliver => exact .inr (.inr (by simp))
  | close gone => cases gone.symm.trans waiting

/-- A client that is gone waits for nothing. -/
theorem Awaited.loses (gone : current.stage = .gone) (step : Loses current following) :
    Awaited following := by
  intro waiting
  cases step with
  | unsent _ ready => cases gone.symm.trans ready
  | discard | drop | shutDown => cases gone.symm.trans waiting

/-! ## What follows for requests and replies -/

/-- Every reply answers the request of the same number, so that no request has more
than one answer. -/
theorem Paced.answered (paced : Paced IsAnswer current) :
    List.Forall₂ IsAnswer (current.asked.take current.delivered.length) current.delivered := by
  rcases paced with ⟨settled, unsettled, awaited, farewells, arrived, ledger⟩
  have outstanding := ledger.outstanding
  have latest : List.Forall₂ IsAnswer (unsettled.take arrived.length) arrived := by
    generalize current.replying = replying at outstanding
    cases outstanding with
    | nowhere | pending | replying => exact .nil
    | arrived request reply answers => exact .cons answers .nil
  rw [ledger.asked, ledger.delivered, List.length_append, ← ledger.answered.length_eq,
    List.take_length_add_append]
  exact List.rel_append ledger.answered latest

/-- Only the latest request has no answer yet. -/
theorem Paced.counts (paced : Paced IsAnswer current) :
    current.received <+: current.delivered ∧
      current.delivered.length ≤ current.asked.length ∧
      current.asked.length ≤ current.received.length + 1 := by
  rcases paced with ⟨settled, unsettled, awaited, farewells, arrived, ledger⟩
  have settledLength := ledger.answered.length_eq
  have outstanding := ledger.outstanding
  have lengths : arrived.length ≤ unsettled.length ∧ unsettled.length ≤ 1 := by
    generalize current.replying = replying at outstanding
    cases outstanding <;> simp_all
  refine ⟨⟨arrived, ledger.delivered.symm⟩, ?_, ?_⟩
  · simp [ledger.delivered, ledger.asked]
    omega
  · simp [ledger.asked]
    omega

/-- On the client's turn nothing is on its way. -/
theorem Paced.at_rest (paced : Paced IsAnswer current) (ready : current.stage = .ready) :
    current.pending = [] ∧ current.replying = [] ∧ current.inbox = [] := by
  rcases paced with ⟨settled, unsettled, awaited, farewells, arrived, ledger⟩
  rcases ledger.at_rest ready with ⟨rfl, rfl, rfl, replying, rfl⟩
  refine ⟨ledger.pending, replying, ?_⟩
  rcases ledger.inbox with same | ⟨_, empty⟩
  · exact same
  · exact empty

/-- On the client's turn every request has its answer. -/
theorem Paced.all_answered (paced : Paced IsAnswer current) (ready : current.stage = .ready) :
    List.Forall₂ IsAnswer current.asked current.received := by
  rcases paced with ⟨settled, unsettled, awaited, farewells, arrived, ledger⟩
  rcases ledger.at_rest ready with ⟨rfl, _⟩
  rw [ledger.asked, List.append_nil]
  exact ledger.answered

/-- The next reply to be received answers the latest request. -/
theorem Paced.next_answers (paced : Paced IsAnswer current) {reply : Reply}
    {rest : List Reply} (arrived : current.inbox = reply :: rest) :
    rest = [] ∧ ∃ request, current.asked.getLast? = some request ∧ IsAnswer request reply := by
  rcases paced with ⟨settled, unsettled, awaited, farewells, inbox, ledger⟩
  have same : inbox = reply :: rest := by
    rcases ledger.inbox with same | ⟨_, empty⟩
    · exact same.symm.trans arrived
    · rw [arrived] at empty
      cases empty
  have outstanding := ledger.outstanding
  rw [same] at outstanding
  generalize current.replying = replying at outstanding
  cases outstanding with
  | arrived request _ answers => exact ⟨rfl, request, by simp [ledger.asked], answers⟩

/-- A reply that is about to be delivered is the only one on its way. -/
theorem Paced.of_replying (paced : Paced IsAnswer current) {reply : Reply}
    {rest : List Reply} (first : current.replying = reply :: rest) :
    rest = [] ∧ current.inbox = [] := by
  rcases paced with ⟨settled, unsettled, awaited, farewells, arrived, ledger⟩
  have outstanding := ledger.outstanding
  rw [first] at outstanding
  cases outstanding with
  | replying =>
      rcases ledger.inbox with same | ⟨_, empty⟩
      · exact ⟨rfl, same⟩
      · exact ⟨rfl, empty⟩

/-- Until a client is gone, and if nobody told it to leave, at most one message
is on its way in either direction. -/
theorem Paced.inFlight (paced : Paced IsAnswer current)
    (faithful : current.stage ≠ .gone ∨ current.interrupted = false) :
    current.pending.length + current.replying.length + current.inbox.length ≤ 1 := by
  rcases paced with ⟨settled, unsettled, awaited, farewells, arrived, ledger⟩
  have stays : farewells = [] := by
    by_contra some
    rcases ledger.parting some with ⟨gone, interrupted⟩
    rcases faithful with here | undisturbed
    · exact here gone
    · rw [interrupted] at undisturbed
      cases undisturbed
  have inbox : current.inbox.length ≤ arrived.length := by
    rcases ledger.inbox with same | ⟨_, empty⟩
    · exact same ▸ Nat.le_refl _
    · simp [empty]
  have pending : current.pending = awaited := by simp [ledger.pending, stays]
  have outstanding := ledger.outstanding
  rw [pending]
  generalize current.replying = replying at outstanding
  cases outstanding <;> simp_all

end Conversation

end OsExercises
