import Compositor.Proofs.Exchange.Order
import Compositor.Proofs.Tickets

/-!
# Requests in runs

In a run, requests are applied and results collected between one action and the next. Nothing else
depends on the requests, and what the worker has applied is told by a count alone.
-/

set_option autoImplicit false

namespace Compositor

/-! ## Collecting results -/

namespace ImageRequests

variable {requests : ImageRequests} {ticket : Ticket}

theorem serveAll_idle (idle : requests.waiting = []) (engine : Engine) :
    requests.serveAll engine = (requests, engine) := by
  rw [serveAll, idle]
  rfl

/-- The request of a ticket is not waiting any more once the worker has gone through to it. -/
theorem serveThrough_absent (distinct : (requests.waiting.map Prod.fst).Nodup) (ticket : Ticket)
    (engine : Engine) :
    ticket ∉ (requests.serveThrough ticket engine).1.waiting.map Prod.fst := by
  unfold serveThrough
  cases found : requests.waiting.findIdx? (·.1 == ticket) with
  | none =>
      have absent := List.findIdx?_eq_none_iff.mp found
      intro member
      obtain ⟨entry, waits, same⟩ := List.mem_map.mp member
      simpa [same] using absent entry waits
  | some position =>
      obtain ⟨within, same, -⟩ := List.findIdx?_eq_some_iff_getElem.mp found
      dsimp only
      rw [serveMany_eq, List.map_drop]
      intro member
      have first : ticket ∈ (requests.waiting.map Prod.fst).take (position + 1) :=
        List.mem_take_iff_getElem.mpr ⟨position, by simp; omega, by simpa using same⟩
      rw [← List.take_append_drop (position + 1) (requests.waiting.map Prod.fst)] at distinct
      exact (List.nodup_append.mp distinct).2.2 ticket first ticket member rfl

theorem collect_mem {result : Except EngineError Unit}
    (member : (ticket, result) ∈ requests.replies) :
    (ticket, (requests.collect ticket).1) ∈ requests.replies := by
  unfold collect
  cases found : requests.replies.find? (·.1 == ticket) with
  | none => simpa using List.find?_eq_none.mp found _ member
  | some entry =>
      have same : entry.1 = ticket := by simpa using List.find?_some found
      exact same ▸ List.mem_of_find?_eq_some found

theorem collect_dropped (absent : ∀ result, (ticket, result) ∉ requests.replies) :
    requests.collect ticket = (ReplySlot.dropped, requests) := by
  unfold collect
  cases found : requests.replies.find? (·.1 == ticket) with
  | none => rfl
  | some entry =>
      obtain ⟨own, result⟩ := entry
      have same : own = ticket := by simpa using List.find?_some found
      cases same
      exact absurd (List.mem_of_find?_eq_some found) (absent result)

theorem collect_replies {other : Ticket} {result : Except EngineError Unit} :
    (other, result) ∈ (requests.collect ticket).2.replies ↔
      (other, result) ∈ requests.replies ∧ other ≠ ticket := by
  unfold collect
  cases found : requests.replies.find? (·.1 == ticket) with
  | none =>
      have absent := List.find?_eq_none.mp found
      exact ⟨fun member => ⟨member, by simpa using absent _ member⟩, And.left⟩
  | some entry => simp

theorem collect_rest (requests : ImageRequests) (ticket : Ticket) :
    (requests.collect ticket).2.waiting = requests.waiting ∧
      (requests.collect ticket).2.issued = requests.issued := by
  unfold collect
  split <;> exact ⟨rfl, rfl⟩

end ImageRequests

/-! ## Sessions without requests -/

namespace Session

variable {session : Session}

/-- The session as the engine and its device see it. -/
def withoutRequests (session : Session) : Session := { session with requests := .empty }

theorem stop_idle (idle : session.requests.waiting = []) :
    session.withoutRequests.stop = session.stop.withoutRequests ∧
      session.stop.requests = session.requests := by
  obtain ⟨capabilities, order, tenancy, issued, waiting, replies⟩ := session
  cases idle
  cases tenancy <;> exact ⟨rfl, rfl⟩

theorem stop_vacant (vacant : session.engine? = none) : session.stop = session := by
  unfold stop
  cases tenancy : session.tenancy with
  | vacant device => rfl
  | occupied engine => simp [engine?, tenancy] at vacant

theorem stop_occupied {engine : Engine} (occupied : session.engine? = some engine) :
    session.stop =
      { session with
        tenancy := .vacant (session.requests.serveAll engine).2.teardown
        requests := (session.requests.serveAll engine).1 } := by
  unfold stop
  rw [tenancy_of_engine? occupied]

theorem start_withoutRequests (session : Session) (options : EngineOptions) :
    session.withoutRequests.start options =
      ((session.start options).1, (session.start options).2.withoutRequests) := by
  obtain ⟨capabilities, order, tenancy, requests⟩ := session
  unfold start withoutRequests
  dsimp only [device]
  cases Engine.create _ capabilities options order <;> rfl

/-- What does not concern requests does not depend on them either, unless it takes an engine down
that has some to serve. -/
theorem step_withoutRequests {action : Action} (neutral : action.concernsRequests = false)
    (idle : action.replacesEngine = true → session.requests.waiting = []) :
    session.withoutRequests.step action =
        ((session.step action).1, (session.step action).2.withoutRequests) ∧
      (session.step action).2.requests = session.requests := by
  cases action with
  | start options =>
      obtain ⟨same, requests⟩ := stop_idle (idle rfl)
      refine ⟨?_, (start_requests session.stop options).trans requests⟩
      change (Outcome.done (session.withoutRequests.stop.start options).1,
        (session.withoutRequests.stop.start options).2) = _
      rw [same, start_withoutRequests]
      rfl
  | stop =>
      obtain ⟨same, requests⟩ := stop_idle (idle rfl)
      exact ⟨congrArg (Prod.mk _) same, requests⟩
  | submit | serve | collect => cases neutral
  | _ =>
      obtain ⟨capabilities, order, tenancy, requests⟩ := session
      cases tenancy <;> exact ⟨rfl, rfl⟩

/-- The session once the worker has applied so many requests. -/
def served (session : Session) (count : Nat) (engine : Engine) : Session :=
  let (requests, engine) := ImageRequests.serveMany count session.requests engine
  { session with requests }.setEngine engine

theorem setEngine_self {engine : Engine} (occupied : session.engine? = some engine) :
    session.setEngine engine = session := by
  rw [setEngine, ← tenancy_of_engine? occupied]

theorem served_nothing {engine : Engine} (occupied : session.engine? = some engine)
    (nothing : session.requests.waiting = []) : session.served 1 engine = session := by
  rw [served, ImageRequests.serveMany, ImageRequests.serve, nothing]
  exact setEngine_self occupied

theorem served_first {engine : Engine} {ticket : Ticket} {request : ImageRequest}
    {rest : List (Ticket × ImageRequest)}
    (waiting : session.requests.waiting = (ticket, request) :: rest) :
    session.served 1 engine =
      { session with
        requests := { session.requests with
          waiting := rest
          replies := session.requests.replies ++ [(ticket, (request.apply engine).1)] }
        tenancy := .occupied (request.apply engine).2 } := by
  simp [served, ImageRequests.serveMany, ImageRequests.serve, waiting, setEngine]

/-- An engine is taken down as if the worker had caught up first. -/
theorem stop_served_all {engine : Engine} (occupied : session.engine? = some engine) :
    ∃ count, (session.served count engine).requests.waiting = [] ∧
      session.stop = (session.served count engine).stop := by
  let count := session.requests.waiting.length
  have nothing : (session.served count engine).requests.waiting = [] := by
    change (ImageRequests.serveMany count session.requests engine).1.waiting = []
    rw [ImageRequests.serveMany_eq]
    exact List.drop_length
  have after : (session.served count engine).engine? =
      some (ImageRequests.serveMany count session.requests engine).2 := rfl
  refine ⟨count, nothing, ?_⟩
  rw [stop_occupied occupied, stop_occupied after, ImageRequests.serveAll_idle nothing]
  rfl

/-- A result is collected once the worker has applied the request, if it had not before. -/
theorem step_collect {engine : Engine} (occupied : session.engine? = some engine)
    (distinct : (session.requests.waiting.map Prod.fst).Nodup) (ticket : Ticket) :
    ∃ count, let ready := session.served count engine
      ready.requests.issued = session.requests.issued ∧
        ticket ∉ ready.requests.waiting.map Prod.fst ∧
        session.step (.collect ticket) =
          (.done (ready.requests.collect ticket).1,
            { ready with requests := (ready.requests.collect ticket).2 }) := by
  let count := (session.requests.waiting.findIdx? (·.1 == ticket)).elim 0 (· + 1)
  have through : session.requests.serveThrough ticket engine =
      ImageRequests.serveMany count session.requests engine :=
    session.requests.serveThrough_eq ticket engine
  refine ⟨count, ?_, ?_, ?_⟩
  · change (ImageRequests.serveMany count session.requests engine).1.issued = _
    rw [ImageRequests.serveMany_eq]
  · change ticket ∉ (ImageRequests.serveMany count session.requests engine).1.waiting.map Prod.fst
    rw [← through]
    exact ImageRequests.serveThrough_absent distinct ticket engine
  · simp only [step, script, occupied, operate, request, ImageRequests.await, through]
    rfl

theorem step_absent (vacant : session.engine? = none) {action : Action}
    (concerns : action.concernsRequests = true) : session.step action = (.noEngine, session) := by
  cases action with
  | submit | serve | collect => simp [step, script, vacant]
  | _ => cases concerns

/-- What a step answers to whoever waits for the result of a request that was made. -/
def answer (session : Session) (ticket : Ticket) (action : Action) :
    List (Except EngineError Unit) :=
  match action, (session.step action).1 with
  | .collect asked, .done result =>
    if ticket = asked ∧ asked.number < session.requests.issued then [result] else []
  | _, _ => []

/-- What a run answers to whoever waits for the result of a request. -/
def answers (session : Session) (ticket : Ticket) : List Action → List (Except EngineError Unit)
  | [] => []
  | action :: rest => session.answer ticket action ++ (session.step action).2.answers ticket rest

end Session

end Compositor
