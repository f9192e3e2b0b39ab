import Compositor.Proofs.Turns

/-!
# Tickets

The worker applies requests one after another, and the reply to each carries its own ticket. No
ticket is given out twice, so whoever holds one collects the reply to the very request made for it.
-/

set_option autoImplicit false

namespace Compositor.ImageRequests

structure Ticketed (requests : ImageRequests) : Prop where
  distinct : (requests.waiting.map Prod.fst ++ requests.replies.map Prod.fst).Nodup
  issued : ∀ ticket ∈ requests.waiting.map Prod.fst ++ requests.replies.map Prod.fst,
    ticket.number < requests.issued

namespace Ticketed

variable {requests : ImageRequests}

theorem empty : Ticketed .empty := ⟨.nil, by simp [ImageRequests.empty]⟩

theorem submit (ticketed : requests.Ticketed) (request : ImageRequest) :
    (requests.submit request).2.Ticketed := by
  have fresh : ∀ ticket ∈ requests.waiting.map Prod.fst ++ requests.replies.map Prod.fst,
      ticket ≠ ⟨requests.issued⟩ := by
    intro ticket member same
    have below := ticketed.issued ticket member
    rw [same] at below
    exact Nat.lt_irrefl _ below
  have placed : ((requests.submit request).2.waiting.map Prod.fst ++
      (requests.submit request).2.replies.map Prod.fst).Perm
        (⟨requests.issued⟩ :: (requests.waiting.map Prod.fst ++ requests.replies.map Prod.fst)) := by
    simp only [ImageRequests.submit, List.map_append, List.map_cons, List.map_nil,
      List.append_assoc, List.singleton_append]
    exact List.perm_middle
  refine ⟨?_, fun ticket member => ?_⟩
  · rw [placed.nodup_iff, List.nodup_cons]
    exact ⟨fun member => fresh _ member rfl, ticketed.distinct⟩
  · rcases List.mem_cons.mp (placed.mem_iff.mp member) with rfl | before
    · exact Nat.lt_succ_self requests.issued
    · exact Nat.lt_succ_of_lt (ticketed.issued ticket before)

theorem of_perm (ticketed : requests.Ticketed) {after : ImageRequests}
    (issued : after.issued = requests.issued)
    (same : (after.waiting.map Prod.fst ++ after.replies.map Prod.fst).Perm
      (requests.waiting.map Prod.fst ++ requests.replies.map Prod.fst)) : after.Ticketed := by
  refine ⟨same.nodup_iff.mpr ticketed.distinct, fun ticket member => ?_⟩
  rw [issued]
  exact ticketed.issued ticket (same.mem_iff.mp member)

theorem serve (ticketed : requests.Ticketed) (engine : Engine) :
    (requests.serve engine).1.Ticketed := by
  unfold ImageRequests.serve
  split
  · exact ticketed
  · rename_i waiting
    refine ticketed.of_perm rfl ?_
    rw [waiting]
    simp only [List.map_append, List.map_cons, List.map_nil, ← List.append_assoc]
    exact List.perm_append_singleton _ _

theorem serveMany (ticketed : requests.Ticketed) (count : Nat) (engine : Engine) :
    (serveMany count requests engine).1.Ticketed := by
  induction count generalizing requests engine with
  | zero => exact ticketed
  | succ count ih => exact ih (ticketed.serve engine) _

theorem collect (ticketed : requests.Ticketed) (ticket : Ticket) :
    (requests.collect ticket).2.Ticketed := by
  unfold ImageRequests.collect
  split
  · have fewer : (requests.waiting.map Prod.fst ++
        (requests.replies.filter (·.1 ≠ ticket)).map Prod.fst).Sublist
          (requests.waiting.map Prod.fst ++ requests.replies.map Prod.fst) :=
      .append (.refl _) ((List.filter_sublist).map _)
    exact ⟨ticketed.distinct.sublist fewer, fun other member =>
      ticketed.issued other (fewer.subset member)⟩
  · exact ticketed

theorem serveThrough (ticketed : requests.Ticketed) (ticket : Ticket) (engine : Engine) :
    (requests.serveThrough ticket engine).1.Ticketed := by
  unfold ImageRequests.serveThrough
  split
  · exact ticketed.serveMany _ engine
  · exact ticketed

theorem await (ticketed : requests.Ticketed) (ticket : Ticket) (engine : Engine) :
    (requests.await ticket engine).2.1.Ticketed :=
  (ticketed.serveThrough ticket engine).collect ticket

/-- A reply is found by its own ticket. -/
theorem collect_eq (ticketed : requests.Ticketed) {ticket : Ticket}
    {result : Except EngineError Unit} (member : (ticket, result) ∈ requests.replies) :
    (requests.collect ticket).1 = result := by
  have distinct := (List.nodup_append.mp ticketed.distinct).2.1
  unfold ImageRequests.collect
  cases found : requests.replies.find? (·.1 == ticket) with
  | none =>
      have absent := List.find?_eq_none.mp found _ member
      simp at absent
  | some entry =>
      have same : entry.1 = ticket := by simpa using List.find?_some found
      have only := List.inj_on_of_nodup_map distinct (List.mem_of_find?_eq_some found) member same
      rw [only]

end Ticketed

end Compositor.ImageRequests

namespace Compositor.Session

theorem stop_ticketed {session : Session} (ticketed : session.requests.Ticketed) :
    session.stop.requests.Ticketed := by
  unfold stop
  cases session.tenancy with
  | vacant device => exact ticketed
  | occupied engine => exact ticketed.serveMany _ engine

theorem start_requests (session : Session) (options : EngineOptions) :
    (session.start options).2.requests = session.requests := by
  unfold start
  cases Engine.create session.device session.capabilities options session.order <;> rfl

theorem setDevice_requests (session : Session) (device : Device) :
    (session.setDevice device).requests = session.requests := by
  unfold setDevice
  cases session.tenancy <;> rfl

theorem step_ticketed (session : Session) (action : Action)
    (ticketed : session.requests.Ticketed) : (session.step action).2.requests.Ticketed := by
  have stepped := session.step_stepped action
  generalize session.step action = result at stepped
  cases stepped with
  | started options =>
      rw [start_requests]
      exact stop_ticketed ticketed
  | stopped => exact stop_ticketed ticketed
  | scripted scripted =>
      obtain ⟨device, same⟩ := script_eq scripted
      rw [same, setDevice_requests]
      exact ticketed
  | absent => exact ticketed
  | operated => exact ticketed
  | @requested _ engine =>
      cases action with
      | submit request => exact ticketed.submit request
      | serve => exact ticketed.serve engine
      | collect ticket => exact ticketed.await ticket engine
      | _ => exact ticketed

theorem run_ticketed {session : Session} (ticketed : session.requests.Ticketed)
    (actions : List Action) : (session.run actions).2.requests.Ticketed :=
  run_keeps step_ticketed ticketed actions

end Compositor.Session
