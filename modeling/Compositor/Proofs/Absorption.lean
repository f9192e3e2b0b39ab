import Compositor.Proofs.Ledger
import Compositor.Proofs.Waning

/-!
# Loss is final

Once an engine is marked as lost, no operation changes that, and nothing is made, drawn or submitted
any more. Requests that wait are turned down when their turn comes. What is left of the images is
still released, each by the context that made it.
-/

set_option autoImplicit false

namespace Compositor

variable {engine : Engine} {recorded : List ImageHandle}

/-! ## Requests for images -/

namespace ImageRequest

/-- The reply of a lost engine. -/
def refused : ImageRequest → Except EngineError Unit
  | .cache _ => .error .contextLost
  | .unbind _ => .ok ()

theorem apply_spent (lost : engine.lost = true) (request : ImageRequest) :
    (request.apply engine).1 = request.refused ∧ engine.Spent (request.apply engine).2 := by
  cases request with
  | cache buffer =>
      rw [apply, (Engine.refuses lost).bind buffer]
      exact ⟨rfl, .refl lost⟩
  | unbind buffer => exact ⟨rfl, .unbind lost buffer⟩

end ImageRequest

namespace ImageRequests

variable {requests : ImageRequests} {ticket : Ticket} {request : ImageRequest}

theorem applyAll_spent (lost : engine.lost = true) (waiting : List (Ticket × ImageRequest)) :
    (applyAll waiting engine).1 = waiting.map (fun entry => (entry.1, entry.2.refused)) ∧
      engine.Spent (applyAll waiting engine).2 := by
  induction waiting generalizing engine with
  | nil => exact ⟨rfl, .refl lost⟩
  | cons entry rest ih =>
      obtain ⟨reply, spent⟩ := entry.2.apply_spent lost
      obtain ⟨replies, later⟩ := ih spent.lost
      refine ⟨?_, spent.trans later⟩
      rw [applyAll]
      simp only [reply, replies, List.map_cons]

/-- The request waits to be turned down, or it was. -/
def Pledges (requests : ImageRequests) (ticket : Ticket) (request : ImageRequest) : Prop :=
  (ticket, request) ∈ requests.waiting ∨ (ticket, request.refused) ∈ requests.replies

theorem Pledges.submit (pledges : requests.Pledges ticket request) (other : ImageRequest) :
    (requests.submit other).2.Pledges ticket request :=
  pledges.imp (List.mem_append_left _) id

theorem serveMany_replies (lost : engine.lost = true) {count : Nat}
    (member : (ticket, request) ∈ requests.waiting.take count) :
    (ticket, request.refused) ∈ (serveMany count requests engine).1.replies := by
  rw [serveMany_eq, (applyAll_spent lost _).1]
  exact List.mem_append_right _ (List.mem_map.mpr ⟨_, member, rfl⟩)

theorem Pledges.serveMany (pledges : requests.Pledges ticket request) (lost : engine.lost = true)
    (count : Nat) : (serveMany count requests engine).1.Pledges ticket request := by
  rcases pledges with waits | replied
  · rw [← List.take_append_drop count requests.waiting] at waits
    rcases List.mem_append.mp waits with served | left
    · exact .inr (serveMany_replies lost served)
    · refine .inl ?_
      rw [serveMany_eq]
      exact left
  · refine .inr ?_
    rw [serveMany_eq]
    exact List.mem_append_left _ replied

theorem Pledges.collect (pledges : requests.Pledges ticket request) {other : Ticket}
    (different : other ≠ ticket) : (requests.collect other).2.Pledges ticket request := by
  unfold ImageRequests.collect
  split
  · exact pledges.imp_right fun replied =>
      List.mem_filter.mpr ⟨replied, by simpa using different.symm⟩
  · exact pledges

theorem Pledges.await (pledges : requests.Pledges ticket request) (lost : engine.lost = true)
    {other : Ticket} (different : other ≠ ticket) :
    (requests.await other engine).2.1.Pledges ticket request := by
  have served : (requests.serveThrough other engine).1.Pledges ticket request := by
    unfold serveThrough
    split
    · exact pledges.serveMany lost _
    · exact pledges
  exact served.collect different

theorem Pledges.serveThrough (pledges : requests.Pledges ticket request)
    (ticketed : requests.Ticketed) (lost : engine.lost = true) :
    (ticket, request.refused) ∈ (requests.serveThrough ticket engine).1.replies := by
  unfold ImageRequests.serveThrough
  cases found : requests.waiting.findIdx? (·.1 == ticket) with
  | none =>
      have absent := List.findIdx?_eq_none_iff.mp found
      exact pledges.resolve_left fun waits => by simpa using absent _ waits
  | some position =>
      obtain ⟨within, same, -⟩ := List.findIdx?_eq_some_iff_getElem.mp found
      rcases pledges with waits | replied
      · have distinct := (List.nodup_append.mp ticketed.distinct).1
        have own : requests.waiting[position].1 = ticket := by simpa using same
        have only : requests.waiting[position] = (ticket, request) :=
          List.inj_on_of_nodup_map distinct (List.getElem_mem within) waits own
        have first : (ticket, request) ∈ requests.waiting.take (position + 1) :=
          List.mem_take_iff_getElem.mpr ⟨position, by omega, only⟩
        exact serveMany_replies lost first
      · dsimp only
        rw [serveMany_eq]
        exact List.mem_append_left _ replied

end ImageRequests

/-! ## Every later step -/

namespace Session

variable {session : Session}

theorem operate_spent {after : Engine} {action : Action} {outcome : Outcome}
    (operated : operate engine action = some (outcome, after)) (lost : engine.lost = true) :
    engine.Spent after := by
  have refuses := Engine.refuses lost
  cases action with
  | draw request =>
      rw [operate, refuses.draw request] at operated
      cases operated
      exact .refl lost
  | bind buffer =>
      rw [operate, refuses.bind buffer] at operated
      cases operated
      exact .refl lost
  | flush =>
      rw [operate, refuses.flush] at operated
      cases operated
      exact .refl lost
  | finish =>
      rw [operate, refuses.finish] at operated
      cases operated
      exact .refl lost
  | setProtected wantsSecure =>
      rw [operate, refuses.setProtected wantsSecure] at operated
      cases operated
      exact .refl lost
  | unbind buffer =>
      cases operated
      exact .unbind lost buffer
  | invalidate buffer =>
      cases operated
      exact .invalidate lost buffer
  | cleanup =>
      cases operated
      exact .cleanup lost
  | await fence =>
      cases operated
      exact .onDevice lost (.ofSteps (engine.device.await_steps fence))
  | watchTracer elapsed =>
      cases operated
      exact ⟨lost, rfl, rfl, rfl, .refl _, List.Sublist.refl _, List.Sublist.refl _⟩
  | _ => cases operated

end Session

end Compositor
