import Compositor.Proofs.Outline.Frame
import Compositor.Proofs.Tickets

/-!
# Operations, apart from timing

What the operations and the requests for images do to the outline of an engine. Cleaning up, waiting
and draining do nothing to it.
-/

set_option autoImplicit false

namespace Compositor

variable {engine : Engine}

namespace Engine

theorem poll_outline (engine : Engine) : engine.poll.outline = engine.outline := rfl

/-! ## Buffers and targets -/

theorem bind_outline (alive : engine.lost = false) {buffer : Buffer}
    (usable : (engine.bind buffer).2.device.lost = false) :
    engine.outline.bind buffer = ((engine.bind buffer).1, (engine.bind buffer).2.outline) ∧
      (engine.bind buffer).2.lost = false := by
  have bound := @bindTexture_outline engine.poll buffer
  have kept : (engine.poll.bindTexture buffer).2.lost = false := alive
  have survives := @Outline.bindTexture_survivable engine.poll.outline buffer
  unfold Outline.bind
  unfold bind at usable ⊢
  simp only [alive, Bool.false_eq_true, if_false] at usable ⊢
  rw [← poll_outline]
  cases outcome : engine.poll.bindTexture buffer with
  | mk result after =>
      rw [outcome] at usable bound kept
      cases result with
      | ok handle =>
          rw [bound usable]
          exact ⟨rfl, kept⟩
      | error cause =>
          have same := bound (((Deals.refl after).noteFailure cause.isFatal).usable usable)
          rw [same] at survives ⊢
          have survivable : cause.isFatal = false := survives rfl
          dsimp only
          rw [survivable]
          exact ⟨rfl, kept⟩

theorem unbind_outlined (engine : Engine) (buffer : BufferId) :
    (engine.unbind buffer).outline = engine.outline.unbind buffer := by
  simp only [unbind, retire_outline]
  exact unbind_outline engine.poll buffer

theorem invalidate_outlined (engine : Engine) (buffer : BufferId) :
    (engine.invalidate buffer).outline = engine.outline.invalidate buffer := by
  simp only [invalidate, retire_outline]
  exact invalidate_outline engine.poll buffer

/-! ## Waiting -/

theorem flush_outline (alive : engine.lost = false)
    (usable : engine.flush.2.device.lost = false) :
    (∃ fence, engine.flush.1 = .ok fence) ∧
      engine.flush.2.outline = { engine.outline with issued := engine.outline.issued.next } := by
  unfold flush at usable ⊢
  simp only [alive, Bool.false_eq_true, if_false] at usable ⊢
  refine ⟨(submit_settles _ _).2 usable, ?_⟩
  rw [submit_outline]
  rfl

theorem finish_outline (alive : engine.lost = false)
    (usable : engine.finish.2.device.lost = false) :
    engine.finish.1 = true ∧ engine.finish.2.outline = engine.outline := by
  have failed := @Device.finish_failed engine.device
  have plain := Device.Plain.finish engine.device
  unfold finish at usable ⊢
  simp only [alive, Bool.false_eq_true, if_false] at usable ⊢
  cases outcome : engine.device.finish with
  | mk drained device =>
      rw [outcome] at usable failed plain
      cases drained with
      | false => exact absurd ((failed rfl).symm.trans usable) (by simp)
      | true => exact ⟨rfl, outline_of_plain plain⟩

theorem cleanup_outline (engine : Engine) : engine.cleanup.2.outline = engine.outline := by
  have canvas := engine.cleanup_plain.canvas
  have issued := engine.strategy.cleanup_issued engine.device engine.progress
  have same : engine.cleanup.2.outline =
      { engine.outline with
        issued := (engine.strategy.cleanup engine.device engine.progress).2.1.lastIssued
        canvas := engine.cleanup.2.device.canvas } := by
    unfold cleanup
    cases engine.strategy.cleanup engine.device engine.progress with
    | mk result rest => cases result <;> rfl
  rw [same, canvas, issued]
  rfl

end Engine

/-! ## Requests for images -/

namespace Outline

def apply (outline : Outline) : ImageRequest → Except EngineError Unit × Outline
  | .cache buffer => outline.bind buffer
  | .unbind buffer => (.ok (), outline.unbind buffer)

def applyAll : List (Ticket × ImageRequest) → Outline →
    List (Ticket × Except EngineError Unit) × Outline
  | [], outline => ([], outline)
  | (ticket, request) :: rest, outline =>
    let (result, outline) := outline.apply request
    let (replies, outline) := applyAll rest outline
    ((ticket, result) :: replies, outline)

/-- The worker applies the oldest requests. -/
def serveMany (count : Nat) (requests : ImageRequests) (outline : Outline) :
    ImageRequests × Outline :=
  let (replies, outline) := applyAll (requests.waiting.take count) outline
  ({ requests with
      waiting := requests.waiting.drop count
      replies := requests.replies ++ replies },
    outline)

def await (requests : ImageRequests) (ticket : Ticket) (outline : Outline) :
    Except EngineError Unit × ImageRequests × Outline :=
  let count := (requests.waiting.findIdx? (·.1 == ticket)).elim 0 (· + 1)
  let (served, outline) := serveMany count requests outline
  let (result, requests) := served.collect ticket
  (result, requests, outline)

end Outline

namespace ImageRequest

theorem apply_outline (alive : engine.lost = false) {request : ImageRequest}
    (usable : (request.apply engine).2.device.lost = false) :
    engine.outline.apply request = ((request.apply engine).1, (request.apply engine).2.outline) ∧
      (request.apply engine).2.lost = false := by
  cases request with
  | cache buffer => exact Engine.bind_outline alive usable
  | unbind buffer => exact ⟨congrArg _ (engine.unbind_outlined buffer).symm, alive⟩

end ImageRequest

namespace ImageRequests

theorem applyAll_deals (waiting : List (Ticket × ImageRequest)) (engine : Engine) :
    engine.Deals 0 (applyAll waiting engine).2 := by
  induction waiting generalizing engine with
  | nil => exact .refl engine
  | cons entry rest ih => exact (entry.2.apply_deals engine).trans (ih _)

theorem applyAll_outline {waiting : List (Ticket × ImageRequest)} (alive : engine.lost = false)
    (usable : (applyAll waiting engine).2.device.lost = false) :
    Outline.applyAll waiting engine.outline =
      ((applyAll waiting engine).1, (applyAll waiting engine).2.outline) := by
  induction waiting generalizing engine with
  | nil => rfl
  | cons entry rest ih =>
      have first := (applyAll_deals rest (entry.2.apply engine).2).usable usable
      obtain ⟨applied, aliveStill⟩ := ImageRequest.apply_outline alive first
      have later := ih aliveStill usable
      simp only [Outline.applyAll, applied, later]
      rfl

variable {requests : ImageRequests}

theorem serveMany_outline {count : Nat} (alive : engine.lost = false)
    (usable : (serveMany count requests engine).2.device.lost = false) :
    Outline.serveMany count requests engine.outline =
      ((serveMany count requests engine).1, (serveMany count requests engine).2.outline) := by
  rw [serveMany_eq] at usable ⊢
  rw [Outline.serveMany, applyAll_outline alive usable]

theorem await_outline {ticket : Ticket} (alive : engine.lost = false)
    (usable : (requests.await ticket engine).2.2.device.lost = false) :
    Outline.await requests ticket engine.outline =
      ((requests.await ticket engine).1, (requests.await ticket engine).2.1,
        (requests.await ticket engine).2.2.outline) := by
  unfold await at usable ⊢
  rw [serveThrough_eq] at usable ⊢
  rw [Outline.await, serveMany_outline alive usable]

end ImageRequests

end Compositor
