import Compositor.ImageRequests

/-!
# The worker

However many requests the worker applies, it applies the oldest ones, one after another, and whatever
each of them keeps is kept.
-/

set_option autoImplicit false

namespace Compositor.ImageRequests

/-- Applies requests one after another, and gives the reply to each. -/
def applyAll : List (Ticket × ImageRequest) → Engine →
    List (Ticket × Except EngineError Unit) × Engine
  | [], engine => ([], engine)
  | (ticket, request) :: rest, engine =>
    let (result, engine) := request.apply engine
    let (replies, engine) := applyAll rest engine
    ((ticket, result) :: replies, engine)

theorem applyAll_tickets (waiting : List (Ticket × ImageRequest)) (engine : Engine) :
    (applyAll waiting engine).1.map Prod.fst = waiting.map Prod.fst := by
  induction waiting generalizing engine with
  | nil => rfl
  | cons entry rest ih => exact congrArg (entry.1 :: ·) (ih _)

theorem serveMany_eq (count : Nat) (requests : ImageRequests) (engine : Engine) :
    serveMany count requests engine =
      ({ requests with
          waiting := requests.waiting.drop count
          replies := requests.replies ++ (applyAll (requests.waiting.take count) engine).1 },
        (applyAll (requests.waiting.take count) engine).2) := by
  induction count generalizing requests engine with
  | zero => simp [serveMany, applyAll]
  | succ count ih =>
      rw [serveMany, serve]
      cases waiting : requests.waiting with
      | nil =>
          dsimp only
          rw [ih, waiting]
          simp
      | cons entry rest =>
          dsimp only
          rw [ih]
          simp [applyAll]

theorem serveAll_eq (requests : ImageRequests) (engine : Engine) :
    requests.serveAll engine =
      ({ requests with
          waiting := []
          replies := requests.replies ++ (applyAll requests.waiting engine).1 },
        (applyAll requests.waiting engine).2) := by
  rw [serveAll, serveMany_eq, List.drop_length, List.take_length]

theorem serveThrough_eq (requests : ImageRequests) (ticket : Ticket) (engine : Engine) :
    requests.serveThrough ticket engine =
      serveMany ((requests.waiting.findIdx? (·.1 == ticket)).elim 0 (· + 1)) requests engine := by
  unfold serveThrough
  cases requests.waiting.findIdx? (·.1 == ticket) <;> rfl

/-! ## What is kept -/

section Keeps

variable {holds : Engine → Prop}
  (applies : ∀ (request : ImageRequest) engine, holds engine → holds (request.apply engine).2)

include applies in
theorem serve_keeps (requests : ImageRequests) {engine : Engine} (start : holds engine) :
    holds (requests.serve engine).2 := by
  unfold serve
  split
  · exact start
  · exact applies _ engine start

include applies in
theorem serveMany_keeps (count : Nat) (requests : ImageRequests) {engine : Engine}
    (start : holds engine) : holds (serveMany count requests engine).2 := by
  induction count generalizing requests engine with
  | zero => exact start
  | succ count ih => exact ih _ (serve_keeps applies requests start)

include applies in
theorem await_keeps (requests : ImageRequests) (ticket : Ticket) {engine : Engine}
    (start : holds engine) : holds (requests.await ticket engine).2.2 := by
  unfold await serveThrough
  dsimp only
  split
  · exact serveMany_keeps applies _ requests start
  · exact start

end Keeps

end Compositor.ImageRequests
