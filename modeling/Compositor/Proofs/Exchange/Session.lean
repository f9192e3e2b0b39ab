import Compositor.Proofs.Exchange.Mirrors

/-!
# Image requests, exactly once and in order

Whatever else happens to an engine in the meantime, each request is applied once, in its turn, and
whoever made it is told the result of this very request once.
-/

set_option autoImplicit false

namespace Compositor

namespace Exchange

/-- Each request was applied once or is outstanding, and none overtook another one. -/
structure Ordered (exchange : Exchange) : Prop where
  order : exchange.applied ++ exchange.outstanding = exchange.submitted
  distinct : (exchange.submitted.map Prod.fst).Nodup

end Exchange

namespace Session

/-- Under every schedule the session goes through the states of one run, in which each request is
one operation, in the order of the requests. Whoever waits is told the result of the own request
first, and from then on that the request is gone. Every run of a session is such a schedule. -/
theorem requests_exactly_once (device : Device) (capabilities : Capabilities)
    (order : ReleaseOrder) :
    let start := Session.new device capabilities order
    (∀ actions,
      (Exchange.start start).Follows (start.run actions).2 (start.answers · actions)) ∧
    ∀ turns,
      let exchange := (Exchange.start start).run turns
      Exchange.Sequential start turns ∧ exchange.Ordered ∧
        (∀ ticket, exchange.Answers ticket) ∧ exchange.Delivers ∧
        ∀ later, exchange.CatchesUp later := by
  intro start
  have fresh : (Exchange.start start).Consistent start := .new device capabilities order
  have mirrors : (Exchange.start start).Mirrors start := .new device capabilities order
  refine ⟨mirrors.run fresh, fun turns => ?_⟩
  have consistent := fresh.run turns
  exact ⟨Exchange.sequential fresh turns, ⟨consistent.order, consistent.tickets_nodup⟩,
    consistent.answers, consistent.delivers, consistent.catchesUp⟩

/-- One request is made while the worker holds another one, whose result nobody wants. -/
private def requestsOverlapping : List Exchange.Turn :=
  [.operate (.start ⟨2, false, false, 3000, 3000⟩), .submit (.cache (.plain ⟨1⟩ 8 8)), .work,
    .operate (.bind (.plain ⟨2⟩ 8 8)), .submit (.unbind ⟨1⟩), .abandon ⟨0⟩]

private def requestsFinished : List Exchange.Turn :=
  [.work, .work, .work, .work, .work, .wait ⟨1⟩, .work, .wait ⟨1⟩, .work, .wait ⟨1⟩]

theorem requests_exactly_once_overlapping :
    let start := Session.new (.new .standard) DeviceOptions.standard.capabilities .byArrival
    let exchange := (Exchange.start start).run requestsOverlapping
    let after := exchange.run requestsFinished
    exchange.outstanding = [(⟨0⟩, .cache (.plain ⟨1⟩ 8 8)), (⟨1⟩, .unbind ⟨1⟩)] ∧
      (∃ steps result, let rested := exchange.run (List.replicate steps .work)
        .requested ⟨1⟩ (.unbind ⟨1⟩) result ∈ rested.performed ∧
          ∀ waits, (rested.run (List.replicate waits (.wait ⟨1⟩))).answersTo ⟨1⟩ =
            ReplySlot.told result waits) ∧
      (after.answersTo ⟨1⟩).length = 2 ∧ after.applied = after.submitted ∧
      (exchange.session.run [.bind (.plain ⟨1⟩ 8 8), .unbind ⟨1⟩]).2 = after.session := by
  intro start exchange after
  obtain ⟨-, scheduled⟩ := requests_exactly_once (.new .standard)
    DeviceOptions.standard.capabilities .byArrival
  obtain ⟨-, -, -, delivers, catchesUp⟩ := scheduled requestsOverlapping
  obtain ⟨steps, -, delivered⟩ : exchange.Delivers := delivers
  have outstanding : exchange.outstanding =
      [(⟨0⟩, .cache (.plain ⟨1⟩ 8 8)), (⟨1⟩, .unbind ⟨1⟩)] := by decide
  have unanswered : (exchange.answersTo ⟨1⟩).length = 0 := by decide
  obtain ⟨result, performed, told⟩ := delivered ⟨1⟩ (.unbind ⟨1⟩) (by decide) (by decide)
  simp only [unanswered, Nat.zero_add] at told
  have twice : (after.answersTo ⟨1⟩).length = 2 := by decide
  have answered : after.answersTo ⟨1⟩ ≠ [] := fun none => by simp [none] at twice
  have last : (⟨1⟩, .unbind ⟨1⟩) ∈ after.submitted.getLast? := by decide
  have made : after.submitted.drop exchange.submitted.length = [] := by decide
  obtain ⟨applied, called⟩ := catchesUp requestsFinished (by decide) _ last answered
  have actions : (exchange.outstanding ++
      after.submitted.drop exchange.submitted.length).map (·.2.action) =
        [.bind (.plain ⟨1⟩ 8 8), .unbind ⟨1⟩] := by
    rw [outstanding, made]
    rfl
  rw [actions] at called
  exact ⟨outstanding, ⟨steps, result, performed, told⟩, twice, applied, by rw [called]⟩

end Session

end Compositor
