import Compositor.Proofs.Exchange.Delivery

/-!
# The states of an exchange

A turn performs one operation at most. So an exchange takes the session through every state of a run
of the operations that it performed, and through no other. If nothing but requests was performed, the
run is that of the requests alone.
-/

set_option autoImplicit false

namespace Compositor.Exchange

variable {start : Session} {exchange : Exchange}

/-- Holds for what goes to the engine past the worker. -/
def Turn.operates : Turn → Bool
  | .operate _ => true
  | _ => false

/-! ## What a turn adds -/

theorem hire_performed (exchange : Exchange) : exchange.hire.performed = exchange.performed := by
  unfold hire
  split <;> rfl

theorem operate_performed (exchange : Exchange) (action : Action) :
    (exchange.operate action).performed = exchange.performed ∨ ∃ operation,
      (exchange.operate action).performed = exchange.performed ++ [operation] := by
  unfold operate
  split
  · exact .inl rfl
  · split
    · split
      · exact .inr ⟨_, hire_performed _⟩
      · exact .inl rfl
    · exact .inr ⟨_, rfl⟩

theorem work_performed (exchange : Exchange) :
    exchange.work.performed = exchange.performed ∨ ∃ ticket request result,
      exchange.work.performed = exchange.performed ++ [.requested ticket request result] := by
  unfold work
  split
  · split
    · exact .inl rfl
    · split <;> exact .inl rfl
  · unfold Exchange.apply
    split
    · exact .inl rfl
    · exact .inr ⟨_, _, _, rfl⟩
  · exact .inl rfl
  · exact .inl rfl
  · exact .inl rfl

/-- A turn performs one operation at most, and only a call performs one that is not a request. -/
theorem take_performed (exchange : Exchange) (turn : Turn) :
    (exchange.take turn).performed = exchange.performed ∨ ∃ operation,
      (exchange.take turn).performed = exchange.performed ++ [operation] ∧
        (turn.operates = false → operation.request?.isSome = true) := by
  cases turn with
  | operate action =>
      refine (exchange.operate_performed action).imp_right fun performed => ?_
      obtain ⟨operation, performed⟩ := performed
      exact ⟨operation, performed, nofun⟩
  | work =>
      refine exchange.work_performed.imp_right fun performed => ?_
      obtain ⟨ticket, request, result, performed⟩ := performed
      exact ⟨_, performed, fun _ => rfl⟩
  | submit request =>
      refine .inl ?_
      change (exchange.submit request).performed = _
      unfold submit
      split <;> rfl
  | wait | abandon | hangUp => exact .inl rfl

theorem run_performed (exchange : Exchange) (turns : List Turn) :
    ∃ more, (exchange.run turns).performed = exchange.performed ++ more ∧
      ((∀ turn ∈ turns, turn.operates = false) →
        ∀ operation ∈ more, operation.request?.isSome = true) := by
  induction turns generalizing exchange with
  | nil => exact ⟨[], (List.append_nil _).symm, fun _ => List.forall_mem_nil _⟩
  | cons turn rest ih =>
      obtain ⟨more, performed, quiet⟩ := ih (exchange.take turn)
      have still : (∀ other ∈ turn :: rest, other.operates = false) →
          ∀ operation ∈ more, operation.request?.isSome = true :=
        fun still => quiet fun other member => still other (List.mem_cons_of_mem _ member)
      rw [run_cons, performed]
      rcases exchange.take_performed turn with same | ⟨operation, added, requested⟩
      · exact ⟨more, by rw [same], still⟩
      · refine ⟨operation :: more, by rw [added, List.append_assoc]; rfl, fun none => ?_⟩
        exact List.forall_mem_cons.mpr ⟨requested (none turn List.mem_cons_self), still none⟩

theorem take_submitted (exchange : Exchange) (turn : Turn) :
    exchange.submitted <+: (exchange.take turn).submitted := by
  cases turn with
  | operate action =>
      change exchange.submitted <+: (exchange.operate action).submitted
      unfold operate hire perform
      split
      · exact List.prefix_rfl
      · split
        · split
          · dsimp only
            split <;> exact List.prefix_rfl
          · exact List.prefix_rfl
        · exact List.prefix_rfl
  | work =>
      refine ⟨[], ?_⟩
      rw [List.append_nil]
      exact exchange.work_submitted.symm
  | submit request =>
      change exchange.submitted <+: (exchange.submit request).submitted
      unfold submit
      split
      · exact List.prefix_append _ _
      · exact List.prefix_rfl
  | wait | abandon | hangUp => exact List.prefix_rfl

theorem run_submitted (exchange : Exchange) (turns : List Turn) :
    exchange.submitted <+: (exchange.run turns).submitted := by
  induction turns generalizing exchange with
  | nil => exact List.prefix_rfl
  | cons turn rest ih => exact (exchange.take_submitted turn).trans (ih _)

/-! ## Moments -/

theorem performed_before (exchange : Exchange) (turns : List Turn) (moment : Nat) :
    (exchange.run (turns.take moment)).performed <+: (exchange.run turns).performed := by
  obtain ⟨more, performed, -⟩ :=
    (exchange.run (turns.take moment)).run_performed (turns.drop moment)
  rw [← run_append, List.take_append_drop] at performed
  exact ⟨more, performed.symm⟩

/-- No number of operations is passed over. -/
theorem moment_of_count (exchange : Exchange) (turns : List Turn) {count : Nat}
    (least : exchange.performed.length ≤ count)
    (most : count ≤ (exchange.run turns).performed.length) :
    ∃ moment, (exchange.run (turns.take moment)).performed.length = count := by
  induction turns generalizing exchange with
  | nil => exact ⟨0, Nat.le_antisymm least most⟩
  | cons turn rest ih =>
      by_cases now : exchange.performed.length = count
      · exact ⟨0, now⟩
      · have next : (exchange.take turn).performed.length ≤ count := by
          rcases exchange.take_performed turn with same | ⟨operation, added, -⟩
          · rw [same]
            exact least
          · rw [added, List.length_append, List.length_singleton]
            omega
        obtain ⟨moment, reached⟩ := ih (exchange.take turn) next most
        exact ⟨moment + 1, reached⟩

/-- What was done is a run of the session, and went through all of its states and no others. -/
structure Sequential (start : Session) (turns : List Turn) : Prop where
  /-- At every moment the operations so far are the first ones of all, and led to the state. -/
  passes : ∀ moment,
    let now := (Exchange.start start).run (turns.take moment)
    now.performed <+: ((Exchange.start start).run turns).performed ∧
      start.run (now.performed.map (·.action)) = (now.performed.map (·.outcome), now.session)
  /-- The first operations, however many, are what was done at some moment. -/
  reaches : ∀ operations, operations <+: ((Exchange.start start).run turns).performed →
    ∃ moment, ((Exchange.start start).run (turns.take moment)).performed = operations

theorem sequential (consistent : (Exchange.start start).Consistent start) (turns : List Turn) :
    Sequential start turns where
  passes moment :=
    ⟨performed_before _ turns moment, (consistent.run (turns.take moment)).sequential⟩
  reaches operations first := by
    obtain ⟨moment, reached⟩ := moment_of_count (.start start) turns (Nat.zero_le _) first.length_le
    have both := List.prefix_of_prefix_length_le (performed_before _ turns moment) first
      (Nat.le_of_eq reached)
    exact ⟨moment, both.eq_of_length reached⟩

/-! ## Requests alone -/

theorem actions_of_requests {operations : List Operation}
    (requested : ∀ operation ∈ operations, operation.request?.isSome = true) :
    operations.map (·.action) = (operations.filterMap (·.request?)).map (·.2.action) := by
  induction operations with
  | nil => rfl
  | cons operation rest ih =>
      obtain ⟨first, others⟩ := List.forall_mem_cons.mp requested
      cases operation with
      | called => cases first
      | requested ticket request result => exact congrArg (request.action :: ·) (ih others)

theorem Consistent.outstanding_of_answered (consistent : exchange.Consistent start)
    {last : Ticket × ImageRequest} (latest : exchange.submitted.getLast? = some last)
    (answered : exchange.answersTo last.1 ≠ []) : exchange.outstanding = [] := by
  by_contra remains
  have order := consistent.order
  rw [← order, List.getLast?_append_of_ne_nil _ remains] at latest
  have member : last.1 ∈ exchange.outstanding.map Prod.fst :=
    List.mem_map_of_mem (List.mem_of_getLast? latest)
  exact consistent.replied_of_answered answered (List.mem_append_right _ member)

/-- As long as nothing else happens, what is performed are the requests that were outstanding and
those that are made meanwhile, in this order, as if each of them had been called. -/
theorem Consistent.quiet (consistent : exchange.Consistent start) {later : List Turn}
    (still : ∀ turn ∈ later, turn.operates = false)
    (done : (exchange.run later).outstanding = []) :
    exchange.session.run ((exchange.outstanding ++
        (exchange.run later).submitted.drop exchange.submitted.length).map (·.2.action)) =
      (((exchange.run later).performed.drop exchange.performed.length).map (·.outcome),
        (exchange.run later).session) := by
  obtain ⟨more, performed, requested⟩ := exchange.run_performed later
  obtain ⟨made, submitted⟩ := exchange.run_submitted later
  have after := consistent.run later
  have applied : more.filterMap (·.request?) = exchange.outstanding ++ made := by
    have order := after.order
    rw [done, List.append_nil, Exchange.applied, performed, List.filterMap_append, ← submitted,
      ← consistent.order, List.append_assoc] at order
    exact List.append_cancel_left order
  have actions : more.map (·.action) = (exchange.outstanding ++ made).map (·.2.action) := by
    rw [← applied]
    exact actions_of_requests (requested still)
  have sequential := after.sequential
  rw [performed, List.map_append, List.map_append, Session.run_run, consistent.sequential, actions,
    Prod.mk.injEq] at sequential
  rw [← submitted, List.drop_left, performed, List.drop_left]
  exact Prod.ext (List.append_cancel_left sequential.1) sequential.2

/-- If only requests happen until the latest one is answered, all of them were applied, and the
session is where calls of the same operations would have led it, with the same outcomes. -/
def CatchesUp (exchange : Exchange) (later : List Turn) : Prop :=
  let after := exchange.run later
  (∀ turn ∈ later, turn.operates = false) →
    ∀ last ∈ after.submitted.getLast?, after.answersTo last.1 ≠ [] →
      after.applied = after.submitted ∧
        exchange.session.run ((exchange.outstanding ++
            after.submitted.drop exchange.submitted.length).map (·.2.action)) =
          ((after.performed.drop exchange.performed.length).map (·.outcome), after.session)

theorem Consistent.catchesUp (consistent : exchange.Consistent start) (later : List Turn) :
    exchange.CatchesUp later := by
  intro still last latest answered
  have reached := consistent.run later
  have done : (exchange.run later).outstanding = [] :=
    reached.outstanding_of_answered latest answered
  have order := reached.order
  rw [done, List.append_nil] at order
  exact ⟨order, consistent.quiet still done⟩

end Compositor.Exchange
