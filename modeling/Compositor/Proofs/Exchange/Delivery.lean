import Compositor.Proofs.Exchange.Order

/-!
# The delivery of results

Whoever waits for a request is told its result once, and from then on that the request is gone. The
worker comes to rest after so many turns, and from then on each wait is answered.
-/

set_option autoImplicit false

namespace Compositor.Exchange

variable {start : Session} {exchange : Exchange}

/-! ## Answers -/

def answersTo (exchange : Exchange) (ticket : Ticket) : List (Except EngineError Unit) :=
  (exchange.slots[ticket.number]?.map (·.answers)).getD []

/-- The request was made, and someone may still wait for its result. -/
def receives (exchange : Exchange) (ticket : Ticket) : Bool :=
  (exchange.slots[ticket.number]?.map (·.hasReceiver)).getD false

/-- What was answered about a request, if anything. -/
def Answers (exchange : Exchange) (ticket : Ticket) : Prop :=
  exchange.answersTo ticket = [] ∨ ∃ request result further,
    .requested ticket request result ∈ exchange.performed ∧
      (ticket, request) ∈ exchange.submitted ∧
      exchange.answersTo ticket = result :: List.replicate further ReplySlot.dropped

theorem performed_of_result {ticket : Ticket} {result : Except EngineError Unit}
    (member : (ticket, result) ∈ exchange.results) :
    ∃ request, .requested ticket request result ∈ exchange.performed := by
  obtain ⟨operation, inside, same⟩ := List.mem_filterMap.mp member
  cases operation with
  | called => cases same
  | requested =>
      cases same
      exact ⟨_, inside⟩

namespace Consistent

theorem submitted_of_performed (consistent : exchange.Consistent start) {ticket : Ticket}
    {request : ImageRequest} {result : Except EngineError Unit}
    (member : .requested ticket request result ∈ exchange.performed) :
    (ticket, request) ∈ exchange.submitted := by
  rw [← consistent.order]
  exact List.mem_append_left _ (List.mem_filterMap.mpr ⟨_, member, rfl⟩)

theorem located (consistent : exchange.Consistent start) {ticket : Ticket} {slot : ReplySlot}
    (found : exchange.slots[ticket.number]? = some slot) :
    ticket ∈ exchange.unreplied ∨ ∃ result, (ticket, result) ∈ exchange.replies := by
  obtain ⟨issued, -⟩ := List.getElem?_eq_some_iff.mp found
  rcases List.mem_append.mp (consistent.issued_iff.mpr issued) with replied | unreplied
  · obtain ⟨⟨_, result⟩, member, rfl⟩ := List.mem_map.mp replied
    exact .inr ⟨result, member⟩
  · exact .inl unreplied

theorem answers (consistent : exchange.Consistent start) (ticket : Ticket) :
    exchange.Answers ticket := by
  unfold Answers answersTo
  cases found : exchange.slots[ticket.number]? with
  | none => exact .inl rfl
  | some slot =>
      rcases consistent.located found with waits | ⟨result, member⟩
      · exact .inl (consistent.awaited ticket waits slot found).answers
      · obtain ⟨replied, -⟩ := consistent.replied ticket result member slot found
        refine replied.answers.imp_right fun told => ?_
        obtain ⟨further, told⟩ := told
        have sent : (ticket, result) ∈ exchange.results := by
          rw [← consistent.results]
          exact List.mem_append_left _ member
        obtain ⟨request, performed⟩ := performed_of_result sent
        exact ⟨request, result, further, performed, consistent.submitted_of_performed performed,
          told⟩

/-- Nothing more will be sent to a slot that was sent a result, once the worker has dropped the
request. -/
theorem sender_gone (consistent : exchange.Consistent start)
    (calm : exchange.worker = .idle ∨ exchange.worker = .stopped) {ticket : Ticket}
    (replied : ticket ∉ exchange.unreplied) {slot : ReplySlot}
    (found : exchange.slots[ticket.number]? = some slot) : slot.hasSender = false := by
  obtain ⟨result, member⟩ := (consistent.located found).resolve_left replied
  obtain ⟨-, sending⟩ := consistent.replied ticket result member slot found
  refine Bool.eq_false_iff.mpr fun has => ?_
  rcases calm with idle | stopped
  · exact nomatch idle.symm.trans (sending has)
  · exact nomatch stopped.symm.trans (sending has)

/-- What was answered is not outstanding. -/
theorem replied_of_answered (consistent : exchange.Consistent start) {ticket : Ticket}
    (answered : exchange.answersTo ticket ≠ []) : ticket ∉ exchange.unreplied := by
  intro waits
  unfold answersTo at answered
  cases found : exchange.slots[ticket.number]? with
  | none => simp [found] at answered
  | some slot =>
      rw [found] at answered
      exact answered (consistent.awaited ticket waits slot found).answers

end Consistent

/-! ## The worker comes to rest -/

/-- There is nothing left to do for the worker. -/
structure AtRest (exchange : Exchange) : Prop where
  worker : exchange.worker = .idle ∨ exchange.worker = .stopped
  channel : exchange.channel = []

/-- The turns that the worker needs for what is in the channel. -/
def toil (exchange : Exchange) : Nat :=
  match exchange.worker with
  | .idle => 4 * exchange.channel.length
  | .holding .. => 4 * exchange.channel.length + 3
  | .sending .. => 4 * exchange.channel.length + 2
  | .sent _ => 4 * exchange.channel.length + 1
  | .stopped => 0

theorem Consistent.work_toil (consistent : exchange.Consistent start) :
    exchange.AtRest ∨ exchange.work.toil < exchange.toil := by
  obtain ⟨session, channel, isOpen, worker, slots, submitted, performed, replies⟩ := exchange
  cases worker with
  | idle =>
      cases channel with
      | nil => exact .inl ⟨.inl rfl, rfl⟩
      | cons entry rest =>
          refine .inr ?_
          change 4 * rest.length + 3 < 4 * (rest.length + 1)
          omega
  | holding ticket request =>
      obtain ⟨engine, occupied⟩ := Option.isSome_iff_exists.mp (consistent.occupied nofun)
      refine .inr ?_
      change toil (Exchange.apply _ ticket request) < _
      rw [Exchange.apply, occupied]
      exact Nat.lt_succ_self _
  | sending | sent => exact .inr (Nat.lt_succ_self _)
  | stopped => exact .inl ⟨.inr rfl, (consistent.closed rfl).1⟩

theorem Consistent.rests (consistent : exchange.Consistent start) :
    ∃ steps, (exchange.run (List.replicate steps .work)).AtRest := by
  induction measure : exchange.toil using Nat.strongRecOn generalizing exchange with
  | ind toil ih =>
      rcases consistent.work_toil with rest | less
      · exact ⟨0, rest⟩
      · obtain ⟨steps, rest⟩ := ih _ (measure ▸ less) consistent.work rfl
        exact ⟨steps + 1, rest⟩

/-! ## Waiting -/

theorem changeSlot_keeps {α : Type} {project : ReplySlot → α} {change : ReplySlot → ReplySlot}
    (same : ∀ slot, project (change slot) = project slot) (exchange : Exchange) (ticket : Ticket)
    (number : Nat) :
    (exchange.changeSlot ticket change).slots[number]?.map project =
      exchange.slots[number]?.map project := by
  rw [changeSlot, List.getElem?_modify, Option.map_eq_map, Option.map_map]
  refine Option.map_congr fun slot _ => ?_
  rw [Function.comp_apply, apply_ite project, same, ite_self]

theorem changeSlot_all {holds : ReplySlot → Prop} {change : ReplySlot → ReplySlot}
    (keeps : ∀ slot, holds slot → holds (change slot)) (exchange : Exchange) (ticket : Ticket)
    (all : ∀ slot ∈ exchange.slots, holds slot) :
    ∀ slot ∈ (exchange.changeSlot ticket change).slots, holds slot := by
  intro slot member
  obtain ⟨number, found⟩ := List.mem_iff_getElem?.mp member
  rw [changeSlot, List.getElem?_modify] at found
  obtain ⟨earlier, before, rfl⟩ := Option.map_eq_some_iff.mp found
  have held := all earlier (List.mem_of_getElem? before)
  split
  · exact keeps earlier held
  · exact held

theorem wait_receives (exchange : Exchange) (ticket : Ticket) :
    (exchange.take (.wait ticket)).receives ticket = exchange.receives ticket := by
  refine congrArg (Option.getD · false) (changeSlot_keeps ?_ exchange ticket ticket.number)
  intro slot
  rw [ReplySlot.wait]
  split <;> rfl

theorem AtRest.outstanding (rest : exchange.AtRest) : exchange.outstanding = [] := by
  rw [Exchange.outstanding, rest.channel, (ImageWorker.clear rest.worker).1]
  rfl

theorem AtRest.unreplied (rest : exchange.AtRest) : exchange.unreplied = [] := by
  rw [Exchange.unreplied, rest.outstanding, (ImageWorker.clear rest.worker).2]
  rfl

theorem Consistent.wait_answers (consistent : exchange.Consistent start) (rest : exchange.AtRest)
    {ticket : Ticket} (receives : exchange.receives ticket = true) :
    ((exchange.take (.wait ticket)).answersTo ticket).length =
      (exchange.answersTo ticket).length + 1 := by
  cases found : exchange.slots[ticket.number]? with
  | none => simp [Exchange.receives, found] at receives
  | some slot =>
      have receiver : slot.hasReceiver = true := by
        simpa [Exchange.receives, found] using receives
      have sender : slot.hasSender = false :=
        consistent.sender_gone rest.worker (by rw [rest.unreplied]; exact List.not_mem_nil) found
      simp [answersTo, Exchange.take, changeSlot_own, found, ReplySlot.wait_eq sender receiver]

/-- Waiting leaves the worker alone, and whoever waits may wait again. -/
theorem waits_answers (consistent : exchange.Consistent start) (rest : exchange.AtRest)
    {ticket : Ticket} (receives : exchange.receives ticket = true) (waits : Nat) :
    ((exchange.run (List.replicate waits (.wait ticket))).answersTo ticket).length =
      (exchange.answersTo ticket).length + waits := by
  induction waits generalizing exchange with
  | zero => rfl
  | succ waits ih =>
      have again : (exchange.take (.wait ticket)).receives ticket = true := by
        rw [wait_receives]
        exact receives
      have told := ih (consistent.take (.wait ticket)) ⟨rest.worker, rest.channel⟩ again
      have first := consistent.wait_answers rest receives
      rw [List.replicate_succ, run_cons]
      omega

/-! ## The worker leaves answers alone -/

theorem work_keeps {α : Type} {project : ReplySlot → α}
    (send : ∀ slot result, project (ReplySlot.send slot result) = project slot)
    (drop : ∀ slot, project (ReplySlot.dropSender slot) = project slot)
    (exchange : Exchange) (number : Nat) :
    exchange.work.slots[number]?.map project = exchange.slots[number]?.map project := by
  unfold work
  split
  · split
    · rfl
    · split <;> rfl
  · unfold Exchange.apply
    split <;> rfl
  · exact changeSlot_keeps (fun slot => send slot _) exchange _ number
  · exact changeSlot_keeps drop exchange _ number
  · rfl

theorem work_answersTo (exchange : Exchange) (ticket : Ticket) :
    exchange.work.answersTo ticket = exchange.answersTo ticket := by
  refine congrArg (Option.getD · []) (work_keeps ?_ (fun _ => rfl) exchange ticket.number)
  intro slot result
  rw [ReplySlot.send]
  split <;> rfl

theorem work_receives (exchange : Exchange) (ticket : Ticket) :
    exchange.work.receives ticket = exchange.receives ticket := by
  refine congrArg (Option.getD · false) (work_keeps ?_ (fun _ => rfl) exchange ticket.number)
  intro slot result
  rw [ReplySlot.send]
  split <;> rfl

theorem work_submitted (exchange : Exchange) : exchange.work.submitted = exchange.submitted := by
  unfold work
  split
  · split
    · rfl
    · split <;> rfl
  · unfold Exchange.apply
    split <;> rfl
  · rfl
  · rfl
  · rfl

/-- What the worker does leaves what was made and what was answered as it is. -/
theorem work_run (exchange : Exchange) (steps : Nat) :
    (exchange.run (List.replicate steps .work)).submitted = exchange.submitted ∧ ∀ ticket,
      (exchange.run (List.replicate steps .work)).answersTo ticket = exchange.answersTo ticket ∧
      (exchange.run (List.replicate steps .work)).receives ticket = exchange.receives ticket := by
  induction steps generalizing exchange with
  | zero => exact ⟨rfl, fun _ => ⟨rfl, rfl⟩⟩
  | succ steps ih =>
      obtain ⟨submitted, kept⟩ := ih exchange.work
      refine ⟨submitted.trans exchange.work_submitted, fun ticket => ?_⟩
      obtain ⟨answers, receives⟩ := kept ticket
      exact ⟨answers.trans (exchange.work_answersTo ticket),
        receives.trans (exchange.work_receives ticket)⟩

/-! ## Delivery -/

/-- If the worker goes on, every request is applied, and then every wait for its result is answered,
the first one ever by the result. -/
def Delivers (exchange : Exchange) : Prop :=
  ∃ steps, let rested := exchange.run (List.replicate steps .work)
    rested.applied = exchange.submitted ∧
      ∀ ticket request, (ticket, request) ∈ exchange.submitted →
        exchange.receives ticket = true →
        ∃ result, .requested ticket request result ∈ rested.performed ∧
          ∀ waits, (rested.run (List.replicate waits (.wait ticket))).answersTo ticket =
            ReplySlot.told result ((exchange.answersTo ticket).length + waits)

theorem waits_performed (exchange : Exchange) (ticket : Ticket) (waits : Nat) :
    (exchange.run (List.replicate waits (.wait ticket))).performed = exchange.performed := by
  induction waits generalizing exchange with
  | zero => rfl
  | succ waits ih => exact ih _

namespace Consistent

/-- A request was applied once, so it has one result. -/
theorem result_unique (consistent : exchange.Consistent start) {ticket : Ticket}
    {request other : ImageRequest} {result told : Except EngineError Unit}
    (left : .requested ticket request result ∈ exchange.performed)
    (right : .requested ticket other told ∈ exchange.performed) : result = told := by
  have distinct := consistent.tickets_nodup
  rw [← consistent.order, List.map_append, ← results_tickets] at distinct
  have results := (List.nodup_append.mp distinct).1
  have first : (ticket, result) ∈ exchange.results := List.mem_filterMap.mpr ⟨_, left, rfl⟩
  have second : (ticket, told) ∈ exchange.results := List.mem_filterMap.mpr ⟨_, right, rfl⟩
  exact congrArg Prod.snd (List.inj_on_of_nodup_map results first second rfl)

theorem told (consistent : exchange.Consistent start) {ticket : Ticket} {request : ImageRequest}
    {result : Except EngineError Unit}
    (member : .requested ticket request result ∈ exchange.performed) :
    exchange.answersTo ticket = ReplySlot.told result (exchange.answersTo ticket).length := by
  rcases consistent.answers ticket with nothing | ⟨other, given, further, performed, -, answers⟩
  · rw [nothing]
    rfl
  · rw [answers, consistent.result_unique performed member, List.length_cons,
      List.length_replicate]
    rfl

theorem delivers (consistent : exchange.Consistent start) : exchange.Delivers := by
  obtain ⟨steps, rest⟩ := consistent.rests
  have rested := consistent.run (List.replicate steps .work)
  obtain ⟨submitted, kept⟩ := exchange.work_run steps
  have applied : (exchange.run (List.replicate steps .work)).applied = exchange.submitted := by
    have order := rested.order
    rwa [rest.outstanding, List.append_nil, submitted] at order
  refine ⟨steps, applied, fun ticket request made receives => ?_⟩
  obtain ⟨answers, receiver⟩ := kept ticket
  rw [← applied] at made
  obtain ⟨operation, member, same⟩ := List.mem_filterMap.mp made
  cases operation with
  | called => cases same
  | requested _ _ result =>
      cases same
      refine ⟨result, member, fun waits => ?_⟩
      have waited := rested.run (List.replicate waits (.wait ticket))
      have performed := exchange.run (List.replicate steps .work) |>.waits_performed ticket waits
      rw [waited.told (performed ▸ member),
        waits_answers rested rest (receiver.trans receives), answers]

end Consistent

end Compositor.Exchange
