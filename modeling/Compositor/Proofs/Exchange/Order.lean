import Compositor.Proofs.Exchange.Schedule

/-!
# The order of image requests

Under every schedule, what was done is a run of the session: each request that was applied stands in
it once, as the operation that it asks for. The requests stand there in the order in which they were
made, and only the latest ones may be missing. The result of each request is in its own slot.
-/

set_option autoImplicit false

namespace Compositor

/-! ## Steps of the session -/

namespace Session

variable {session : Session}

theorem run_concat (session : Session) (actions : List Action) (action : Action) :
    session.run (actions ++ [action]) =
      ((session.run actions).1 ++ [((session.run actions).2.step action).1],
        ((session.run actions).2.step action).2) := by
  rw [run, List.foldl_append]
  rfl

theorem run_run (session : Session) (first second : List Action) :
    session.run (first ++ second) =
      ((session.run first).1 ++ ((session.run first).2.run second).1,
        ((session.run first).2.run second).2) := by
  induction second using List.reverseRecOn with
  | nil =>
      rw [List.append_nil]
      exact Prod.ext (List.append_nil _).symm rfl
  | append_singleton second action ih =>
      rw [← List.append_assoc, run_concat, ih, run_concat, List.append_assoc]

/-- An engine stays, and none comes, unless the action says so. -/
theorem step_engine? (session : Session) {action : Action} (stays : action.replacesEngine = false) :
    (session.step action).2.engine?.isSome = session.engine?.isSome := by
  have stepped := session.step_stepped action
  generalize session.step action = result at stepped
  cases stepped with
  | started | stopped => cases stays
  | scripted scripted =>
      obtain ⟨device, same⟩ := script_eq scripted
      rw [same, setDevice_engine?, Option.isSome_map]
  | absent => rfl
  | operated occupied =>
      rw [occupied]
      rfl
  | requested occupied concerns =>
      cases action with
      | submit => rfl
      | serve | collect =>
          rw [occupied]
          rfl
      | _ => cases concerns

/-- What the worker does for a request is what the operation does that the request asks for. -/
theorem step_request {engine : Engine} (occupied : session.engine? = some engine)
    (request : ImageRequest) :
    session.step request.action =
      (request.outcome (request.apply engine).1, session.setEngine (request.apply engine).2) := by
  cases request with
  | cache buffer => simp [ImageRequest.action, step, script, occupied, operate,
      ImageRequest.outcome, ImageRequest.apply]
  | unbind buffer => simp [ImageRequest.action, step, script, occupied, operate,
      ImageRequest.outcome, ImageRequest.apply]

end Session

/-! ## Where requests are -/

namespace ImageWorker

def held : ImageWorker → List (Ticket × ImageRequest)
  | .holding ticket request => [(ticket, request)]
  | _ => []

def unsent : ImageWorker → List (Ticket × Except EngineError Unit)
  | .sending ticket result => [(ticket, result)]
  | _ => []

theorem clear {worker : ImageWorker} (calm : worker = .idle ∨ worker = .stopped) :
    worker.held = [] ∧ worker.unsent = [] := by
  rcases calm with rfl | rfl <;> exact ⟨rfl, rfl⟩

end ImageWorker

namespace Exchange

variable {start : Session} {exchange : Exchange}

/-- The requests that were applied, the first one first. -/
def applied (exchange : Exchange) : List (Ticket × ImageRequest) :=
  exchange.performed.filterMap (·.request?)

def results (exchange : Exchange) : List (Ticket × Except EngineError Unit) :=
  exchange.performed.filterMap (·.reply?)

/-- The requests that were made and not applied. -/
def outstanding (exchange : Exchange) : List (Ticket × ImageRequest) :=
  exchange.worker.held ++ exchange.channel

/-- The requests whose result was not sent. -/
def unreplied (exchange : Exchange) : List Ticket :=
  exchange.worker.unsent.map Prod.fst ++ exchange.outstanding.map Prod.fst

/-- Nothing is lost, doubled or out of order, neither requests nor results. -/
structure Consistent (start : Session) (exchange : Exchange) : Prop where
  sequential : start.run (exchange.performed.map (·.action)) =
    (exchange.performed.map (·.outcome), exchange.session)
  order : exchange.applied ++ exchange.outstanding = exchange.submitted
  results : exchange.replies ++ exchange.worker.unsent = exchange.results
  tickets : exchange.submitted.map Prod.fst = (List.range exchange.slots.length).map Ticket.mk
  /-- As long as the worker is there, so is its engine. -/
  manned : exchange.worker = .stopped ∨ exchange.session.engine?.isSome = true
  closed : exchange.worker = .stopped → exchange.channel = [] ∧ exchange.isOpen = false
  awaited : ∀ ticket ∈ exchange.unreplied, ∀ slot ∈ exchange.slots[ticket.number]?, slot.Awaited
  sent : ∀ ticket, exchange.worker = .sent ticket → ticket ∈ exchange.replies.map Prod.fst
  replied : ∀ ticket result, (ticket, result) ∈ exchange.replies →
    ∀ slot ∈ exchange.slots[ticket.number]?, slot.Replied result ∧
      (slot.hasSender = true → exchange.worker = .sent ticket)

namespace Consistent

theorem new (device : Device) (capabilities : Capabilities) (order : ReleaseOrder) :
    Consistent (.new device capabilities order) (.start (.new device capabilities order)) where
  sequential := rfl
  order := rfl
  results := rfl
  tickets := rfl
  manned := .inl rfl
  closed := fun _ => ⟨rfl, rfl⟩
  awaited := nofun
  sent := nofun
  replied := nofun

theorem results_tickets (exchange : Exchange) :
    exchange.results.map Prod.fst = exchange.applied.map Prod.fst := by
  rw [Exchange.results, applied, List.map_filterMap, List.map_filterMap]
  congr
  funext operation
  cases operation <;> rfl

/-- Every ticket is either that of a result that was sent, or of one that is still to be sent. -/
theorem partition (consistent : exchange.Consistent start) :
    exchange.replies.map Prod.fst ++ exchange.unreplied =
      (List.range exchange.slots.length).map Ticket.mk := by
  rw [← consistent.tickets, ← consistent.order, List.map_append, ← results_tickets,
    ← consistent.results, List.map_append, unreplied, List.append_assoc]

theorem tickets_nodup (consistent : exchange.Consistent start) :
    (exchange.submitted.map Prod.fst).Nodup := by
  rw [consistent.tickets]
  exact List.nodup_range.map fun left right same => congrArg Ticket.number same

theorem distinct (consistent : exchange.Consistent start) :
    (exchange.replies.map Prod.fst ++ exchange.unreplied).Nodup := by
  rw [consistent.partition, ← consistent.tickets]
  exact consistent.tickets_nodup

theorem issued_iff (consistent : exchange.Consistent start) {ticket : Ticket} :
    ticket ∈ exchange.replies.map Prod.fst ++ exchange.unreplied ↔
      ticket.number < exchange.slots.length := by
  rw [consistent.partition, List.mem_map]
  constructor
  · rintro ⟨number, below, rfl⟩
    exact List.mem_range.mp below
  · intro below
    exact ⟨ticket.number, List.mem_range.mpr below, rfl⟩

theorem occupied (consistent : exchange.Consistent start) (busy : exchange.worker ≠ .stopped) :
    exchange.session.engine?.isSome = true :=
  consistent.manned.resolve_left busy

/-- No sender is left of a result that was sent, unless the worker has just sent it. -/
theorem received (consistent : exchange.Consistent start)
    (settled : ∀ ticket, exchange.worker ≠ .sent ticket) (worker : ImageWorker) :
    ∀ ticket result, (ticket, result) ∈ exchange.replies →
      ∀ slot ∈ exchange.slots[ticket.number]?, slot.Replied result ∧
        (slot.hasSender = true → worker = .sent ticket) := by
  intro ticket result member slot found
  obtain ⟨replied, sender⟩ := consistent.replied ticket result member slot found
  exact ⟨replied, fun has => absurd (sender has) (settled ticket)⟩

/-- The worker may turn to something else, as long as nothing gets out of its hands. -/
theorem assign (consistent : exchange.Consistent start)
    (settled : ∀ ticket, exchange.worker ≠ .sent ticket) {worker : ImageWorker}
    {channel : List (Ticket × ImageRequest)} {isOpen : Bool}
    (held : worker.held ++ channel = exchange.outstanding)
    (unsent : worker.unsent = exchange.worker.unsent)
    (manned : worker = .stopped ∨ exchange.session.engine?.isSome = true)
    (closed : worker = .stopped → channel = [] ∧ isOpen = false)
    (sent : ∀ ticket, worker ≠ .sent ticket) :
    ({ exchange with worker, channel, isOpen } : Exchange).Consistent start where
  sequential := consistent.sequential
  order := by
    rw [outstanding, held]
    exact consistent.order
  results := by
    dsimp only
    rw [unsent]
    exact consistent.results
  tickets := consistent.tickets
  manned := manned
  closed := closed
  awaited := by
    rw [unreplied, outstanding, held, unsent]
    exact consistent.awaited
  sent := fun ticket same => absurd same (sent ticket)
  replied := consistent.received settled worker

/-! ## Turns of callers -/

theorem perform (consistent : exchange.Consistent start) (action : Action)
    (manned : (exchange.perform action).worker = .stopped ∨
      (exchange.perform action).session.engine?.isSome = true) :
    (exchange.perform action).Consistent start where
  sequential := by
    simp only [Exchange.perform, List.map_append, List.map_singleton]
    rw [Session.run_concat, consistent.sequential]
    rfl
  order := by
    have order := consistent.order
    simpa [Exchange.perform, applied, outstanding, Operation.request?] using order
  results := by
    have results := consistent.results
    simpa [Exchange.perform, Exchange.results, Operation.reply?] using results
  tickets := consistent.tickets
  manned := manned
  closed := consistent.closed
  awaited := consistent.awaited
  sent := consistent.sent
  replied := consistent.replied

theorem hire (consistent : exchange.Consistent start) (stopped : exchange.worker = .stopped) :
    exchange.hire.Consistent start := by
  rw [Exchange.hire]
  split
  · rename_i occupied
    refine consistent.assign ?_ ?_ ?_ (.inr occupied) nofun nofun
    · simp [stopped]
    · rw [outstanding, stopped]
      rfl
    · rw [stopped]
      rfl
  · exact consistent

theorem operate (consistent : exchange.Consistent start) (action : Action) :
    (exchange.operate action).Consistent start := by
  unfold Exchange.operate
  split
  · exact consistent
  · split
    · split
      · rename_i stopped
        exact (consistent.perform action (.inl stopped)).hire stopped
      · exact consistent
    · rename_i stays
      refine consistent.perform action (consistent.manned.imp_right fun occupied => ?_)
      exact (Session.step_engine? _ (by simpa using stays)).trans occupied

theorem submit (consistent : exchange.Consistent start) (request : ImageRequest) :
    (exchange.submit request).Consistent start := by
  unfold Exchange.submit
  split
  · rename_i isOpen
    have fresh : ∀ {number : Nat} {slot : ReplySlot},
        slot ∈ (exchange.slots ++ [.new])[number]? → ¬number < exchange.slots.length →
          slot = .new := by
      intro number slot found beyond
      rw [List.getElem?_append_right (Nat.le_of_not_lt beyond)] at found
      simpa using List.mem_of_getElem? found
    refine ⟨consistent.sequential, ?_, consistent.results, ?_, consistent.manned, ?_, ?_,
      consistent.sent, ?_⟩
    · have order := consistent.order
      rw [outstanding] at order
      rw [outstanding, ← order]
      simp only [List.append_assoc]
      rfl
    · simp [consistent.tickets, List.range_succ]
    · intro stopped
      exact absurd ((consistent.closed stopped).2.symm.trans isOpen) Bool.false_ne_true
    · intro ticket member slot found
      by_cases earlier : ticket.number < exchange.slots.length
      · rw [List.getElem?_append_left earlier] at found
        refine consistent.awaited ticket ?_ slot found
        have other : ticket ≠ ⟨exchange.slots.length⟩ := by
          rintro rfl
          exact Nat.lt_irrefl _ earlier
        simpa [unreplied, outstanding, other] using member
      · rw [fresh found earlier]
        exact ReplySlot.new_awaited
    · intro ticket result member slot found
      have issued :=
        consistent.issued_iff.mp (List.mem_append_left _ (List.mem_map_of_mem member))
      rw [List.getElem?_append_left issued] at found
      exact consistent.replied ticket result member slot found
  · exact consistent

/-- Whoever waits or gives up waiting changes a slot and nothing else. -/
theorem changeSlot (consistent : exchange.Consistent start) (ticket : Ticket)
    {change : ReplySlot → ReplySlot}
    (awaited : ∀ slot : ReplySlot, slot.Awaited → (change slot).Awaited)
    (replied : ∀ (slot : ReplySlot) result, slot.Replied result → (change slot).Replied result)
    (sender : ∀ slot : ReplySlot, (change slot).hasSender = slot.hasSender) :
    (exchange.changeSlot ticket change).Consistent start where
  sequential := consistent.sequential
  order := consistent.order
  results := consistent.results
  tickets := by
    simp only [Exchange.changeSlot, List.length_modify]
    exact consistent.tickets
  manned := consistent.manned
  closed := consistent.closed
  awaited := by
    intro other member slot found
    simp only [Exchange.changeSlot, List.getElem?_modify] at found
    obtain ⟨earlier, before, rfl⟩ := Option.map_eq_some_iff.mp found
    have was := consistent.awaited other member earlier before
    split
    · exact awaited earlier was
    · exact was
  sent := consistent.sent
  replied := by
    intro other result member slot found
    simp only [Exchange.changeSlot, List.getElem?_modify] at found
    obtain ⟨earlier, before, rfl⟩ := Option.map_eq_some_iff.mp found
    have was := consistent.replied other result member earlier before
    split
    · exact ⟨replied earlier result was.1, fun has => was.2 (sender earlier ▸ has)⟩
    · exact was

theorem wait (consistent : exchange.Consistent start) (ticket : Ticket) :
    (exchange.changeSlot ticket .wait).Consistent start := by
  refine consistent.changeSlot ticket (fun _ => .wait) (fun _ _ => .wait) fun slot => ?_
  rw [ReplySlot.wait]
  split <;> rfl

theorem abandon (consistent : exchange.Consistent start) (ticket : Ticket) :
    (exchange.changeSlot ticket .dropReceiver).Consistent start :=
  consistent.changeSlot ticket (fun _ => .dropReceiver) (fun _ _ => .dropReceiver) fun _ => rfl

theorem hangUp (consistent : exchange.Consistent start) :
    ({ exchange with isOpen := false } : Exchange).Consistent start :=
  { consistent with closed := fun stopped => ⟨(consistent.closed stopped).1, rfl⟩ }

/-! ## Turns of the worker -/

variable {ticket : Ticket} {request : ImageRequest} {result : Except EngineError Unit}

theorem fetch (consistent : exchange.Consistent start) (idle : exchange.worker = .idle)
    {rest : List (Ticket × ImageRequest)} (first : exchange.channel = (ticket, request) :: rest) :
    ({ exchange with worker := .holding ticket request, channel := rest } : Exchange).Consistent
      start := by
  refine consistent.assign ?_ ?_ ?_ ?_ nofun nofun
  · simp [idle]
  · rw [outstanding, idle, first]
    rfl
  · rw [idle]
    rfl
  · exact .inr (consistent.occupied (by simp [idle]))

theorem leave (consistent : exchange.Consistent start) (idle : exchange.worker = .idle)
    (nothing : exchange.channel = []) (closed : exchange.isOpen = false) :
    ({ exchange with worker := .stopped } : Exchange).Consistent start := by
  refine consistent.assign ?_ ?_ ?_ (.inl rfl) (fun _ => ⟨nothing, closed⟩) nofun
  · simp [idle]
  · rw [outstanding, idle]
    rfl
  · rw [idle]
    rfl

/-- Applying a request adds its operation to the run. -/
theorem apply (consistent : exchange.Consistent start)
    (holding : exchange.worker = .holding ticket request) :
    (exchange.apply ticket request).Consistent start := by
  have outstanding : exchange.outstanding = (ticket, request) :: exchange.channel := by
    rw [Exchange.outstanding, holding]
    rfl
  have unsent : exchange.worker.unsent = [] := by rw [holding]; rfl
  obtain ⟨engine, occupied⟩ :=
    Option.isSome_iff_exists.mp (consistent.occupied (by simp [holding]))
  unfold Exchange.apply
  rw [occupied]
  refine ⟨?_, ?_, ?_, consistent.tickets, .inr rfl, nofun, ?_, nofun,
    consistent.received (by simp [holding]) _⟩
  · have stepped := Session.step_request occupied request
    simp only [List.map_append, List.map_singleton]
    rw [Session.run_concat, consistent.sequential, Operation.action, stepped]
    rfl
  · have order := consistent.order
    rw [outstanding] at order
    simpa [applied, Exchange.outstanding, ImageWorker.held, Operation.request?] using order
  · have results := consistent.results
    rw [unsent, List.append_nil] at results
    simp [ImageWorker.unsent, Exchange.results, Operation.reply?, results]
  · have awaited := consistent.awaited
    rw [unreplied, unsent, outstanding] at awaited
    exact awaited

/-- A result is sent to the slot of its own request, which still waits for it. -/
theorem send (consistent : exchange.Consistent start)
    (sending : exchange.worker = .sending ticket result) :
    ({ exchange.changeSlot ticket (·.send result) with
      worker := .sent ticket
      replies := exchange.replies ++ [(ticket, result)] } : Exchange).Consistent start := by
  have outstanding : exchange.outstanding = exchange.channel := by
    rw [Exchange.outstanding, sending]
    rfl
  have unsent : exchange.worker.unsent = [(ticket, result)] := by rw [sending]; rfl
  have unreplied : exchange.unreplied = ticket :: exchange.channel.map Prod.fst := by
    rw [Exchange.unreplied, unsent, outstanding]
    rfl
  have distinct := consistent.distinct
  rw [unreplied, List.nodup_append, List.nodup_cons] at distinct
  obtain ⟨-, ⟨dequeued, -⟩, apart⟩ := distinct
  refine ⟨consistent.sequential, ?_, ?_, ?_, .inr (consistent.occupied (by simp [sending])), nofun,
    fun other member slot found => ?_, fun other same => ?_,
    fun other told member slot found => ?_⟩
  · have order := consistent.order
    rw [outstanding] at order
    exact order
  · have results := consistent.results
    rw [unsent] at results
    simpa [ImageWorker.unsent, Exchange.results, Exchange.changeSlot] using results
  · simp only [Exchange.changeSlot, List.length_modify]
    exact consistent.tickets
  · have queued : other ∈ exchange.channel.map Prod.fst := member
    have different : ticket ≠ other := fun same => dequeued (same ▸ queued)
    replace found := changeSlot_other exchange different (·.send result) ▸ found
    exact consistent.awaited other (unreplied ▸ List.mem_cons_of_mem _ queued) slot found
  · cases same
    simp
  · rcases List.mem_append.mp member with old | new
    · have different : ticket ≠ other := fun same =>
        apart other (List.mem_map_of_mem old) ticket List.mem_cons_self same.symm
      replace found := changeSlot_other exchange different (·.send result) ▸ found
      exact consistent.received (by simp [sending]) _ other told old slot found
    · cases List.mem_singleton.mp new
      replace found := changeSlot_own exchange ticket (·.send result) ▸ found
      obtain ⟨earlier, before, rfl⟩ := Option.map_eq_some_iff.mp found
      have awaited := consistent.awaited ticket (unreplied ▸ List.mem_cons_self) earlier before
      exact ⟨awaited.send result, fun _ => rfl⟩

theorem drop (consistent : exchange.Consistent start) (sent : exchange.worker = .sent ticket) :
    ({ exchange.changeSlot ticket .dropSender with worker := .idle } : Exchange).Consistent
      start := by
  have outstanding : exchange.outstanding = exchange.channel := by
    rw [Exchange.outstanding, sent]
    rfl
  have unsent : exchange.worker.unsent = [] := by rw [sent]; rfl
  have unreplied : exchange.unreplied = exchange.channel.map Prod.fst := by
    rw [Exchange.unreplied, unsent, outstanding]
    rfl
  refine ⟨consistent.sequential, ?_, ?_, ?_, .inr (consistent.occupied (by simp [sent])), nofun,
    fun other member slot found => ?_, nofun, fun other told member slot found => ?_⟩
  · have order := consistent.order
    rw [outstanding] at order
    exact order
  · have results := consistent.results
    rw [unsent] at results
    exact results
  · simp only [Exchange.changeSlot, List.length_modify]
    exact consistent.tickets
  · have queued : other ∈ exchange.unreplied := unreplied ▸ member
    have different : ticket ≠ other := (List.nodup_append.mp consistent.distinct).2.2 ticket
      (consistent.sent ticket sent) other queued
    replace found := changeSlot_other exchange different .dropSender ▸ found
    exact consistent.awaited other queued slot found
  · by_cases own : ticket = other
    · subst own
      replace found := changeSlot_own exchange ticket .dropSender ▸ found
      obtain ⟨earlier, before, rfl⟩ := Option.map_eq_some_iff.mp found
      obtain ⟨replied, -⟩ := consistent.replied ticket told member earlier before
      exact ⟨replied.dropSender, fun has => absurd has Bool.false_ne_true⟩
    · replace found := changeSlot_other exchange own .dropSender ▸ found
      obtain ⟨replied, sender⟩ := consistent.replied other told member slot found
      refine ⟨replied, fun has => ?_⟩
      cases sent.symm.trans (sender has)
      exact absurd rfl own

theorem work (consistent : exchange.Consistent start) : exchange.work.Consistent start := by
  unfold Exchange.work
  cases worker : exchange.worker with
  | idle =>
      dsimp only
      cases channel : exchange.channel with
      | nil =>
          dsimp only
          split
          · exact consistent
          · rename_i closed
            exact channel ▸ consistent.leave worker channel (by simpa using closed)
      | cons entry rest => exact consistent.fetch worker channel
  | holding ticket request => exact consistent.apply worker
  | sending ticket result => exact consistent.send worker
  | sent ticket => exact consistent.drop worker
  | stopped => exact consistent

theorem take (consistent : exchange.Consistent start) (turn : Turn) :
    (exchange.take turn).Consistent start := by
  cases turn with
  | operate action => exact consistent.operate action
  | submit request => exact consistent.submit request
  | work => exact consistent.work
  | wait ticket => exact consistent.wait ticket
  | abandon ticket => exact consistent.abandon ticket
  | hangUp => exact consistent.hangUp

theorem run (consistent : exchange.Consistent start) (turns : List Turn) :
    (exchange.run turns).Consistent start := by
  induction turns generalizing exchange with
  | nil => exact consistent
  | cons turn rest ih => exact ih (consistent.take turn)

end Consistent

end Exchange

end Compositor
