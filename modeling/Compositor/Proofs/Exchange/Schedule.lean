import Compositor.Proofs.Ledger

/-!
# Schedules of image requests

Requests for images go through a channel to a worker. It applies them one by one, beside everything
else that happens to the engine, and sends each result to a slot of its own, for whoever made the
request. A schedule says whose turn it is. The worker needs several turns for one request, but
applying it is a single one, and so is every other operation: the engine is locked meanwhile.
-/

set_option autoImplicit false

namespace Compositor

/-! ## Slots for results -/

/-- A channel for the one result of a request. -/
structure ReplySlot where
  content : Option (Except EngineError Unit)
  /-- The worker has not dropped the request yet. -/
  hasSender : Bool
  /-- Whoever made the request has not given up waiting. -/
  hasReceiver : Bool
  /-- What was answered to those who waited, the first answer first. -/
  answers : List (Except EngineError Unit)

namespace ReplySlot

/-- What a wait gives once nothing can come any more. -/
def dropped : Except EngineError Unit := .error (.validation .requestDropped)

/-- What so many waits for a result are answered. -/
def told (result : Except EngineError Unit) : Nat → List (Except EngineError Unit)
  | 0 => []
  | further + 1 => result :: List.replicate further dropped

def new : ReplySlot := ⟨none, true, true, []⟩

def send (slot : ReplySlot) (result : Except EngineError Unit) : ReplySlot :=
  if slot.hasReceiver then { slot with content := some result } else slot

def dropSender (slot : ReplySlot) : ReplySlot := { slot with hasSender := false }

def dropReceiver (slot : ReplySlot) : ReplySlot :=
  { slot with hasReceiver := false, content := none }

/-- The answer to a wait, unless the wait has to go on. -/
def answer? (slot : ReplySlot) : Option (Except EngineError Unit) :=
  if slot.hasReceiver then
    match slot.content with
    | some result => some result
    | none => if slot.hasSender then none else some dropped
  else none

def wait (slot : ReplySlot) : ReplySlot :=
  match slot.answer? with
  | some answer => { slot with content := none, answers := slot.answers ++ [answer] }
  | none => slot

/-- Once nothing more can come, every wait is answered. -/
theorem wait_eq {slot : ReplySlot} (sender : slot.hasSender = false)
    (receiver : slot.hasReceiver = true) :
    slot.wait =
      { slot with
        content := none
        answers := slot.answers ++ [slot.content.getD dropped] } := by
  obtain ⟨content, hasSender, hasReceiver, answers⟩ := slot
  cases sender
  cases receiver
  cases content <;> rfl

/-- The result has not been sent. -/
structure Awaited (slot : ReplySlot) : Prop where
  content : slot.content = none
  hasSender : slot.hasSender = true
  answers : slot.answers = []

/-- A result was sent: it is there for whoever waits, or was given to the first one who waited, and
to nobody else, or nobody wants it any more. -/
inductive Replied (slot : ReplySlot) (result : Except EngineError Unit) : Prop where
  | present : slot.content = some result → slot.answers = [] → Replied slot result
  | given (further : Nat) : slot.content = none →
      slot.answers = result :: List.replicate further dropped → Replied slot result
  | unwanted : slot.content = none → slot.answers = [] → slot.hasReceiver = false →
      Replied slot result

variable {slot : ReplySlot} {result : Except EngineError Unit}

theorem new_awaited : Awaited .new := ⟨rfl, rfl, rfl⟩

theorem Awaited.answer? (awaited : slot.Awaited) : slot.answer? = none := by
  rw [ReplySlot.answer?, awaited.content, awaited.hasSender]
  split <;> rfl

theorem Awaited.wait (awaited : slot.Awaited) : slot.wait.Awaited := by
  rw [ReplySlot.wait, awaited.answer?]
  exact awaited

theorem Awaited.dropReceiver (awaited : slot.Awaited) : slot.dropReceiver.Awaited :=
  ⟨rfl, awaited.hasSender, awaited.answers⟩

theorem Awaited.send (awaited : slot.Awaited) (result : Except EngineError Unit) :
    (slot.send result).Replied result := by
  rw [ReplySlot.send]
  split
  · exact .present rfl awaited.answers
  · rename_i gone
    exact .unwanted awaited.content awaited.answers (by simpa using gone)

/-- The first answer is the result, and each further one tells that the request is gone. -/
theorem Replied.wait (replied : slot.Replied result) : slot.wait.Replied result := by
  rw [ReplySlot.wait]
  cases told : slot.answer? with
  | none => exact replied
  | some answer =>
      rw [answer?] at told
      split at told
      · cases replied with
        | present content answers =>
            rw [content] at told
            cases told
            exact .given 0 rfl (by simp [answers])
        | given further content answers =>
            rw [content] at told
            dsimp only at told
            split at told <;> cases told
            refine .given (further + 1) rfl ?_
            simp [answers, List.replicate_succ']
        | unwanted _ _ gone => simp_all
      · cases told

theorem Replied.dropReceiver (replied : slot.Replied result) :
    slot.dropReceiver.Replied result := by
  cases replied with
  | present _ answers => exact .unwanted rfl answers rfl
  | given further _ answers => exact .given further rfl answers
  | unwanted _ answers _ => exact .unwanted rfl answers rfl

theorem Replied.dropSender (replied : slot.Replied result) : slot.dropSender.Replied result := by
  cases replied with
  | present content answers => exact .present content answers
  | given further content answers => exact .given further content answers
  | unwanted content answers gone => exact .unwanted content answers gone

theorem Replied.answers (replied : slot.Replied result) :
    slot.answers = [] ∨ ∃ further, slot.answers = result :: List.replicate further dropped := by
  cases replied with
  | present _ answers | unwanted _ answers => exact .inl answers
  | given further _ answers => exact .inr ⟨further, answers⟩

end ReplySlot

/-! ## Exchanges -/

/-- How far the worker is with a request. -/
inductive ImageWorker where
  | idle
  /-- A request was taken from the channel. -/
  | holding (ticket : Ticket) (request : ImageRequest)
  /-- A request was applied, and its result is not sent yet. -/
  | sending (ticket : Ticket) (result : Except EngineError Unit)
  /-- A result was sent, and its request not dropped yet. -/
  | sent (ticket : Ticket)
  | stopped

/-- What was done to an engine or its device, by a call or for a request. -/
inductive Operation where
  | called (action : Action) (outcome : Outcome)
  | requested (ticket : Ticket) (request : ImageRequest) (result : Except EngineError Unit)

/-- What the operation for a request would have given to a caller. -/
def ImageRequest.outcome : ImageRequest → Except EngineError Unit → Outcome
  | .unbind _, .ok () => .nothing
  | _, result => .done result

namespace Operation

def action : Operation → Action
  | .called action _ => action
  | .requested _ request _ => request.action

def outcome : Operation → Outcome
  | .called _ outcome => outcome
  | .requested _ request result => request.outcome result

def request? : Operation → Option (Ticket × ImageRequest)
  | .called _ _ => none
  | .requested ticket request _ => some (ticket, request)

def reply? : Operation → Option (Ticket × Except EngineError Unit)
  | .called _ _ => none
  | .requested ticket _ result => some (ticket, result)

end Operation

/-- A session whose image requests go through a channel, with what was done so far. -/
structure Exchange where
  session : Session
  channel : List (Ticket × ImageRequest)
  /-- Requests can still be put into the channel. -/
  isOpen : Bool
  worker : ImageWorker
  /-- One slot for each request, in the order of the requests. -/
  slots : List ReplySlot
  submitted : List (Ticket × ImageRequest)
  performed : List Operation
  /-- The results that were sent. -/
  replies : List (Ticket × Except EngineError Unit)

namespace Exchange

inductive Turn where
  | operate (action : Action)
  | submit (request : ImageRequest)
  /-- The worker takes its next step, if it can. -/
  | work
  /-- Someone waits for a result, and may have to go on waiting. -/
  | wait (ticket : Ticket)
  /-- Nobody will wait for a result any more. -/
  | abandon (ticket : Ticket)
  /-- The channel is closed, so that the worker stops once it is empty. -/
  | hangUp

def start (session : Session) : Exchange := ⟨session, [], false, .stopped, [], [], [], []⟩

def perform (exchange : Exchange) (action : Action) : Exchange :=
  let (outcome, session) := exchange.session.step action
  { exchange with
    session
    performed := exchange.performed ++ [.called action outcome] }

/-- A new engine has a worker of its own. -/
def hire (exchange : Exchange) : Exchange :=
  if exchange.session.engine?.isSome then { exchange with isOpen := true, worker := .idle }
  else exchange

/-- Performs an operation. An engine can go only after its worker has stopped. -/
def operate (exchange : Exchange) (action : Action) : Exchange :=
  if action.concernsRequests then exchange
  else if action.replacesEngine then
    match exchange.worker with
    | .stopped => (exchange.perform action).hire
    | _ => exchange
  else exchange.perform action

def submit (exchange : Exchange) (request : ImageRequest) : Exchange :=
  if exchange.isOpen then
    let entry : Ticket × ImageRequest := (⟨exchange.slots.length⟩, request)
    { exchange with
      channel := exchange.channel ++ [entry]
      slots := exchange.slots ++ [.new]
      submitted := exchange.submitted ++ [entry] }
  else exchange

def apply (exchange : Exchange) (ticket : Ticket) (request : ImageRequest) : Exchange :=
  match exchange.session.engine? with
  | none => exchange
  | some engine =>
    let (result, engine) := request.apply engine
    { exchange with
      session := exchange.session.setEngine engine
      worker := .sending ticket result
      performed := exchange.performed ++ [.requested ticket request result] }

def changeSlot (exchange : Exchange) (ticket : Ticket) (change : ReplySlot → ReplySlot) :
    Exchange :=
  { exchange with slots := exchange.slots.modify ticket.number change }

theorem changeSlot_own (exchange : Exchange) (ticket : Ticket) (change : ReplySlot → ReplySlot) :
    (exchange.changeSlot ticket change).slots[ticket.number]? =
      exchange.slots[ticket.number]?.map change := by
  simp [changeSlot]

theorem changeSlot_other (exchange : Exchange) {ticket other : Ticket} (different : ticket ≠ other)
    (change : ReplySlot → ReplySlot) :
    (exchange.changeSlot ticket change).slots[other.number]? = exchange.slots[other.number]? := by
  have numbers : ticket.number ≠ other.number := fun same => different (congrArg Ticket.mk same)
  simp [changeSlot, numbers]

def work (exchange : Exchange) : Exchange :=
  match exchange.worker with
  | .idle =>
    match exchange.channel with
    | (ticket, request) :: rest =>
      { exchange with worker := .holding ticket request, channel := rest }
    | [] => if exchange.isOpen then exchange else { exchange with worker := .stopped }
  | .holding ticket request => exchange.apply ticket request
  | .sending ticket result =>
    { exchange.changeSlot ticket (·.send result) with
      worker := .sent ticket
      replies := exchange.replies ++ [(ticket, result)] }
  | .sent ticket => { exchange.changeSlot ticket .dropSender with worker := .idle }
  | .stopped => exchange

def take (exchange : Exchange) : Turn → Exchange
  | .operate action => exchange.operate action
  | .submit request => exchange.submit request
  | .work => exchange.work
  | .wait ticket => exchange.changeSlot ticket .wait
  | .abandon ticket => exchange.changeSlot ticket .dropReceiver
  | .hangUp => { exchange with isOpen := false }

def run (exchange : Exchange) (turns : List Turn) : Exchange := turns.foldl take exchange

theorem run_cons (exchange : Exchange) (turn : Turn) (rest : List Turn) :
    exchange.run (turn :: rest) = (exchange.take turn).run rest := rfl

theorem run_append (exchange : Exchange) (first second : List Turn) :
    exchange.run (first ++ second) = (exchange.run first).run second :=
  List.foldl_append

end Exchange

end Compositor
