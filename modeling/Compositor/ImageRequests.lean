import Compositor.Engine.Operations

/-!
# Requests for images

Binding and unbinding can be requested without waiting. A worker applies the requests one by one, in
the order in which they were made, and puts the result of each into a slot of its own. Whoever holds
the ticket of a request can collect its result once.
-/

set_option autoImplicit false

namespace Compositor

inductive ImageRequest where
  | cache (buffer : Buffer)
  | unbind (buffer : BufferId)
  deriving DecidableEq, Repr

namespace ImageRequest

def apply (request : ImageRequest) (engine : Engine) : Except EngineError Unit × Engine :=
  match request with
  | .cache buffer => engine.bind buffer
  | .unbind buffer => (.ok (), engine.unbind buffer)

end ImageRequest

/-- What a caller holds to collect the result of one request. -/
structure Ticket where
  number : Nat
  deriving DecidableEq, Repr

structure ImageRequests where
  issued : Nat
  /-- The requests that the worker has not applied, oldest first. -/
  waiting : List (Ticket × ImageRequest)
  /-- The results that nobody has collected, oldest first. -/
  replies : List (Ticket × Except EngineError Unit)

namespace ImageRequests

def empty : ImageRequests := ⟨0, [], []⟩

def submit (requests : ImageRequests) (request : ImageRequest) : Ticket × ImageRequests :=
  let ticket : Ticket := ⟨requests.issued⟩
  (ticket, { requests with
    issued := requests.issued + 1
    waiting := requests.waiting ++ [(ticket, request)] })

def serve (requests : ImageRequests) (engine : Engine) : ImageRequests × Engine :=
  match requests.waiting with
  | [] => (requests, engine)
  | (ticket, request) :: rest =>
    let (result, engine) := request.apply engine
    ({ requests with waiting := rest, replies := requests.replies ++ [(ticket, result)] }, engine)

def serveMany : Nat → ImageRequests → Engine → ImageRequests × Engine
  | 0, requests, engine => (requests, engine)
  | count + 1, requests, engine =>
    let (served, engine) := requests.serve engine
    serveMany count served engine

def serveAll (requests : ImageRequests) (engine : Engine) : ImageRequests × Engine :=
  serveMany requests.waiting.length requests engine

/-- The worker goes on until the request of a ticket is applied, if it is waiting at all. -/
def serveThrough (requests : ImageRequests) (ticket : Ticket) (engine : Engine) :
    ImageRequests × Engine :=
  match requests.waiting.findIdx? (·.1 == ticket) with
  | some position => serveMany (position + 1) requests engine
  | none => (requests, engine)

/-- Collects a result. A result that was collected before counts as dropped. -/
def collect (requests : ImageRequests) (ticket : Ticket) :
    Except EngineError Unit × ImageRequests :=
  match requests.replies.find? (·.1 == ticket) with
  | some (_, result) =>
    (result, { requests with replies := requests.replies.filter (·.1 ≠ ticket) })
  | none => (.error (.validation .requestDropped), requests)

def await (requests : ImageRequests) (ticket : Ticket) (engine : Engine) :
    Except EngineError Unit × ImageRequests × Engine :=
  let (served, engine) := requests.serveThrough ticket engine
  let (result, requests) := served.collect ticket
  (result, requests, engine)

end ImageRequests

end Compositor
