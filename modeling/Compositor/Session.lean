import Compositor.Engine.Frame
import Compositor.ImageRequests

/-!
# Sessions

A session is one device with at most one engine on it at a time. It goes from state to state by
actions: operations of the engine, image requests and their worker, and the scripting of the device.
Every run of an engine is a run of a session.
-/

set_option autoImplicit false

namespace Compositor

/-- Whether there is an engine on the device. -/
inductive Tenancy where
  | vacant (device : Device)
  | occupied (engine : Engine)

inductive Action where
  /-- Puts a new engine in place of the one there may be. -/
  | start (options : EngineOptions)
  /-- Takes the engine down, after the requests that are waiting. -/
  | stop
  | draw (request : FrameRequest)
  | bind (buffer : Buffer)
  | unbind (buffer : BufferId)
  | invalidate (buffer : BufferId)
  | setProtected (wantsSecure : Bool)
  | flush
  | finish
  | cleanup
  | await (fence : Fence)
  | submit (request : ImageRequest)
  /-- Lets the worker apply one image request. -/
  | serve
  | collect (ticket : Ticket)
  | watchTracer (elapsed : Nat)
  | createFence (origin : FenceOrigin) (status : FenceStatus)
  | settleFence (outcome : FenceStatus) (fence : Fence)
  | signalNext
  | signalAll
  | rejectImports (buffer : BufferId)
  | allowImports (buffer : BufferId)
  | lose
  | scheduleLoss (call : ContextCall) (passing : Nat)
  deriving DecidableEq, Repr

inductive Outcome where
  | nothing
  | noEngine
  | flag (value : Bool)
  | done (result : Except EngineError Unit)
  | frame (result : Except EngineError FrameOutput)
  | flushed (result : Except EngineError Fence)
  | fence (fence : Fence)
  | ticket (ticket : Ticket)

structure Session where
  capabilities : Capabilities
  /-- The order in which the texture caches of engines release images. -/
  order : ReleaseOrder
  tenancy : Tenancy
  requests : ImageRequests

namespace Session

def new (device : Device) (capabilities : Capabilities) (order : ReleaseOrder) : Session :=
  ⟨capabilities, order, .vacant device, .empty⟩

def device (session : Session) : Device :=
  match session.tenancy with
  | .vacant device => device
  | .occupied engine => engine.device

def engine? (session : Session) : Option Engine :=
  match session.tenancy with
  | .vacant _ => none
  | .occupied engine => some engine

def setDevice (session : Session) (device : Device) : Session :=
  match session.tenancy with
  | .vacant _ => { session with tenancy := .vacant device }
  | .occupied engine => { session with tenancy := .occupied { engine with device } }

def setEngine (session : Session) (engine : Engine) : Session :=
  { session with tenancy := .occupied engine }

/-- Takes the engine down, if there is one, after the image requests that are waiting. -/
def stop (session : Session) : Session :=
  match session.tenancy with
  | .vacant _ => session
  | .occupied engine =>
    let (requests, engine) := session.requests.serveAll engine
    { session with tenancy := .vacant engine.teardown, requests }

def start (session : Session) (options : EngineOptions) : Except EngineError Unit × Session :=
  match Engine.create session.device session.capabilities options session.order with
  | .error error => (.error error, session)
  | .ok engine => (.ok (), session.setEngine engine)

def script (session : Session) : Action → Option (Outcome × Session)
  | .createFence origin status =>
    let (fence, device) := session.device.createFence origin status
    some (.fence fence, session.setDevice device)
  | .settleFence outcome fence =>
    some (.nothing, session.setDevice (session.device.settleFence outcome fence))
  | .signalNext =>
    let (signaled, device) := session.device.signalNext
    some (.flag signaled, session.setDevice device)
  | .signalAll => some (.nothing, session.setDevice session.device.signalAll)
  | .rejectImports buffer =>
    some (.nothing, session.setDevice (session.device.rejectImports buffer))
  | .allowImports buffer =>
    some (.nothing, session.setDevice (session.device.allowImports buffer))
  | .lose => some (.nothing, session.setDevice session.device.lose)
  | .scheduleLoss call passing =>
    some (.nothing, session.setDevice (session.device.scheduleLoss call passing))
  | _ => none

def operate (engine : Engine) : Action → Option (Outcome × Engine)
  | .draw request =>
    let (result, engine) := engine.draw request
    some (.frame result, engine)
  | .bind buffer =>
    let (result, engine) := engine.bind buffer
    some (.done result, engine)
  | .unbind buffer => some (.nothing, engine.unbind buffer)
  | .invalidate buffer => some (.nothing, engine.invalidate buffer)
  | .setProtected wantsSecure =>
    let (isSecure, engine) := engine.setProtected wantsSecure
    some (.flag isSecure, engine)
  | .flush =>
    let (result, engine) := engine.flush
    some (.flushed result, engine)
  | .finish =>
    let (drained, engine) := engine.finish
    some (.flag drained, engine)
  | .cleanup =>
    let (released, engine) := engine.cleanup
    some (.flag released, engine)
  | .await fence =>
    let (signaled, engine) := engine.await fence
    some (.flag signaled, engine)
  | .watchTracer elapsed => some (.nothing, engine.watchTracer elapsed)
  | _ => none

def request (session : Session) (engine : Engine) : Action → Outcome × Session
  | .submit request =>
    let (ticket, requests) := session.requests.submit request
    (.ticket ticket, { session with requests })
  | .serve =>
    let (requests, engine) := session.requests.serve engine
    (.nothing, { session with requests }.setEngine engine)
  | .collect ticket =>
    let (result, requests, engine) := session.requests.await ticket engine
    (.done result, { session with requests }.setEngine engine)
  | _ => (.nothing, session)

def step (session : Session) (action : Action) : Outcome × Session :=
  match action with
  | .start options =>
    let (result, session) := session.stop.start options
    (.done result, session)
  | .stop => (if session.engine?.isSome then .nothing else .noEngine, session.stop)
  | action =>
    match session.script action with
    | some result => result
    | none =>
      match session.engine? with
      | none => (.noEngine, session)
      | some engine =>
        match operate engine action with
        | some (outcome, engine) => (outcome, session.setEngine engine)
        | none => session.request engine action

def run (session : Session) (actions : List Action) : List Outcome × Session :=
  actions.foldl
    (fun (outcomes, session) action =>
      let (outcome, session) := session.step action
      (outcomes ++ [outcome], session))
    ([], session)

end Session

end Compositor
