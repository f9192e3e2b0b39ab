import Compositor.Engine.Basic

/-!
# Frames

Composing layers into a render target. Layers whose buffer cannot be imported, whose fence does not
signal or whose draw is refused are left out and reported; only a lost device, a missing secure
context, an input fence that does not signal or an unusable target fail the whole frame.
-/

set_option autoImplicit false

namespace Compositor

structure FrameRequest where
  display : Display
  /-- The layers, bottom to top. -/
  layers : List Layer
  target : Buffer
  usesOutputCache : Bool
  /-- What the frame waits for before anything else. -/
  inputFence : Option Fence
  deriving DecidableEq, Repr

namespace FrameRequest

/-- Render targets are kept unless the caller decides otherwise. -/
def usesOutputCacheByDefault : Bool := true

def isProtected (request : FrameRequest) : Bool :=
  request.display.protectedOutput || request.target.isProtected ||
    request.layers.any (·.isProtected)

/-- The mode that a frame has to be composed in. -/
def mode (request : FrameRequest) : Mode := .ofProtected request.isProtected

end FrameRequest

inductive SkipReason where
  | importFailed (cause : BindError)
  | acquireTimeout
  | drawRejected (cause : EngineError)
  deriving DecidableEq, Repr

structure SkippedLayer where
  index : Nat
  buffer : Option BufferId
  reason : SkipReason
  deriving DecidableEq, Repr

structure FrameStatus where
  frame : FrameSeq
  mode : Mode
  layersDrawn : Nat
  skipped : List SkippedLayer
  /-- The render target is in the output cache. -/
  outputCached : Bool
  deriving DecidableEq, Repr

namespace FrameStatus

def isComplete (status : FrameStatus) : Bool := status.skipped.isEmpty

end FrameStatus

structure FrameOutput where
  status : FrameStatus
  fence : Fence
  deriving DecidableEq, Repr

structure PlannedDraw where
  index : Nat
  layer : Layer
  source : Option ImageHandle
  deriving DecidableEq, Repr

/-- What is known of the layers looked at so far, and the engine after looking at them. -/
structure FramePlan where
  engine : Engine
  /-- The layers to draw, bottom to top. -/
  draws : List PlannedDraw
  /-- The layers left out, bottom to top. -/
  skipped : List SkippedLayer
  /-- The buffers that have a texture, of all layers. -/
  active : List BufferId

namespace FramePlan

def start (engine : Engine) : FramePlan := ⟨engine, [], [], []⟩

def draw (plan : FramePlan) (index : Nat) (layer : Layer) (source : Option ImageHandle) :
    FramePlan :=
  { plan with draws := plan.draws ++ [⟨index, layer, source⟩] }

def skip (plan : FramePlan) (index : Nat) (layer : Layer) (reason : SkipReason) : FramePlan :=
  { plan with skipped := plan.skipped ++ [⟨index, layer.buffer?.map (·.id), reason⟩] }

end FramePlan

namespace Engine

def textureFor (engine : Engine) (buffer : Buffer) (frame : FrameSeq) :
    Except BindError ImageHandle × Engine :=
  match engine.textures.markUsed buffer.id frame with
  | (some handle, textures) => (.ok handle, { engine with textures })
  | (none, _) =>
    match engine.bindTexture buffer with
    | (.error cause, engine) => (.error cause, engine)
    | (.ok handle, engine) =>
      (.ok handle, { engine with textures := (engine.textures.markUsed buffer.id frame).2 })

end Engine

namespace FramePlan

/-- Looks at the next layer: provides its texture and waits for its fence. Only the loss of the
device ends the planning, with the engine as it is then. -/
def look (frame : FrameSeq) (plan : FramePlan) (index : Nat) (layer : Layer) :
    Except Engine FramePlan :=
  match layer.source with
  | .solid _ => .ok (plan.draw index layer none)
  | .sampled buffer acquireFence =>
    match plan.engine.textureFor buffer frame with
    | (.error cause, engine) =>
      if cause.isFatal then .error engine
      else .ok ({ plan with engine }.skip index layer (.importFailed cause))
    | (.ok handle, engine) =>
      let (signaled, engine) := engine.awaitAny acquireFence
      let seen := { plan with engine, active := buffer.id :: plan.active }
      if signaled then .ok (seen.draw index layer (some handle))
      else .ok (seen.skip index layer .acquireTimeout)

def lookAll (engine : Engine) (frame : FrameSeq) (layers : List Layer) : Except Engine FramePlan :=
  layers.zipIdx.foldlM (fun plan (layer, index) => plan.look frame index layer) (start engine)

end FramePlan

structure Recording where
  device : Device
  drawn : Nat
  rejected : List SkippedLayer
  deriving DecidableEq, Repr

namespace Recording

/-- Records one draw. Only a fatal failure ends the recording, with the device as it is then. -/
def add (mode : Mode) (target : ImageHandle) (recording : Recording) (planned : PlannedDraw) :
    Except (EngineError × Device) Recording :=
  match recording.device.drawLayer mode target planned.source planned.layer with
  | (.ok (), device) => .ok { recording with device, drawn := recording.drawn + 1 }
  | (.error error, device) =>
    if error.isFatal then .error (error, device)
    else
      let missing : SkippedLayer :=
        ⟨planned.index, planned.layer.buffer?.map (·.id), .drawRejected error⟩
      .ok { recording with device, rejected := recording.rejected ++ [missing] }

def ofDraws (device : Device) (mode : Mode) (target : ImageHandle) (display : Display)
    (draws : List PlannedDraw) : Except (EngineError × Device) Recording :=
  match device.beginFrame mode target display with
  | (.error error, device) => .error (error, device)
  | (.ok (), device) => draws.foldlM (add mode target) ⟨device, 0, []⟩

end Recording

namespace Engine

def targetFor (engine : Engine) (target : Buffer) (frame : FrameSeq) (usesOutputCache : Bool) :
    Except EngineError OutputSlot × Engine :=
  let mode := engine.contexts.current
  if usesOutputCache then
    let outcome := engine.outputs.getOrCreate target.id engine.contexts.active
      (fun device => device.createTarget mode target engine.limit) engine.device
    let outputs :=
      match outcome.slot with
      | .ok (.cached _) => outcome.cache.markUsed target.id frame
      | _ => outcome.cache
    (outcome.slot.map (·.markUsed frame),
      { engine with outputs, device := outcome.state }.retire outcome.evicted)
  else
    let (image, device) := engine.device.createTarget mode target engine.limit
    (image.map fun image => .transient (image.markUsed frame), { engine with device })

def dropFrame (engine : Engine) (error : EngineError) : Except EngineError FrameOutput × Engine :=
  (.error error, engine.abandon.noteFailure error.isFatal)

/-- Records the planned draws into a target, and submits them as `frame`. The frame gives up a
target that it owns as soon as the draws are recorded; the target is destroyed only when the frame
has completed, since that is its last use. -/
def render (engine : Engine) (request : FrameRequest) (frame : FrameSeq) (plan : FramePlan)
    (slot : OutputSlot) : Except EngineError FrameOutput × Engine :=
  match Recording.ofDraws engine.device engine.contexts.current slot.handle request.display
      plan.draws with
  | .error (error, device) =>
    let (result, engine) := { engine with device }.dropFrame error
    (result, engine.retire slot.owned)
  | .ok recording =>
    match ({ engine with device := recording.device }.retire slot.owned).submit frame with
    | (.error error, engine) => (.error error, engine)
    | (.ok fence, engine) =>
      let status : FrameStatus :=
        ⟨frame, engine.contexts.active, recording.drawn, plan.skipped ++ recording.rejected,
          slot.isCached⟩
      (.ok ⟨status, fence⟩, { engine with framesDrawn := engine.framesDrawn + 1 })

/-- Composes a frame in the active mode. Textures that no layer uses are evicted once all layers
were looked at, and before the target is made. -/
def compose (engine : Engine) (request : FrameRequest) : Except EngineError FrameOutput × Engine :=
  let polled := engine.poll
  let progress := polled.progress.begin
  let frame := progress.lastIssued
  match FramePlan.lookAll { polled with progress } frame request.layers with
  | .error engine => engine.dropFrame .contextLost
  | .ok plan =>
    let (stale, textures) := plan.engine.textures.evictStale plan.active
    let engine := { plan.engine with textures }.retire stale
    match engine.targetFor request.target frame request.usesOutputCache with
    | (.error error, engine) => engine.dropFrame error
    | (.ok slot, engine) => engine.render request frame plan slot

def draw (engine : Engine) (request : FrameRequest) : Except EngineError FrameOutput × Engine :=
  if engine.lost then (.error .contextLost, engine)
  else
    match engine.awaitAny request.inputFence with
    | (false, engine) => (.error (.fenceTimeout engine.options.fenceTimeout.toNat), engine)
    | (true, engine) =>
      let switched := engine.switchTo request.mode
      if switched.lost then (.error .contextLost, switched)
      else if switched.contexts.active ≠ request.mode then
        (.error .protectedUnavailable, switched)
      else switched.compose request

end Engine

end Compositor
