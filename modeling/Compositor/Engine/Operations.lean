import Compositor.Engine.Basic

/-!
# Operations of the engine

Everything but composing frames: buffers and targets that come and go, the choice of the context,
and waiting for the device.
-/

set_option autoImplicit false

namespace Compositor.Engine

/-- Imports a buffer into the current context, in place of the image that it had. A failure leaves
the buffer without an image. -/
def bind (engine : Engine) (buffer : Buffer) : Except EngineError Unit × Engine :=
  if engine.lost then (.error .contextLost, engine)
  else
    match engine.poll.bindTexture buffer with
    | (.ok _, engine) => (.ok (), engine)
    | (.error cause, engine) => (.error (.bind cause), engine.noteFailure cause.isFatal)

def unbind (engine : Engine) (buffer : BufferId) : Engine :=
  let polled := engine.poll
  let (image, textures) := polled.textures.unbind buffer
  { polled with textures }.retire image.toList

def invalidate (engine : Engine) (buffer : BufferId) : Engine :=
  let polled := engine.poll
  let (image, outputs) := polled.outputs.invalidate buffer
  { polled with outputs }.retire image.toList

/-- Makes the secure or the normal context current, if possible, and says whether the secure one is
current then. -/
def setProtected (engine : Engine) (wantsSecure : Bool) : Bool × Engine :=
  let switched := engine.switchTo (.ofProtected wantsSecure)
  (switched.contexts.active.isSecure, switched)

def flush (engine : Engine) : Except EngineError Fence × Engine :=
  if engine.lost then (.error .contextLost, engine)
  else
    let progress := engine.progress.begin
    { engine with progress }.submit progress.lastIssued

def finish (engine : Engine) : Bool × Engine :=
  if engine.lost then (false, engine)
  else
    match engine.device.finish with
    | (false, device) => (false, { engine with device }.markLost)
    | (true, device) => (true, { engine with device, progress := engine.progress.markIdle })

/-- Releases what the device is done with, and says whether the resources of the latest submission
were released by this call. -/
def cleanup (engine : Engine) : Bool × Engine :=
  match engine.strategy.cleanup engine.device engine.progress with
  | (.error _, progress, device) =>
    (false, ({ engine with progress, device }.markLost).collect)
  | (.ok released, progress, device) => (released, { engine with progress, device }.collect)

/-- Takes the engine down and gives its device back. The device is drained first, so that nothing
that is destroyed then is still in use. -/
def teardown (engine : Engine) : Device :=
  let (_, device) := engine.contexts.finishAll engine.device
  let drained := { engine with
    device
    tracer := none
    progress := engine.progress.markIdle }
  let emptied := drained.emptyCaches
  (emptied.retired.destroyAll emptied.device emptied.contexts).2

/-! ## Looking at the engine -/

def isProtected (engine : Engine) : Bool := engine.contexts.active.isSecure

def supportsProtected (engine : Engine) : Bool := engine.contexts.hasSecure

def isBufferCached (engine : Engine) (buffer : BufferId) : Bool := engine.textures.contains buffer

def isOutputCached (engine : Engine) (buffer : BufferId) : Bool := engine.outputs.contains buffer

def cachedOutputs (engine : Engine) : List BufferId := engine.outputs.ids

def pendingDestructions (engine : Engine) : Nat := engine.retired.size

def viewportLimit (engine : Engine) : UInt32 × UInt32 :=
  (engine.capabilities.maxViewportWidth, engine.capabilities.maxViewportHeight)

def tracerStats (engine : Engine) : Option TracerStats := engine.tracer.map (·.stats)

def watchTracer (engine : Engine) (elapsed : Nat) : Engine :=
  { engine with
    tracer := engine.tracer.map fun tracer => tracer.watch engine.device.fences elapsed }

end Compositor.Engine
