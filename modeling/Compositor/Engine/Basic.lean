import Compositor.Engine.Options
import Compositor.OutputCache
import Compositor.RetireQueue
import Compositor.Submission
import Compositor.TextureCache
import Compositor.Tracer

/-!
# The engine

An engine on its device: the contexts, the two caches, the images that wait for destruction, and the
book-keeping of submissions. Once the device is lost under it, the engine stays lost.
-/

set_option autoImplicit false

namespace Compositor

structure Engine where
  options : EngineOptions
  capabilities : Capabilities
  device : Device
  contexts : Contexts
  textures : TextureCache
  outputs : OutputCache
  retired : RetireQueue
  progress : Progress
  strategy : Strategy
  tracer : Option Tracer
  lost : Bool
  framesDrawn : Nat

namespace Engine

/-- The tracer that the options ask for; without fences there is nothing to trace. -/
def tracerFor (options : EngineOptions) (capabilities : Capabilities) : Option Tracer :=
  if options.traceCompletion && capabilities.nativeFences then
    some (.new options.tracerTimeout.toNat)
  else none

def create (device : Device) (capabilities : Capabilities) (options : EngineOptions)
    (order : ReleaseOrder) : Except EngineError Engine := do
  options.check.mapError .validation
  let contexts ← Contexts.establish device capabilities options.enableSecure
  return {
    options, capabilities, device, contexts
    textures := .empty order
    outputs := .empty options.outputCacheSize.toNat
    retired := .empty
    progress := .initial
    strategy := .select capabilities
    tracer := tracerFor options capabilities
    lost := false
    framesDrawn := 0 }

def limit (engine : Engine) : UInt32 := engine.capabilities.maxTextureSize

/-- The engine has noticed that its device is lost. -/
def markLost (engine : Engine) : Engine := { engine with lost := true }

def noteFailure (engine : Engine) (isFatal : Bool) : Engine :=
  if isFatal then engine.markLost else engine

def poll (engine : Engine) : Engine :=
  { engine with progress := engine.progress.poll engine.device.fences }

def abandon (engine : Engine) : Engine := { engine with progress := engine.progress.abandon }

def retire (engine : Engine) (images : List Image) : Engine :=
  let (retired, device) :=
    engine.retired.retireAll engine.device engine.contexts engine.progress images
  { engine with retired, device }

def collect (engine : Engine) : Engine :=
  let (_, retired, device) :=
    engine.retired.collect engine.device engine.contexts engine.progress
  { engine with retired, device }

def emptyCaches (engine : Engine) : Engine :=
  let (textures, textureCache) := engine.textures.drain
  let (outputs, outputCache) := engine.outputs.drain
  { engine with textures := textureCache, outputs := outputCache }.retire (textures ++ outputs)

def await (engine : Engine) (fence : Fence) : Bool × Engine :=
  let (signaled, device) := engine.device.await fence
  (signaled, { engine with device })

/-- Waits for a fence if there is one; without one there is nothing to wait for. -/
def awaitAny (engine : Engine) : Option Fence → Bool × Engine
  | none => (true, engine)
  | some fence => engine.await fence

/-- Imports a buffer anew into the current context, and retires the image it had before. -/
def bindTexture (engine : Engine) (buffer : Buffer) : Except BindError ImageHandle × Engine :=
  let outcome :=
    engine.textures.bind engine.device engine.contexts.current buffer engine.limit
  (outcome.result,
    { engine with textures := outcome.cache, device := outcome.device }.retire
      outcome.displaced.toList)

/-- Makes the context of a mode current, if there is one. Images are not shared between contexts, so
the device is drained and both caches are emptied before the switch. -/
def switchTo (engine : Engine) (mode : Mode) : Engine :=
  if engine.contexts.active = mode ∨ engine.lost ∨ ¬engine.contexts.has mode then engine
  else
    match engine.device.finish with
    | (false, device) => { engine with device }.markLost
    | (true, device) =>
      let drained := { engine with device, progress := engine.progress.markIdle }
      let emptied := drained.emptyCaches.collect
      { emptied with contexts := emptied.contexts.activate mode }

def trace (engine : Engine) (fence : Fence) (frame : FrameSeq) : Engine :=
  { engine with
    tracer := engine.tracer.map fun tracer =>
      (tracer.queue fence frame).catchUp engine.device.fences }

/-- Submits what was recorded for `frame`. A failure means that the device is lost. -/
def submit (engine : Engine) (frame : FrameSeq) : Except EngineError Fence × Engine :=
  match engine.strategy.submit engine.device engine.progress frame with
  | (.error error, progress, device) =>
    (.error error, { engine with progress, device }.markLost)
  | (.ok fence, progress, device) =>
    (.ok fence, { engine with progress, device }.trace fence frame)

end Engine

end Compositor
