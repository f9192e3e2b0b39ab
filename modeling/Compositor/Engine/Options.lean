import Compositor.Error

/-!
# Engine options
-/

set_option autoImplicit false

namespace Compositor

structure EngineOptions where
  /-- How many render targets are kept; with none, every frame makes its own. -/
  outputCacheSize : UInt64
  /-- Observe the completion of submissions, if the device has fences. -/
  traceCompletion : Bool
  enableSecure : Bool
  /-- The longest wait for an input or acquire fence, in milliseconds. -/
  fenceTimeout : UInt64
  /-- The longest wait of the tracer for one fence, in milliseconds. -/
  tracerTimeout : UInt64
  deriving DecidableEq, Repr

namespace EngineOptions

def standard : EngineOptions := ⟨0, false, false, 3000, 3000⟩

def check (options : EngineOptions) : Except ValidationError Unit :=
  if options.fenceTimeout = 0 then .error .zeroFenceTimeout
  else if options.tracerTimeout = 0 then .error .zeroTracerTimeout
  else .ok ()

end EngineOptions

end Compositor
