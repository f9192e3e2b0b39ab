import Compositor.Engine.Operations
import Compositor.Json.Document

/-!
# Snapshots of an engine

What can be seen of an engine at one moment, in two written forms: a few lines of text and JSON.
-/

set_option autoImplicit false

namespace Compositor

structure EngineDump where
  activeMode : Mode
  protectedSupported : Bool
  lost : Bool
  strategyName : String
  framesDrawn : Nat
  lastIssued : FrameSeq
  lastCompleted : FrameSeq
  inFlight : Nat
  cachedTextures : List BufferId
  outputCapacity : Nat
  cachedOutputs : List BufferId
  pendingDestructions : Nat
  tracer : Option TracerStats
  capabilities : Capabilities
  deriving DecidableEq, Repr

namespace Engine

def dump (engine : Engine) : EngineDump where
  activeMode := engine.contexts.active
  protectedSupported := engine.supportsProtected
  lost := engine.lost
  strategyName := engine.strategy.name
  framesDrawn := engine.framesDrawn
  lastIssued := engine.progress.lastIssued
  lastCompleted := engine.progress.completed
  inFlight := engine.progress.inFlight.length
  cachedTextures := engine.textures.ids
  outputCapacity := engine.outputs.capacity
  cachedOutputs := engine.cachedOutputs
  pendingDestructions := engine.pendingDestructions
  tracer := engine.tracerStats
  capabilities := engine.capabilities

end Engine

namespace TracerStats

def document (stats : TracerStats) : Json.Document :=
  .object
    [("frames_queued", .number stats.queued),
      ("frames_completed", .number stats.completed),
      ("last_completed", .ofNat? stats.lastCompleted),
      ("timeouts", .number stats.timeouts),
      ("abandoned", .number stats.abandoned)]

def line (stats : TracerStats) : String :=
  "  tracer: " ++ Nat.repr stats.queued ++ " queued, " ++ Nat.repr stats.completed ++
    " completed, " ++ Nat.repr stats.timeouts ++ " timeouts, " ++ Nat.repr stats.abandoned ++
    " abandoned"

end TracerStats

namespace Capabilities

def document (capabilities : Capabilities) : Json.Document :=
  .object
    [("native_fences", .bool capabilities.nativeFences),
      ("protected_content", .bool capabilities.protectedContent),
      ("max_texture_size", .number capabilities.maxTextureSize.toNat),
      ("max_viewport_dims", .array
        [.number capabilities.maxViewportWidth.toNat,
          .number capabilities.maxViewportHeight.toNat])]

def limitsLine (capabilities : Capabilities) : String :=
  "  limits: max texture " ++ Nat.repr capabilities.maxTextureSize.toNat ++ ", max viewport " ++
    Nat.repr capabilities.maxViewportWidth.toNat ++ "x" ++
    Nat.repr capabilities.maxViewportHeight.toNat

end Capabilities

namespace EngineDump

def idDocuments (ids : List BufferId) : Json.Document :=
  .array (ids.map fun id => .number id.value.toNat)

def document (dump : EngineDump) : Json.Document :=
  .object
    [("active_mode", .string dump.activeMode.name),
      ("protected_supported", .bool dump.protectedSupported),
      ("lost", .bool dump.lost),
      ("cleanup_strategy", .string dump.strategyName),
      ("frames_drawn", .number dump.framesDrawn),
      ("last_issued", .number dump.lastIssued),
      ("last_completed", .number dump.lastCompleted),
      ("in_flight", .number dump.inFlight),
      ("cached_textures", idDocuments dump.cachedTextures),
      ("output_cache_capacity", .number dump.outputCapacity),
      ("cached_outputs", idDocuments dump.cachedOutputs),
      ("pending_destructions", .number dump.pendingDestructions),
      ("tracer", dump.tracer.elim .null (·.document)),
      ("caps", dump.capabilities.document)]

def json (dump : EngineDump) : String := dump.document.text

def idList (ids : List BufferId) : String := ", ".intercalate (ids.map (·.text))

/-- The lines of the snapshot as text. The loss of the device and the tracer have a line only where
there is something to tell. -/
def lines (dump : EngineDump) : List String :=
  ["RenderEngine (" ++ dump.activeMode.name ++ " context, protected " ++
      (if dump.protectedSupported then "available" else "unavailable") ++ ", " ++
      dump.strategyName ++ ")"] ++
    (if dump.lost then ["  CONTEXT LOST"] else []) ++
    ["  frames: " ++ Nat.repr dump.framesDrawn ++ " drawn, last issued " ++
        dump.lastIssued.text ++ ", completed " ++ dump.lastCompleted.text ++ ", " ++
        Nat.repr dump.inFlight ++ " in flight",
      "  texture cache: " ++ Nat.repr dump.cachedTextures.length ++
        " [" ++ idList dump.cachedTextures ++ "]",
      "  output cache: " ++ Nat.repr dump.cachedOutputs.length ++ "/" ++
        Nat.repr dump.outputCapacity ++ " [" ++ idList dump.cachedOutputs ++ "]",
      "  pending destructions: " ++ Nat.repr dump.pendingDestructions] ++
    (dump.tracer.map (·.line)).toList ++
    [dump.capabilities.limitsLine]

def text (dump : EngineDump) : String := "\n".intercalate dump.lines

end EngineDump

end Compositor
