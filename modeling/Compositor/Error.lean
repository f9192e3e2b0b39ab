import Compositor.Buffer
import Compositor.Text

/-!
# Failures

Failures are recorded as causes; each kind has one function `message` that words it. Only the loss
of a context is fatal: every other failure leaves the engine usable.
-/

set_option autoImplicit false

namespace Compositor

inductive ImportFailure where
  | zeroExtent
  | exceedsLimit (width height limit : UInt32)
  | protectedInNormalContext
  | bufferRejected
  | targetRejected
  | stated (text : String)
  deriving DecidableEq, Repr

namespace ImportFailure

def message : ImportFailure → String
  | .zeroExtent => "buffer has zero extent"
  | .exceedsLimit width height limit =>
      s!"{width.toNat}x{height.toNat} exceeds max texture size {limit.toNat}"
  | .protectedInNormalContext => "protected buffer cannot be imported into the normal context"
  | .bufferRejected => "driver rejected buffer"
  | .targetRejected => "driver rejected render target"
  | .stated text => text

end ImportFailure

inductive BindError where
  | contextLost
  | importFailed (id : BufferId) (reason : ImportFailure)
  deriving DecidableEq, Repr

namespace BindError

def message : BindError → String
  | .contextLost => "GPU context lost while importing buffer"
  | .importFailed id reason => s!"failed to import buffer {id.text}: {reason.message}"

/-- Holds when the failure concerns the whole engine and not one buffer. -/
def isFatal : BindError → Bool
  | .contextLost => true
  | .importFailed .. => false

end BindError

inductive FileFailure where
  | notFound
  | notADirectory
  | isADirectory
  | nameTooLong
  /-- A path cannot contain the character that ends it for the system. -/
  | endWithinPath
  | notText
  | stated (text : String)
  deriving DecidableEq, Repr

namespace FileFailure

def message : FileFailure → String
  | .notFound => "No such file or directory (os error 2)"
  | .notADirectory => "Not a directory (os error 20)"
  | .isADirectory => "Is a directory (os error 21)"
  | .nameTooLong => "File name too long (os error 36)"
  | .endWithinPath => "file name contained an unexpected NUL byte"
  | .notText => "stream did not contain valid UTF-8"
  | .stated text => text

end FileFailure

inductive ValidationError where
  | zeroFenceTimeout
  | zeroTracerTimeout
  | malformedOptions
  | malformedScene
  | unreadableScene (path : String) (failure : FileFailure)
  | emptyDisplay
  | noTargets
  | noFrames
  /-- A scene layer names both a buffer and a colour, or neither. -/
  | layerSource (frame layer : Nat)
  | layerAlpha (frame layer : Nat)
  | targetNotLive
  | sourceNotLive
  | requestDropped
  | stated (text : String)
  deriving DecidableEq, Repr

namespace ValidationError

def message : ValidationError → String
  | .zeroFenceTimeout => "fence_timeout_ms must be > 0"
  | .zeroTracerTimeout => "tracer_wait_timeout_ms must be > 0"
  | .malformedOptions => "invalid engine options"
  | .malformedScene => "invalid scene JSON"
  | .unreadableScene path failure => s!"open scene JSON '{path}': {failure.message}"
  | .emptyDisplay => "display size must be non-zero"
  | .noTargets => "scene needs at least one target"
  | .noFrames => "scene needs at least one frame"
  | .layerSource frame layer =>
      s!"frame {Nat.repr frame} layer {Nat.repr layer}: " ++
        "exactly one of 'buffer' or 'color' is required"
  | .layerAlpha frame layer =>
      s!"frame {Nat.repr frame} layer {Nat.repr layer}: alpha must be in [0, 1]"
  | .targetNotLive => "render target is not a live image"
  | .sourceNotLive => "layer source is not a live image"
  | .requestDropped => "image manager dropped the request"
  | .stated text => text

end ValidationError

inductive EngineError where
  | contextLost
  /-- The frame needs the secure context, and there is none. -/
  | protectedUnavailable
  | fenceTimeout (milliseconds : Nat)
  | bind (cause : BindError)
  | validation (cause : ValidationError)
  /-- Any other failure, outermost text first. -/
  | other (text : String) (causes : List String)
  deriving DecidableEq, Repr

namespace EngineError

def message : EngineError → String
  | .contextLost => "GPU context lost"
  | .protectedUnavailable => "protected context unavailable"
  | .fenceTimeout milliseconds => s!"fence wait timed out after {Text.duration milliseconds}"
  | .bind cause => cause.message
  | .validation cause => s!"validation error: {cause.message}"
  | .other text _ => text

/-- The message followed by those of the failures behind it. -/
def chain : EngineError → List String
  | .other text causes => text :: causes
  | error => [error.message]

def isFatal : EngineError → Bool
  | .contextLost => true
  | .bind cause => cause.isFatal
  | _ => false

end EngineError

end Compositor
