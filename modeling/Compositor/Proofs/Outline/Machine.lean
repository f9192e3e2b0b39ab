import Compositor.Proofs.Moment
import Compositor.Proofs.Outline.Canvas

/-!
# Engines without their timing

What an engine decides, apart from when its work completes: fences, submissions and destruction are
left out, and how each wait ends is told from outside. Waits of a frame are numbered, the wait for
its input first, and then one for each layer. Nothing fails here because of a loss.
-/

set_option autoImplicit false

namespace Compositor

structure Outline where
  /-- The longest wait for an input or acquire fence, in milliseconds. -/
  patience : Nat
  limit : UInt32
  contexts : Contexts
  textures : List LiveImage
  /-- The kept render targets, the next one to be evicted first. -/
  outputs : List LiveImage
  capacity : Nat
  issued : FrameSeq
  canvas : Canvas

namespace Outline

def make (outline : Outline) (kind : ImageKind) (buffer : Buffer) :
    Except BindError LiveImage × Canvas :=
  outline.canvas.make outline.contexts.current kind buffer outline.limit

def unbind (outline : Outline) (buffer : BufferId) : Outline :=
  { outline with textures := outline.textures.filter (·.buffer ≠ buffer) }

def invalidate (outline : Outline) (buffer : BufferId) : Outline :=
  { outline with outputs := outline.outputs.eraseP (·.buffer == buffer) }

def bindTexture (outline : Outline) (buffer : Buffer) : Except BindError ImageHandle × Outline :=
  let (made, canvas) := outline.make .texture buffer
  let unbound := { outline.unbind buffer.id with canvas }
  match made with
  | .error error => (.error error, unbound)
  | .ok image => (.ok image.handle, { unbound with textures := unbound.textures ++ [image] })

def bind (outline : Outline) (buffer : Buffer) : Except EngineError Unit × Outline :=
  let (result, outline) := outline.bindTexture buffer
  ((result.map fun _ => ()).mapError .bind, outline)

def texture? (outline : Outline) (buffer : BufferId) : Option LiveImage :=
  outline.textures.find? (·.buffer == buffer)

def textureFor (outline : Outline) (buffer : Buffer) : Except BindError ImageHandle × Outline :=
  match outline.texture? buffer.id with
  | some image => (.ok image.handle, outline)
  | none => outline.bindTexture buffer

theorem bindTexture_survivable {outline : Outline} {buffer : Buffer} {cause : BindError}
    (failed : (outline.bindTexture buffer).1 = .error cause) : cause.isFatal = false := by
  have survives := @Canvas.make_survivable outline.contexts.current .texture buffer outline.limit
    outline.canvas
  unfold bindTexture make at failed
  cases made : outline.canvas.make outline.contexts.current .texture buffer outline.limit with
  | mk result canvas =>
      rw [made] at failed survives
      cases result with
      | ok image => cases failed
      | error error =>
          cases failed
          exact survives rfl

theorem textureFor_survivable {outline : Outline} {buffer : Buffer} {cause : BindError}
    (failed : (outline.textureFor buffer).1 = .error cause) : cause.isFatal = false := by
  unfold textureFor at failed
  split at failed
  · cases failed
  · exact bindTexture_survivable failed

def evict (outline : Outline) (active : List BufferId) : Outline :=
  { outline with textures := outline.textures.filter fun image => active.contains image.buffer }

def switchTo (outline : Outline) (mode : Mode) : Outline :=
  if outline.contexts.active = mode ∨ ¬outline.contexts.has mode then outline
  else { outline with textures := [], outputs := [], contexts := outline.contexts.activate mode }

/-- The target of a buffer that was kept for the active mode. -/
def target? (outline : Outline) (buffer : BufferId) : Option LiveImage :=
  (outline.outputs.find? (·.buffer == buffer)).filter (·.mode == outline.contexts.active)

def keep (outline : Outline) (image : LiveImage) : Outline :=
  let grown := outline.outputs ++ [image]
  { outline with outputs := grown.drop (grown.length - outline.capacity) }

/-- A target, and whether it is kept. -/
def targetFor (outline : Outline) (target : Buffer) (usesOutputCache : Bool) :
    Except EngineError (ImageHandle × Bool) × Outline :=
  match if usesOutputCache then outline.target? target.id else none with
  | some image => (.ok (image.handle, true), outline)
  | none =>
    let (made, canvas) := outline.make .output target
    let cleared :=
      { if usesOutputCache then outline.invalidate target.id else outline with canvas }
    match made with
    | .error error => (.error (.bind error), cleared)
    | .ok image =>
      let isKept := usesOutputCache && outline.capacity ≠ 0
      (.ok (image.handle, isKept), if isKept then cleared.keep image else cleared)

end Outline

/-! ## Frames -/

/-- What is known of the layers looked at so far. -/
structure Sketch where
  outline : Outline
  /-- The sources of the layers to draw, bottom to top. -/
  sources : List (Option ImageHandle)
  skipped : List SkippedLayer
  active : List BufferId

namespace Sketch

def start (outline : Outline) : Sketch := ⟨outline, [], [], []⟩

def draw (sketch : Sketch) (source : Option ImageHandle) : Sketch :=
  { sketch with sources := sketch.sources ++ [source] }

def skip (sketch : Sketch) (index : Nat) (buffer : Buffer) (reason : SkipReason) : Sketch :=
  { sketch with skipped := sketch.skipped ++ [⟨index, some buffer.id, reason⟩] }

def look (signals : Nat → Bool) (sketch : Sketch) (index : Nat) (layer : Layer) : Sketch :=
  match layer.buffer? with
  | none => sketch.draw none
  | some buffer =>
    match sketch.outline.textureFor buffer with
    | (.error cause, outline) => { sketch with outline }.skip index buffer (.importFailed cause)
    | (.ok handle, outline) =>
      let seen := { sketch with outline, active := buffer.id :: sketch.active }
      if signals (index + 1) then seen.draw (some handle)
      else seen.skip index buffer .acquireTimeout

def lookAll (signals : Nat → Bool) (outline : Outline) (layers : List Layer) : Sketch :=
  layers.zipIdx.foldl (fun sketch (layer, index) => sketch.look signals index layer)
    (start outline)

end Sketch

namespace Outline

def finishFrame (request : FrameRequest) (frame : FrameSeq) (sketch : Sketch) :
    Except EngineError FrameStatus × Outline :=
  match (sketch.outline.evict sketch.active).targetFor request.target request.usesOutputCache with
  | (.error error, outline) => (.error error, outline)
  | (.ok (target, isKept), outline) =>
    (.ok ⟨frame, outline.contexts.active, sketch.sources.length, sketch.skipped, isKept⟩,
      { outline with
        canvas := outline.canvas.draw outline.contexts.current target sketch.sources })

def compose (signals : Nat → Bool) (outline : Outline) (request : FrameRequest) :
    Except EngineError FrameStatus × Outline :=
  finishFrame request outline.issued.next
    (.lookAll signals { outline with issued := outline.issued.next } request.layers)

def draw (signals : Nat → Bool) (outline : Outline) (request : FrameRequest) :
    Except EngineError FrameStatus × Outline :=
  if signals 0 then
    let switched := outline.switchTo request.mode
    if switched.contexts.active = request.mode then switched.compose signals request
    else (.error .protectedUnavailable, switched)
  else (.error (.fenceTimeout outline.patience), outline)

end Outline

/-! ## The outline of an engine -/

namespace Engine

def outline (engine : Engine) : Outline where
  patience := engine.options.fenceTimeout.toNat
  limit := engine.limit
  contexts := engine.contexts
  textures := engine.textures.entries.map Image.asLive
  outputs := engine.outputs.entries.map Image.asLive
  capacity := engine.outputs.capacity
  issued := engine.progress.lastIssued
  canvas := engine.device.canvas

end Engine

def FramePlan.sketch (plan : FramePlan) : Sketch :=
  ⟨plan.engine.outline, plan.draws.map (·.source), plan.skipped, plan.active⟩

end Compositor
