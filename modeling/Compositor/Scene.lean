import Compositor.Error
import Compositor.Layer

/-!
# Scenes

A scene scripts a sequence of frames: a display, the buffers that frames are rendered into, and a
stack of layers for each frame. Targets and frames are both used in turn, so a scene can drive any
number of frames.
-/

set_option autoImplicit false

namespace Compositor

structure SceneDisplay where
  width : UInt32
  height : UInt32
  isProtected : Bool
  deriving DecidableEq, Repr

structure SceneLayer where
  buffer : Option Buffer
  color : Option Color
  bounds : Option Rect
  alpha : Single
  deriving DecidableEq, Repr

namespace SceneLayer

/-- Checks the layer at a position: its source first, then its alpha. -/
def check (layer : SceneLayer) (frame index : Nat) : Except ValidationError Unit :=
  if layer.buffer.isSome = layer.color.isSome then .error (.layerSource frame index)
  else if layer.alpha.inUnitInterval then .ok ()
  else .error (.layerAlpha frame index)

/-- The source of the layer as it is drawn. A buffer comes before a colour, and what has neither is
drawn as nothing. -/
def source (layer : SceneLayer) : LayerSource :=
  match layer.buffer with
  | some buffer => .sampled buffer none
  | none => .solid (layer.color.getD .clear)

def toLayer (layer : SceneLayer) (extent : Rect) : Layer :=
  ⟨layer.bounds.getD extent, layer.alpha, layer.source⟩

end SceneLayer

structure SceneFrame where
  layers : List SceneLayer
  deriving DecidableEq, Repr

namespace SceneFrame

def check (frame : SceneFrame) (index : Nat) : Except ValidationError Unit :=
  frame.layers.zipIdx.forM fun (layer, position) => layer.check index position

end SceneFrame

structure Scene where
  display : SceneDisplay
  targets : List Buffer
  frames : List SceneFrame
  deriving DecidableEq, Repr

namespace Scene

/-- Checks a scene: the display, the targets, the presence of frames, and then the layers frame by
frame. -/
def check (scene : Scene) : Except ValidationError Unit :=
  if scene.display.width = 0 ∨ scene.display.height = 0 then .error .emptyDisplay
  else if scene.targets.isEmpty then .error .noTargets
  else if scene.frames.isEmpty then .error .noFrames
  else scene.frames.zipIdx.forM fun (frame, index) => frame.check index

def displaySettings (scene : Scene) : Display :=
  { Display.ofSize scene.display.width scene.display.height with
    protectedOutput := scene.display.isProtected }

def extent (scene : Scene) : Rect := .ofSize scene.display.width scene.display.height

def target? (scene : Scene) (index : Nat) : Option Buffer :=
  scene.targets[index % scene.targets.length]?

def layers? (scene : Scene) (index : Nat) : Option (List Layer) :=
  scene.frames[index % scene.frames.length]?.map fun frame =>
    frame.layers.map (·.toLayer scene.extent)

end Scene

end Compositor
