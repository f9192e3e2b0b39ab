import Compositor.Buffer
import Compositor.Fence
import Compositor.Number

/-!
# Displays and layers

What a frame is composed of: the display that it is composed for and the layers that it stacks.
-/

set_option autoImplicit false

namespace Compositor

structure Rect where
  left : Double
  top : Double
  right : Double
  bottom : Double
  deriving DecidableEq, Repr

namespace Rect

def ofSize (width height : UInt32) : Rect := ⟨.zero, .zero, .ofWord width, .ofWord height⟩

end Rect

/-- A colour with premultiplied alpha. -/
structure Color where
  red : Single
  green : Single
  blue : Single
  alpha : Single
  deriving DecidableEq, Repr

namespace Color

def clear : Color := ⟨.zero, .zero, .zero, .zero⟩

def black : Color := ⟨.zero, .zero, .zero, .one⟩

end Color

structure Display where
  physicalDisplay : Rect
  clip : Rect
  maxLuminance : Single
  /-- Whether the output itself is protected, whatever the layers hold. -/
  protectedOutput : Bool
  clearColor : Option Color
  deriving DecidableEq, Repr

namespace Display

/-- The luminance that a display is assumed to reach: 500 nits. -/
def usualLuminance : Single := ⟨0x43fa0000⟩

def ofSize (width height : UInt32) : Display :=
  ⟨.ofSize width height, .ofSize width height, usualLuminance, false, some .black⟩

end Display

inductive LayerSource where
  /-- A buffer, which may be sampled once the fence of its producer has signaled. -/
  | sampled (buffer : Buffer) (acquireFence : Option Fence)
  | solid (color : Color)
  deriving DecidableEq, Repr

structure Layer where
  bounds : Rect
  alpha : Single
  source : LayerSource
  deriving DecidableEq, Repr

namespace Layer

def ofBuffer (buffer : Buffer) (bounds : Rect) : Layer := ⟨bounds, .one, .sampled buffer none⟩

def ofColor (color : Color) (bounds : Rect) : Layer := ⟨bounds, .one, .solid color⟩

/-- Makes a sampled layer wait for a fence. A solid layer has nothing to wait for. -/
def withAcquireFence (layer : Layer) (fence : Fence) : Layer :=
  match layer.source with
  | .sampled buffer _ => { layer with source := .sampled buffer (some fence) }
  | .solid _ => layer

def buffer? (layer : Layer) : Option Buffer :=
  match layer.source with
  | .sampled buffer _ => some buffer
  | .solid _ => none

def acquireFence? (layer : Layer) : Option Fence :=
  match layer.source with
  | .sampled _ fence => fence
  | .solid _ => none

def isProtected (layer : Layer) : Bool := layer.buffer?.any (·.isProtected)

end Layer

end Compositor
