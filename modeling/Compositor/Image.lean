import Compositor.Error
import Compositor.FrameSeq
import Compositor.Mode

/-!
# GPU images

An image is what a context makes of a buffer: a texture to sample or a target to render into. It
carries the mode of the context that issued it and the last submission that used it, which together
decide where and when it may be destroyed.
-/

set_option autoImplicit false

namespace Compositor

structure ImageHandle where
  number : Nat
  deriving DecidableEq, Repr

/-- What an image was made for, and thereby which cache owns it. -/
inductive ImageKind where
  | texture
  | output
  deriving DecidableEq, Repr

namespace ImageKind

def name : ImageKind → String
  | .texture => "texture"
  | .output => "output"

end ImageKind

structure Image where
  handle : ImageHandle
  buffer : BufferId
  mode : Mode
  kind : ImageKind
  lastUsed : Option FrameSeq
  deriving DecidableEq, Repr

namespace Image

def fresh (handle : ImageHandle) (buffer : BufferId) (mode : Mode) (kind : ImageKind) : Image :=
  ⟨handle, buffer, mode, kind, none⟩

/-- Records a use by `frame`. An earlier submission never replaces a later one. -/
def markUsed (image : Image) (frame : FrameSeq) : Image :=
  { image with lastUsed := some ((image.lastUsed.elim frame fun previous => max previous frame)) }

end Image

structure ImportRequest where
  buffer : Buffer
  mode : Mode
  protectedContent : Bool
  deriving DecidableEq, Repr

namespace ImportRequest

/-- Checks a buffer for import into a context: first its extent, then the size limit, and last that
protected content stays out of the normal context. -/
def check (buffer : Buffer) (mode : Mode) (limit : UInt32) : Except BindError ImportRequest :=
  if buffer.width = 0 ∨ buffer.height = 0 then
    .error (.importFailed buffer.id .zeroExtent)
  else if limit < buffer.width ∨ limit < buffer.height then
    .error (.importFailed buffer.id (.exceedsLimit buffer.width buffer.height limit))
  else if buffer.isProtected ∧ mode = .normal then
    .error (.importFailed buffer.id .protectedInNormalContext)
  else
    .ok ⟨buffer, mode, buffer.isProtected⟩

end ImportRequest

end Compositor
