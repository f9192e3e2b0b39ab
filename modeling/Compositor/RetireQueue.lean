import Compositor.Contexts
import Compositor.Progress

/-!
# Deferred destruction

An image may still be used by submitted work when it leaves its cache. Every image that leaves one
is retired: it is destroyed at once if its last use has completed, and parked until then otherwise.
-/

set_option autoImplicit false

namespace Compositor

namespace Contexts

/-- Destroys an image through the context that made it, if that still exists. -/
def destroy (contexts : Contexts) (device : Device) (image : Image) : Device :=
  if contexts.has image.mode then device.destroyImage image.mode image.handle else device

def destroyAll (contexts : Contexts) (device : Device) (images : List Image) : Device :=
  images.foldl contexts.destroy device

end Contexts

/-- The images that wait for the device, the first one retired first. -/
structure RetireQueue where
  parked : List Image
  deriving DecidableEq, Repr

namespace RetireQueue

def empty : RetireQueue := ⟨[]⟩

def size (queue : RetireQueue) : Nat := queue.parked.length

/-- Destroys an image if its last use has completed, and parks it otherwise. -/
def retire (queue : RetireQueue) (device : Device) (contexts : Contexts) (progress : Progress)
    (image : Image) : RetireQueue × Device :=
  if progress.isComplete image.lastUsed then (queue, contexts.destroy device image)
  else (⟨queue.parked ++ [image]⟩, device)

def retireAll (queue : RetireQueue) (device : Device) (contexts : Contexts) (progress : Progress)
    (images : List Image) : RetireQueue × Device :=
  images.foldl (fun (queue, device) image => queue.retire device contexts progress image)
    (queue, device)

def collect (queue : RetireQueue) (device : Device) (contexts : Contexts) (progress : Progress) :
    Nat × RetireQueue × Device :=
  let (done, waiting) := queue.parked.partition fun image => progress.isComplete image.lastUsed
  (done.length, ⟨waiting⟩, contexts.destroyAll device done)

def destroyAll (queue : RetireQueue) (device : Device) (contexts : Contexts) :
    RetireQueue × Device :=
  (⟨[]⟩, contexts.destroyAll device queue.parked)

end RetireQueue

end Compositor
