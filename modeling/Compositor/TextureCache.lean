import Compositor.Binding

/-!
# The texture cache

The imported images of the buffers that recent frames sampled. It has no capacity: each frame evicts
what it does not reference. The cache never destroys an image; whatever leaves it is handed to the
caller. Images that leave together come in an order that is a parameter, and nothing else depends on
it.
-/

set_option autoImplicit false

namespace Compositor

/-- How images that leave a cache together are ordered, each time anew. -/
structure ReleaseOrder where
  /-- Arranges the images of one release; releases are counted from zero. -/
  arrange : Nat → List Image → List Image
  /-- Nothing is lost, added or doubled. -/
  perm : ∀ (release : Nat) (images : List Image), (arrange release images).Perm images

namespace ReleaseOrder

def byArrival : ReleaseOrder := ⟨fun _ images => images, fun _ _ => .refl _⟩

end ReleaseOrder

structure TextureCache where
  /-- One image for each cached buffer. -/
  entries : List Image
  order : ReleaseOrder
  releases : Nat

namespace TextureCache

def empty (order : ReleaseOrder) : TextureCache := ⟨[], order, 0⟩

def find? (cache : TextureCache) (buffer : BufferId) : Option Image :=
  cache.entries.find? (·.buffer == buffer)

def contains (cache : TextureCache) (buffer : BufferId) : Bool := (cache.find? buffer).isSome

def size (cache : TextureCache) : Nat := cache.entries.length

def ids (cache : TextureCache) : List BufferId :=
  (cache.entries.map (·.buffer)).mergeSort fun left right => left.value ≤ right.value

def unbind (cache : TextureCache) (buffer : BufferId) : Option Image × TextureCache :=
  (cache.find? buffer, { cache with entries := cache.entries.filter (·.buffer ≠ buffer) })

def insert (cache : TextureCache) (image : Image) : TextureCache :=
  { cache with entries := cache.entries ++ [image] }

structure BindOutcome where
  result : Except BindError ImageHandle
  displaced : Option Image
  cache : TextureCache
  device : Device

/-- Imports a buffer anew, in place of the image that it had. A failure leaves it without one. -/
def bind (cache : TextureCache) (device : Device) (mode : Mode) (buffer : Buffer)
    (limit : UInt32) : BindOutcome :=
  let (displaced, cache) := cache.unbind buffer.id
  match device.bindImage mode buffer limit with
  | (.error error, device) => ⟨.error error, displaced, cache, device⟩
  | (.ok image, device) => ⟨.ok image.handle, displaced, cache.insert image, device⟩

def markUsed (cache : TextureCache) (buffer : BufferId) (frame : FrameSeq) :
    Option ImageHandle × TextureCache :=
  ((cache.find? buffer).map (·.handle),
    { cache with
      entries := cache.entries.map fun image =>
        if image.buffer = buffer then image.markUsed frame else image })

def releaseUnless (cache : TextureCache) (keeps : Image → Bool) : List Image × TextureCache :=
  (cache.order.arrange cache.releases (cache.entries.filter (!keeps ·)),
    { cache with entries := cache.entries.filter keeps, releases := cache.releases + 1 })

def evictStale (cache : TextureCache) (active : List BufferId) : List Image × TextureCache :=
  cache.releaseUnless fun image => active.contains image.buffer

def drain (cache : TextureCache) : List Image × TextureCache := cache.releaseUnless fun _ => false

end TextureCache

end Compositor
