import Compositor.Image

/-!
# The output cache

A bounded cache of render targets, keyed by the buffer that they render into. Eviction follows the
order of insertion: a hit does not move an entry, so a target that every frame uses still leaves
once enough newer ones were inserted.
-/

set_option autoImplicit false

namespace Compositor

/-- Where the render target of a frame lives. -/
inductive OutputSlot where
  /-- The cache owns the target and keeps it for later frames. -/
  | cached (handle : ImageHandle)
  /-- The frame owns the target and releases it when it is done. -/
  | transient (image : Image)
  deriving DecidableEq, Repr

namespace OutputSlot

def handle : OutputSlot → ImageHandle
  | .cached handle => handle
  | .transient image => image.handle

def owned : OutputSlot → List Image
  | .cached _ => []
  | .transient image => [image]

def markUsed (slot : OutputSlot) (frame : FrameSeq) : OutputSlot :=
  match slot with
  | .cached handle => .cached handle
  | .transient image => .transient (image.markUsed frame)

def isCached : OutputSlot → Bool
  | .cached _ => true
  | .transient _ => false

end OutputSlot

/-- Render targets, the next one to be evicted first. -/
structure OutputCache where
  capacity : Nat
  entries : List Image
  deriving DecidableEq, Repr

namespace OutputCache

def empty (capacity : Nat) : OutputCache := ⟨capacity, []⟩

def find? (cache : OutputCache) (buffer : BufferId) : Option Image :=
  cache.entries.find? (·.buffer == buffer)

def hit? (cache : OutputCache) (buffer : BufferId) (mode : Mode) : Option Image :=
  (cache.find? buffer).filter (·.mode == mode)

def contains (cache : OutputCache) (buffer : BufferId) : Bool := (cache.find? buffer).isSome

def ids (cache : OutputCache) : List BufferId := cache.entries.map (·.buffer)

def invalidate (cache : OutputCache) (buffer : BufferId) : Option Image × OutputCache :=
  (cache.find? buffer, { cache with entries := cache.entries.eraseP (·.buffer == buffer) })

def markUsed (cache : OutputCache) (buffer : BufferId) (frame : FrameSeq) : OutputCache :=
  { cache with
    entries := cache.entries.map fun image =>
      if image.buffer = buffer then image.markUsed frame else image }

def drain (cache : OutputCache) : List Image × OutputCache :=
  (cache.entries, { cache with entries := [] })

def excess (cache : OutputCache) : Nat := cache.entries.length - cache.capacity

/-- Puts a new target at the back, and takes out of the front what no longer fits. -/
def insert (cache : OutputCache) (image : Image) : List Image × OutputCache :=
  let grown := { cache with entries := cache.entries ++ [image] }
  (grown.entries.take grown.excess, { grown with entries := grown.entries.drop grown.excess })

structure Outcome (state : Type) where
  slot : Except EngineError OutputSlot
  evicted : List Image
  cache : OutputCache
  state : state

/-- The target for `buffer` in `mode`, made by `create` on a miss. A target made for another mode
never matches; it leaves the cache, also when no new one can be made. Without capacity nothing is
kept. -/
def getOrCreate {state : Type} (cache : OutputCache) (buffer : BufferId) (mode : Mode)
    (create : state → Except EngineError Image × state) (initial : state) : Outcome state :=
  match cache.hit? buffer mode with
  | some image => ⟨.ok (.cached image.handle), [], cache, initial⟩
  | none =>
    let (stale, cache) := cache.invalidate buffer
    match create initial with
    | (.error error, final) => ⟨.error error, stale.toList, cache, final⟩
    | (.ok image, final) =>
      if cache.capacity = 0 then
        ⟨.ok (.transient image), stale.toList, cache, final⟩
      else
        let (overflow, cache) := cache.insert image
        ⟨.ok (.cached image.handle), stale.toList ++ overflow, cache, final⟩

end OutputCache

end Compositor
