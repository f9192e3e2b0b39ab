import Compositor.CommandLine.Simulation
import Compositor.Proofs.Containment
import Compositor.Proofs.Outline.Canvas

/-!
# What a scene asks for

Which mode each frame of a scene needs, which targets are kept when it begins, and whether it can be
composed: all of this can be told from the scene, from the room for targets, and from whether there is
a secure context.
-/

set_option autoImplicit false

namespace Compositor

namespace Buffer

/-- The largest extent of an image on the simulated device. -/
def largestExtent : UInt32 := 4096

/-- What is wrong with the extent of a buffer, if anything. -/
def extentFailure? (buffer : Buffer) : Option ImportFailure :=
  if buffer.width = 0 ∨ buffer.height = 0 then some .zeroExtent
  else if largestExtent < buffer.width ∨ largestExtent < buffer.height then
    some (.exceedsLimit buffer.width buffer.height largestExtent)
  else none

/-- A target that is not protected where it must be is refused for its extent only. -/
theorem refusal?_extent {buffer : Buffer} {mode : Mode}
    (secured : buffer.isProtected = true → mode = .secure) :
    ImportRequest.refusal? [] mode .output buffer largestExtent =
      buffer.extentFailure?.map (.importFailed buffer.id) := by
  have contained : ¬(buffer.isProtected = true ∧ mode = .normal) := by
    rintro ⟨isProtected, rfl⟩
    cases secured isProtected
  unfold ImportRequest.refusal? ImportRequest.check extentFailure?
  split_ifs <;> first | rfl | contradiction

end Buffer

/-! ## Targets that are kept -/

/-- A queue of so many targets: a target that is in it stays where it is, and a new one goes to the
back and takes the place of the oldest one. -/
def keepTarget (capacity : Nat) (kept : List BufferId) (target : BufferId) : List BufferId :=
  if target ∈ kept then kept else (kept ++ [target]).drop (kept.length + 1 - capacity)

theorem keepTarget_length_le {capacity : Nat} {kept : List BufferId}
    (bounded : kept.length ≤ capacity) (target : BufferId) :
    (keepTarget capacity kept target).length ≤ capacity := by
  unfold keepTarget
  split
  · exact bounded
  · simp only [List.length_drop, List.length_append, List.length_singleton]
    omega

namespace Scene

section

variable (scene : Scene)

def isProtectedAt (index : Nat) : Bool :=
  scene.display.isProtected || (scene.target? index).any (·.isProtected) ||
    scene.frames[index % scene.frames.length]?.any fun frame =>
      frame.layers.any fun layer => layer.buffer.any (·.isProtected)

/-- The mode that a frame needs. -/
def modeAt (index : Nat) : Mode := .ofProtected (scene.isProtectedAt index)

/-- The mode after so many frames; an engine starts in the normal one. -/
def modeAfter : Nat → Mode
  | 0 => .normal
  | count + 1 => scene.modeAt count

/-- The targets of the latest of so many frames, as far back as all frames needed the same mode. -/
def targetsSince (mode : Mode) : Nat → List BufferId
  | 0 => []
  | count + 1 =>
    if scene.modeAt count = mode then
      targetsSince mode count ++ ((scene.target? count).map (·.id)).toList
    else []

/-- The targets that are kept after so many frames, once the context of a mode is current. -/
def keptTargets (capacity : Nat) (mode : Mode) (count : Nat) : List BufferId :=
  (scene.targetsSince mode count).foldl (keepTarget capacity) []

/-- Why a frame gets no target after all frames before it, if so. A target that is kept is not made
again. -/
def refusalAt? (capacity index : Nat) (target : Buffer) : Option BindError :=
  if target.id ∈ scene.keptTargets capacity (scene.modeAt index) index then none
  else target.extentFailure?.map (.importFailed target.id)

/-- Why a frame cannot be composed after all frames before it, if so. -/
def failureAt? (hasSecure : Bool) (capacity index : Nat) : Option EngineError :=
  if scene.modeAt index = .secure ∧ ¬hasSecure then some .protectedUnavailable
  else (scene.target? index).bind fun target => (scene.refusalAt? capacity index target).map .bind

end

variable {scene : Scene} {capacity index : Nat} {mode : Mode}

theorem keptTargets_length_le (scene : Scene) (capacity : Nat) (mode : Mode) (count : Nat) :
    (scene.keptTargets capacity mode count).length ≤ capacity := by
  unfold keptTargets
  induction scene.targetsSince mode count using List.reverseRecOn with
  | nil => exact Nat.zero_le _
  | append_singleton targets target ih =>
      rw [List.foldl_append]
      exact keepTarget_length_le ih target

/-- A frame adds its target to those that are kept for its mode. -/
theorem keptTargets_succ {target : Buffer} (aimed : scene.target? index = some target) :
    scene.keptTargets capacity (scene.modeAt index) (index + 1) =
      keepTarget capacity (scene.keptTargets capacity (scene.modeAt index) index) target.id := by
  simp [keptTargets, targetsSince, aimed]

/-- Another mode starts with nothing. -/
theorem keptTargets_other (other : scene.modeAfter index ≠ mode) :
    scene.keptTargets capacity mode index = [] := by
  cases index with
  | zero => rfl
  | succ earlier =>
      have changes : scene.modeAt earlier ≠ mode := other
      simp [keptTargets, targetsSince, changes]

/-! ## Frames -/

/-- The request is the one that a scene makes for a frame. -/
structure Asks (scene : Scene) (index : Nat) (request : FrameRequest) : Prop where
  requested : CommandLine.frameRequest? scene index = some request
  mode : request.mode = scene.modeAt index
  target : scene.target? index = some request.target
  usesOutputCache : request.usesOutputCache = true
  inputFence : request.inputFence = none
  acquireFences : ∀ layer ∈ request.layers, layer.acquireFence? = none

theorem check_shown (checked : scene.check = .ok ()) : scene.targets ≠ [] ∧ scene.frames ≠ [] := by
  unfold check at checked
  split at checked
  · cases checked
  · split at checked
    · cases checked
    · rename_i targets
      split at checked
      · cases checked
      · rename_i frames
        exact ⟨by simpa using targets, by simpa using frames⟩

theorem toLayer_isProtected (layer : SceneLayer) (extent : Rect) :
    (layer.toLayer extent).isProtected = layer.buffer.any (·.isProtected) := by
  unfold SceneLayer.toLayer SceneLayer.source Layer.isProtected Layer.buffer?
  cases layer.buffer <;> rfl

theorem toLayer_acquireFence? (layer : SceneLayer) (extent : Rect) :
    (layer.toLayer extent).acquireFence? = none := by
  unfold SceneLayer.toLayer SceneLayer.source Layer.acquireFence?
  cases layer.buffer <;> rfl

/-- A scene that was checked has a request for every frame, however many there are. -/
theorem asks (checked : scene.check = .ok ()) (index : Nat) :
    ∃ request, scene.Asks index request := by
  obtain ⟨targets, frames⟩ := check_shown checked
  have someTarget := Nat.mod_lt index (List.length_pos_iff.mpr targets)
  have someFrame := Nat.mod_lt index (List.length_pos_iff.mpr frames)
  have aimed : scene.target? index = some scene.targets[index % scene.targets.length] :=
    List.getElem?_eq_getElem someTarget
  have framed : scene.frames[index % scene.frames.length]? =
      some scene.frames[index % scene.frames.length] := List.getElem?_eq_getElem someFrame
  have layered : scene.layers? index = some
      (scene.frames[index % scene.frames.length].layers.map (·.toLayer scene.extent)) := by
    rw [layers?, framed]
    rfl
  refine ⟨⟨scene.displaySettings,
    scene.frames[index % scene.frames.length].layers.map (·.toLayer scene.extent),
    scene.targets[index % scene.targets.length], true, none⟩, ?_, ?_, aimed, rfl, rfl, ?_⟩
  · rw [CommandLine.frameRequest?, layered, aimed]
    rfl
  · rw [FrameRequest.mode, modeAt, FrameRequest.isProtected, isProtectedAt, aimed, framed]
    simp only [List.any_map, Option.any_some, displaySettings]
    congr 3
    funext layer
    exact toLayer_isProtected layer scene.extent
  · intro layer member
    obtain ⟨written, -, rfl⟩ := List.mem_map.mp member
    exact toLayer_acquireFence? written scene.extent

namespace Asks

variable {request : FrameRequest}

/-- A protected target is one of the reasons to need the secure mode. -/
theorem secured (asks : scene.Asks index request) (isProtected : request.target.isProtected = true) :
    scene.modeAt index = .secure := by
  rw [← asks.mode, FrameRequest.mode_eq_secure_iff, FrameRequest.isProtected_iff]
  exact .inr (.inl isProtected)

end Asks

end Scene

end Compositor
