import Compositor.Proofs.Dealings
import Compositor.Proofs.Outline.Machine
import Compositor.Proofs.Waits

/-!
# Planning, apart from timing

Looking at layers does to the outline of an engine what the outline itself would do, provided that
the device is usable afterwards. What happens to a lost device is of no concern here, since a lost
device stays lost.
-/

set_option autoImplicit false

namespace Compositor

variable {engine : Engine} {buffer : Buffer} {frame : FrameSeq} {signals : Nat → Bool}

namespace Engine

theorem outline_of_plain {device : Device} (plain : Device.Plain engine.device device) :
    ({ engine with device } : Engine).outline = engine.outline := by
  simp only [outline, plain.canvas]
  rfl

@[simp] theorem retire_outline (engine : Engine) (images : List Image) :
    (engine.retire images).outline = engine.outline := by
  simp only [outline, (engine.retire_plain images).canvas]
  rfl

@[simp] theorem awaitAny_outline (engine : Engine) (fence : Option Fence) :
    (engine.awaitAny fence).2.outline = engine.outline := by
  rw [awaitAny_eq]
  exact outline_of_plain (engine.awaitAny_plain fence)

@[simp] theorem markTexture_outline (engine : Engine) (buffer : BufferId) (frame : FrameSeq) :
    ({ engine with textures := (engine.textures.markUsed buffer frame).2 } : Engine).outline =
      engine.outline := by
  have same := Image.map_asLive_of_marked (engine.textures.markUsed_marked buffer frame)
  simp only [outline, same]
  rfl

/-! ## Textures -/

theorem outline_texture? (engine : Engine) (buffer : BufferId) :
    engine.outline.texture? buffer = (engine.textures.find? buffer).map Image.asLive :=
  List.find?_map ..

theorem unbind_outline (engine : Engine) (buffer : BufferId) :
    ({ engine with textures := (engine.textures.unbind buffer).2 } : Engine).outline =
      engine.outline.unbind buffer := by
  simp only [outline, Outline.unbind, TextureCache.unbind, List.filter_map]
  rfl

theorem bindTexture_outline (usable : (engine.bindTexture buffer).2.device.lost = false) :
    engine.outline.bindTexture buffer =
      ((engine.bindTexture buffer).1, (engine.bindTexture buffer).2.outline) := by
  have made := @Device.bindImage_canvas engine.contexts.current buffer engine.limit engine.device
  have asked : engine.outline.make .texture buffer =
    engine.device.canvas.make engine.contexts.current .texture buffer engine.limit := rfl
  unfold Outline.bindTexture
  cases outcome : engine.device.bindImage engine.contexts.current buffer engine.limit with
  | mk result device =>
      rw [outcome] at made
      cases result with
      | error error =>
          rw [bindTexture_refused outcome] at usable ⊢
          rw [asked, made ((retire_plain _ _).usable usable), retire_outline, ← unbind_outline]
          rfl
      | ok image =>
          rw [bindTexture_made outcome] at usable ⊢
          rw [asked, made ((retire_plain _ _).usable usable), retire_outline, ← unbind_outline]
          simp only [outline, TextureCache.insert, List.map_append]
          rfl

theorem textureFor_outline (usable : (engine.textureFor buffer frame).2.device.lost = false) :
    engine.outline.textureFor buffer =
      ((engine.textureFor buffer frame).1, (engine.textureFor buffer frame).2.outline) := by
  unfold textureFor at usable ⊢
  unfold Outline.textureFor
  rw [outline_texture?]
  cases cached : engine.textures.find? buffer.id with
  | some image =>
      have hit : engine.textures.markUsed buffer.id frame =
          (some image.handle, (engine.textures.markUsed buffer.id frame).2) := by
        simp [TextureCache.markUsed, cached]
      rw [hit]
      exact congrArg _ (markTexture_outline engine buffer.id frame).symm
  | none =>
      have miss : engine.textures.markUsed buffer.id frame =
          (none, (engine.textures.markUsed buffer.id frame).2) := by
        simp [TextureCache.markUsed, cached]
      have bound := @bindTexture_outline engine buffer
      rw [miss] at usable ⊢
      cases outcome : engine.bindTexture buffer with
      | mk result after =>
          rw [outcome] at usable bound
          cases result with
          | error cause => exact bound usable
          | ok handle =>
              refine (bound usable).trans ?_
              exact congrArg _ (markTexture_outline after buffer.id frame).symm

theorem textureFor_survivable {cause : BindError}
    (failed : (engine.textureFor buffer frame).1 = .error cause)
    (usable : (engine.textureFor buffer frame).2.device.lost = false) :
    cause.isFatal = false := by
  have same := congrArg Prod.fst (textureFor_outline usable)
  rw [failed] at same
  exact Outline.textureFor_survivable same

theorem evicted_outline (engine : Engine) (active : List BufferId) :
    (engine.evicted active).outline = engine.outline.evict active := by
  simp only [evicted, retire_outline]
  simp only [outline, Outline.evict, TextureCache.evictStale, TextureCache.releaseUnless,
    List.filter_map]
  rfl

end Engine

/-! ## Layers -/

namespace FramePlan

variable {plan : FramePlan} {index : Nat} {layer : Layer}

theorem look_sketch (foretold : ∀ outcome ∈ plan.wait? frame layer, signals (index + 1) = outcome)
    (usable : (reached (plan.look frame index layer)).device.lost = false) :
    ∃ next, plan.look frame index layer = .ok next ∧
      next.sketch = plan.sketch.look signals index layer := by
  unfold wait? at foretold
  unfold look at usable ⊢
  unfold Sketch.look Layer.buffer?
  cases source : layer.source with
  | solid color => exact ⟨_, rfl, by simp [sketch, draw, Sketch.draw]⟩
  | sampled buffer fence =>
      have textured := @Engine.textureFor_outline plan.engine buffer frame
      have survives := @Engine.textureFor_survivable plan.engine buffer frame
      rw [source] at foretold usable
      dsimp only at foretold usable ⊢
      cases outcome : plan.engine.textureFor buffer frame with
      | mk result after =>
          rw [outcome] at foretold usable textured survives
          cases result with
          | error cause =>
              have known : after.device.lost = false := by
                dsimp only at usable
                split at usable <;> exact usable
              have same : plan.sketch.outline.textureFor buffer = (.error cause, after.outline) :=
                textured known
              rw [same]
              refine ⟨_, if_neg (by simp [survives rfl known]), ?_⟩
              simp [sketch, skip, Sketch.skip, Layer.buffer?, source]
          | ok handle =>
              have known : (after.awaitAny fence).2.device.lost = false := by
                dsimp only at usable
                split at usable <;> exact usable
              have same : plan.sketch.outline.textureFor buffer = (.ok handle, after.outline) :=
                textured ((after.awaitAny_plain fence).usable known)
              have ends := foretold _ rfl
              rw [same]
              dsimp only
              rw [ends]
              cases signaled : (after.awaitAny fence).1 with
              | true =>
                  refine ⟨_, rfl, ?_⟩
                  simp [sketch, draw, Sketch.draw]
              | false =>
                  refine ⟨_, rfl, ?_⟩
                  simp [sketch, skip, Sketch.skip, Layer.buffer?, source]

/-- The layers are looked at one after another; `seen` of them were looked at before. -/
theorem looks_sketch {layers : List Layer} {seen : Nat}
    (foretold : Waits.Foretold (fun wait => signals (seen + wait + 1))
      (plan.waits frame (layers.zipIdx seen)))
    (usable : (reached ((layers.zipIdx seen).foldlM
      (fun plan (layer, index) => plan.look frame index layer) plan)).device.lost = false) :
    ∃ next, (layers.zipIdx seen).foldlM
        (fun plan (layer, index) => plan.look frame index layer) plan = .ok next ∧
      next.sketch = (layers.zipIdx seen).foldl
        (fun sketch (layer, index) => sketch.look signals index layer) plan.sketch := by
  induction layers generalizing plan seen with
  | nil => exact ⟨plan, rfl, rfl⟩
  | cons layer layers ih =>
      have rest := fun next : FramePlan =>
        looks_deal frame (layers.zipIdx (seen + 1)) next
      rw [List.zipIdx_cons] at foretold usable ⊢
      rw [List.foldlM_cons] at usable ⊢
      rw [List.foldl_cons]
      have first := @look_sketch frame signals plan seen layer foretold.head
      dsimp only at usable ⊢
      cases outcome : plan.look frame seen layer with
      | error after =>
          rw [outcome] at usable first
          obtain ⟨_, same, -⟩ := first usable
          cases same
      | ok next =>
          rw [outcome] at usable first
          obtain ⟨_, same, sketched⟩ := first ((rest next).usable usable)
          cases same
          have later : Waits.Foretold (fun wait => signals (seen + 1 + wait + 1))
              (next.waits frame (layers.zipIdx (seen + 1))) := by
            have tail := foretold.tail
            rw [outcome] at tail
            simpa [Nat.add_assoc, Nat.add_comm 1] using tail
          rw [← sketched]
          exact ih later usable

theorem lookAll_sketch {layers : List Layer}
    (foretold : Waits.Foretold (fun wait => signals (wait + 1))
      ((start engine).waits frame layers.zipIdx))
    (usable : (reached (lookAll engine frame layers)).device.lost = false) :
    ∃ plan, lookAll engine frame layers = .ok plan ∧
      plan.sketch = .lookAll signals engine.outline layers :=
  looks_sketch (by simpa using foretold) usable

end FramePlan

end Compositor
