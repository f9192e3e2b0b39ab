import Compositor.Proofs.Device.Calls
import Compositor.Proofs.Shelf.Frame

/-!
# Calm parts of operations

Retiring, binding, waiting, planning a frame, making its target and recording its draws are series of
calls that submit nothing and do not drain the device. So they are calm, whatever comes of them.
-/

set_option autoImplicit false

namespace Compositor

namespace Contexts

variable (contexts : Contexts)

theorem destroy_calls (device : Device) (image : Image) :
    Device.Calls device (contexts.destroy device image) := by
  unfold destroy
  split
  · exact .single .destroyImage
  · exact .refl

theorem destroyAll_calls (images : List Image) (device : Device) :
    Device.Calls device (contexts.destroyAll device images) := by
  induction images generalizing device with
  | nil => exact .refl
  | cons image images ih => exact (contexts.destroy_calls device image).trans (ih _)

end Contexts

namespace Engine

theorem retire_calls (engine : Engine) (images : List Image) :
    Device.Calls engine.device (engine.retire images).device := by
  induction images generalizing engine with
  | nil => exact .refl
  | cons image images ih =>
      have first : Device.Calls engine.device (engine.retire [image]).device := by
        by_cases complete : engine.progress.isComplete image.lastUsed = true
        · rw [retire_done complete]
          exact engine.contexts.destroy_calls engine.device image
        · rw [retire_used complete]
      rw [retire_cons]
      exact first.trans (ih (engine.retire [image]))

theorem collect_calls (engine : Engine) : Device.Calls engine.device engine.collect.device :=
  engine.contexts.destroyAll_calls _ engine.device

theorem emptyCaches_calls (engine : Engine) :
    Device.Calls engine.device engine.emptyCaches.device :=
  retire_calls { engine with
    textures := engine.textures.drain.2
    outputs := engine.outputs.drain.2 } _

theorem awaitAny_calls (engine : Engine) (fence : Option Fence) :
    Device.Calls engine.device (engine.awaitAny fence).2.device := by
  cases fence with
  | none => exact .refl
  | some fence => exact .single .await

theorem bindTexture_calls (engine : Engine) (buffer : Buffer) :
    Device.Calls engine.device (engine.bindTexture buffer).2.device := by
  have bound := Device.Calls.bindImage engine.device engine.contexts.current buffer engine.limit
  cases outcome : engine.device.bindImage engine.contexts.current buffer engine.limit with
  | mk result device =>
      rw [outcome] at bound
      cases result with
      | error error =>
          rw [bindTexture_refused outcome]
          exact bound.trans (retire_calls { engine with device, textures := _ } _)
      | ok image =>
          rw [bindTexture_made outcome]
          exact bound.trans (retire_calls { engine with device, textures := _ } _)

theorem textureFor_calls (engine : Engine) (buffer : Buffer) (frame : FrameSeq) :
    Device.Calls engine.device (engine.textureFor buffer frame).2.device := by
  have bound := engine.bindTexture_calls buffer
  unfold textureFor
  split
  · exact .refl
  · cases outcome : engine.bindTexture buffer with
    | mk result after =>
        rw [outcome] at bound
        cases result <;> exact bound

theorem evicted_calls (engine : Engine) (active : List BufferId) :
    Device.Calls engine.device (engine.evicted active).device :=
  retire_calls { engine with textures := (engine.textures.evictStale active).2 } _

end Engine

namespace FramePlan

theorem look_calls (frame : FrameSeq) (plan : FramePlan) (index : Nat) (layer : Layer) :
    Device.Calls plan.engine.device (reached (plan.look frame index layer)).device := by
  unfold look
  cases layer.source with
  | solid color => exact .refl
  | sampled buffer fence =>
      have textured := plan.engine.textureFor_calls buffer frame
      dsimp only
      cases outcome : plan.engine.textureFor buffer frame with
      | mk result after =>
          rw [outcome] at textured
          cases result with
          | error cause =>
              dsimp only
              split <;> exact textured
          | ok handle =>
              have awaited := textured.trans (after.awaitAny_calls fence)
              dsimp only
              split <;> exact awaited

theorem looks_calls (frame : FrameSeq) (layers : List (Layer × Nat)) (plan : FramePlan) :
    Device.Calls plan.engine.device (reached
      (layers.foldlM (fun plan (layer, index) => plan.look frame index layer) plan)).device := by
  induction layers generalizing plan with
  | nil => exact .refl
  | cons entry layers ih =>
      obtain ⟨layer, index⟩ := entry
      have first := look_calls frame plan index layer
      rw [List.foldlM_cons]
      dsimp only
      cases outcome : plan.look frame index layer with
      | error after =>
          rw [outcome] at first
          exact first
      | ok next =>
          rw [outcome] at first
          exact first.trans (ih next)

end FramePlan

namespace Recording

/-- The device after recording, whatever came of it. -/
def reached : Except (EngineError × Device) Recording → Device
  | .error (_, device) => device
  | .ok recording => recording.device

variable {mode : Mode} {target : ImageHandle}

theorem add_calls (recording : Recording) (planned : PlannedDraw) :
    Device.Calls recording.device (reached (recording.add mode target planned)) := by
  have drawn : Device.Calls recording.device
      (recording.device.drawLayer mode target planned.source planned.layer).2 := .single .drawLayer
  unfold add
  cases outcome : recording.device.drawLayer mode target planned.source planned.layer with
  | mk result device =>
      rw [outcome] at drawn
      cases result with
      | ok => exact drawn
      | error error =>
          dsimp only
          split <;> exact drawn

theorem adds_calls (draws : List PlannedDraw) (recording : Recording) :
    Device.Calls recording.device (reached (draws.foldlM (add mode target) recording)) := by
  induction draws generalizing recording with
  | nil => exact .refl
  | cons planned draws ih =>
      have first : Device.Calls recording.device (reached (recording.add mode target planned)) :=
        add_calls recording planned
      rw [List.foldlM_cons]
      cases outcome : recording.add mode target planned with
      | error failure =>
          rw [outcome] at first
          exact first
      | ok next =>
          rw [outcome] at first
          exact first.trans (ih next)

theorem ofDraws_calls (device : Device) (mode : Mode) (target : ImageHandle) (display : Display)
    (draws : List PlannedDraw) :
    Device.Calls device (reached (ofDraws device mode target display draws)) := by
  have begun : Device.Calls device (device.beginFrame mode target display).2 := .single .beginFrame
  unfold ofDraws
  cases outcome : device.beginFrame mode target display with
  | mk result after =>
      rw [outcome] at begun
      cases result with
      | error error => exact begun
      | ok => exact begun.trans (adds_calls draws ⟨after, 0, []⟩)

end Recording

namespace Engine

theorem targetFor_calls (engine : Engine) (target : Buffer) (frame : FrameSeq)
    (usesOutputCache : Bool) :
    Device.Calls engine.device (engine.targetFor target frame usesOutputCache).2.device := by
  have made := Device.Calls.createTarget engine.device engine.contexts.current target engine.limit
  cases usesOutputCache with
  | false => exact made
  | true =>
      let outcome := engine.outputs.getOrCreate target.id engine.contexts.active
        (fun device => device.createTarget engine.contexts.current target engine.limit)
        engine.device
      have state : Device.Calls engine.device outcome.state := by
        have touched : outcome.state = engine.device ∨ outcome.state = _ :=
          OutputCache.getOrCreate_state
        rcases touched with same | same
        · rw [same]
        · rw [same]
          exact made
      exact state.trans (retire_calls { engine with outputs := _, device := outcome.state } _)

end Engine

/-! ## Calm -/

namespace Engine

theorem retire_calm (engine : Engine) (images : List Image) :
    Device.Calm engine.device (engine.retire images).device := (engine.retire_calls images).calm

theorem collect_calm (engine : Engine) : Device.Calm engine.device engine.collect.device :=
  engine.collect_calls.calm

theorem emptyCaches_calm (engine : Engine) :
    Device.Calm engine.device engine.emptyCaches.device := engine.emptyCaches_calls.calm

theorem awaitAny_calm (engine : Engine) (fence : Option Fence) :
    Device.Calm engine.device (engine.awaitAny fence).2.device := (engine.awaitAny_calls fence).calm

theorem textureFor_calm (engine : Engine) (buffer : Buffer) (frame : FrameSeq) :
    Device.Calm engine.device (engine.textureFor buffer frame).2.device :=
  (engine.textureFor_calls buffer frame).calm

theorem evicted_calm (engine : Engine) (active : List BufferId) :
    Device.Calm engine.device (engine.evicted active).device := (engine.evicted_calls active).calm

theorem targetFor_calm (engine : Engine) (target : Buffer) (frame : FrameSeq)
    (usesOutputCache : Bool) :
    Device.Calm engine.device (engine.targetFor target frame usesOutputCache).2.device :=
  (engine.targetFor_calls target frame usesOutputCache).calm

end Engine

theorem FramePlan.looks_calm (frame : FrameSeq) (layers : List (Layer × Nat)) (plan : FramePlan) :
    Device.Calm plan.engine.device (reached
      (layers.foldlM (fun plan (layer, index) => plan.look frame index layer) plan)).device :=
  (looks_calls frame layers plan).calm

theorem Recording.ofDraws_calm (device : Device) (mode : Mode) (target : ImageHandle)
    (display : Display) (draws : List PlannedDraw) :
    Device.Calm device (reached (ofDraws device mode target display draws)) :=
  (ofDraws_calls device mode target display draws).calm

end Compositor
