import Compositor.Proofs.Device.Plain
import Compositor.Proofs.Paths.Emptying

/-!
# Plain parts of operations

Retiring, waiting, submitting, switching and taking down neither make images nor draw, whether or
not the device is lost meanwhile. What an engine makes and draws it makes and draws elsewhere.
-/

set_option autoImplicit false

namespace Compositor

namespace Strategy

theorem submitDrained_plain (device : Device) (progress : Progress) (frame : FrameSeq) :
    Device.Plain device (submitDrained device progress frame).2.2 := by
  cases drained : device.finish.1 with
  | false =>
      rw [submitDrained_failed progress frame drained]
      exact .finish device
  | true =>
      rw [submitDrained_done progress frame drained]
      exact (Device.Plain.finish device).trans (.untold rfl rfl rfl rfl rfl)

theorem submit_plain (strategy : Strategy) (device : Device) (progress : Progress)
    (frame : FrameSeq) : Device.Plain device (strategy.submit device progress frame).2.2 := by
  have flushed := Device.Plain.flush device
  unfold submit
  cases outcome : device.flush with
  | mk fence after =>
      rw [outcome] at flushed
      cases strategy with
      | blockingFinish => exact flushed.trans (submitDrained_plain after progress frame)
      | fenceGated =>
          cases fence with
          | some fence => exact flushed
          | none =>
              have checked := flushed.trans (.checkLost after)
              dsimp only
              cases asked : after.checkLost with
              | mk lost known =>
                  rw [asked] at checked
                  cases lost with
                  | true => exact checked
                  | false => exact checked.trans (submitDrained_plain known progress frame)

theorem drain_plain (device : Device) (progress : Progress) :
    Device.Plain device (drain device progress).2.2 := by
  have finished := Device.Plain.finish device
  unfold drain
  cases outcome : device.finish with
  | mk drained after =>
      rw [outcome] at finished
      cases drained <;> exact finished

theorem cleanup_plain (strategy : Strategy) (device : Device) (progress : Progress) :
    Device.Plain device (strategy.cleanup device progress).2.2 := by
  cases strategy with
  | fenceGated =>
      unfold cleanup
      dsimp only
      split <;> exact .refl device
  | blockingFinish =>
      have drained := drain_plain device progress
      unfold cleanup
      dsimp only
      split
      · exact .refl device
      · split
        · exact .refl device
        · cases outcome : drain device progress with
          | mk result rest =>
              rw [outcome] at drained
              cases result <;> exact drained

end Strategy

namespace Engine

theorem retire_plain (engine : Engine) (images : List Image) :
    Device.Plain engine.device (engine.retire images).device := by
  induction images generalizing engine with
  | nil => exact .refl engine.device
  | cons image images ih =>
      have first : Device.Plain engine.device (engine.retire [image]).device := by
        simp only [retire, RetireQueue.retireAll, List.foldl_cons, List.foldl_nil,
          RetireQueue.retire]
        split
        · exact engine.contexts.destroy_plain engine.device image
        · exact .refl engine.device
      rw [retire_cons]
      exact first.trans (ih (engine.retire [image]))

theorem collect_plain (engine : Engine) : Device.Plain engine.device engine.collect.device :=
  engine.contexts.destroyAll_plain _ engine.device

theorem emptyCaches_plain (engine : Engine) :
    Device.Plain engine.device engine.emptyCaches.device :=
  retire_plain { engine with
    textures := engine.textures.drain.2
    outputs := engine.outputs.drain.2 } _

theorem awaitAny_plain (engine : Engine) (fence : Option Fence) :
    Device.Plain engine.device (engine.awaitAny fence).2.device := by
  cases fence with
  | none => exact .refl engine.device
  | some fence => exact .await engine.device fence

/-- A wait that does not lose the device changes nothing. -/
theorem awaitAny_usable {engine : Engine} {fence : Option Fence}
    (usable : (engine.awaitAny fence).2.device.lost = false) : (engine.awaitAny fence).2 = engine := by
  cases fence with
  | none => rfl
  | some fence =>
      unfold awaitAny await Device.await at usable ⊢
      dsimp only at usable ⊢
      split at usable
      · cases usable
      · rename_i harmless
        rw [if_neg harmless]

theorem submit_plain (engine : Engine) (frame : FrameSeq) :
    Device.Plain engine.device (engine.submit frame).2.device := by
  have submitted := engine.strategy.submit_plain engine.device engine.progress frame
  unfold submit
  cases outcome : engine.strategy.submit engine.device engine.progress frame with
  | mk result rest =>
      rw [outcome] at submitted
      cases result <;> exact submitted

theorem finish_plain (engine : Engine) : Device.Plain engine.device engine.finish.2.device := by
  have finished := Device.Plain.finish engine.device
  unfold finish
  split
  · exact .refl engine.device
  · cases outcome : engine.device.finish with
    | mk drained after =>
        rw [outcome] at finished
        cases drained <;> exact finished

theorem cleanup_plain (engine : Engine) : Device.Plain engine.device engine.cleanup.2.device := by
  have cleaned := engine.strategy.cleanup_plain engine.device engine.progress
  unfold cleanup
  cases outcome : engine.strategy.cleanup engine.device engine.progress with
  | mk result rest =>
      obtain ⟨progress, device⟩ := rest
      rw [outcome] at cleaned
      cases result <;> exact cleaned.trans (collect_plain { engine with progress, device })

theorem switchTo_plain (engine : Engine) (mode : Mode) :
    Device.Plain engine.device (engine.switchTo mode).device := by
  have finished := Device.Plain.finish engine.device
  unfold switchTo
  split
  · exact .refl engine.device
  · cases outcome : engine.device.finish with
    | mk drained device =>
        rw [outcome] at finished
        cases drained with
        | false => exact finished
        | true =>
            let idle : Engine := { engine with device, progress := engine.progress.markIdle }
            exact finished.trans (idle.emptyCaches_plain.trans (collect_plain idle.emptyCaches))

theorem teardown_plain (engine : Engine) : Device.Plain engine.device engine.teardown := by
  have finished : Device.Plain engine.device engine.awaited.device := by
    rcases engine.contexts.finishAll_eq engine.device with same | same
    · simp only [awaited, same]
      exact .finish engine.device
    · simp only [awaited, same]
      exact (Device.Plain.finish _).trans (.finish _)
  exact finished.trans (engine.awaited.emptyCaches_plain.trans
    (engine.contexts.destroyAll_plain _ _))

theorem unbind_plain (engine : Engine) (buffer : BufferId) :
    Device.Plain engine.device (engine.unbind buffer).device :=
  retire_plain { engine.poll with textures := (engine.poll.textures.unbind buffer).2 } _

theorem invalidate_plain (engine : Engine) (buffer : BufferId) :
    Device.Plain engine.device (engine.invalidate buffer).device :=
  retire_plain { engine.poll with outputs := (engine.poll.outputs.invalidate buffer).2 } _

end Engine

end Compositor
