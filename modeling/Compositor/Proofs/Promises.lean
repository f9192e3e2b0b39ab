import Compositor.Proofs.Acts
import Compositor.Proofs.Closure
import Compositor.Proofs.Watermark

/-!
# What a device stands by

The fences that submissions gave are a promise of the device. Whatever an engine does to it, and
whoever else uses it, its fences stay in order, it never forgets a fence that it owes an answer for,
and an answer is final.
-/

set_option autoImplicit false

namespace Compositor

variable {engine after : Engine}

/-! ## Effects of operations -/

namespace Strategy

theorem submitDrained_effects (device : Device) (progress : Progress) (frame : FrameSeq) :
    Device.Effects device (submitDrained device progress frame).2.2 := by
  have finished : Device.Effects device device.finish.2 := .ofSteps device.finish_steps
  cases drained : device.finish.1 with
  | false =>
      rw [submitDrained_failed progress frame drained]
      exact finished
  | true =>
      rw [submitDrained_done progress frame drained]
      exact finished.tail (.step (.quiet (Device.quiet_create _ _ _)))

theorem submit_effects (strategy : Strategy) (device : Device) (progress : Progress)
    (frame : FrameSeq) : Device.Effects device (strategy.submit device progress frame).2.2 := by
  have flushed : Device.Effects device device.flush.2 :=
    (device.arrive_effects .flush).tail (.flush (Device.acceptFlush_flushes _))
  unfold submit
  cases outcome : device.flush with
  | mk fence after =>
      rw [outcome] at flushed
      cases strategy with
      | blockingFinish => exact flushed.trans (submitDrained_effects after progress frame)
      | fenceGated =>
          cases fence with
          | some fence => exact flushed
          | none =>
              have checked := flushed.trans (after.arrive_effects .checkLost)
              dsimp only
              cases asked : after.checkLost with
              | mk lost known =>
                  rw [show after.arrive .checkLost = known from congrArg Prod.snd asked] at checked
                  cases lost with
                  | true => exact checked
                  | false => exact checked.trans (submitDrained_effects known progress frame)

end Strategy

namespace Engine

theorem submit_effects (engine : Engine) (frame : FrameSeq) :
    Device.Effects engine.device (engine.submit frame).2.device := by
  have submitted := engine.strategy.submit_effects engine.device engine.progress frame
  unfold submit
  cases outcome : engine.strategy.submit engine.device engine.progress frame with
  | mk result rest =>
      rw [outcome] at submitted
      cases result <;> exact submitted

theorem Act.effects (act : Act engine after) : Device.Effects engine.device after.device := by
  cases act with
  | arrange same =>
      rw [same]
  | call call => exact call.effects
  | poll | abandon | markLost => exact .refl
  | drain drained =>
      have finished := Device.Effects.ofSteps engine.device.finish_steps
      rw [drained] at finished
      exact finished
  | fail failed =>
      have finished := Device.Effects.ofSteps engine.device.finish_steps
      rw [failed] at finished
      exact finished
  | @strand _ frame _ failed =>
      have submitted := engine.submit_effects frame
      rw [failed] at submitted
      exact submitted

theorem Acts.effects (acts : Acts engine after) : Device.Effects engine.device after.device := by
  induction acts with
  | refl => exact .refl
  | tail _ act ih => exact ih.trans act.effects

theorem Deed.effects {entry : Option Entry} (deed : engine.Deed entry after) :
    Device.Effects engine.device after.device := by
  cases deed with
  | acted path => exact path.effects
  | @gaveUp idle _ _ before rest =>
      exact before.effects.trans (@Acts.effects idle.takeNumber after rest)
  | @submitted idle ready _ _ _ before rest _ submitted =>
      have recorded := @Acts.effects idle.takeNumber ready rest
      have last := ready.submit_effects ready.progress.lastIssued
      rw [submitted] at last
      exact before.effects.trans (recorded.trans last)
  | @released ready _ before rest =>
      exact before.effects.trans rest.effects

theorem teardown_effects (engine : Engine) : Device.Effects engine.device engine.teardown := by
  have drained := Device.Effects.ofSteps (engine.contexts.finishAll_steps engine.device)
  let idle : Engine := { engine with
    device := (engine.contexts.finishAll engine.device).2
    tracer := none
    progress := engine.progress.markIdle }
  have emptied : Device.Effects idle.device idle.emptyCaches.device := idle.emptyCaches_calls.effects
  exact drained.trans (emptied.trans (Contexts.destroyAll_calls _ _ _).effects)

end Engine

/-! ## Answers -/

namespace Device

/-- Fences stay in order, and what was promised or answered stays so. -/
structure Honours (before after : Device) : Prop where
  fenced : before.Fenced → after.Fenced
  owes : ∀ {fence}, before.Owes fence → after.Owes fence
  resolved : ∀ {fence}, before.Resolved fence → after.Resolved fence

theorem Honours.refl (device : Device) : Honours device device := ⟨id, id, id⟩

theorem Effects.honours {before after : Device} (effects : Effects before after) :
    Honours before after := ⟨effects.fenced, effects.owes, effects.resolved⟩

/-- To a fence, an image that disappears is nothing. -/
theorem Honours.onImages (device : Device) (live : List LiveImage) {event : DeviceEvent}
    (silent : event.concernsFences = false) :
    Honours device ({ device with live }.log event) := by
  refine ⟨fun fenced => (fenced.onImages device.issued live).log silent, fun owes => ?_, id⟩
  rcases owes with ⟨used, since, earlier, split, same⟩ | settled
  · exact .inl ⟨used, event :: since, earlier, congrArg (event :: ·) split, same⟩
  · exact .inr settled

theorem Honours.release (device : Device) (mode : Mode) (handle : ImageHandle) :
    Honours device (device.release mode handle) := by
  unfold Device.release
  split
  · exact .onImages device device.live rfl
  · exact .onImages device _ rfl

theorem Meddled.honours {before after : Device} (meddled : before.Meddled after) :
    Honours before after := by
  cases meddled with
  | step step => exact (Effects.ofSteps (.single step)).honours
  | release mode handle => exact .release before mode handle

/-- What waits after all has waited before. -/
theorem Honours.waited {before after : Device} (honours : Honours before after)
    (fenced : before.Fenced) {fence : Fence} (owes : before.Owes fence)
    (waits : after.fences.isPending fence = true) : before.fences.isPending fence = true := by
  by_contra settled
  have resolved := (owes.made fenced).resolved (Bool.eq_false_iff.mpr settled)
  exact (honours.resolved resolved).status (of_decide_eq_true waits)

theorem fenced_lasting : Lasting Fenced where
  meddled := fun fenced meddled => meddled.honours.fenced fenced
  operated := fun fenced operated => (Engine.operate_deed operated).effects.fenced fenced
  torn := fun fenced => (Engine.teardown_effects _).fenced fenced

end Device

end Compositor
