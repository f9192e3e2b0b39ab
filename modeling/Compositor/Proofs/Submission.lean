import Compositor.Proofs.Device.Effects
import Compositor.Proofs.Paths.Frame

/-!
# Fences of submissions

A submission gives a fence that a flush gave, or one that had signaled before anyone could see it.
Either way the device owes an answer for it. There is no fence only if the device is lost.
-/

set_option autoImplicit false

namespace Compositor

namespace Strategy

variable {device after : Device} {progress next : Progress} {frame : FrameSeq} {fence : Fence}

theorem submitDrained_owes
    (submitted : submitDrained device progress frame = (.ok fence, next, after)) :
    after.Owes fence := by
  cases drained : device.finish.1 with
  | false =>
      rw [submitDrained_failed progress frame drained] at submitted
      cases submitted
  | true =>
      rw [submitDrained_done progress frame drained] at submitted
      cases submitted
      refine .inr ⟨.signaled, by decide, ?_⟩
      simp [Fences.create, Device.nextFence]

theorem submit_owes {strategy : Strategy}
    (submitted : strategy.submit device progress frame = (.ok fence, next, after)) :
    after.Owes fence := by
  have flushes := Device.acceptFlush_flushes (device.arrive .flush)
  unfold submit Device.flush at submitted
  cases outcome : (device.arrive .flush).acceptFlush with
  | mk given flushed =>
      rw [outcome] at flushes submitted
      cases strategy with
      | blockingFinish => exact submitDrained_owes submitted
      | fenceGated =>
          cases given with
          | some given =>
              cases submitted
              obtain ⟨added, events, -⟩ := flushes.events
              exact .inl ⟨_, added, _, events, rfl⟩
          | none =>
              dsimp only at submitted
              cases asked : flushed.checkLost with
              | mk lost known =>
                  rw [asked] at submitted
                  cases lost with
                  | true => cases submitted
                  | false => exact submitDrained_owes submitted

/-- No number was handed out, and nothing but a loss is reported. -/
structure Settles (progress : Progress) (result : Except EngineError Fence × Progress × Device) :
    Prop where
  issued : result.2.1.lastIssued = progress.lastIssued
  lost : ∀ error, result.1 = .error error → result.2.2.lost = true

theorem submitDrained_settles (device : Device) (progress : Progress) (frame : FrameSeq) :
    Settles progress (submitDrained device progress frame) := by
  cases drained : device.finish.1 with
  | false =>
      rw [submitDrained_failed progress frame drained]
      exact ⟨rfl, fun _ _ => Device.finish_failed drained⟩
  | true =>
      rw [submitDrained_done progress frame drained]
      exact ⟨Progress.submitted_lastIssued .., nofun⟩

theorem submit_settles (strategy : Strategy) (device : Device) (progress : Progress)
    (frame : FrameSeq) : Settles progress (strategy.submit device progress frame) := by
  unfold submit
  cases device.flush with
  | mk fence flushed =>
      cases strategy with
      | blockingFinish => exact submitDrained_settles flushed progress frame
      | fenceGated =>
          cases fence with
          | some fence => exact ⟨Progress.submitted_lastIssued .., nofun⟩
          | none =>
              have told := Device.checkLost_lost flushed
              dsimp only
              cases asked : flushed.checkLost with
              | mk lost known =>
                  rw [asked] at told
                  cases lost with
                  | true => exact ⟨rfl, fun _ _ => told⟩
                  | false => exact submitDrained_settles known progress frame

theorem cleanup_issued (strategy : Strategy) (device : Device) (progress : Progress) :
    (strategy.cleanup device progress).2.1.lastIssued = progress.lastIssued := by
  unfold cleanup drain
  cases strategy with
  | fenceGated =>
      dsimp only
      split <;> rfl
  | blockingFinish =>
      dsimp only
      split
      · rfl
      · split
        · rfl
        · cases device.finish with
          | mk drained after => cases drained <;> rfl

end Strategy

namespace Engine

/-- The number of a submission was handed out before, and no submission fails on a usable device. -/
theorem submit_settles (engine : Engine) (frame : FrameSeq) :
    (engine.submit frame).2.progress.lastIssued = engine.progress.lastIssued ∧
      ((engine.submit frame).2.device.lost = false → ∃ fence,
        (engine.submit frame).1 = .ok fence) := by
  obtain ⟨issued, lost⟩ :=
    Strategy.submit_settles engine.strategy engine.device engine.progress frame
  unfold submit
  cases outcome : engine.strategy.submit engine.device engine.progress frame with
  | mk result rest =>
      rw [outcome] at issued lost
      cases result with
      | ok fence => exact ⟨issued, fun _ => ⟨fence, rfl⟩⟩
      | error error =>
          exact ⟨issued, fun usable => absurd ((lost error rfl).symm.trans usable) (by simp)⟩

theorem submit_owes {engine after : Engine} {frame : FrameSeq} {fence : Fence}
    (submitted : engine.submit frame = (.ok fence, after)) : after.device.Owes fence := by
  unfold submit at submitted
  cases outcome : engine.strategy.submit engine.device engine.progress frame with
  | mk result rest =>
      rw [outcome] at submitted
      cases result with
      | error error => cases submitted
      | ok given =>
          cases submitted
          exact Strategy.submit_owes outcome

theorem flush_owes {engine after : Engine} {fence : Fence}
    (flushed : engine.flush = (.ok fence, after)) : after.device.Owes fence := by
  unfold flush at flushed
  split at flushed
  · cases flushed
  · exact submit_owes flushed

end Engine

end Compositor
