import Compositor.Proofs.Account.Recording

/-!
# How a finished frame came about

A call that finishes a frame went through all of its stages, on a device that was usable throughout.
-/

set_option autoImplicit false

namespace Compositor.Engine

variable {engine : Engine} {request : FrameRequest}

/-- The stages of a frame that was finished: what was planned, where it was drawn, and how it was
submitted. -/
inductive Composition (engine : Engine) (request : FrameRequest) : FrameOutput → Engine → Prop where
  | staged {plan : FramePlan} {slot : OutputSlot} {targeted submitted : Engine}
      {recording : Recording} {fence : Fence} :
      FramePlan.lookAll engine.begun engine.begun.progress.lastIssued request.layers = .ok plan →
      (plan.engine.evicted plan.active).targetFor request.target engine.begun.progress.lastIssued
        request.usesOutputCache = (.ok slot, targeted) →
      Recording.ofDraws targeted.device targeted.contexts.current slot.handle request.display
        plan.draws = .ok recording →
      ({ targeted with device := recording.device }.retire slot.owned).submit
        engine.begun.progress.lastIssued = (.ok fence, submitted) →
      Composition engine request
        ⟨⟨engine.begun.progress.lastIssued, submitted.contexts.active, recording.drawn,
          plan.skipped ++ recording.rejected, slot.isCached⟩, fence⟩
        { submitted with framesDrawn := submitted.framesDrawn + 1 }

theorem compose_composition {output : FrameOutput} {after : Engine}
    (composed : engine.compose request = (.ok output, after)) :
    engine.Composition request output after := by
  rw [compose_eq] at composed
  cases planned : FramePlan.lookAll engine.begun engine.begun.progress.lastIssued
      request.layers with
  | error lost =>
      rw [planned] at composed
      cases composed
  | ok plan =>
      rw [planned] at composed
      dsimp only at composed
      unfold finishFrame at composed
      cases given : (plan.engine.evicted plan.active).targetFor request.target
          engine.begun.progress.lastIssued request.usesOutputCache with
      | mk answer targeted =>
          rw [given] at composed
          cases answer with
          | error error => cases composed
          | ok slot =>
              dsimp only at composed
              unfold render at composed
              cases recorded : Recording.ofDraws targeted.device targeted.contexts.current
                  slot.handle request.display plan.draws with
              | error failure =>
                  rw [recorded] at composed
                  cases composed
              | ok recording =>
                  rw [recorded] at composed
                  dsimp only at composed
                  cases final : ({ targeted with device := recording.device }.retire
                      slot.owned).submit engine.begun.progress.lastIssued with
                  | mk result submitted =>
                      rw [final] at composed
                      cases result with
                      | error error => cases composed
                      | ok fence =>
                          cases composed
                          exact .staged planned given recorded final

/-- The engine that composes the frame of a call, in the mode that the frame needs. -/
def ready (engine : Engine) (request : FrameRequest) : Engine :=
  (engine.waited request).switchTo request.mode

theorem draw_composition {output : FrameOutput} {after : Engine}
    (drawn : engine.draw request = (.ok output, after)) :
    engine.lost = false ∧ (engine.ready request).lost = false ∧
      (engine.ready request).contexts.active = request.mode ∧
      (engine.ready request).Composition request output after := by
  unfold draw at drawn
  split at drawn
  · cases drawn
  · rename_i alive
    have alive : engine.lost = false := by simpa using alive
    cases outcome : engine.awaitAny request.inputFence with
    | mk signaled waited =>
        have same : engine.ready request = waited.switchTo request.mode := by
          rw [ready, Engine.waited, outcome]
        rw [outcome] at drawn
        cases signaled with
        | false => cases drawn
        | true =>
            dsimp only at drawn
            rw [← same] at drawn
            split at drawn
            · cases drawn
            · rename_i switched
              split at drawn
              · cases drawn
              · rename_i active
                exact ⟨alive, by simpa using switched, not_not.mp active,
                  compose_composition drawn⟩

/-- The device is usable when a submission succeeds. -/
theorem submit_usable {frame : FrameSeq} {fence : Fence} {after : Engine}
    (submitted : engine.submit frame = (.ok fence, after)) : after.device.lost = false := by
  have ends := engine.submit_submitted frame
  rw [submitted] at ends
  cases ends with
  | fenced _ usable => exact usable
  | drained usable => exact usable

end Compositor.Engine
