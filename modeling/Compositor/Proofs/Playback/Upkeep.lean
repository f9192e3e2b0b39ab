import Compositor.Proofs.Account.Composition
import Compositor.Proofs.Closure
import Compositor.Proofs.Collection
import Compositor.Proofs.Completion
import Compositor.Proofs.Playback.Serenity

/-!
# Cleaning up after every frame

An engine that cleans up after a frame is done with it at once, on a device that signals its fences
by itself as well as on one without fences: nothing is in flight, nothing waits to be destroyed, and
the watermark stands at the latest submission. A finished frame counts once, and nothing else counts.
-/

set_option autoImplicit false

namespace Compositor

variable {engine : Engine} {recorded : List ImageHandle} {request : FrameRequest}

/-! ## Counting frames -/

namespace Engine

theorem textureFor_framesDrawn (engine : Engine) (buffer : Buffer) (frame : FrameSeq) :
    (engine.textureFor buffer frame).2.framesDrawn = engine.framesDrawn := by
  unfold textureFor
  split
  · rfl
  · have bound : (engine.bindTexture buffer).2.framesDrawn = engine.framesDrawn := rfl
    cases outcome : engine.bindTexture buffer with
    | mk result after =>
        rw [outcome] at bound
        cases result <;> exact bound

theorem awaitAny_framesDrawn (engine : Engine) (fence : Option Fence) :
    (engine.awaitAny fence).2.framesDrawn = engine.framesDrawn := by
  rw [awaitAny_eq]

theorem targetFor_framesDrawn (engine : Engine) (target : Buffer) (frame : FrameSeq)
    (usesOutputCache : Bool) :
    (engine.targetFor target frame usesOutputCache).2.framesDrawn = engine.framesDrawn := by
  cases usesOutputCache <;> rfl

theorem submit_framesDrawn (engine : Engine) (frame : FrameSeq) :
    (engine.submit frame).2.framesDrawn = engine.framesDrawn := by
  unfold submit
  cases engine.strategy.submit engine.device engine.progress frame with
  | mk result rest => cases result <;> rfl

theorem switchTo_framesDrawn (engine : Engine) (mode : Mode) :
    (engine.switchTo mode).framesDrawn = engine.framesDrawn := by
  unfold switchTo
  split
  · rfl
  · cases engine.device.finish with
    | mk drained device => cases drained <;> rfl

theorem cleanup_framesDrawn (engine : Engine) :
    engine.cleanup.2.framesDrawn = engine.framesDrawn := by
  unfold cleanup
  cases engine.strategy.cleanup engine.device engine.progress with
  | mk result rest => cases result <;> rfl

end Engine

namespace FramePlan

theorem look_framesDrawn (frame : FrameSeq) (plan : FramePlan) (index : Nat) (layer : Layer) :
    (reached (plan.look frame index layer)).framesDrawn = plan.engine.framesDrawn := by
  unfold look
  cases layer.source with
  | solid color => rfl
  | sampled buffer fence =>
      have textured := plan.engine.textureFor_framesDrawn buffer frame
      dsimp only
      cases outcome : plan.engine.textureFor buffer frame with
      | mk result after =>
          rw [outcome] at textured
          cases result with
          | error cause =>
              dsimp only
              split <;> exact textured
          | ok handle =>
              have awaited := (after.awaitAny_framesDrawn fence).trans textured
              dsimp only
              split <;> exact awaited

theorem looks_framesDrawn (frame : FrameSeq) (layers : List (Layer × Nat)) (plan : FramePlan) :
    (reached (layers.foldlM (fun plan (layer, index) => plan.look frame index layer)
      plan)).framesDrawn = plan.engine.framesDrawn := by
  induction layers generalizing plan with
  | nil => rfl
  | cons entry layers ih =>
      obtain ⟨layer, index⟩ := entry
      have first := look_framesDrawn frame plan index layer
      rw [List.foldlM_cons]
      dsimp only
      cases outcome : plan.look frame index layer with
      | error after =>
          rw [outcome] at first
          exact first
      | ok next =>
          rw [outcome] at first
          exact (ih next).trans first

end FramePlan

namespace Engine

theorem draw_framesDrawn {output : FrameOutput} {after : Engine}
    (finished : engine.draw request = (.ok output, after)) :
    after.framesDrawn = engine.framesDrawn + 1 := by
  obtain ⟨-, -, -, composition⟩ := draw_composition finished
  have ready : (engine.ready request).framesDrawn = engine.framesDrawn :=
    (switchTo_framesDrawn _ request.mode).trans (engine.awaitAny_framesDrawn request.inputFence)
  cases composition with
  | @staged plan slot targeted submitted recording fence planned given recorded final =>
      have looked := FramePlan.looks_framesDrawn (engine.ready request).begun.progress.lastIssued
        request.layers.zipIdx (.start (engine.ready request).begun)
      rw [← FramePlan.lookAll.eq_1, planned] at looked
      have targets := (plan.engine.evicted plan.active).targetFor_framesDrawn request.target
        (engine.ready request).begun.progress.lastIssued request.usesOutputCache
      have submits := submit_framesDrawn
        ({ targeted with device := recording.device }.retire slot.owned)
        (engine.ready request).begun.progress.lastIssued
      rw [given] at targets
      rw [final] at submits
      refine congrArg (· + 1) ?_
      calc submitted.framesDrawn = targeted.framesDrawn := submits
        _ = plan.engine.framesDrawn := targets
        _ = (engine.ready request).framesDrawn := looked
        _ = engine.framesDrawn := ready

/-! ## Done with everything -/

theorem alive_of_serene (rested : Moment.Rested ⟨engine, [], recorded⟩)
    (serene : engine.device.Serene) : engine.lost = false := by
  cases lost : engine.lost with
  | false => rfl
  | true => exact absurd ((rested.paced.lost lost).symm.trans serene.usable) (by simp)

/-- Nothing is in flight, everything that was submitted is known to be complete, and no image waits
to be destroyed. -/
structure CaughtUp (engine : Engine) : Prop where
  inFlight : engine.progress.inFlight = []
  completed : engine.progress.completed = engine.progress.lastIssued
  parked : engine.retired.parked = []

/-- With a watermark at the latest submission, cleaning up leaves nothing that waits. -/
theorem cleanup_parked (rested : Moment.Rested ⟨engine, [], recorded⟩)
    (latest : engine.cleanup.2.progress.completed = engine.cleanup.2.progress.lastIssued) :
    engine.cleanup.2.retired.parked = [] := by
  obtain ⟨_, _, after⟩ := (cleanup_leads rested).reaches.rested rested
  have incomplete : ∀ image ∈ engine.cleanup.2.retired.parked,
      engine.cleanup.2.progress.isComplete image.lastUsed = false := by
    intro image
    unfold cleanup
    cases engine.strategy.cleanup engine.device engine.progress with
    | mk result rest =>
        cases result <;>
        · dsimp only
          rw [collect_parked, List.mem_filter, collect_eq]
          exact fun member => by simpa using member.2
  refine List.eq_nil_iff_forall_not_mem.mpr fun image member => ?_
  have complete := after.paced.complete_of_idle latest
    (List.mem_append_left [] (List.mem_append_right _ member))
  exact absurd (complete.symm.trans (incomplete image member)) (by simp)

/-- Without fences, the submission of a frame is known to be complete as soon as it is made. -/
theorem draw_idle (rested : Moment.Rested ⟨engine, [], recorded⟩) {output : FrameOutput}
    {after : Engine} (finished : engine.draw request = (.ok output, after))
    (blocking : after.strategy = .blockingFinish) :
    after.progress.inFlight = [] ∧ after.progress.completed = after.progress.lastIssued := by
  have drawn := draw_drawn rested request
  have kept := (draw_books rested request).strategy
  rw [finished] at drawn kept
  cases drawn with
  | @composed ready _ switched usable rest ended =>
      have waits : engine.Keeps (engine.waited request) := .awaitAny engine request.inputFence
      have carries := Carries.switchTo (engine.waited request) request.mode
      rw [← switched] at carries
      have same := carries.strategy.trans (waits.strategy.trans (kept.symm.trans blocking))
      cases ended with
      | @submitted begun _ _ keeps submitted =>
          have bounded : begun.progress.Bounded := by
            rw [keeps.progress]
            exact (rest.paced.progress.poll _).begin
          have recording : begun.progress.recording = some ready.begun.progress.lastIssued := by
            rw [keeps.progress]
            rfl
          exact submitted.idle (keeps.strategy.trans same) bounded recording

theorem cleanup_caughtUp (rested : Moment.Rested ⟨engine, [], recorded⟩)
    (watched : engine.Watched) (serene : engine.device.Serene)
    (idle : engine.strategy = .blockingFinish →
      engine.progress.inFlight = [] ∧ engine.progress.completed = engine.progress.lastIssued) :
    engine.cleanup.2.CaughtUp := by
  obtain ⟨closed, -⟩ := rested.closed (alive_of_serene rested serene)
  have known : engine.cleanup.2.progress.inFlight = [] ∧
      engine.cleanup.2.progress.completed = engine.cleanup.2.progress.lastIssued := by
    have cleaned := engine.strategy.cleanup_cleaned engine.device engine.progress
    unfold cleanup
    generalize engine.strategy.cleanup engine.device engine.progress = result at cleaned
    cases cleaned with
    | polled =>
        have nothing : engine.device.pending = [] := watched.timely.immediate serene.prompt
        have flying := watched.poll_flying
        rw [nothing] at flying
        refine ⟨List.map_eq_nil_iff.mp flying,
          rested.paced.progress.poll_caughtUp closed fun entry flies => ?_⟩
        have resolved := watched.resolved (List.mem_map_of_mem flies) (by simp [nothing])
        exact decide_eq_false resolved.status
    | kept _ _ blocking => exact idle blocking
    | drained => exact ⟨rfl, rested.paced.progress.markIdle_completed closed⟩
    | failed _ finished =>
        have drained := serene.finish.1
        rw [finished] at drained
        cases drained
  exact ⟨known.1, known.2, cleanup_parked rested known.2⟩

end Engine

end Compositor
