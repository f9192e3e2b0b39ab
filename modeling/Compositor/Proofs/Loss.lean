import Compositor.Proofs.Endings
import Compositor.Proofs.Reachable

/-!
# Noticing the loss of the device

The device may be lost at any moment: between two operations, during a wait, or just before any call
of a context, also one whose result nobody looks at. Whenever that is, the operations that can fail
tell the truth: they fail fatally if they leave the engine marked as lost, and only then. No frame
is submitted to a lost device without notice.
-/

set_option autoImplicit false

namespace Compositor

variable {engine : Engine} {recorded : List ImageHandle}

/-- The call failed because the device is lost. -/
def Fatal {value : Type} (result : Except EngineError value) : Prop :=
  ∃ error, result = .error error ∧ error.isFatal = true

@[simp] theorem fatal_error {value : Type} {error : EngineError} :
    Fatal (.error error : Except EngineError value) ↔ error.isFatal = true := by
  constructor
  · intro fatal
    obtain ⟨other, same, isFatal⟩ := fatal
    cases same
    exact isFatal
  · exact fun isFatal => ⟨error, rfl, isFatal⟩

@[simp] theorem not_fatal_ok {value : Type} (result : value) :
    ¬Fatal (.ok result : Except EngineError value) := by
  intro fatal
  obtain ⟨error, same, -⟩ := fatal
  cases same

namespace Engine

/-- An operation failed exactly if it left the engine marked as lost, and what is marked as lost is
lost. -/
structure Candid (failed : Prop) (after : Engine) : Prop where
  marked : failed ↔ after.lost = true
  lost : after.lost = true → after.device.lost = true

/-- The call for a frame ended before any context was called: all that it did was to wait. -/
structure GivesUp (engine : Engine) (request : FrameRequest) : Prop where
  result : (∃ milliseconds, (engine.draw request).1 = .error (.fenceTimeout milliseconds)) ∨
    (engine.draw request).1 = .error .protectedUnavailable
  engine : (engine.draw request).2 = engine.waited request

/-! ## Frames -/

theorem Submitted.usable {frame : FrameSeq} {fence : Fence} {after : Engine}
    (submitted : engine.Submitted frame (.ok fence, after)) :
    after.lost = engine.lost ∧ after.device.lost = false := by
  cases submitted with
  | fenced _ usable => exact ⟨rfl, usable⟩
  | drained usable => exact ⟨rfl, usable⟩

/-- A composed frame fails because of a loss, or it leaves a usable device. -/
theorem Ended.tells {frame : FrameSeq} {layers : List Layer}
    {result : Except EngineError FrameOutput × Engine} (ended : engine.Ended frame layers result)
    (alive : engine.lost = false) :
    (result.1 = .error .contextLost ∧ result.2.lost = true ∧ result.2.device.lost = true) ∨
      (¬Fatal result.1 ∧ result.2.lost = false ∧ result.2.device.lost = false) := by
  cases ended with
  | lost _ marked lost => exact .inl ⟨rfl, marked, lost⟩
  | refused _ keeps _ mild usable =>
      exact .inr ⟨by simp [mild], keeps.lost.trans alive, usable⟩
  | submitted keeps submitted _ =>
      obtain ⟨same, usable⟩ := submitted.usable
      exact .inr ⟨not_fatal_ok _, same.trans (keeps.lost.trans alive), usable⟩

theorem waited_lost (engine : Engine) (request : FrameRequest) :
    (engine.waited request).lost = engine.lost :=
  (Keeps.awaitAny engine request.inputFence).lost

theorem draw_candid (rested : Moment.Rested ⟨engine, [], recorded⟩) (request : FrameRequest) :
    Candid (Fatal (engine.draw request).1) (engine.draw request).2 := by
  obtain ⟨_, _, after⟩ := (draw_ends rested request).1.rested rested
  have drawn := draw_drawn rested request
  refine ⟨?_, after.paced.lost⟩
  generalize engine.draw request = result at drawn
  cases drawn with
  | lost _ marked _ => simp [marked, EngineError.isFatal]
  | late alive | unavailable alive => simp [EngineError.isFatal, waited_lost, alive]
  | composed _ alive _ ended =>
      rcases ended.tells alive with ⟨failed, marked, -⟩ | ⟨mild, kept, -⟩
      · simp [failed, marked, EngineError.isFatal]
      · simp [mild, kept]

/-- A frame makes no call after the one that submits it, so what is lost by then is lost in the
end. -/
theorem draw_noticed (rested : Moment.Rested ⟨engine, [], recorded⟩) {request : FrameRequest}
    (lost : (engine.draw request).2.device.lost = true) :
    (engine.draw request).1 = .error .contextLost ∨ engine.GivesUp request := by
  have drawn := draw_drawn rested request
  generalize outcome : engine.draw request = result at drawn lost
  cases drawn with
  | lost => exact .inl rfl
  | late => exact .inr ⟨.inl ⟨_, by rw [outcome]⟩, by rw [outcome]⟩
  | unavailable => exact .inr ⟨.inr (by rw [outcome]), by rw [outcome]⟩
  | composed _ alive _ ended =>
      rcases ended.tells alive with ⟨failed, -, -⟩ | ⟨-, -, usable⟩
      · exact .inl failed
      · exact absurd (lost.symm.trans usable) (by simp)

/-! ## Other operations -/

theorem bind_candid (rested : Moment.Rested ⟨engine, [], recorded⟩) (buffer : Buffer) :
    Candid (Fatal (engine.bind buffer).1) (engine.bind buffer).2 := by
  obtain ⟨_, _, after⟩ := (bind_leads rested buffer).reaches.rested rested
  refine ⟨?_, after.paced.lost⟩
  unfold bind
  split
  · rename_i lost
    simp [lost, EngineError.isFatal]
  · rename_i alive
    have kept : (engine.poll.bindTexture buffer).2.lost = engine.lost := rfl
    cases outcome : engine.poll.bindTexture buffer with
    | mk result bound =>
        rw [outcome] at kept
        have same : bound.lost = false := kept.trans (by simpa using alive)
        cases result with
        | ok handle => simp [same]
        | error cause =>
            cases isFatal : cause.isFatal <;>
              simp [EngineError.isFatal, isFatal, noteFailure, markLost, same]

theorem flush_candid (rested : Moment.Rested ⟨engine, [], recorded⟩) :
    Candid (Fatal engine.flush.1) engine.flush.2 := by
  obtain ⟨_, _, after⟩ := (flush_leads rested).reaches.rested rested
  refine ⟨?_, after.paced.lost⟩
  unfold flush
  split
  · rename_i lost
    simp [lost, EngineError.isFatal]
  · rename_i alive
    have submitted := submit_submitted { engine with progress := engine.progress.begin }
      engine.progress.begin.lastIssued
    dsimp only
    generalize ({ engine with progress := engine.progress.begin } : Engine).submit
      engine.progress.begin.lastIssued = result at submitted
    cases submitted with
    | lost => simp [EngineError.isFatal, markLost]
    | fenced | drained => simpa [trace] using alive

theorem finish_candid (rested : Moment.Rested ⟨engine, [], recorded⟩) :
    Candid (engine.finish.1 = false) engine.finish.2 := by
  obtain ⟨_, _, after⟩ := (finish_leads rested).reaches.rested rested
  refine ⟨?_, after.paced.lost⟩
  unfold finish
  split
  · rename_i lost
    simp [lost]
  · rename_i alive
    cases engine.device.finish with
    | mk drained device =>
        cases drained with
        | false => simp [markLost]
        | true => simpa using alive

/-- An engine notices a loss of its device, and reports no other. -/
structure NoticesLoss (engine : Engine) : Prop where
  draw : ∀ request, Candid (Fatal (engine.draw request).1) (engine.draw request).2
  bind : ∀ buffer, Candid (Fatal (engine.bind buffer).1) (engine.bind buffer).2
  flush : Candid (Fatal engine.flush.1) engine.flush.2
  finish : Candid (engine.finish.1 = false) engine.finish.2
  /-- Submitting is the last that a frame asks of the device, so this covers a loss at any moment
  before it or just before it. -/
  submission : ∀ request, (engine.draw request).2.device.lost = true →
    (engine.draw request).1 = .error .contextLost ∨ engine.GivesUp request

end Engine

namespace Session

/-- In every reachable state, whatever losses are scheduled there and wherever they strike, the
engine notices the loss of its device, and reports no loss that did not happen. -/
theorem loss_noticed (options : DeviceOptions) (capabilities : Capabilities)
    (order : ReleaseOrder) (actions : List Action) :
    ∀ engine ∈ ((Session.new (.new options) capabilities order).run actions).2.engine?,
      engine.NoticesLoss := by
  intro engine occupied
  have sound := run_sound (new_sound options capabilities order) actions
  obtain ⟨_, rested⟩ := sound.rested occupied
  exact ⟨Engine.draw_candid rested, Engine.bind_candid rested, Engine.flush_candid rested,
    Engine.finish_candid rested, fun _ => Engine.draw_noticed rested⟩

/-- A frame that finds everything in the caches. -/
private def cachedFrame : FrameRequest :=
  ⟨.ofSize 64 64, [.ofBuffer (.plain ⟨1⟩ 8 8) (.ofSize 8 8)], .plain ⟨2⟩ 64 64, true, none⟩

/-- The device is going to be lost just before the next flush. -/
private def flushDoomed : List Action :=
  [.start ⟨2, false, false, 3000, 3000⟩, .draw cachedFrame, .scheduleLoss .flush 0]

/-- Nothing but the submission is left to notice the loss. -/
theorem loss_noticed_on_submission :
    ∃ engine ∈ ((Session.new (.new .standard) DeviceOptions.standard.capabilities
        .byArrival).run flushDoomed).2.engine?,
      engine.device.lost = false ∧ (engine.draw cachedFrame).2.device.lost = true ∧
        Fatal (engine.draw cachedFrame).1 ∧ engine.NoticesLoss := by
  have struck : ((Session.new (.new .standard) DeviceOptions.standard.capabilities
      .byArrival).run flushDoomed).2.engine?.any (fun engine =>
        !engine.device.lost && (engine.draw cachedFrame).2.device.lost &&
          (engine.draw cachedFrame).2.lost) = true := by decide
  obtain ⟨engine, found, facts⟩ := (Option.any_eq_true _ _).mp struck
  simp only [Bool.and_eq_true, Bool.not_eq_true'] at facts
  obtain ⟨⟨usable, lost⟩, marked⟩ := facts
  have notices := loss_noticed .standard DeviceOptions.standard.capabilities .byArrival
    flushDoomed engine found
  exact ⟨engine, found, usable, lost, (notices.draw cachedFrame).marked.mpr marked, notices⟩

end Session

end Compositor
