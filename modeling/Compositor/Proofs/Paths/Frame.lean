import Compositor.Proofs.Paths.Recording

/-!
# Composing a frame as a path of moves

A frame is planned, recorded and submitted. However it ends, the engine is at rest afterwards: the
frame was submitted, or it was dropped before anything was recorded, or the device is lost.
-/

set_option autoImplicit false

namespace Compositor

variable {engine : Engine} {hand : List Image} {recorded : List ImageHandle} {frame : FrameSeq}

/-! ## Submission -/

/-- What submitting a frame left behind. -/
inductive Submits (engine : Engine) (hand : List Image) (recorded : List ImageHandle) :
    Except EngineError Fence → Progress → Device → Prop where
  | lost {device : Device} : device.lost = true →
      Moves ⟨engine, hand, recorded⟩ ⟨{ engine with device }, hand, []⟩ →
      Submits engine hand recorded (.error .contextLost) engine.progress device
  | submitted {fence : Fence} {progress : Progress} {device : Device} :
      progress.recording = none →
      Moves ⟨engine, hand, recorded⟩ ⟨{ engine with device, progress }, hand, []⟩ →
      Submits engine hand recorded (.ok fence) progress device

namespace Submits

theorem after {arrived device : Device} {result : Except EngineError Fence} {progress : Progress}
    (submits : Submits { engine with device := arrived } hand recorded result progress device)
    (steps : Device.Steps engine.device arrived) :
    Submits engine hand recorded result progress device := by
  have before : Moves ⟨engine, hand, recorded⟩
      ⟨{ engine with device := arrived }, hand, recorded⟩ :=
    .ofDevice steps
  cases submits with
  | lost unusable path => exact .lost unusable (before.trans path)
  | submitted closed path => exact .submitted closed (before.trans path)

end Submits

namespace Strategy

theorem submitDrained_failed {device : Device} (progress : Progress) (frame : FrameSeq)
    (failed : device.finish.1 = false) :
    submitDrained device progress frame = (.error .contextLost, progress, device.finish.2) := by
  cases outcome : device.finish with
  | mk drained after =>
      rw [outcome] at failed
      cases failed
      simp [submitDrained, drain, outcome]

theorem submitDrained_done {device : Device} (progress : Progress) (frame : FrameSeq)
    (done : device.finish.1 = true) :
    submitDrained device progress frame =
      (.ok device.finish.2.nextFence, progress.markIdle.submitted frame none,
        { device.finish.2 with
          fences := (device.finish.2.fences.create .device .signaled).2 }) := by
  cases outcome : device.finish with
  | mk drained after =>
      rw [outcome] at done
      cases done
      simp only [submitDrained, drain, outcome]
      rfl

theorem submitDrained_submits (engine : Engine) (hand : List Image) (recorded : List ImageHandle)
    (recording : engine.progress.recording = some frame) {fence : Option Fence}
    {flushed ready : Device} (flushes : Device.Flushes engine.device fence flushed)
    (same : Device.Quiet flushed ready) :
    Submits engine hand recorded (submitDrained ready engine.progress frame).1
      (submitDrained ready engine.progress frame).2.1
      (submitDrained ready engine.progress frame).2.2 := by
  cases drained : ready.finish.1 with
  | false =>
      have lost := Device.finish_failed drained
      have steps : Device.Steps flushed ready := .single (.quiet same)
      rw [submitDrained_failed _ _ drained]
      exact .lost lost (.single (.flushLost flushes (steps.trans (Device.finish_steps ready)) lost))
  | true =>
      have usable := Device.finish_usable drained
      have done : Moves ⟨engine, hand, recorded⟩ _ :=
        .single (.submitDrained recording flushes (same.trans (Device.arrive_quiet usable)) usable)
      have open_ : engine.progress.markIdle.recording = some frame := recording
      rw [submitDrained_done _ _ drained]
      exact .submitted (Progress.submitted_recording open_ none)
        (done.tail (.device (.quiet (Device.quiet_create _ _ _))))

/-- Without a fence, the device is drained unless it turns out to be lost. -/
theorem submitUnfenced_submits (engine : Engine) (hand : List Image) (recorded : List ImageHandle)
    (recording : engine.progress.recording = some frame) {flushed : Device}
    (flushes : Device.Flushes engine.device none flushed) :
    let result : Except EngineError Fence × Progress × Device :=
      match flushed.checkLost with
      | (true, device) => (.error .contextLost, engine.progress, device)
      | (false, device) => submitDrained device engine.progress frame
    Submits engine hand recorded result.1 result.2.1 result.2.2 := by
  have steps := Device.checkLost_steps flushed
  have told := Device.checkLost_lost flushed
  have same : flushed.checkLost.1 = false → Device.Quiet flushed flushed.checkLost.2 :=
    Device.arrive_quiet
  dsimp only
  cases asked : flushed.checkLost with
  | mk lost device =>
      rw [asked] at steps told same
      cases lost with
      | true => exact .lost told (.single (.flushLost flushes steps told))
      | false => exact submitDrained_submits engine hand recorded recording flushes (same rfl)

theorem submit_submits (strategy : Strategy) (engine : Engine) (hand : List Image)
    (recorded : List ImageHandle) (recording : engine.progress.recording = some frame) :
    Submits engine hand recorded (strategy.submit engine.device engine.progress frame).1
      (strategy.submit engine.device engine.progress frame).2.1
      (strategy.submit engine.device engine.progress frame).2.2 := by
  have flushes := Device.acceptFlush_flushes (engine.device.arrive .flush)
  refine Submits.after ?_ (Device.arrive_steps engine.device .flush)
  let arrived : Engine := { engine with device := engine.device.arrive .flush }
  unfold submit Device.flush
  cases outcome : (engine.device.arrive .flush).acceptFlush with
  | mk fence device =>
      rw [outcome] at flushes
      cases strategy with
      | blockingFinish =>
          exact submitDrained_submits arrived hand recorded recording flushes (.refl device)
      | fenceGated =>
          cases fence with
          | some fence =>
              exact .submitted (Progress.submitted_recording recording (some fence))
                (.single (.submitFenced recording flushes))
          | none => exact submitUnfenced_submits arrived hand recorded recording flushes

end Strategy

namespace Engine

theorem submit_leads (engine : Engine) (recorded : List ImageHandle)
    (recording : engine.progress.recording = some frame) :
    Leads ⟨engine, [], recorded⟩ (engine.submit frame).2 := by
  have submits := Strategy.submit_submits engine.strategy engine [] recorded recording
  unfold submit
  cases outcome : engine.strategy.submit engine.device engine.progress frame with
  | mk result rest =>
      obtain ⟨progress, device⟩ := rest
      rw [outcome] at submits
      cases submits with
      | lost unusable path => exact .ofLost (path.tail (.markLost unusable)) rfl rfl
      | submitted closed path => exact (Leads.ofClosed path (fun _ => closed) rfl).note _ _ _

theorem submit_error (engine : Engine) (recorded : List ImageHandle)
    (recording : engine.progress.recording = some frame) {error : EngineError}
    (failed : (engine.submit frame).1 = .error error) : error = .contextLost := by
  have submits := Strategy.submit_submits engine.strategy engine [] recorded recording
  unfold submit at failed
  cases outcome : engine.strategy.submit engine.device engine.progress frame with
  | mk result rest =>
      obtain ⟨progress, device⟩ := rest
      rw [outcome] at submits failed
      cases submits with
      | lost unusable path =>
          cases failed
          rfl
      | submitted closed path => cases failed

end Engine

/-! ## How frames end -/

/-- Nothing that a frame handed to its context was refused. -/
def Unrefused : Except EngineError FrameOutput → Prop
  | .error error => ∀ cause, error ≠ .validation cause
  | .ok output => NoneRejected output.status.skipped

/-- A frame ends at a moment of rest, with nothing of it refused. -/
structure Concludes (before : Moment) (result : Except EngineError FrameOutput × Engine) : Prop
    where
  leads : Leads before result.2
  unrefused : Unrefused result.1

theorem Concludes.after {earlier later : Moment}
    {result : Except EngineError FrameOutput × Engine} (concludes : Concludes later result)
    (moves : Moves earlier later)
    (contexts : later.engine.contexts = earlier.engine.contexts) : Concludes earlier result :=
  ⟨concludes.leads.after moves contexts, concludes.unrefused⟩

namespace Moves

theorem noteFailure {isFatal : Bool} (fatal : isFatal = true → engine.device.lost = true) :
    Moves ⟨engine, hand, recorded⟩ ⟨engine.noteFailure isFatal, hand, recorded⟩ := by
  cases isFatal with
  | false => exact .refl
  | true => exact .single (.markLost (fatal rfl))

theorem dropFrame (error : EngineError)
    (fatal : error.isFatal = true → engine.device.lost = true)
    (droppable : engine.device.lost = true ∨ recorded = []) :
    Moves ⟨engine, hand, recorded⟩ ⟨(engine.dropFrame error).2, hand, recorded⟩ := by
  have abandoned : Moves ⟨engine, hand, recorded⟩ ⟨engine.abandon, hand, recorded⟩ :=
    .single (.abandon droppable)
  exact abandoned.trans (noteFailure fatal)

end Moves

theorem Leads.noteFailure {before : Moment} (leads : Leads before engine) {isFatal : Bool}
    (fatal : isFatal = true → engine.device.lost = true) :
    Leads before (engine.noteFailure isFatal) := by
  cases isFatal with
  | false => exact leads
  | true =>
      obtain ⟨⟨recorded, moves, -⟩, contexts⟩ := leads
      exact .ofLost (moves.tail (.markLost (fatal rfl))) rfl contexts

namespace Engine

theorem dropFrame_concludes (error : EngineError)
    (fatal : error.isFatal = true → engine.device.lost = true)
    (valid : ∀ cause, error ≠ .validation cause) :
    Concludes ⟨engine, [], []⟩ (engine.dropFrame error) := by
  have abandoned : Leads ⟨engine, [], []⟩ engine.abandon :=
    .ofClosed (.single (.abandon (.inr rfl))) (fun _ => rfl) rfl
  exact ⟨abandoned.noteFailure fatal, valid⟩

/-! ## Whole frames -/

theorem render_concludes {plan : FramePlan} {slot : OutputSlot}
    (owned : Moment.Owned ⟨engine, slot.owned, []⟩)
    (recording : engine.progress.recording = some frame)
    (targeted : Moment.Available ⟨engine, slot.owned, []⟩ frame slot.handle)
    (sources : ∀ planned ∈ plan.draws, ∀ handle ∈ planned.source,
      Moment.Available ⟨engine, slot.owned, []⟩ frame handle)
    (skipped : NoneRejected plan.skipped) (request : FrameRequest) :
    Concludes ⟨engine, slot.owned, []⟩ (engine.render request frame plan slot) := by
  have result := Recording.ofDraws_recorded owned recording targeted request.display sources
  unfold render
  cases outcome : Recording.ofDraws engine.device engine.contexts.current slot.handle
      request.display plan.draws with
  | error failure =>
      rw [outcome] at result
      cases result with
      | lost unusable path =>
          have dropped : Moves _ _ :=
            path.trans (Moves.dropFrame .contextLost (fun _ => unusable) (.inl unusable))
          exact ⟨.ofLost (dropped.trans (Moves.retireHand (dropped.owned owned))) rfl rfl,
            fun _ => nofun⟩
  | ok drawn =>
      rw [outcome] at result
      cases result with
      | @done _ later accepted path =>
          let retired := { engine with device := drawn.device }.retire slot.owned
          have given : Moves _ ⟨retired, [], later⟩ :=
            path.trans (Moves.retireHand (path.owned owned))
          have submitted := (submit_leads retired later recording).after given rfl
          have fails := @submit_error frame retired later recording
          have complete : NoneRejected (plan.skipped ++ drawn.rejected) := by
            rw [accepted, List.append_nil]
            exact skipped
          dsimp only
          cases final : retired.submit frame with
          | mk answer after =>
              rw [final] at submitted fails
              cases answer with
              | error error =>
                  refine ⟨submitted, fun cause => ?_⟩
                  rw [fails rfl]
                  exact nofun
              | ok fence =>
                  have counted := submitted.note after.tracer (after.framesDrawn + 1)
                    after.progress.cleaned
                  exact ⟨counted, complete⟩

theorem Serves.available {buffer : BufferId} {handle : ImageHandle}
    (serves : engine.Serves frame buffer handle) (hand : List Image)
    (recorded : List ImageHandle) : Moment.Available ⟨engine, hand, recorded⟩ frame handle := by
  obtain ⟨image, member, -, same, since⟩ := serves
  have owned := List.mem_append_left engine.retired.parked
    (List.mem_append_left engine.outputs.entries member)
  exact ⟨image, List.mem_append_left hand owned, same, since⟩

theorem finishFrame_concludes {plan : FramePlan} (owned : Moment.Owned ⟨plan.engine, [], []⟩)
    (recording : plan.engine.progress.recording = some frame) (ready : plan.Ready frame)
    (request : FrameRequest) :
    Concludes ⟨plan.engine, [], []⟩ (finishFrame request frame plan) := by
  have evicted := evicted_stage owned plan.active
  have evictedOpen : (plan.engine.evicted plan.active).progress.recording = some frame := by
    rw [evicted.progress]
    exact recording
  have targeted := targetFor_targeted (evicted.moves.owned owned) evictedOpen request.target
    request.usesOutputCache
  unfold finishFrame
  cases outcome : (plan.engine.evicted plan.active).targetFor request.target frame
      request.usesOutputCache with
  | mk answer after =>
      rw [outcome] at targeted
      cases targeted with
      | refused last fatal valid =>
          have stage := evicted.trans last
          exact (dropFrame_concludes _ fatal valid).after stage.moves stage.contexts
      | @given slot _ last textures available =>
          have stage := evicted.trans last
          have open_ : after.progress.recording = some frame := by
            rw [stage.progress]
            exact recording
          refine (render_concludes (stage.moves.owned owned) open_ available ?_ ready.skipped
            request).after stage.moves stage.contexts
          intro planned member handle source
          obtain ⟨buffer, inside, serves⟩ := ready.sources planned member handle source
          have kept : after.Serves frame buffer handle := by
            refine (serves.evicted inside).mono fun image cached _ => ?_
            rw [textures]
            exact cached
          exact kept.available slot.owned []

/-- Composing starts with nothing recorded, and with no submission open. -/
theorem compose_concludes (owned : Moment.Owned ⟨engine, [], []⟩)
    (closed : engine.progress.recording = none) (request : FrameRequest) :
    Concludes ⟨engine, [], []⟩ (engine.compose request) := by
  have begun : Moves ⟨engine, [], []⟩ ⟨engine.begun, [], []⟩ :=
    .tail (.single .poll) (.begin closed)
  have planned : FramePlan.Planned engine.begun.progress.lastIssued engine.begun
      (FramePlan.lookAll engine.begun engine.begun.progress.lastIssued request.layers) :=
    FramePlan.lookAll_planned (begun.owned owned) rfl request.layers
  refine Concludes.after ?_ begun rfl
  rw [compose_eq]
  cases outcome : FramePlan.lookAll engine.begun engine.begun.progress.lastIssued
      request.layers with
  | error after =>
      rw [outcome] at planned
      cases planned with
      | lost stage unusable =>
          exact (dropFrame_concludes .contextLost (fun _ => unusable) fun _ => nofun).after
            stage.moves stage.contexts
  | ok plan =>
      rw [outcome] at planned
      cases planned with
      | ready stage ready =>
          have open_ : plan.engine.progress.recording =
              some engine.begun.progress.lastIssued := by
            rw [stage.progress]
            rfl
          exact (finishFrame_concludes (stage.moves.owned (begun.owned owned)) open_ ready
            request).after stage.moves stage.contexts

end Engine

end Compositor
