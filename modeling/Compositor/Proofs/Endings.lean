import Compositor.Proofs.Dealings

/-!
# How operations end

Each way in which a submission, a frame or a call for a frame can end, with what is known about the
engine and its device then. A frame that fails on a usable device is refused by the call that makes
its target, and no call follows that one. A frame that is submitted makes no call afterwards either.
So what a frame reports is true of the device as it is then.
-/

set_option autoImplicit false

namespace Compositor

variable {engine : Engine} {recorded : List ImageHandle} {frame : FrameSeq}

namespace Engine

/-! ## What is left alone -/

/-- Nothing but caches, images that wait and the device changed. -/
structure Keeps (before after : Engine) : Prop where
  progress : after.progress = before.progress
  strategy : after.strategy = before.strategy
  tracer : after.tracer = before.tracer
  lost : after.lost = before.lost

namespace Keeps

theorem refl (engine : Engine) : Keeps engine engine := ⟨rfl, rfl, rfl, rfl⟩

theorem trans {first second third : Engine} (left : Keeps first second)
    (right : Keeps second third) : Keeps first third :=
  ⟨right.progress.trans left.progress, right.strategy.trans left.strategy,
    right.tracer.trans left.tracer, right.lost.trans left.lost⟩

theorem retire (engine : Engine) (images : List Image) : Keeps engine (engine.retire images) :=
  ⟨rfl, rfl, rfl, rfl⟩

theorem awaitAny (engine : Engine) (fence : Option Fence) :
    Keeps engine (engine.awaitAny fence).2 := by
  rw [awaitAny_eq]
  exact ⟨rfl, rfl, rfl, rfl⟩

theorem evicted (engine : Engine) (active : List BufferId) :
    Keeps engine (engine.evicted active) :=
  ⟨rfl, rfl, rfl, rfl⟩

theorem textureFor (engine : Engine) (buffer : Buffer) (frame : FrameSeq) :
    Keeps engine (engine.textureFor buffer frame).2 := by
  unfold Engine.textureFor
  split
  · exact ⟨rfl, rfl, rfl, rfl⟩
  · have bound : Keeps engine (engine.bindTexture buffer).2 := ⟨rfl, rfl, rfl, rfl⟩
    cases outcome : engine.bindTexture buffer with
    | mk result after =>
        rw [outcome] at bound
        cases result with
        | error cause => exact bound
        | ok handle => exact ⟨bound.progress, bound.strategy, bound.tracer, bound.lost⟩

theorem targetFor (engine : Engine) (target : Buffer) (frame : FrameSeq)
    (usesOutputCache : Bool) :
    Keeps engine (engine.targetFor target frame usesOutputCache).2 := by
  cases usesOutputCache <;> exact ⟨rfl, rfl, rfl, rfl⟩

end Keeps

end Engine

namespace FramePlan

theorem look_keeps (frame : FrameSeq) (plan : FramePlan) (index : Nat) (layer : Layer) :
    plan.engine.Keeps (reached (plan.look frame index layer)) := by
  unfold look
  cases layer.source with
  | solid color => exact .refl plan.engine
  | sampled buffer fence =>
      have textured := Engine.Keeps.textureFor plan.engine buffer frame
      dsimp only
      cases outcome : plan.engine.textureFor buffer frame with
      | mk result after =>
          rw [outcome] at textured
          cases result with
          | error cause =>
              dsimp only
              split <;> exact textured
          | ok handle =>
              have awaited := textured.trans (.awaitAny after fence)
              dsimp only
              split <;> exact awaited

theorem looks_keep (frame : FrameSeq) (layers : List (Layer × Nat)) (plan : FramePlan) :
    plan.engine.Keeps (reached
      (layers.foldlM (fun plan (layer, index) => plan.look frame index layer) plan)) := by
  induction layers generalizing plan with
  | nil => exact .refl plan.engine
  | cons entry layers ih =>
      obtain ⟨layer, index⟩ := entry
      have first := look_keeps frame plan index layer
      rw [List.foldlM_cons]
      dsimp only
      cases outcome : plan.look frame index layer with
      | error after =>
          rw [outcome] at first
          exact first
      | ok next =>
          rw [outcome] at first
          exact first.trans (ih next)

end FramePlan

namespace Engine

/-- Nothing was submitted in between. Submissions may have been found complete, and a number handed
out to one that was given up. -/
structure Carries (before after : Engine) : Prop where
  strategy : after.strategy = before.strategy
  tracer : after.tracer = before.tracer
  issued : before.progress.lastIssued ≤ after.progress.lastIssued
  inFlight : after.progress.inFlight ⊆ before.progress.inFlight

namespace Carries

theorem refl (engine : Engine) : Carries engine engine :=
  ⟨rfl, rfl, Nat.le_refl _, List.Subset.refl _⟩

theorem trans {first second third : Engine} (left : Carries first second)
    (right : Carries second third) : Carries first third :=
  ⟨right.strategy.trans left.strategy, right.tracer.trans left.tracer,
    Nat.le_trans left.issued right.issued, List.Subset.trans right.inFlight left.inFlight⟩

/-- Only the watermark rose, if anything. -/
theorem ofProgress {before after : Engine} (strategy : after.strategy = before.strategy)
    (tracer : after.tracer = before.tracer)
    (issued : after.progress.lastIssued = before.progress.lastIssued)
    (inFlight : after.progress.inFlight ⊆ before.progress.inFlight) : Carries before after :=
  ⟨strategy, tracer, Nat.le_of_eq issued.symm, inFlight⟩

theorem of_keeps {before after : Engine} (keeps : Keeps before after) : Carries before after := by
  refine .ofProgress keeps.strategy keeps.tracer ?_ ?_
  · rw [keeps.progress]
  · rw [keeps.progress]
    exact List.Subset.refl _

theorem poll (engine : Engine) : Carries engine engine.poll :=
  .ofProgress rfl rfl rfl (List.dropWhile_suffix _).subset

theorem idle {after : Engine} (strategy : after.strategy = engine.strategy)
    (tracer : after.tracer = engine.tracer) (progress : after.progress = engine.progress.markIdle) :
    Carries engine after := by
  refine .ofProgress strategy tracer ?_ ?_
  · rw [progress]
    rfl
  · rw [progress]
    exact List.nil_subset _

theorem begun (engine : Engine) (bounded : engine.progress.lastIssued ≤ FrameSeq.last) :
    Carries engine engine.begun :=
  ⟨rfl, rfl, Progress.issued_le_begin bounded, (List.dropWhile_suffix _).subset⟩

theorem noteFailure {before after : Engine} (carries : Carries before after) (isFatal : Bool) :
    Carries before (after.noteFailure isFatal) := by
  cases isFatal with
  | false => exact carries
  | true => exact ⟨carries.strategy, carries.tracer, carries.issued, carries.inFlight⟩

theorem dropFrame {before after : Engine} (carries : Carries before after) (error : EngineError) :
    Carries before (after.dropFrame error).2 := by
  have abandoned : Carries before after.abandon :=
    ⟨carries.strategy, carries.tracer, carries.issued, carries.inFlight⟩
  exact abandoned.noteFailure error.isFatal

theorem switchTo (engine : Engine) (mode : Mode) : Carries engine (engine.switchTo mode) := by
  unfold Engine.switchTo
  split
  · exact .refl engine
  · cases engine.device.finish with
    | mk drained device =>
        cases drained with
        | false => exact ⟨rfl, rfl, Nat.le_refl _, List.Subset.refl _⟩
        | true => exact .idle rfl rfl rfl

end Carries

end Engine

/-! ## Submissions -/

theorem Device.acceptFinish_lost (device : Device) : device.acceptFinish.2.lost = device.lost := by
  unfold acceptFinish
  split <;> rfl

theorem Device.finish_lost {device : Device} (drained : device.finish.1 = true) :
    device.finish.2.lost = false :=
  (acceptFinish_lost _).trans (finish_usable drained)

namespace Strategy

variable {strategy : Strategy} {progress : Progress}

/-- How the submission of `frame` ended. -/
inductive Submitted (strategy : Strategy) (progress : Progress) (frame : FrameSeq) :
    Except EngineError Fence × Progress × Device → Prop where
  | lost {device : Device} : device.lost = true →
      Submitted strategy progress frame (.error .contextLost, progress, device)
  | fenced {fence : Fence} {device : Device} :
      strategy = .fenceGated → device.lost = false →
      Submitted strategy progress frame (.ok fence, progress.submitted frame (some fence), device)
  | drained {fence : Fence} {device : Device} : device.lost = false →
      Submitted strategy progress frame
        (.ok fence, progress.markIdle.submitted frame none, device)

theorem submitDrained_submitted (strategy : Strategy) (device : Device) (progress : Progress)
    (frame : FrameSeq) :
    Submitted strategy progress frame (submitDrained device progress frame) := by
  cases drained : device.finish.1 with
  | false =>
      rw [submitDrained_failed progress frame drained]
      exact .lost (Device.finish_failed drained)
  | true =>
      rw [submitDrained_done progress frame drained]
      exact .drained (Device.finish_lost drained)

theorem submit_submitted (strategy : Strategy) (device : Device) (progress : Progress)
    (frame : FrameSeq) :
    Submitted strategy progress frame (strategy.submit device progress frame) := by
  have flushes := Device.acceptFlush_flushes (device.arrive .flush)
  unfold submit Device.flush
  cases outcome : (device.arrive .flush).acceptFlush with
  | mk given flushed =>
      rw [outcome] at flushes
      cases strategy with
      | blockingFinish => exact submitDrained_submitted _ flushed progress frame
      | fenceGated =>
          cases given with
          | some fence => exact .fenced rfl (flushes.lost.trans flushes.usable)
          | none =>
              have told := Device.checkLost_lost flushed
              dsimp only
              cases asked : flushed.checkLost with
              | mk lost known =>
                  rw [asked] at told
                  cases lost with
                  | true => exact .lost told
                  | false => exact submitDrained_submitted _ known progress frame

/-- How learning of completed work for a cleanup ended. -/
inductive Cleaned (strategy : Strategy) (device : Device) (progress : Progress) :
    Except EngineError Bool × Progress × Device → Prop where
  | polled (released cleaned : Bool) : strategy = .fenceGated →
      Cleaned strategy device progress
        (.ok released, { progress.poll device.fences with cleaned }, device)
  /-- Nothing was submitted since the last cleanup, or nothing of it is left to wait for. -/
  | kept (released cleaned : Bool) : strategy = .blockingFinish →
      Cleaned strategy device progress (.ok released, { progress with cleaned }, device)
  | drained {after : Device} : strategy = .blockingFinish → device.finish = (true, after) →
      Cleaned strategy device progress
        (.ok true, { progress.markIdle with cleaned := true }, after)
  | failed {after : Device} : strategy = .blockingFinish → device.finish = (false, after) →
      Cleaned strategy device progress (.error .contextLost, progress, after)

theorem cleanup_cleaned (strategy : Strategy) (device : Device) (progress : Progress) :
    Cleaned strategy device progress (strategy.cleanup device progress) := by
  unfold cleanup
  cases strategy with
  | fenceGated =>
      dsimp only
      split
      · exact .polled false _ rfl
      · exact .polled true true rfl
  | blockingFinish =>
      dsimp only
      split
      · exact .kept false _ rfl
      · split
        · exact .kept true true rfl
        · unfold drain
          cases outcome : device.finish with
          | mk drained after =>
              cases drained with
              | false => exact .failed rfl outcome
              | true => exact .drained rfl outcome

end Strategy

namespace Engine

/-- How the submission of `frame` by an engine ended. -/
inductive Submitted (engine : Engine) (frame : FrameSeq) :
    Except EngineError Fence × Engine → Prop where
  | lost {device : Device} : device.lost = true →
      Submitted engine frame (.error .contextLost, { engine with device }.markLost)
  | fenced {fence : Fence} {device : Device} :
      engine.strategy = .fenceGated → device.lost = false →
      Submitted engine frame
        (.ok fence,
          { engine with
            progress := engine.progress.submitted frame (some fence), device }.trace fence frame)
  | drained {fence : Fence} {device : Device} : device.lost = false →
      Submitted engine frame
        (.ok fence,
          { engine with
            progress := engine.progress.markIdle.submitted frame none, device }.trace fence frame)

theorem submit_submitted (engine : Engine) (frame : FrameSeq) :
    engine.Submitted frame (engine.submit frame) := by
  have submitted := engine.strategy.submit_submitted engine.device engine.progress frame
  unfold submit
  generalize engine.strategy.submit engine.device engine.progress frame = result at submitted
  cases submitted with
  | lost unusable => exact .lost unusable
  | fenced gated usable => exact .fenced gated usable
  | drained usable => exact .drained usable

end Engine

/-! ## Targets -/

/-- A failure is the loss of the device, or it leaves the device usable. -/
def EngineError.Tells (error : EngineError) (device : Device) : Prop :=
  (error = .contextLost ∧ device.lost = true) ∨ (error.isFatal = false ∧ device.lost = false)

theorem Device.createTarget_tells {device after : Device} {mode : Mode} {buffer : Buffer}
    {limit : UInt32} {error : EngineError}
    (refused : device.createTarget mode buffer limit = (.error error, after)) :
    error.Tells after := by
  have told := checkLost_lost device
  unfold createTarget at refused
  cases asked : device.checkLost with
  | mk lost known =>
      rw [asked] at told refused
      cases lost with
      | true =>
          cases refused
          exact .inl ⟨rfl, told⟩
      | false =>
          dsimp only at refused
          cases checked : ImportRequest.check buffer mode limit with
          | error cause =>
              rw [checked] at refused
              cases refused
              exact .inr ⟨ImportRequest.check_not_fatal checked, told⟩
          | ok request =>
              let target := { request with protectedContent := mode.isSecure }
              have answers :=
                answer_answered (known.arrive .createOutputImage) mode .output target
              rw [checked] at refused
              unfold createOutputImage at refused
              dsimp only at refused
              generalize (known.arrive .createOutputImage).answer mode .output target =
                answered at answers refused
              cases answers with
              | lost lost =>
                  cases refused
                  exact .inl ⟨rfl, lost⟩
              | rejected usable =>
                  cases refused
                  exact .inr ⟨rfl, usable⟩
              | made => cases refused

/-- Where all targets were made for one mode, a miss means that there is none of the buffer. -/
theorem OutputCache.invalidate_of_miss {cache : OutputCache} {buffer : BufferId} {mode : Mode}
    (modes : ∀ image ∈ cache.entries, image.mode = mode)
    (miss : cache.hit? buffer mode = none) : (cache.invalidate buffer).1 = none := by
  cases found : cache.find? buffer with
  | none => exact found
  | some image =>
      have same := modes image (List.mem_of_find?_eq_some found)
      simp [hit?, found, same] at miss

/-- Nothing is dropped where there is no target of the buffer. -/
theorem OutputCache.invalidate_of_absent {cache : OutputCache} {buffer : BufferId}
    (absent : (cache.invalidate buffer).1 = none) : (cache.invalidate buffer).2 = cache := by
  have others := List.find?_eq_none.mp absent
  rw [invalidate, List.eraseP_of_forall_not others]

namespace Engine

/-- Where all targets belong to the active mode, nothing but the device changes if none can be made:
there is no target to give up. -/
theorem targetFor_rejected
    (modes : ∀ image ∈ engine.outputs.entries, image.mode = engine.contexts.active)
    {target : Buffer} {usesOutputCache : Bool} {error : EngineError} {after : Engine}
    (refused : engine.targetFor target frame usesOutputCache = (.error error, after)) :
    ∃ device, engine.device.createTarget engine.contexts.current target engine.limit =
      (.error error, device) ∧ after = { engine with device } := by
  cases usesOutputCache with
  | false =>
      simp only [targetFor, Bool.false_eq_true, if_false] at refused
      cases outcome : engine.device.createTarget engine.contexts.current target engine.limit with
      | mk result device =>
          rw [outcome] at refused
          cases result with
          | ok image => cases refused
          | error cause =>
              cases refused
              exact ⟨device, rfl, rfl⟩
  | true =>
      simp only [targetFor, if_true] at refused
      cases hit : engine.outputs.hit? target.id engine.contexts.active with
      | some image =>
          rw [OutputCache.getOrCreate_hit hit] at refused
          cases refused
      | none =>
          have absent := OutputCache.invalidate_of_miss modes hit
          cases outcome : engine.device.createTarget engine.contexts.current target
              engine.limit with
          | mk result device =>
              cases result with
              | error cause =>
                  rw [OutputCache.getOrCreate_refused hit outcome, absent,
                    OutputCache.invalidate_of_absent absent] at refused
                  cases refused
                  exact ⟨device, rfl, rfl⟩
              | ok image =>
                  by_cases room : engine.outputs.capacity = 0
                  · rw [OutputCache.getOrCreate_transient hit outcome room] at refused
                    cases refused
                  · rw [OutputCache.getOrCreate_cached hit outcome room] at refused
                    cases refused

/-- Where no target can be made, nothing is retired, and the failure tells of the device. -/
theorem targetFor_refused (owned : Moment.Owned ⟨engine, [], []⟩) {target : Buffer}
    {usesOutputCache : Bool} {error : EngineError} {after : Engine}
    (refused : engine.targetFor target frame usesOutputCache = (.error error, after)) :
    after.retired = engine.retired ∧ error.Tells after.device := by
  have modes : ∀ image ∈ engine.outputs.entries, image.mode = engine.contexts.active := by
    intro image member
    refine owned.modes image ?_
    simp [Moment.held, Engine.owned, member]
  obtain ⟨device, refusal, rfl⟩ := targetFor_rejected modes refused
  exact ⟨rfl, Device.createTarget_tells refusal⟩

/-! ## Frames -/

/-- How composing a frame ended, for an engine that has begun it as `frame`. -/
inductive Ended (engine : Engine) (frame : FrameSeq) (layers : List Layer) :
    Except EngineError FrameOutput × Engine → Prop where
  | lost {after : Engine} : engine.Carries after → after.lost = true → after.device.lost = true →
      Ended engine frame layers (.error .contextLost, after)
  /-- There is no target, so what the frame planned is given up. -/
  | refused {plan : FramePlan} {ready : Engine} {error : EngineError} :
      FramePlan.lookAll engine frame layers = .ok plan → engine.Keeps ready →
      ready.retired = (plan.engine.evicted plan.active).retired →
      error.isFatal = false → ready.device.lost = false →
      Ended engine frame layers (.error error, ready.abandon)
  | submitted {ready after : Engine} {output : FrameOutput} :
      engine.Keeps ready → ready.Submitted frame (.ok output.fence, after) →
      output.status.frame = frame →
      Ended engine frame layers (.ok output, { after with framesDrawn := after.framesDrawn + 1 })

theorem render_ended {earlier : Engine} {layers : List Layer} {plan : FramePlan}
    {slot : OutputSlot} (keeps : earlier.Keeps engine)
    (owned : Moment.Owned ⟨engine, slot.owned, []⟩)
    (recording : engine.progress.recording = some frame)
    (targeted : Moment.Available ⟨engine, slot.owned, []⟩ frame slot.handle)
    (sources : ∀ planned ∈ plan.draws, ∀ handle ∈ planned.source,
      Moment.Available ⟨engine, slot.owned, []⟩ frame handle) (request : FrameRequest) :
    earlier.Ended frame layers (engine.render request frame plan slot) := by
  have result := Recording.ofDraws_recorded owned recording targeted request.display sources
  unfold render
  cases outcome : Recording.ofDraws engine.device engine.contexts.current slot.handle
      request.display plan.draws with
  | error failure =>
      rw [outcome] at result
      cases result with
      | @lost device _ unusable _ =>
          have failed : earlier.Carries { engine with device } :=
            .of_keeps ⟨keeps.progress, keeps.strategy, keeps.tracer, keeps.lost⟩
          have dropped := failed.dropFrame .contextLost
          have plain := retire_plain ({ engine with device }.dropFrame .contextLost).2 slot.owned
          exact .lost (dropped.trans (.of_keeps (.retire _ _))) rfl (plain.lost unusable)
  | ok drawn =>
      rw [outcome] at result
      let ready := { engine with device := drawn.device }.retire slot.owned
      have kept : earlier.Keeps ready :=
        ⟨keeps.progress, keeps.strategy, keeps.tracer, keeps.lost⟩
      have submitted := ready.submit_submitted frame
      dsimp only
      cases final : ready.submit frame with
      | mk answer after =>
          rw [final] at submitted
          cases answer with
          | ok fence =>
              let output : FrameOutput :=
                ⟨⟨frame, after.contexts.active, drawn.drawn, plan.skipped ++ drawn.rejected,
                  slot.isCached⟩, fence⟩
              have ended : earlier.Ended frame layers (.ok output, _) :=
                .submitted kept submitted rfl
              exact ended
          | error error =>
              cases submitted with
              | lost unusable =>
                  obtain ⟨strategy, tracer, issued, inFlight⟩ : earlier.Carries ready :=
                    .of_keeps kept
                  exact .lost ⟨strategy, tracer, issued, inFlight⟩ rfl unusable

theorem finishFrame_ended {earlier : Engine} {layers : List Layer} {plan : FramePlan}
    (planned : FramePlan.lookAll earlier frame layers = .ok plan)
    (keeps : earlier.Keeps plan.engine) (owned : Moment.Owned ⟨plan.engine, [], []⟩)
    (recording : plan.engine.progress.recording = some frame) (ready : plan.Ready frame)
    (request : FrameRequest) : earlier.Ended frame layers (finishFrame request frame plan) := by
  have evicted := evicted_stage owned plan.active
  have evictedOwned := evicted.moves.owned owned
  have evictedOpen : (plan.engine.evicted plan.active).progress.recording = some frame := by
    rw [evicted.progress]
    exact recording
  have targeted := targetFor_targeted evictedOwned evictedOpen request.target
    request.usesOutputCache
  have kept := keeps.trans ((Keeps.evicted plan.engine plan.active).trans
    (.targetFor _ request.target frame request.usesOutputCache))
  unfold finishFrame
  cases outcome : (plan.engine.evicted plan.active).targetFor request.target frame
      request.usesOutputCache with
  | mk answer after =>
      rw [outcome] at targeted kept
      cases answer with
      | error error =>
          obtain ⟨retired, tells⟩ := targetFor_refused evictedOwned outcome
          rcases tells with ⟨rfl, lost⟩ | ⟨mild, usable⟩
          · exact .lost ((Carries.of_keeps kept).dropFrame .contextLost) rfl lost
          · have dropped : after.dropFrame error = (.error error, after.abandon) := by
              rw [dropFrame, mild]
              rfl
            dsimp only
            rw [dropped]
            exact .refused planned kept retired mild usable
      | ok slot =>
          cases targeted with
          | given last textures available =>
              have stage := evicted.trans last
              have open_ : after.progress.recording = some frame := by
                rw [stage.progress]
                exact recording
              refine render_ended kept (stage.moves.owned owned) open_ available ?_ request
              intro planned member handle source
              obtain ⟨buffer, inside, serves⟩ := ready.sources planned member handle source
              have kept : after.Serves frame buffer handle := by
                refine (serves.evicted inside).mono fun image cached _ => ?_
                rw [textures]
                exact cached
              exact kept.available slot.owned []

theorem compose_ended (owned : Moment.Owned ⟨engine, [], []⟩)
    (closed : engine.progress.recording = none) (request : FrameRequest) :
    engine.begun.Ended engine.begun.progress.lastIssued request.layers
      (engine.compose request) := by
  have begun : Moves ⟨engine, [], []⟩ ⟨engine.begun, [], []⟩ :=
    .tail (.single .poll) (.begin closed)
  have planned : FramePlan.Planned engine.begun.progress.lastIssued engine.begun
      (FramePlan.lookAll engine.begun engine.begun.progress.lastIssued request.layers) :=
    FramePlan.lookAll_planned (begun.owned owned) rfl request.layers
  have keeps : engine.begun.Keeps (FramePlan.reached
      (FramePlan.lookAll engine.begun engine.begun.progress.lastIssued request.layers)) :=
    FramePlan.looks_keep _ request.layers.zipIdx (.start engine.begun)
  rw [compose_eq]
  cases outcome : FramePlan.lookAll engine.begun engine.begun.progress.lastIssued
      request.layers with
  | error after =>
      rw [outcome] at planned keeps
      cases planned with
      | lost stage unusable =>
          exact .lost ((Carries.of_keeps keeps).dropFrame .contextLost) rfl unusable
  | ok plan =>
      rw [outcome] at planned keeps
      cases planned with
      | ready stage ready =>
          have open_ : plan.engine.progress.recording =
              some engine.begun.progress.lastIssued := by
            rw [stage.progress]
            rfl
          exact finishFrame_ended outcome keeps (stage.moves.owned (begun.owned owned)) open_ ready
            request

/-! ## Calls for frames -/

/-- The engine once a call for a frame is done with waiting. -/
def waited (engine : Engine) (request : FrameRequest) : Engine :=
  (engine.awaitAny request.inputFence).2

/-- How a call for a frame ended. -/
inductive Drawn (engine : Engine) (request : FrameRequest) :
    Except EngineError FrameOutput × Engine → Prop where
  | lost {after : Engine} : engine.Carries after → after.lost = true → after.device.lost = true →
      Drawn engine request (.error .contextLost, after)
  /-- The call waited in vain, and no context was called. -/
  | late {milliseconds : Nat} : engine.lost = false →
      Drawn engine request (.error (.fenceTimeout milliseconds), engine.waited request)
  /-- There is no context of the mode, and none was called. -/
  | unavailable : engine.lost = false →
      Drawn engine request (.error .protectedUnavailable, engine.waited request)
  | composed {ready : Engine} {result : Except EngineError FrameOutput × Engine} :
      ready = (engine.waited request).switchTo request.mode →
      ready.lost = false → Moment.Rested ⟨ready, [], []⟩ →
      ready.begun.Ended ready.begun.progress.lastIssued request.layers result →
      Drawn engine request result

theorem switchTo_active (rested : Moment.Rested ⟨engine, [], recorded⟩) {mode : Mode}
    (usable : (engine.switchTo mode).lost = false)
    (other : (engine.switchTo mode).contexts.active ≠ mode) : engine.switchTo mode = engine := by
  have switches := switchTo_switches rested mode
  generalize engine.switchTo mode = after at switches usable other
  cases switches with
  | kept => rfl
  | failed => cases usable
  | switched _ available _ _ contexts =>
      rw [contexts, Contexts.activate_active available] at other
      exact absurd rfl other

theorem draw_drawn (rested : Moment.Rested ⟨engine, [], recorded⟩) (request : FrameRequest) :
    engine.Drawn request (engine.draw request) := by
  unfold draw
  split
  · rename_i lost
    exact .lost (.refl engine) lost (rested.paced.lost lost)
  · rename_i usable
    have usable : engine.lost = false := by simpa using usable
    have kept : engine.Keeps (engine.waited request) := .awaitAny engine request.inputFence
    obtain ⟨_, _, waited⟩ :=
      (awaitAny_leads rested request.inputFence).reaches.rested rested
    obtain ⟨_, _, switched⟩ := (switchTo_reaches waited request.mode).rested waited
    cases outcome : engine.awaitAny request.inputFence with
    | mk signaled after =>
        have same : engine.waited request = after := congrArg Prod.snd outcome
        rw [outcome] at waited switched
        rw [same] at kept
        cases signaled with
        | false =>
            rw [← same]
            exact .late usable
        | true =>
            dsimp only at waited switched ⊢
            split
            · rename_i lost
              have carries := (Carries.of_keeps kept).trans (.switchTo after request.mode)
              exact .lost carries lost (switched.paced.lost lost)
            · rename_i alive
              have alive : (after.switchTo request.mode).lost = false := by simpa using alive
              split
              · rename_i other
                rw [switchTo_active waited alive other, ← same]
                exact .unavailable usable
              · obtain ⟨closed, nothing⟩ := switched.closed alive
                dsimp only at nothing
                subst nothing
                have ended := compose_ended switched.owned closed request
                exact .composed (by rw [same]) alive switched ended

end Engine

end Compositor
