import Compositor.Proofs.Calm
import Compositor.Proofs.Exposure

/-!
# Acts of an engine

What an operation means for submissions, whoever else uses the device. An operation is a series of
acts that hand out no number and submit nothing. At most once in between it takes a number, and only
then can it submit. Nothing is asked here of the images that the engine holds: they may be gone.
-/

set_option autoImplicit false

namespace Compositor

namespace Engine

/-- An act that takes no number and submits nothing. -/
inductive Act : Engine → Engine → Prop where
  /-- Caches, contexts and accounts changed, but nothing that decides about submissions. -/
  | arrange {before after : Engine} : after.device = before.device →
      after.progress = before.progress → after.strategy = before.strategy →
      after.lost = before.lost → Act before after
  | call {engine : Engine} {device : Device} : Device.Call engine.device device →
      Act engine { engine with device }
  | poll {engine : Engine} : Act engine engine.poll
  | abandon {engine : Engine} : Act engine engine.abandon
  | drain {engine : Engine} {device : Device} : engine.device.finish = (true, device) →
      Act engine { engine with device, progress := engine.progress.markIdle }
  /-- The device cannot be drained any more. -/
  | fail {engine : Engine} {device : Device} : engine.device.finish = (false, device) →
      Act engine { engine with device }.markLost
  | markLost {engine : Engine} : Act engine engine.markLost
  /-- A submission fails, which is the end of the engine. -/
  | strand {engine after : Engine} {frame : FrameSeq} {error : EngineError} :
      engine.submit frame = (.error error, after) → Act engine after

abbrev Acts : Engine → Engine → Prop := Relation.ReflTransGen Act

/-- The engine takes the next number. -/
def takeNumber (engine : Engine) : Engine :=
  { engine with progress := engine.progress.begin }

variable {engine after : Engine}

namespace Acts

theorem ofCalls {device : Device} (calls : Device.Calls engine.device device) :
    Acts engine { engine with device } := by
  induction calls with
  | refl => exact .refl
  | tail _ call ih => exact ih.tail (.call call)

/-- The device was called, and what decides about submissions was kept. -/
theorem ofKept (keeps : Keeps engine after) (calls : Device.Calls engine.device after.device) :
    Acts engine after :=
  (ofCalls calls).tail (.arrange rfl keeps.progress keeps.strategy keeps.lost)

theorem noteFailure (engine : Engine) (isFatal : Bool) : Acts engine (engine.noteFailure isFatal) := by
  cases isFatal with
  | false => exact .refl
  | true => exact .single .markLost

theorem retire (engine : Engine) (images : List Image) : Acts engine (engine.retire images) :=
  ofKept (.retire engine images) (engine.retire_calls images)

theorem collect (engine : Engine) : Acts engine engine.collect :=
  ofKept ⟨rfl, rfl, rfl, rfl⟩ engine.collect_calls

theorem awaitAny (engine : Engine) (fence : Option Fence) : Acts engine (engine.awaitAny fence).2 :=
  ofKept (.awaitAny engine fence) (engine.awaitAny_calls fence)

theorem lookAll (engine : Engine) (frame : FrameSeq) (layers : List Layer) :
    Acts engine (FramePlan.reached (FramePlan.lookAll engine frame layers)) :=
  ofKept (FramePlan.looks_keep frame layers.zipIdx (.start engine))
    (FramePlan.looks_calls frame layers.zipIdx (.start engine))

theorem evicted (engine : Engine) (active : List BufferId) : Acts engine (engine.evicted active) :=
  ofKept (.evicted engine active) (engine.evicted_calls active)

theorem targetFor (engine : Engine) (target : Buffer) (frame : FrameSeq)
    (usesOutputCache : Bool) :
    Acts engine (engine.targetFor target frame usesOutputCache).2 :=
  ofKept (.targetFor engine target frame usesOutputCache)
    (engine.targetFor_calls target frame usesOutputCache)

theorem ofDraws (engine : Engine) (target : ImageHandle) (display : Display)
    (draws : List PlannedDraw) :
    Acts engine { engine with
      device := Recording.reached
        (Recording.ofDraws engine.device engine.contexts.current target display draws) } :=
  ofCalls (Recording.ofDraws_calls engine.device engine.contexts.current target display draws)

theorem dropFrame (engine : Engine) (error : EngineError) :
    Acts engine (engine.dropFrame error).2 :=
  .trans (.single .abandon) (noteFailure engine.abandon error.isFatal)

theorem switchTo (engine : Engine) (mode : Mode) : Acts engine (engine.switchTo mode) := by
  unfold Engine.switchTo
  split
  · exact .refl
  · cases drained : engine.device.finish with
    | mk answer device =>
        cases answer with
        | false => exact .single (.fail drained)
        | true =>
            let idle : Engine := { engine with device, progress := engine.progress.markIdle }
            have emptied : Acts idle idle.emptyCaches :=
              ofKept ⟨rfl, rfl, rfl, rfl⟩ idle.emptyCaches_calls
            have collected := emptied.trans (collect idle.emptyCaches)
            have switched : Acts engine idle.emptyCaches.collect := .head (.drain drained) collected
            exact switched.tail (.arrange rfl rfl rfl rfl)

theorem bind (engine : Engine) (buffer : Buffer) : Acts engine (engine.bind buffer).2 := by
  unfold Engine.bind
  split
  · exact .refl
  · have bound : Acts engine.poll (engine.poll.bindTexture buffer).2 :=
      ofKept ⟨rfl, rfl, rfl, rfl⟩ (engine.poll.bindTexture_calls buffer)
    have polled := bound.head .poll
    cases outcome : engine.poll.bindTexture buffer with
    | mk result after =>
        rw [outcome] at polled
        cases result with
        | ok handle => exact polled
        | error cause => exact polled.trans (noteFailure after cause.isFatal)

theorem unbind (engine : Engine) (buffer : BufferId) : Acts engine (engine.unbind buffer) := by
  have removed : Act engine.poll
      { engine.poll with textures := (engine.poll.textures.unbind buffer).2 } :=
    .arrange rfl rfl rfl rfl
  exact .head .poll (.head removed (retire _ _))

theorem invalidate (engine : Engine) (buffer : BufferId) :
    Acts engine (engine.invalidate buffer) := by
  have removed : Act engine.poll
      { engine.poll with outputs := (engine.poll.outputs.invalidate buffer).2 } :=
    .arrange rfl rfl rfl rfl
  exact .head .poll (.head removed (retire _ _))

theorem finish (engine : Engine) : Acts engine engine.finish.2 := by
  unfold Engine.finish
  split
  · exact .refl
  · cases drained : engine.device.finish with
    | mk answer device =>
        cases answer with
        | false => exact .single (.fail drained)
        | true => exact .single (.drain drained)

theorem await (engine : Engine) (fence : Fence) : Acts engine (engine.await fence).2 :=
  .single (.call .await)

end Acts

end Engine

/-! ## Operations -/

namespace Engine

variable {engine : Engine}

/-- What an operation comes to. -/
inductive Deed (engine : Engine) : Option Entry → Engine → Prop where
  | acted {after : Engine} : Acts engine after → Deed engine none after
  /-- A number was taken for nothing. -/
  | gaveUp {idle after : Engine} {entry : Option Entry} : Acts engine idle →
      Acts idle.takeNumber after →
      (entry = none ∨ entry = some (.dropped after.progress.lastIssued)) →
      Deed engine entry after
  | submitted {idle ready after : Engine} {fence : Fence} (framesDrawn : Nat) : Acts engine idle →
      Acts idle.takeNumber ready → ready.progress.recording = some ready.progress.lastIssued →
      ready.submit ready.progress.lastIssued = (.ok fence, after) →
      Deed engine (some (.submitted ready.progress.lastIssued fence)) { after with framesDrawn }
  | released {ready after : Engine} : Acts engine ready →
      Acts { ready with progress := ready.progress.setCleaned } after →
      Deed engine (some .released) after

theorem Deed.after {earlier after : Engine} {entry : Option Entry} (deed : engine.Deed entry after)
    (acts : Acts earlier engine) : earlier.Deed entry after := by
  cases deed with
  | acted path => exact .acted (acts.trans path)
  | gaveUp idle rest label => exact .gaveUp (acts.trans idle) rest label
  | submitted framesDrawn idle rest opened submitted =>
      exact .submitted framesDrawn (acts.trans idle) rest opened submitted
  | released ready rest => exact .released (acts.trans ready) rest

section Frames

variable {earlier idle : Engine} {request : FrameRequest}

/-- A frame that fails after it took a number took it for nothing. -/
theorem Deed.failed {after : Engine} (before : Acts earlier idle) (path : Acts idle.takeNumber after)
    (error : EngineError) :
    earlier.Deed ((Action.draw request).tells? (.frame (.error error)) after) after := by
  refine .gaveUp before path ?_
  cases error with
  | bind cause => exact .inr rfl
  | _ => exact .inl rfl

/-- A frame took a number, and renders into its target. -/
theorem render_deed (before : Acts earlier idle) (path : Acts idle.takeNumber engine)
    (opened : engine.progress.recording = some engine.progress.lastIssued) (plan : FramePlan)
    (slot : OutputSlot) :
    earlier.Deed
      ((Action.draw request).tells?
        (.frame (engine.render request engine.progress.lastIssued plan slot).1)
        (engine.render request engine.progress.lastIssued plan slot).2)
      (engine.render request engine.progress.lastIssued plan slot).2 := by
  have recorded := Acts.ofDraws engine slot.handle request.display plan.draws
  unfold render
  cases outcome : Recording.ofDraws engine.device engine.contexts.current slot.handle
      request.display plan.draws with
  | error failure =>
      obtain ⟨error, device⟩ := failure
      rw [outcome] at recorded
      have dropped := recorded.trans (Acts.dropFrame { engine with device } error)
      exact .failed before (path.trans (dropped.trans (Acts.retire _ slot.owned))) error
  | ok recording =>
      rw [outcome] at recorded
      let ready := { engine with device := recording.device }.retire slot.owned
      have reached := path.trans (recorded.trans (Acts.retire _ slot.owned))
      dsimp only
      cases final : ready.submit engine.progress.lastIssued with
      | mk result after =>
          cases result with
          | error error => exact .failed before (reached.tail (.strand final)) error
          | ok fence =>
              have submits : ready.submit ready.progress.lastIssued = (.ok fence, after) := final
              have deed : earlier.Deed (some (.submitted ready.progress.lastIssued fence))
                  { after with framesDrawn := after.framesDrawn + 1 } :=
                .submitted _ before reached opened submits
              exact deed

theorem compose_deed (engine : Engine) (request : FrameRequest) :
    engine.Deed ((Action.draw request).tells? (.frame (engine.compose request).1)
      (engine.compose request).2) (engine.compose request).2 := by
  have before : Acts engine engine.poll := .single .poll
  have looked := Acts.lookAll engine.poll.takeNumber engine.begun.progress.lastIssued request.layers
  have keeps := FramePlan.looks_keep engine.begun.progress.lastIssued request.layers.zipIdx
    (.start engine.begun)
  rw [← FramePlan.lookAll.eq_1] at keeps
  rw [compose_eq]
  cases planned : FramePlan.lookAll engine.begun engine.begun.progress.lastIssued
      request.layers with
  | error after =>
      rw [show engine.poll.takeNumber = engine.begun from rfl, planned] at looked
      exact .failed before (looked.trans (Acts.dropFrame after .contextLost)) .contextLost
  | ok plan =>
      rw [show engine.poll.takeNumber = engine.begun from rfl, planned] at looked
      rw [planned] at keeps
      have path := looked.trans ((Acts.evicted plan.engine plan.active).trans
        (Acts.targetFor _ request.target engine.begun.progress.lastIssued request.usesOutputCache))
      have kept := keeps.trans ((Keeps.evicted plan.engine plan.active).trans
        (.targetFor _ request.target engine.begun.progress.lastIssued request.usesOutputCache))
      dsimp only
      unfold finishFrame
      cases given : (plan.engine.evicted plan.active).targetFor request.target
          engine.begun.progress.lastIssued request.usesOutputCache with
      | mk answer targeted =>
          rw [given] at path kept
          have same : engine.begun.progress.lastIssued = targeted.progress.lastIssued :=
            congrArg Progress.lastIssued kept.progress.symm
          cases answer with
          | error error =>
              exact .failed before (path.trans (Acts.dropFrame targeted error)) error
          | ok slot =>
              have opened : targeted.progress.recording = some targeted.progress.lastIssued :=
                (congrArg Progress.recording kept.progress).trans (congrArg some same)
              dsimp only
              rw [same]
              exact render_deed before path opened plan slot

theorem draw_deed (engine : Engine) (request : FrameRequest) :
    engine.Deed ((Action.draw request).tells? (.frame (engine.draw request).1)
      (engine.draw request).2) (engine.draw request).2 := by
  have waiting := Acts.awaitAny engine request.inputFence
  unfold draw
  split
  · exact .acted .refl
  · cases outcome : engine.awaitAny request.inputFence with
    | mk signaled waited =>
        rw [outcome] at waiting
        have switching := waiting.trans (Acts.switchTo waited request.mode)
        cases signaled with
        | false => exact .acted waiting
        | true =>
            dsimp only
            split
            · exact .acted switching
            · split
              · exact .acted switching
              · exact (compose_deed _ request).after switching

end Frames

theorem cleanup_gated (gated : engine.strategy = .fenceGated) :
    engine.cleanup =
      if engine.poll.progress.cleaned || engine.poll.progress.lastFence.isSome then
        (false, engine.poll.collect)
      else (true, { engine.poll with progress := engine.poll.progress.setCleaned }.collect) := by
  have answer : engine.strategy.cleanup engine.device engine.progress =
      if engine.poll.progress.cleaned || engine.poll.progress.lastFence.isSome then
        (.ok false, engine.poll.progress, engine.device)
      else (.ok true, engine.poll.progress.setCleaned, engine.device) := by
    rw [gated]
    rfl
  unfold cleanup
  rw [answer]
  cases engine.poll.progress.cleaned || engine.poll.progress.lastFence.isSome <;> rfl

theorem cleanup_blocking (blocking : engine.strategy = .blockingFinish) :
    engine.cleanup =
      if engine.progress.cleaned then (false, engine.collect)
      else if engine.progress.isIdle then
        (true, { engine with progress := engine.progress.setCleaned }.collect)
      else
        match engine.device.finish with
        | (false, device) => (false, { engine with device }.markLost.collect)
        | (true, device) =>
          (true, { engine with device, progress := engine.progress.markIdle.setCleaned }.collect) := by
  have answer : engine.strategy.cleanup engine.device engine.progress =
      if engine.progress.cleaned then (.ok false, engine.progress, engine.device)
      else if engine.progress.isIdle then (.ok true, engine.progress.setCleaned, engine.device)
      else
        match engine.device.finish with
        | (false, device) => (.error .contextLost, engine.progress, device)
        | (true, device) => (.ok true, engine.progress.markIdle.setCleaned, device) := by
    rw [blocking]
    simp only [Strategy.cleanup, Strategy.drain]
    cases engine.device.finish with
    | mk drained device => cases drained <;> rfl
  unfold cleanup
  rw [answer]
  cases engine.progress.cleaned with
  | true => rfl
  | false =>
      cases engine.progress.isIdle with
      | true => rfl
      | false =>
          cases engine.device.finish with
          | mk drained device => cases drained <;> rfl

theorem flush_deed (engine : Engine) :
    engine.Deed (Action.flush.tells? (.flushed engine.flush.1) engine.flush.2) engine.flush.2 := by
  unfold flush
  split
  · exact .acted .refl
  · have issued := (engine.takeNumber.submit_settles engine.takeNumber.progress.lastIssued).1
    dsimp only
    cases final : engine.takeNumber.submit engine.takeNumber.progress.lastIssued with
    | mk result after =>
        rw [final] at issued
        rw [show ({ engine with progress := engine.progress.begin } : Engine) = engine.takeNumber
          from rfl, show engine.progress.begin = engine.takeNumber.progress from rfl, final]
        cases result with
        | error error => exact .gaveUp .refl (.single (.strand final)) (.inl rfl)
        | ok fence =>
            have deed : engine.Deed (some (.submitted engine.takeNumber.progress.lastIssued fence))
                { after with framesDrawn := after.framesDrawn } :=
              .submitted after.framesDrawn .refl .refl rfl final
            rw [← issued] at deed
            exact deed

/-- A cleanup that releases finds the latest submissions complete; else it only collects. -/
theorem cleanup_deed (engine : Engine) :
    engine.Deed (Action.cleanup.tells? (.flag engine.cleanup.1) engine.cleanup.2)
      engine.cleanup.2 := by
  cases strategy : engine.strategy with
  | fenceGated =>
      rw [cleanup_gated strategy]
      split
      · exact .acted (.head .poll (Acts.collect engine.poll))
      · exact .released (.single .poll) (Acts.collect _)
  | blockingFinish =>
      rw [cleanup_blocking strategy]
      split
      · exact .acted (Acts.collect engine)
      · split
        · exact .released .refl (Acts.collect _)
        · cases drained : engine.device.finish with
          | mk answer device =>
              cases answer with
              | false => exact .acted (.head (.fail drained) (Acts.collect _))
              | true => exact .released (.single (.drain drained)) (Acts.collect _)

/-- Whatever an operation is, and however it ends. -/
theorem operate_deed {action : Action} {outcome : Outcome} {after : Engine}
    (operated : Session.operate engine action = some (outcome, after)) :
    engine.Deed (action.tells? outcome after) after := by
  cases action with
  | draw request =>
      cases operated
      exact engine.draw_deed request
  | bind buffer =>
      cases operated
      exact .acted (.bind engine buffer)
  | unbind buffer =>
      cases operated
      exact .acted (.unbind engine buffer)
  | invalidate buffer =>
      cases operated
      exact .acted (.invalidate engine buffer)
  | setProtected wantsSecure =>
      cases operated
      exact .acted (.switchTo engine _)
  | flush =>
      cases operated
      exact engine.flush_deed
  | finish =>
      cases operated
      exact .acted (.finish engine)
  | cleanup =>
      cases operated
      exact engine.cleanup_deed
  | await fence =>
      cases operated
      exact .acted (.await engine fence)
  | watchTracer elapsed =>
      cases operated
      exact .acted (.single (.arrange rfl rfl rfl rfl))
  | _ => cases operated

end Engine

end Compositor
