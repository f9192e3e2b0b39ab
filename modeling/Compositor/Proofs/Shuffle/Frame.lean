import Compositor.Proofs.Shuffle.Planning

/-!
# Frames on alike engines

Alike engines make the same target for a frame, record the same draws into it and submit them under
the same number, or fail in the same way. What the frame takes out of the caches on its way may come
in another order, and that is all that differs afterwards.
-/

set_option autoImplicit false

namespace Compositor

/-! ## Targets -/

namespace OutputCache.Outcome

/-- The same came of a request for a target, on alike devices. -/
inductive Alike (left : Outcome Device) : Outcome Device → Prop where
  | varied {state : Device} : left.state.Alike state → Alike left { left with state }

/-- The device made every image that a request for a target left somewhere. -/
structure Known (outcome : Outcome Device) : Prop where
  evicted : outcome.state.Knows outcome.evicted
  entries : outcome.state.Knows outcome.cache.entries
  owned : ∀ slot, outcome.slot = .ok slot → outcome.state.Knows slot.owned

/-- The cache once the target that it keeps is marked as used. -/
def kept {state : Type} (outcome : Outcome state) (buffer : BufferId) (frame : FrameSeq) :
    OutputCache :=
  match outcome.slot with
  | .ok (.cached _) => outcome.cache.markUsed buffer frame
  | _ => outcome.cache

theorem Known.kept {outcome : Outcome Device} (known : outcome.Known) (buffer : BufferId)
    (frame : FrameSeq) : outcome.state.Knows (outcome.kept buffer frame).entries := by
  unfold Outcome.kept
  split
  · exact known.entries.marked
      (Image.map_asLive_of_marked (outcome.cache.markUsed_marked buffer frame))
  · exact known.entries

end OutputCache.Outcome

namespace OutputCache

variable {cache : OutputCache} {buffer : BufferId} {mode : Mode}
  {create : Device → Except EngineError Image × Device} {first second : Device}

theorem getOrCreate_alike (alike : first.Alike second)
    (agree : Agree Device.Alike (create first) (create second)) :
    (cache.getOrCreate buffer mode create first).Alike
      (cache.getOrCreate buffer mode create second) := by
  cases hit : cache.hit? buffer mode with
  | some image =>
      rw [getOrCreate_hit hit, getOrCreate_hit hit]
      exact .varied alike
  | none =>
      obtain ⟨result, one, other, made, making, same⟩ := agree.split
      cases result with
      | error error =>
          rw [getOrCreate_refused hit made, getOrCreate_refused hit making]
          exact .varied same
      | ok image =>
          by_cases full : cache.capacity = 0
          · rw [getOrCreate_transient hit made full, getOrCreate_transient hit making full]
            exact .varied same
          · rw [getOrCreate_cached hit made full, getOrCreate_cached hit making full]
            exact .varied same

theorem getOrCreate_known {device : Device} (knows : device.Knows cache.entries)
    (target : Buffer) (mode user : Mode) (limit : UInt32) :
    (cache.getOrCreate target.id mode (fun device => device.createTarget user target limit)
      device).Known := by
  have apart := cache.invalidate_perm target.id
  have effects := (Device.Calls.createTarget device user target limit).effects
  cases hit : cache.hit? target.id mode with
  | some image =>
      rw [getOrCreate_hit hit]
      refine ⟨.nil device, knows, fun slot same => ?_⟩
      cases same
      exact .nil device
  | none =>
      cases made : device.createTarget user target limit with
      | mk result after =>
          rw [made] at effects
          have stale : after.Knows (cache.invalidate target.id).1.toList :=
            (knows.subset fun _ member => apart.subset (List.mem_append_left _ member)).effects
              effects
          have rest : after.Knows (cache.invalidate target.id).2.entries :=
            (knows.subset fun _ member => apart.subset (List.mem_append_right _ member)).effects
              effects
          cases result with
          | error error =>
              rw [getOrCreate_refused hit made]
              exact ⟨stale, rest, nofun⟩
          | ok image =>
              have new : after.Knows [image] := by
                intro other member
                rw [List.mem_singleton.mp member]
                exact Device.createTarget_created made
              by_cases full : cache.capacity = 0
              · rw [getOrCreate_transient hit made full]
                refine ⟨stale, rest, fun slot same => ?_⟩
                cases same
                exact new
              · have grown := rest.append new
                rw [← insert_append] at grown
                rw [getOrCreate_cached hit made full]
                refine ⟨stale.append ?_, ?_, fun slot same => ?_⟩
                · exact grown.subset (List.subset_append_left _ _)
                · exact grown.subset (List.subset_append_right _ _)
                · cases same
                  exact .nil after

end OutputCache

theorem OutputSlot.owned_markUsed (slot : OutputSlot) (frame : FrameSeq) :
    (slot.markUsed frame).owned.map Image.asLive = slot.owned.map Image.asLive := by
  cases slot <;> rfl

namespace Engine

/-- What the output cache gives for the target of a frame. -/
def requestTarget (engine : Engine) (target : Buffer) : OutputCache.Outcome Device :=
  engine.outputs.getOrCreate target.id engine.contexts.active
    (fun device => device.createTarget engine.contexts.current target engine.limit) engine.device

theorem targetFor_cached (engine : Engine) (target : Buffer) (frame : FrameSeq) :
    engine.targetFor target frame true =
      ((engine.requestTarget target).slot.map (·.markUsed frame),
        { engine with
          outputs := (engine.requestTarget target).kept target.id frame
          device := (engine.requestTarget target).state }.retire
            (engine.requestTarget target).evicted) := rfl

theorem requestTarget_effects (engine : Engine) (target : Buffer) :
    Device.Effects engine.device (engine.requestTarget target).state := by
  have made := (Device.Calls.createTarget engine.device engine.contexts.current target
    engine.limit).effects
  have touched : (engine.requestTarget target).state = engine.device ∨
      (engine.requestTarget target).state = _ := OutputCache.getOrCreate_state
  rcases touched with same | same
  · rw [same]
  · rw [same]
    exact made

theorem Honest.requestTarget {engine : Engine} (honest : engine.Honest) (target : Buffer) :
    (engine.requestTarget target).Known :=
  OutputCache.getOrCreate_known honest.outputs target engine.contexts.active
    engine.contexts.current engine.limit

/-- The device made the target that a frame owns. -/
theorem Honest.targetFor {engine after : Engine} (honest : engine.Honest) {target : Buffer}
    {frame : FrameSeq} {usesOutputCache : Bool} {slot : OutputSlot}
    (given : engine.targetFor target frame usesOutputCache = (.ok slot, after)) :
    after.device.Knows slot.owned := by
  cases usesOutputCache with
  | false =>
      unfold Engine.targetFor at given
      dsimp only at given
      cases made : engine.device.createTarget engine.contexts.current target engine.limit with
      | mk result device =>
          rw [made] at given
          cases result with
          | error error => cases given
          | ok image =>
              have told := Device.createTarget_created made
              cases given
              intro other member
              rw [List.mem_singleton.mp member]
              exact told
  | true =>
      have known := honest.requestTarget target
      rw [targetFor_cached] at given
      generalize engine.requestTarget target = outcome at known given
      cases got : outcome.slot with
      | error error =>
          rw [got] at given
          cases given
      | ok found =>
          rw [got] at given
          have retired := (retire_calls { engine with
            outputs := outcome.kept target.id frame
            device := outcome.state } outcome.evicted).effects
          cases given
          exact ((known.owned found got).effects retired).marked (found.owned_markUsed frame)

namespace Alike

variable {left right : Engine}

theorem requestTarget (alike : left.Alike right) (target : Buffer) :
    (left.requestTarget target).Alike (right.requestTarget target) := by
  have same := @OutputCache.getOrCreate_alike left.outputs target.id left.contexts.active
    (fun device => device.createTarget left.contexts.current target left.limit) _ _
    alike.device (alike.device.createTarget left.contexts.current target left.limit)
  cases alike with
  | varied => exact same

theorem withOutputs (alike : left.Alike right) {outputs : OutputCache}
    (knows : left.device.Knows outputs.entries) :
    ({ left with outputs } : Engine).Alike { right with outputs } := by
  cases alike with
  | varied honest device parked =>
      exact .varied (honest.hold .refl honest.textures knows honest.parked) device parked

theorem targetFor (alike : left.Alike right) (target : Buffer) (frame : FrameSeq)
    (usesOutputCache : Bool) :
    Agree Engine.Alike (left.targetFor target frame usesOutputCache)
      (right.targetFor target frame usesOutputCache) := by
  cases usesOutputCache with
  | false =>
      have agree := alike.device.createTarget left.contexts.current target left.limit
      have effects := (Device.Calls.createTarget left.device left.contexts.current target
        left.limit).effects
      have worked := alike.work effects agree.state
      have answer := congrArg (Except.map fun image => OutputSlot.transient (image.markUsed frame))
        agree.answer
      cases alike with
      | varied => exact ⟨answer, worked⟩
  | true =>
      have effects := left.requestTarget_effects target
      have known := alike.honest.requestTarget target
      have same := alike.requestTarget target
      rw [targetFor_cached, targetFor_cached]
      generalize left.requestTarget target = outcome at effects known same
      generalize right.requestTarget target = other at same
      cases same with
      | varied state =>
          have kept := (alike.work effects state).withOutputs (known.kept target.id frame)
          exact ⟨rfl, kept.retire (.refl _) known.evicted⟩

end Alike

end Engine

/-! ## Recording -/

namespace Recording

/-- The same was recorded, on alike devices. -/
inductive Alike (left : Recording) : Recording → Prop where
  | varied {device : Device} : left.device.Alike device → Alike left { left with device }

variable {mode : Mode} {target : ImageHandle}

theorem Alike.add {left right : Recording} (alike : left.Alike right) (planned : PlannedDraw) :
    Tally (Agree Device.Alike) Recording.Alike (left.add mode target planned)
      (right.add mode target planned) := by
  cases alike with
  | varied device =>
      obtain ⟨result, first, second, drawn, drawing, same⟩ :=
        (device.drawLayer mode target planned.source planned.layer).split
      unfold Recording.add
      dsimp only
      rw [drawn, drawing]
      cases result with
      | ok => exact .ok (.varied same)
      | error error =>
          dsimp only
          split
          · exact .error ⟨rfl, same⟩
          · exact .ok (.varied same)

theorem ofDraws_alike {left right : Device} (alike : left.Alike right) (display : Display)
    (draws : List PlannedDraw) :
    Tally (Agree Device.Alike) Recording.Alike (ofDraws left mode target display draws)
      (ofDraws right mode target display draws) := by
  obtain ⟨result, first, second, began, beginning, same⟩ :=
    (alike.beginFrame mode target display).split
  unfold ofDraws
  rw [began, beginning]
  cases result with
  | error error => exact .error ⟨rfl, same⟩
  | ok => exact Tally.foldlM (fun planned recorded => recorded.add planned) draws (.varied same)

end Recording

/-! ## Submission -/

namespace Strategy

variable {left right : Device}

theorem drain_alike (alike : left.Alike right) (progress : Progress) :
    Agree (Agree Device.Alike) (drain left progress) (drain right progress) := by
  obtain ⟨result, first, second, finished, finishing, same⟩ := alike.finish.split
  unfold drain
  rw [finished, finishing]
  cases result with
  | true => exact ⟨rfl, rfl, same⟩
  | false => exact ⟨rfl, rfl, same⟩

theorem submitDrained_alike (alike : left.Alike right) (progress : Progress) (frame : FrameSeq) :
    Agree (Agree Device.Alike) (submitDrained left progress frame)
      (submitDrained right progress frame) := by
  obtain ⟨result, ⟨before, first⟩, ⟨_, second⟩, drained, draining, rfl, same⟩ :=
    (drain_alike alike progress).split
  unfold submitDrained
  rw [drained, draining]
  cases result with
  | error error => exact ⟨rfl, rfl, same⟩
  | ok =>
      obtain ⟨answer, state⟩ := same.createFence .device .signaled
      exact ⟨congrArg Except.ok answer, rfl, state⟩

theorem submit_alike (strategy : Strategy) (alike : left.Alike right) (progress : Progress)
    (frame : FrameSeq) :
    Agree (Agree Device.Alike) (strategy.submit left progress frame)
      (strategy.submit right progress frame) := by
  obtain ⟨result, first, second, flushed, flushing, same⟩ := alike.flush.split
  unfold submit
  rw [flushed, flushing]
  cases strategy with
  | blockingFinish => exact submitDrained_alike same progress frame
  | fenceGated =>
      cases result with
      | some fence => exact ⟨rfl, rfl, same⟩
      | none =>
          obtain ⟨lost, one, other, asked, asking, known⟩ := same.checkLost.split
          dsimp only
          rw [asked, asking]
          cases lost with
          | true => exact ⟨rfl, rfl, known⟩
          | false => exact submitDrained_alike known progress frame

end Strategy

namespace Engine.Alike

variable {left right : Engine}

theorem trace (alike : left.Alike right) (fence : Fence) (frame : FrameSeq) :
    (left.trace fence frame).Alike (right.trace fence frame) := by
  have traced := alike.withTracer
    (left.tracer.map fun tracer => (tracer.queue fence frame).catchUp left.device.fences)
  have fences := alike.device.fences
  cases alike with
  | varied =>
      rw [Engine.trace, Engine.trace, ← fences]
      exact traced

theorem submit (alike : left.Alike right) (frame : FrameSeq) :
    Agree Engine.Alike (left.submit frame) (right.submit frame) := by
  have effects := left.submit_effects frame
  obtain ⟨result, ⟨progress, first⟩, ⟨_, second⟩, submitted, submitting, rfl, same⟩ :=
    (left.strategy.submit_alike alike.device left.progress frame).split
  have resubmit : right.strategy.submit right.device right.progress frame =
      (result, progress, second) := by
    cases alike with
    | varied => exact submitting
  unfold Engine.submit at effects ⊢
  rw [submitted] at effects ⊢
  rw [resubmit]
  cases result with
  | error error => exact ⟨rfl, ((alike.work effects same).withProgress progress).markLost⟩
  | ok fence => exact ⟨rfl, ((alike.work effects same).withProgress progress).trace fence frame⟩

/-! ## Frames -/

theorem abandon (alike : left.Alike right) : left.abandon.Alike right.abandon := by
  have abandoned := alike.withProgress left.progress.abandon
  cases alike with
  | varied => exact abandoned

theorem noteFailure (alike : left.Alike right) (isFatal : Bool) :
    (left.noteFailure isFatal).Alike (right.noteFailure isFatal) := by
  cases isFatal with
  | true => exact alike.markLost
  | false => exact alike

theorem dropFrame (alike : left.Alike right) (error : EngineError) :
    Agree Engine.Alike (left.dropFrame error) (right.dropFrame error) :=
  ⟨rfl, alike.abandon.noteFailure error.isFatal⟩

theorem countFrame (alike : left.Alike right) :
    ({ left with framesDrawn := left.framesDrawn + 1 } : Engine).Alike
      { right with framesDrawn := right.framesDrawn + 1 } := by
  cases alike with
  | varied honest device parked => exact .varied ⟨honest.registered, honest.knows⟩ device parked

theorem render (alike : left.Alike right) (request : FrameRequest) (frame : FrameSeq)
    {plan other : FramePlan} (planned : plan.Alike other) {slot : OutputSlot}
    (knows : left.device.Knows slot.owned) :
    Agree Engine.Alike (left.render request frame plan slot)
      (right.render request frame other slot) := by
  have effects := (Recording.ofDraws_calls left.device left.contexts.current slot.handle
    request.display plan.draws).effects
  have recorded := @Recording.ofDraws_alike left.contexts.current slot.handle _ _ alike.device
    request.display plan.draws
  have context := congrArg Contexts.current alike.contexts
  cases planned with
  | varied =>
      unfold Engine.render
      rw [← context]
      dsimp only at recorded ⊢
      generalize Recording.ofDraws left.device left.contexts.current slot.handle request.display
        plan.draws = one at effects recorded
      generalize Recording.ofDraws right.device left.contexts.current slot.handle request.display
        plan.draws = second at recorded
      cases recorded with
      | @error failure _ agree =>
          obtain ⟨error, first, last, rfl, rfl, same⟩ := agree.split
          have dropped := (alike.work effects same).dropFrame error
          have held := (knows.effects effects).effects
            (Acts.dropFrame { left with device := first } error).effects
          exact ⟨rfl, dropped.state.retire (.refl _) held⟩
      | @ok recording _ same =>
          cases same with
          | varied same =>
              have worked : Device.Effects left.device recording.device := effects
              have ready := (alike.work worked same).retire (.refl _) (knows.effects worked)
              obtain ⟨result, first, last, submitted, submitting, after⟩ :=
                (ready.submit frame).split
              dsimp only
              rw [submitted, submitting]
              cases result with
              | error error => exact ⟨rfl, after⟩
              | ok fence =>
                  have counted := after.countFrame
                  cases after with
                  | varied => exact ⟨rfl, counted⟩

theorem begun (alike : left.Alike right) : left.begun.Alike right.begun := by
  have polled := alike.poll
  have started := polled.withProgress left.poll.progress.begin
  rw [Engine.begun, Engine.begun, ← polled.progress]
  exact started

theorem finishFrame (request : FrameRequest) (frame : FrameSeq) {plan other : FramePlan}
    (planned : plan.Alike other) :
    Agree Engine.Alike (Engine.finishFrame request frame plan)
      (Engine.finishFrame request frame other) := by
  have active : plan.active = other.active := by
    cases planned with
    | varied => rfl
  have evicted : (plan.engine.evicted plan.active).Alike (other.engine.evicted other.active) := by
    rw [← active]
    cases planned with
    | varied alike => exact alike.evicted plan.active
  obtain ⟨answer, first, second, given, giving, same⟩ :=
    (evicted.targetFor request.target frame request.usesOutputCache).split
  unfold Engine.finishFrame
  rw [given, giving]
  cases answer with
  | error error => exact same.dropFrame error
  | ok slot => exact same.render request frame planned (evicted.honest.targetFor given)

theorem compose (alike : left.Alike right) (request : FrameRequest) :
    Agree Engine.Alike (left.compose request) (right.compose request) := by
  have begun := alike.begun
  have looked := FramePlan.lookAll_alike begun left.begun.progress.lastIssued request.layers
  rw [compose_eq, compose_eq, ← begun.progress]
  generalize FramePlan.lookAll left.begun left.begun.progress.lastIssued request.layers = one
    at looked
  generalize FramePlan.lookAll right.begun left.begun.progress.lastIssued request.layers = other
    at looked
  cases looked with
  | error same => exact same.dropFrame .contextLost
  | ok planned => exact finishFrame request left.begun.progress.lastIssued planned

/-! ## Switching -/

theorem activate (alike : left.Alike right) (mode : Mode) :
    ({ left with contexts := left.contexts.activate mode } : Engine).Alike
      { right with contexts := right.contexts.activate mode } := by
  cases alike with
  | varied honest device parked => exact .varied ⟨honest.registered, honest.knows⟩ device parked

theorem markIdle (alike : left.Alike right) :
    ({ left with progress := left.progress.markIdle } : Engine).Alike
      { right with progress := right.progress.markIdle } := by
  rw [← alike.progress]
  exact alike.withProgress left.progress.markIdle

/-- Before a switch the caches are emptied, in whatever order. -/
theorem switchTo (alike : left.Alike right) (mode : Mode) :
    (left.switchTo mode).Alike (right.switchTo mode) := by
  have effects := Device.Effects.ofSteps left.device.finish_steps
  have stays : (right.contexts.active = mode ∨ right.lost ∨ ¬right.contexts.has mode) =
      (left.contexts.active = mode ∨ left.lost ∨ ¬left.contexts.has mode) := by
    cases alike with
    | varied => rfl
  obtain ⟨drained, first, second, finished, finishing, same⟩ := alike.device.finish.split
  rw [finished] at effects
  unfold Engine.switchTo
  simp only [stays]
  split
  · exact alike
  · rw [finished, finishing]
    have worked := alike.work effects same
    cases drained with
    | false => exact worked.markLost
    | true => exact worked.markIdle.emptyCaches.collect.activate mode

theorem draw (alike : left.Alike right) (request : FrameRequest) :
    Agree Engine.Alike (left.draw request) (right.draw request) := by
  obtain ⟨signaled, first, second, waited, waiting, same⟩ :=
    (alike.awaitAny request.inputFence).split
  have switched := same.switchTo request.mode
  unfold Engine.draw
  rw [← alike.lost, waited, waiting]
  split
  · exact ⟨rfl, alike⟩
  · cases signaled with
    | false =>
        have after := same
        cases same with
        | varied => exact ⟨rfl, after⟩
    | true =>
        dsimp only
        rw [← switched.lost, ← switched.contexts]
        split
        · exact ⟨rfl, switched⟩
        · split
          · exact ⟨rfl, switched⟩
          · exact switched.compose request

end Engine.Alike

end Compositor
