import Compositor.Proofs.Absorption
import Compositor.Proofs.Exposure

/-!
# Engines without fences

An engine that learns of completion by draining has nothing in flight between two operations, and
the device is done with every image that waits. This is also so after a frame that was given up: its
textures are marked with a number that was never submitted, but those that it retires are marked with
earlier ones.
-/

set_option autoImplicit false

namespace Compositor

variable {engine : Engine} {recorded : List ImageHandle} {frame : FrameSeq}

/-! ## Progress -/

namespace Progress

variable {progress : Progress}

theorem poll_drained (drained : progress.inFlight = []) (fences : Fences) :
    progress.poll fences = progress.markIdle := by
  rw [poll, drained, List.dropWhile_nil, markIdle]

theorem isComplete_mono {last : Option FrameSeq} {later : Progress}
    (rises : progress.completed ≤ later.completed) (complete : progress.isComplete last = true) :
    later.isComplete last = true := by
  cases last with
  | none => rfl
  | some frame =>
      have below : frame ≤ progress.completed := by simpa [isComplete] using complete
      simpa [isComplete] using Nat.le_trans below rises

theorem drained_completed (bounded : progress.Bounded)
    (recording : progress.recording = some frame) :
    (progress.markIdle.submitted frame none).completed = progress.lastIssued := by
  have open_ : progress.markIdle.recording = some frame := recording
  have closed := (bounded.markIdle.abandon).markIdle_completed rfl
  unfold submitted
  rw [if_pos open_]
  exact closed

end Progress

/-! ## Planning retires nothing -/

namespace Engine

/-- Providing the texture of a buffer retires nothing, and leaves every other texture as it is. -/
structure Provides (engine : Engine) (buffer : Buffer) (result : Except BindError ImageHandle)
    (after : Engine) : Prop where
  retired : after.retired = engine.retired
  entries : ∀ image ∈ after.textures.entries, image ∈ engine.textures.entries ∨
    (image.buffer = buffer.id ∧ ∃ handle, result = .ok handle)

theorem bindTexture_provides {buffer : Buffer}
    (absent : engine.textures.find? buffer.id = none) :
    engine.Provides buffer (engine.bindTexture buffer).1 (engine.bindTexture buffer).2 := by
  have nothing : (engine.textures.unbind buffer.id).1 = none := absent
  have fewer := engine.textures.unbind_sublist buffer.id
  have provided := Device.bindImage_provides engine [] [] buffer engine.limit
  cases outcome : engine.device.bindImage engine.contexts.current buffer engine.limit with
  | mk result device =>
      rw [outcome] at provided
      cases provided with
      | refused =>
          rw [bindTexture_refused outcome, nothing]
          exact ⟨rfl, fun image member => .inl (fewer.subset member)⟩
      | made bufferEq =>
          rw [bindTexture_made outcome, nothing]
          refine ⟨rfl, fun image member => ?_⟩
          rcases List.mem_append.mp member with before | new
          · exact .inl (fewer.subset before)
          · rw [List.mem_singleton.mp new]
            exact .inr ⟨bufferEq, _, rfl⟩

theorem textureFor_provides (engine : Engine) (buffer : Buffer) (frame : FrameSeq) :
    engine.Provides buffer (engine.textureFor buffer frame).1
      (engine.textureFor buffer frame).2 := by
  unfold textureFor
  cases cached : engine.textures.find? buffer.id with
  | some image =>
      rw [TextureCache.markUsed_hit cached]
      exact ⟨rfl, fun image member =>
        (TextureCache.mem_markUsed member).imp_right fun own => ⟨own, _, rfl⟩⟩
  | none =>
      rw [TextureCache.markUsed_miss cached]
      have provides := bindTexture_provides cached
      cases outcome : engine.bindTexture buffer with
      | mk result after =>
          rw [outcome] at provides
          cases result with
          | error cause => exact provides
          | ok handle =>
              refine ⟨provides.retired, fun image member => ?_⟩
              rcases TextureCache.mem_markUsed member with before | own
              · exact provides.entries image before
              · exact .inr ⟨own, handle, rfl⟩

end Engine

namespace FramePlan

variable {plan next : FramePlan}

/-- Whatever was not looked at was last used by `bound` at the latest. -/
def Spares (plan : FramePlan) (bound : FrameSeq) : Prop :=
  ∀ image ∈ plan.engine.textures.entries,
    image.buffer ∈ plan.active ∨ ∀ last ∈ image.lastUsed, last ≤ bound

/-- The layers looked at in between retired nothing, and used nothing but their own textures. -/
structure Spared (plan next : FramePlan) : Prop where
  retired : next.engine.retired = plan.engine.retired
  spares : ∀ {bound : FrameSeq}, plan.Spares bound → next.Spares bound

theorem look_spared {index : Nat} {layer : Layer} (looked : plan.look frame index layer = .ok next) :
    plan.Spared next := by
  unfold look at looked
  cases source : layer.source with
  | solid color =>
      rw [source] at looked
      cases looked
      exact ⟨rfl, id⟩
  | sampled buffer fence =>
      have provides := plan.engine.textureFor_provides buffer frame
      rw [source] at looked
      dsimp only at looked
      cases outcome : plan.engine.textureFor buffer frame with
      | mk result after =>
          rw [outcome] at provides looked
          cases result with
          | error cause =>
              dsimp only at looked
              split at looked
              · cases looked
              · cases looked
                refine ⟨provides.retired, fun spares image member => ?_⟩
                rcases provides.entries image member with before | ⟨-, _, other⟩
                · exact spares image before
                · cases other
          | ok handle =>
              have seen : plan.Spared
                  { plan with
                    engine := (after.awaitAny fence).2
                    active := buffer.id :: plan.active } := by
                rw [Engine.awaitAny_eq]
                refine ⟨provides.retired, fun spares image member => ?_⟩
                rcases provides.entries image member with before | ⟨own, -⟩
                · exact (spares image before).imp_left (List.mem_cons_of_mem _)
                · rw [own]
                  exact .inl List.mem_cons_self
              dsimp only at looked
              split at looked <;> cases looked <;> exact ⟨seen.retired, seen.spares⟩

theorem looks_spared {layers : List (Layer × Nat)}
    (looked : layers.foldlM (fun plan (layer, index) => plan.look frame index layer) plan =
      .ok next) : plan.Spared next := by
  induction layers generalizing plan with
  | nil =>
      cases looked
      exact ⟨rfl, id⟩
  | cons entry layers ih =>
      obtain ⟨layer, index⟩ := entry
      rw [List.foldlM_cons] at looked
      dsimp only at looked
      cases outcome : plan.look frame index layer with
      | error after =>
          rw [outcome] at looked
          cases looked
      | ok middle =>
          rw [outcome] at looked
          have first := look_spared outcome
          have rest := ih looked
          exact ⟨rest.retired.trans first.retired, fun spares => rest.spares (first.spares spares)⟩

end FramePlan

namespace Engine

/-- Where everything up to now is complete, giving up a frame leaves nothing new that waits. -/
theorem evicted_parked {layers : List Layer} {plan : FramePlan}
    (planned : FramePlan.lookAll engine frame layers = .ok plan)
    (old : ∀ image ∈ engine.textures.entries, ∀ last ∈ image.lastUsed,
      last ≤ engine.progress.completed) :
    (plan.engine.evicted plan.active).retired.parked = engine.retired.parked := by
  have looked := FramePlan.looks_spared planned
  have keeps : engine.Keeps (FramePlan.reached (FramePlan.lookAll engine frame layers)) :=
    FramePlan.looks_keep frame layers.zipIdx (.start engine)
  rw [planned] at keeps
  have progress : plan.engine.progress = engine.progress := keeps.progress
  have spared := looked.spares fun image member => .inr (old image member)
  have complete : ∀ image ∈ (plan.engine.textures.evictStale plan.active).1,
      plan.engine.progress.isComplete image.lastUsed = true := by
    intro image member
    have stale := (plan.engine.textures.order.perm _ _).mem_iff.mp member
    obtain ⟨inside, unused⟩ := List.mem_filter.mp stale
    have absent : image.buffer ∉ plan.active := by simpa using unused
    have early := (spared image inside).resolve_left absent
    cases used : image.lastUsed with
    | none => rfl
    | some last =>
        rw [progress]
        simpa [Progress.isComplete] using early last used
  have kept : (plan.engine.evicted plan.active).retired.parked = plan.engine.retired.parked :=
    retire_parked complete
  rw [kept, looked.retired]
  rfl

/-! ## Between two operations -/

/-- Nothing is in flight, and the device is done with every image that waits. -/
structure Drained (engine : Engine) : Prop where
  inFlight : engine.progress.inFlight = []
  parked : ∀ image ∈ engine.retired.parked, engine.progress.isComplete image.lastUsed = true

/-- What an operation means for an engine that is drained. -/
inductive Settles (engine after : Engine) : Prop where
  | lost : after.lost = true → Settles engine after
  /-- The device was found to be done with everything. -/
  | idle : after.progress.inFlight = [] →
      after.progress.completed = after.progress.lastIssued → Settles engine after
  | kept : after.progress.inFlight = engine.progress.inFlight →
      engine.progress.completed ≤ after.progress.completed →
      after.retired.parked ⊆ engine.retired.parked → Settles engine after

theorem Settles.drained {after : Engine} (settles : engine.Settles after)
    (drained : engine.Drained) (rested : Moment.Rested ⟨after, [], recorded⟩) :
    after.lost = true ∨ after.Drained := by
  cases settles with
  | lost marked => exact .inl marked
  | idle inFlight latest =>
      refine .inr ⟨inFlight, fun image member => rested.paced.complete_of_idle latest ?_⟩
      simp [Moment.held, owned, member]
  | kept inFlight rises fewer =>
      exact .inr ⟨inFlight.trans drained.inFlight, fun image member =>
        Progress.isComplete_mono rises (drained.parked image (fewer member))⟩

theorem Drained.poll (drained : engine.Drained) :
    engine.poll.progress = engine.progress.markIdle :=
  Progress.poll_drained drained.inFlight engine.device.fences

section Operations

variable (rested : Moment.Rested ⟨engine, [], recorded⟩) (alive : engine.lost = false)

include rested alive in
theorem idle_settles {after : Engine} (idle : after.progress = engine.progress.markIdle) :
    engine.Settles after := by
  have latest := rested.paced.progress.markIdle_completed (rested.closed alive).1
  refine .idle ?_ ?_
  · rw [idle]
    rfl
  · rw [idle]
    exact latest

include rested alive in
theorem bind_settles (drained : engine.Drained) (buffer : Buffer) :
    engine.Settles (engine.bind buffer).2 := by
  have polled := drained.poll
  unfold bind
  rw [alive]
  have progress := engine.poll.bindTexture_progress buffer
  cases outcome : engine.poll.bindTexture buffer with
  | mk result after =>
      rw [outcome] at progress
      cases result with
      | ok handle => exact idle_settles rested alive (progress.trans polled)
      | error cause =>
          cases isFatal : cause.isFatal with
          | true => exact .lost (by simp [noteFailure, isFatal, markLost])
          | false =>
              refine idle_settles rested alive ?_
              simpa [noteFailure, isFatal] using progress.trans polled

include rested alive in
theorem unbind_settles (drained : engine.Drained) (buffer : BufferId) :
    engine.Settles (engine.unbind buffer) :=
  idle_settles rested alive drained.poll

include rested alive in
theorem invalidate_settles (drained : engine.Drained) (buffer : BufferId) :
    engine.Settles (engine.invalidate buffer) :=
  idle_settles rested alive drained.poll

include rested alive in
theorem switchTo_settles (mode : Mode) : engine.Settles (engine.switchTo mode) := by
  unfold switchTo
  split
  · exact .kept rfl (Nat.le_refl _) (List.Subset.refl _)
  · cases engine.device.finish with
    | mk drained device =>
        cases drained with
        | false => exact .lost rfl
        | true => exact idle_settles rested alive rfl

include rested alive in
theorem finish_settles : engine.Settles engine.finish.2 := by
  unfold finish
  rw [alive]
  cases engine.device.finish with
  | mk drained device =>
      cases drained with
      | false => exact .lost rfl
      | true => exact idle_settles rested alive rfl

theorem Submitted.idle {ready after : Engine} {fence : Fence}
    (submitted : ready.Submitted frame (.ok fence, after))
    (blocking : ready.strategy = .blockingFinish) (bounded : ready.progress.Bounded)
    (recording : ready.progress.recording = some frame) :
    after.progress.inFlight = [] ∧ after.progress.completed = after.progress.lastIssued := by
  cases submitted with
  | fenced gated => cases blocking.symm.trans gated
  | drained =>
      have issued := Progress.submitted_lastIssued ready.progress.markIdle frame none
      exact ⟨Progress.drained_inFlight _ frame,
        (Progress.drained_completed bounded recording).trans issued.symm⟩

include rested alive in
theorem flush_settles (blocking : engine.strategy = .blockingFinish) :
    engine.Settles engine.flush.2 := by
  unfold flush
  rw [if_neg (by simp [alive])]
  have submitted := submit_submitted { engine with progress := engine.progress.begin }
    engine.progress.begin.lastIssued
  dsimp only
  generalize ({ engine with progress := engine.progress.begin } : Engine).submit
    engine.progress.begin.lastIssued = result at submitted
  obtain ⟨result, after⟩ := result
  cases result with
  | error error =>
      cases submitted with
      | lost => exact .lost rfl
  | ok fence =>
      obtain ⟨inFlight, latest⟩ := submitted.idle blocking rested.paced.progress.begin rfl
      exact .idle inFlight latest

include rested alive in
theorem cleanup_settles (blocking : engine.strategy = .blockingFinish) :
    engine.Settles engine.cleanup.2 := by
  have cleaned := engine.strategy.cleanup_cleaned engine.device engine.progress
  unfold cleanup
  generalize engine.strategy.cleanup engine.device engine.progress = result at cleaned
  cases cleaned with
  | polled _ _ gated => cases blocking.symm.trans gated
  | kept =>
      refine .kept rfl (Nat.le_refl _) ?_
      dsimp only
      rw [collect_parked]
      exact List.filter_subset_self _
  | drained =>
      have latest := rested.paced.progress.markIdle_completed (rested.closed alive).1
      exact .idle rfl latest
  | failed => exact .lost rfl

include rested alive in
/-- A frame that is given up used numbers of its own only, and retired nothing that they mark. -/
theorem Ended.settles {layers : List Layer} {result : Except EngineError FrameOutput × Engine}
    (ended : engine.begun.Ended engine.begun.progress.lastIssued layers result)
    (blocking : engine.strategy = .blockingFinish) (drained : engine.Drained) :
    engine.Settles result.2 := by
  have polled := drained.poll
  cases ended with
  | lost _ marked => exact .lost marked
  | @refused plan ready _ planned keeps retired =>
      have latest := rested.paced.progress.markIdle_completed (rested.closed alive).1
      have completed : engine.begun.progress.completed = engine.progress.lastIssued := by
        rw [← latest, ← polled]
        rfl
      have old : ∀ image ∈ engine.begun.textures.entries, ∀ last ∈ image.lastUsed,
          last ≤ engine.begun.progress.completed := by
        intro image member last used
        rw [completed]
        have held : image ∈ engine.owned := List.mem_append_left _ (List.mem_append_left _ member)
        exact rested.paced.used image (List.mem_append_left [] held) last used
      have parked : ready.retired.parked = engine.retired.parked := by
        have kept := evicted_parked planned old
        rw [retired]
        exact kept
      refine .kept ?_ ?_ ?_
      · have inFlight : ready.progress.inFlight = engine.poll.progress.inFlight := by
          rw [keeps.progress]
          rfl
        rw [polled] at inFlight
        exact inFlight.trans drained.inFlight.symm
      · have kept : ready.abandon.progress.completed = engine.begun.progress.completed := by
          rw [← keeps.progress]
          rfl
        rw [kept, completed]
        exact rested.paced.progress.completed
      · intro image member
        exact parked ▸ member
  | @submitted ready _ _ keeps submitted =>
      have bounded : ready.progress.Bounded := by
        rw [keeps.progress]
        exact (rested.paced.progress.poll _).begin
      have recording : ready.progress.recording = some engine.begun.progress.lastIssued := by
        rw [keeps.progress]
        rfl
      obtain ⟨inFlight, latest⟩ :=
        submitted.idle (keeps.strategy.trans blocking) bounded recording
      exact .idle inFlight latest

include rested alive in
theorem draw_drained (blocking : engine.strategy = .blockingFinish) (drained : engine.Drained)
    (request : FrameRequest) :
    (engine.draw request).2.lost = true ∨ (engine.draw request).2.Drained := by
  have drawn := draw_drawn rested request
  obtain ⟨_, _, after⟩ := (draw_ends rested request).1.rested rested
  obtain ⟨_, _, waitedRested⟩ :=
    (awaitAny_leads rested request.inputFence).reaches.rested rested
  have waits : engine.Keeps (engine.waited request) := .awaitAny engine request.inputFence
  have waited : (engine.waited request).Drained := by
    unfold waited
    rw [awaitAny_eq]
    exact ⟨drained.inFlight, drained.parked⟩
  generalize engine.draw request = result at drawn after
  cases drawn with
  | lost _ marked _ => exact .inl marked
  | late | unavailable => exact .inr waited
  | composed switched usable ready ended =>
      have settles : (engine.waited request).Settles
          ((engine.waited request).switchTo request.mode) :=
        switchTo_settles waitedRested (waits.lost.trans alive) request.mode
      rw [← switched] at settles
      have carries := Carries.switchTo (engine.waited request) request.mode
      rw [← switched] at carries
      rcases settles.drained waited ready with lost | begins
      · exact absurd (lost.symm.trans usable) (by simp)
      · have same := carries.strategy.trans (waits.strategy.trans blocking)
        exact (ended.settles ready usable same begins).drained begins after

end Operations

end Engine

/-! ## Along runs -/

/-- An engine without fences is lost or drained. -/
def Engine.Unfenced (engine : Engine) : Prop :=
  engine.strategy = .blockingFinish → engine.lost = true ∨ engine.Drained

namespace Session

theorem operate_drained {after : Engine} {action : Action} {outcome : Outcome}
    (operated : operate engine action = some (outcome, after))
    (rested : Moment.Rested ⟨engine, [], recorded⟩) (alive : engine.lost = false)
    (blocking : engine.strategy = .blockingFinish) (drained : engine.Drained) :
    after.lost = true ∨ after.Drained := by
  obtain ⟨_, _, later⟩ := (operate_reaches operated rested).rested rested
  cases action with
  | draw request =>
      cases operated
      exact Engine.draw_drained rested alive blocking drained request
  | bind buffer =>
      cases operated
      exact (Engine.bind_settles rested alive drained buffer).drained drained later
  | unbind buffer =>
      cases operated
      exact (Engine.unbind_settles rested alive drained buffer).drained drained later
  | invalidate buffer =>
      cases operated
      exact (Engine.invalidate_settles rested alive drained buffer).drained drained later
  | setProtected wantsSecure =>
      cases operated
      exact (Engine.switchTo_settles rested alive _).drained drained later
  | flush =>
      cases operated
      exact (Engine.flush_settles rested alive blocking).drained drained later
  | finish =>
      cases operated
      exact (Engine.finish_settles rested alive).drained drained later
  | cleanup =>
      cases operated
      exact (Engine.cleanup_settles rested alive blocking).drained drained later
  | await | watchTracer =>
      cases operated
      exact .inr ⟨drained.inFlight, drained.parked⟩
  | _ => cases operated

theorem operate_unfenced {after : Engine} {action : Action} {outcome : Outcome}
    (operated : operate engine action = some (outcome, after))
    (rested : Moment.Rested ⟨engine, [], recorded⟩) (unfenced : engine.Unfenced) :
    after.Unfenced := by
  intro blocking
  have same : engine.strategy = .blockingFinish :=
    (operate_books operated rested).strategy.symm.trans blocking
  cases alive : engine.lost with
  | true => exact .inl (operate_spent operated alive).lost
  | false =>
      rcases unfenced same with lost | drained
      · exact absurd (lost.symm.trans alive) (by simp)
      · exact operate_drained operated rested alive same drained

theorem apply_unfenced (request : ImageRequest) (engine : Engine)
    (start : (∃ recorded, Moment.Rested ⟨engine, [], recorded⟩) ∧ engine.Unfenced) :
    (∃ recorded, Moment.Rested ⟨(request.apply engine).2, [], recorded⟩) ∧
      (request.apply engine).2.Unfenced := by
  obtain ⟨⟨_, rested⟩, unfenced⟩ := start
  obtain ⟨action, outcome, operated, -⟩ := request.apply_operates engine
  obtain ⟨recorded, _, later⟩ := (operate_reaches operated rested).rested rested
  exact ⟨⟨recorded, later⟩, operate_unfenced operated rested unfenced⟩

theorem create_unfenced {device : Device} {capabilities : Capabilities} {options : EngineOptions}
    {order : ReleaseOrder} (created : Engine.create device capabilities options order = .ok engine) :
    engine.Unfenced := by
  obtain ⟨-, rfl⟩ := Engine.create_eq created
  intro blocking
  exact .inr ⟨rfl, nofun⟩

theorem step_unfenced {session : Session} (sound : session.Sound)
    (unfenced : ∀ engine ∈ session.engine?, engine.Unfenced) (action : Action) :
    ∀ after ∈ (session.step action).2.engine?, after.Unfenced := by
  intro after later
  cases replaces : action.replacesEngine with
  | true =>
      cases replaced_created replaces later with
      | created _ isNew => exact create_unfenced isNew
      | worked keeps => cases replaces.symm.trans keeps
  | false =>
      have stepped := session.step_stepped action
      generalize session.step action = result at stepped later
      cases stepped with
      | started | stopped => cases replaces
      | scripted scripted =>
          obtain ⟨device, changed⟩ := script_eq scripted
          rw [changed, setDevice_engine?] at later
          obtain ⟨before, occupied, rfl⟩ := Option.map_eq_some_iff.mp later
          intro blocking
          exact (unfenced before occupied blocking).imp_right fun drained =>
            ⟨drained.inFlight, drained.parked⟩
      | absent vacant => cases vacant.symm.trans later
      | operated occupied operated =>
          obtain ⟨_, rested⟩ := sound.rested occupied
          cases later
          exact operate_unfenced operated rested (unfenced _ occupied)
      | requested occupied =>
          have rested := sound.rested occupied
          have before := unfenced _ occupied
          cases action with
          | serve =>
              cases later
              exact (ImageRequests.serve_keeps apply_unfenced session.requests ⟨rested, before⟩).2
          | collect ticket =>
              cases later
              exact (session.requests.await_keeps apply_unfenced ticket ⟨rested, before⟩).2
          | _ =>
              cases occupied.symm.trans later
              exact before

theorem run_unfenced {session : Session} (sound : session.Sound)
    (unfenced : ∀ engine ∈ session.engine?, engine.Unfenced) (actions : List Action) :
    ∀ engine ∈ (session.run actions).2.engine?, engine.Unfenced := by
  induction actions generalizing session with
  | nil => exact unfenced
  | cons action rest ih =>
      rw [run_cons]
      exact ih (step_sound session action sound) (step_unfenced sound unfenced action)

end Session

end Compositor
