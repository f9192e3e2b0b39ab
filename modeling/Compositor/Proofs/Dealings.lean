import Compositor.Proofs.Device.Dealings
import Compositor.Proofs.Plain
import Compositor.Proofs.Submission
import Compositor.Proofs.Worker

/-!
# Dealings of an engine

An engine deals with its current context alone. The contexts and the size limit stay the same
throughout, save for the choice of the context at the start of a frame, which is plain.
-/

set_option autoImplicit false

namespace Compositor

namespace Engine

/-- What an engine did, with so many draws, was done in its current context. -/
structure Deals (before : Engine) (drawn : Nat) (after : Engine) : Prop where
  capabilities : after.capabilities = before.capabilities
  contexts : after.contexts = before.contexts
  dealings : Device.Dealings before.limit before.contexts.current before.device drawn after.device

namespace Deals

theorem refl (engine : Engine) : Deals engine 0 engine := ⟨rfl, rfl, .start⟩

theorem trans {first second third : Engine} {early late : Nat} (left : Deals first early second)
    (right : Deals second late third) : Deals first (early + late) third := by
  have dealings := right.dealings
  rw [limit, left.capabilities, left.contexts] at dealings
  exact ⟨right.capabilities.trans left.capabilities, right.contexts.trans left.contexts,
    left.dealings.trans dealings⟩

theorem after {first second third : Engine} {drawn : Nat} (right : Deals second drawn third)
    (left : Deals first 0 second) : Deals first drawn third := by
  have both := left.trans right
  rwa [Nat.zero_add] at both

theorem usable {before after : Engine} {drawn : Nat} (deals : Deals before drawn after) :
    after.device.lost = false → before.device.lost = false := deals.dealings.usable

/-- Nothing but the caches and the book-keeping of the engine changed. -/
theorem noted {before middle after : Engine} {drawn : Nat} (deals : Deals before drawn middle)
    (device : after.device = middle.device)
    (capabilities : after.capabilities = middle.capabilities)
    (contexts : after.contexts = middle.contexts) : Deals before drawn after := by
  refine ⟨capabilities.trans deals.capabilities, contexts.trans deals.contexts, ?_⟩
  rw [device]
  exact deals.dealings

theorem ofPlain {before after : Engine} (plain : Device.Plain before.device after.device)
    (capabilities : after.capabilities = before.capabilities)
    (contexts : after.contexts = before.contexts) : Deals before 0 after :=
  ⟨capabilities, contexts, .ofPlain plain⟩

theorem retire (engine : Engine) (images : List Image) : Deals engine 0 (engine.retire images) :=
  ofPlain (engine.retire_plain images) rfl rfl

theorem awaitAny (engine : Engine) (fence : Option Fence) :
    Deals engine 0 (engine.awaitAny fence).2 := by
  have plain := engine.awaitAny_plain fence
  rw [engine.awaitAny_eq fence] at plain ⊢
  exact ofPlain plain rfl rfl

theorem noteFailure {before after : Engine} {drawn : Nat} (deals : Deals before drawn after)
    (isFatal : Bool) : Deals before drawn (after.noteFailure isFatal) := by
  cases isFatal with
  | false => exact deals
  | true => exact deals.noted rfl rfl rfl

theorem submit (engine : Engine) (frame : FrameSeq) : Deals engine 0 (engine.submit frame).2 := by
  have plain := engine.submit_plain frame
  unfold Engine.submit at plain ⊢
  cases outcome : engine.strategy.submit engine.device engine.progress frame with
  | mk result rest =>
      rw [outcome] at plain
      cases result <;> exact ofPlain plain rfl rfl

/-! ## Textures -/

theorem bindTexture (engine : Engine) (buffer : Buffer) :
    Deals engine 0 (engine.bindTexture buffer).2 := by
  have bound : Device.Dealings engine.limit engine.contexts.current engine.device 0 _ :=
    .bindImage engine.device buffer
  cases outcome : engine.device.bindImage engine.contexts.current buffer engine.limit with
  | mk result device =>
      rw [outcome] at bound
      cases result with
      | error error =>
          rw [bindTexture_refused outcome]
          have asked : Deals engine 0
              { engine with textures := (engine.textures.unbind buffer.id).2, device } :=
            ⟨rfl, rfl, bound⟩
          exact asked.trans (.retire _ _)
      | ok image =>
          rw [bindTexture_made outcome]
          have asked : Deals engine 0
              { engine with
                textures := (engine.textures.unbind buffer.id).2.insert image
                device } :=
            ⟨rfl, rfl, bound⟩
          exact asked.trans (.retire _ _)

theorem textureFor (engine : Engine) (buffer : Buffer) (frame : FrameSeq) :
    Deals engine 0 (engine.textureFor buffer frame).2 := by
  have bound := bindTexture engine buffer
  unfold Engine.textureFor
  split
  · exact ⟨rfl, rfl, .start⟩
  · cases outcome : engine.bindTexture buffer with
    | mk result after =>
        rw [outcome] at bound
        cases result with
        | error cause => exact bound
        | ok handle => exact bound.noted rfl rfl rfl

end Deals

end Engine

namespace FramePlan

/-- The engine after layers were looked at, whatever came of it. -/
def reached : Except Engine FramePlan → Engine
  | .error engine => engine
  | .ok plan => plan.engine

theorem look_deals (frame : FrameSeq) (plan : FramePlan) (index : Nat) (layer : Layer) :
    plan.engine.Deals 0 (reached (plan.look frame index layer)) := by
  unfold look
  cases layer.source with
  | solid color => exact .refl plan.engine
  | sampled buffer fence =>
      have textured := Engine.Deals.textureFor plan.engine buffer frame
      dsimp only
      cases outcome : plan.engine.textureFor buffer frame with
      | mk result after =>
          rw [outcome] at textured
          cases result with
          | error cause =>
              dsimp only
              split <;> exact textured
          | ok handle =>
              have awaited := textured.trans (.awaitAny after fence)
              dsimp only
              split <;> exact awaited

theorem looks_deal (frame : FrameSeq) (layers : List (Layer × Nat)) (plan : FramePlan) :
    plan.engine.Deals 0 (reached
      (layers.foldlM (fun plan (layer, index) => plan.look frame index layer) plan)) := by
  induction layers generalizing plan with
  | nil => exact .refl plan.engine
  | cons entry layers ih =>
      obtain ⟨layer, index⟩ := entry
      have first := look_deals frame plan index layer
      rw [List.foldlM_cons]
      dsimp only
      cases outcome : plan.look frame index layer with
      | error after =>
          rw [outcome] at first
          exact first
      | ok next =>
          rw [outcome] at first
          exact first.trans (ih next)

end FramePlan

namespace Recording

variable {limit : UInt32} {mode : Mode} {start : Device}

/-- What recording did: it counts the draws that the device accepted. -/
def Deals (limit : UInt32) (mode : Mode) (start : Device) :
    Except (EngineError × Device) Recording → Prop
  | .error (_, device) => ∃ drawn, Device.Dealings limit mode start drawn device
  | .ok recording => Device.Dealings limit mode start recording.drawn recording.device

theorem add_deals (target : ImageHandle) {recording : Recording} (planned : PlannedDraw)
    (deals : Device.Dealings limit mode start recording.drawn recording.device) :
    Deals limit mode start (recording.add mode target planned) := by
  have drawn := deals.trans (.drawLayer recording.device target planned.source planned.layer)
  unfold add
  cases outcome : recording.device.drawLayer mode target planned.source planned.layer with
  | mk result device =>
      rw [outcome] at drawn
      cases result with
      | ok => exact drawn
      | error error =>
          dsimp only
          split
          · exact ⟨_, drawn⟩
          · exact drawn

theorem adds_deal (target : ImageHandle) (draws : List PlannedDraw) {recording : Recording}
    (deals : Device.Dealings limit mode start recording.drawn recording.device) :
    Deals limit mode start (draws.foldlM (add mode target) recording) := by
  induction draws generalizing recording with
  | nil => exact deals
  | cons planned draws ih =>
      have first := add_deals target planned deals
      rw [List.foldlM_cons]
      cases outcome : recording.add mode target planned with
      | error failure =>
          rw [outcome] at first
          exact first
      | ok next =>
          rw [outcome] at first
          exact ih first

theorem ofDraws_deals (target : ImageHandle) (display : Display) (draws : List PlannedDraw) :
    Deals limit mode start (ofDraws start mode target display draws) := by
  have begun : Device.Dealings limit mode start 0 _ :=
    .ofPlain (.beginFrame start mode target display)
  unfold ofDraws
  cases outcome : start.beginFrame mode target display with
  | mk result after =>
      rw [outcome] at begun
      cases result with
      | error error => exact ⟨0, begun⟩
      | ok => exact adds_deal target draws begun

end Recording

namespace Engine.Deals

/-! ## Frames -/

theorem targetFor (engine : Engine) (target : Buffer) (frame : FrameSeq)
    (usesOutputCache : Bool) :
    Deals engine 0 (engine.targetFor target frame usesOutputCache).2 := by
  have made : Device.Dealings engine.limit engine.contexts.current engine.device 0 _ :=
    .createTarget engine.device target
  cases usesOutputCache with
  | false => exact ⟨rfl, rfl, made⟩
  | true =>
      -- Whatever the cache does, its state is the device before or after a target was made.
      have state : Device.Dealings engine.limit engine.contexts.current engine.device 0
          (engine.outputs.getOrCreate target.id engine.contexts.active
            (fun device => device.createTarget engine.contexts.current target engine.limit)
            engine.device).state := by
        unfold OutputCache.getOrCreate
        split
        · exact .start
        · dsimp only
          split
          · rename_i failed
            rw [failed] at made
            exact made
          · rename_i created
            rw [created] at made
            split <;> exact made
      simp only [Engine.targetFor, if_true]
      exact ⟨rfl, rfl, state.plain (retire_plain { engine with outputs := _, device := _ } _)⟩

theorem evicted (engine : Engine) (active : List BufferId) :
    Deals engine 0 (engine.evicted active) :=
  ofPlain (retire_plain { engine with textures := (engine.textures.evictStale active).2 } _) rfl rfl

theorem dropFrame (engine : Engine) (error : EngineError) :
    Deals engine 0 (engine.dropFrame error).2 := by
  have abandoned : Deals engine 0 engine.abandon := ⟨rfl, rfl, .start⟩
  exact abandoned.noteFailure error.isFatal

end Engine.Deals

namespace Engine

/-- A finished frame tells how it was composed, and gives a fence for its submission. -/
structure Reports (engine : Engine) (drawn : Nat) (output : FrameOutput) (after : Engine) :
    Prop where
  drawn : output.status.layersDrawn = drawn
  mode : output.status.mode = engine.contexts.active
  fence : after.device.Owes output.fence

/-- A frame was composed in the active mode. -/
def Composes (engine : Engine) (result : Except EngineError FrameOutput × Engine) : Prop :=
  ∃ drawn, Deals engine drawn result.2 ∧
    ∀ output, result.1 = .ok output → engine.Reports drawn output result.2

theorem Composes.after {earlier later : Engine}
    {result : Except EngineError FrameOutput × Engine} (composes : later.Composes result)
    (deals : Deals earlier 0 later) : earlier.Composes result := by
  obtain ⟨drawn, rest, reports⟩ := composes
  refine ⟨drawn, rest.after deals, fun output finished => ?_⟩
  have report := reports output finished
  exact ⟨report.drawn, report.mode.trans (congrArg Contexts.active deals.contexts), report.fence⟩

theorem dropFrame_composes (engine : Engine) (error : EngineError) :
    engine.Composes (engine.dropFrame error) :=
  ⟨0, .dropFrame engine error, nofun⟩

theorem render_composes (engine : Engine) (request : FrameRequest) (frame : FrameSeq)
    (plan : FramePlan) (slot : OutputSlot) :
    engine.Composes (engine.render request frame plan slot) := by
  have recorded : Recording.Deals engine.limit engine.contexts.current engine.device _ :=
    Recording.ofDraws_deals slot.handle request.display plan.draws
  unfold render
  cases outcome : Recording.ofDraws engine.device engine.contexts.current slot.handle
      request.display plan.draws with
  | error failure =>
      obtain ⟨error, device⟩ := failure
      rw [outcome] at recorded
      obtain ⟨drawn, dealings⟩ := recorded
      have failed : Deals engine drawn { engine with device } := ⟨rfl, rfl, dealings⟩
      exact ⟨drawn, (failed.trans (.dropFrame _ error)).trans (.retire _ _), nofun⟩
  | ok recording =>
      rw [outcome] at recorded
      let drawn : Engine := { engine with device := recording.device }
      have done : Deals engine recording.drawn drawn := ⟨rfl, rfl, recorded⟩
      have submitted := (done.trans (.retire drawn slot.owned)).trans (.submit _ frame)
      dsimp only
      cases final : (drawn.retire slot.owned).submit frame with
      | mk result after =>
          rw [final] at submitted
          cases result with
          | error error => exact ⟨recording.drawn, submitted, nofun⟩
          | ok fence =>
              refine ⟨recording.drawn, submitted.noted rfl rfl rfl, fun output same => ?_⟩
              cases same
              have owed : after.device.Owes fence := submit_owes final
              exact ⟨rfl, congrArg Contexts.active submitted.contexts, owed⟩

theorem finishFrame_composes (request : FrameRequest) (frame : FrameSeq) (plan : FramePlan) :
    plan.engine.Composes (finishFrame request frame plan) := by
  have targeted := (Deals.evicted plan.engine plan.active).trans
    (.targetFor _ request.target frame request.usesOutputCache)
  unfold finishFrame
  cases outcome : (plan.engine.evicted plan.active).targetFor request.target frame
      request.usesOutputCache with
  | mk result after =>
      rw [outcome] at targeted
      cases result with
      | error error => exact (after.dropFrame_composes error).after targeted
      | ok slot => exact (after.render_composes request frame plan slot).after targeted

theorem compose_composes (engine : Engine) (request : FrameRequest) :
    engine.Composes (engine.compose request) := by
  have begun : Deals engine 0 engine.begun := ⟨rfl, rfl, .start⟩
  have looked := begun.trans
    (FramePlan.looks_deal engine.begun.progress.lastIssued request.layers.zipIdx
      (.start engine.begun))
  rw [compose_eq, FramePlan.lookAll]
  cases outcome : request.layers.zipIdx.foldlM
      (fun plan (layer, index) => plan.look engine.begun.progress.lastIssued index layer)
      (FramePlan.start engine.begun) with
  | error after =>
      rw [outcome] at looked
      exact (after.dropFrame_composes .contextLost).after looked
  | ok plan =>
      rw [outcome] at looked
      exact (finishFrame_composes request _ plan).after looked

end Engine

namespace Engine.Deals

/-! ## Operations -/

theorem bind (engine : Engine) (buffer : Buffer) : Deals engine 0 (engine.bind buffer).2 := by
  unfold Engine.bind
  split
  · exact .refl engine
  · have polled : Deals engine 0 engine.poll := ⟨rfl, rfl, .start⟩
    have bound := polled.trans (.bindTexture engine.poll buffer)
    cases outcome : engine.poll.bindTexture buffer with
    | mk result after =>
        rw [outcome] at bound
        cases result with
        | ok handle => exact bound
        | error cause => exact bound.noteFailure cause.isFatal

theorem unbind (engine : Engine) (buffer : BufferId) : Deals engine 0 (engine.unbind buffer) :=
  ofPlain (engine.unbind_plain buffer) rfl rfl

end Engine.Deals

/-! ## Requests for images -/

theorem ImageRequest.apply_deals (request : ImageRequest) (engine : Engine) :
    engine.Deals 0 (request.apply engine).2 := by
  cases request with
  | cache buffer => exact .bind engine buffer
  | unbind buffer => exact .unbind engine buffer

namespace ImageRequests

private theorem applies_deals (engine : Engine) (request : ImageRequest) (after : Engine)
    (deals : engine.Deals 0 after) : engine.Deals 0 (request.apply after).2 :=
  (request.apply_deals after).after deals

theorem serve_deals (requests : ImageRequests) (engine : Engine) :
    engine.Deals 0 (requests.serve engine).2 :=
  serve_keeps (applies_deals engine) requests (.refl engine)

theorem serveMany_deals (count : Nat) (requests : ImageRequests) (engine : Engine) :
    engine.Deals 0 (serveMany count requests engine).2 :=
  serveMany_keeps (applies_deals engine) count requests (.refl engine)

theorem await_deals (requests : ImageRequests) (ticket : Ticket) (engine : Engine) :
    engine.Deals 0 (requests.await ticket engine).2.2 :=
  await_keeps (applies_deals engine) requests ticket (.refl engine)

end ImageRequests

end Compositor
