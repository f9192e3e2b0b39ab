import Compositor.Proofs.Outline.Planning

/-!
# Frames, apart from timing

What a frame does to the outline of an engine. A finished frame gives a fence besides; that is all
that the outline does not tell of it.
-/

set_option autoImplicit false

namespace Compositor

variable {engine : Engine} {frame : FrameSeq} {signals : Nat → Bool}

/-! ## The target -/

namespace Engine

theorem outline_target? (engine : Engine) (buffer : BufferId) :
    engine.outline.target? buffer =
      (engine.outputs.hit? buffer engine.contexts.active).map Image.asLive := by
  unfold Outline.target? OutputCache.hit? OutputCache.find? outline
  rw [List.find?_map, Option.filter_map]
  rfl

theorem invalidate_outline (engine : Engine) (buffer : BufferId) :
    ({ engine with outputs := (engine.outputs.invalidate buffer).2 } : Engine).outline =
      engine.outline.invalidate buffer := by
  simp only [outline, Outline.invalidate, OutputCache.invalidate, List.eraseP_map]
  rfl

theorem insert_outline (engine : Engine) (image : Image) :
    ({ engine with outputs := (engine.outputs.insert image).2 } : Engine).outline =
      engine.outline.keep image.asLive := by
  simp only [outline, Outline.keep, OutputCache.insert, OutputCache.excess, List.map_drop,
    List.map_append, List.length_append, List.length_map]
  rfl

@[simp] theorem markOutput_outline (engine : Engine) (buffer : BufferId) (frame : FrameSeq) :
    ({ engine with outputs := engine.outputs.markUsed buffer frame } : Engine).outline =
      engine.outline := by
  have same := Image.map_asLive_of_marked (engine.outputs.markUsed_marked buffer frame)
  simp only [outline, same]
  rfl

end Engine

/-- What a slot tells of a target: its handle, and whether it is kept. -/
def OutputSlot.summary (slot : OutputSlot) : ImageHandle × Bool := (slot.handle, slot.isCached)

namespace Engine

theorem targetFor_outline {target : Buffer} {usesOutputCache : Bool}
    (usable : (engine.targetFor target frame usesOutputCache).2.device.lost = false) :
    engine.outline.targetFor target usesOutputCache =
      ((engine.targetFor target frame usesOutputCache).1.map OutputSlot.summary,
        (engine.targetFor target frame usesOutputCache).2.outline) := by
  have asked : engine.outline.make .output target =
    engine.device.canvas.make engine.contexts.current .output target engine.limit := rfl
  unfold Outline.targetFor
  rw [asked, outline_target?]
  cases usesOutputCache with
  | false =>
      simp only [targetFor, Bool.false_eq_true, if_false, Bool.false_and] at usable ⊢
      cases outcome : engine.device.createTarget engine.contexts.current target engine.limit with
      | mk result device =>
          rw [outcome] at usable
          cases result with
          | error error =>
              obtain ⟨cause, rfl, made⟩ := Device.createTarget_refused outcome usable
              rw [made]
              rfl
          | ok image =>
              rw [Device.createTarget_made outcome usable]
              rfl
  | true =>
      simp only [targetFor, if_true, Bool.true_and] at usable ⊢
      cases hit : engine.outputs.hit? target.id engine.contexts.active with
      | some image =>
          rw [OutputCache.getOrCreate_hit hit]
          dsimp only
          rw [retire_outline]
          exact congrArg _ (markOutput_outline engine target.id frame).symm
      | none =>
          cases outcome : engine.device.createTarget engine.contexts.current target engine.limit with
          | mk result device =>
              let cleared : Engine :=
                { engine with outputs := (engine.outputs.invalidate target.id).2, device }
              have same : cleared.outline =
                  { engine.outline.invalidate target.id with canvas := device.canvas } := by
                rw [← invalidate_outline]
                rfl
              cases result with
              | error error =>
                  rw [OutputCache.getOrCreate_refused hit outcome] at usable ⊢
                  obtain ⟨cause, rfl, made⟩ :=
                    Device.createTarget_refused outcome ((retire_plain _ _).usable usable)
                  dsimp only
                  rw [retire_outline, made]
                  exact congrArg _ same.symm
              | ok image =>
                  by_cases room : engine.outputs.capacity = 0
                  · rw [OutputCache.getOrCreate_transient hit outcome room] at usable ⊢
                    have empty : engine.outline.capacity = 0 := room
                    dsimp only
                    rw [retire_outline, empty,
                      Device.createTarget_made outcome ((retire_plain _ _).usable usable)]
                    exact congrArg _ same.symm
                  · rw [OutputCache.getOrCreate_cached hit outcome room] at usable ⊢
                    have roomy : decide (engine.outline.capacity ≠ 0) = true := decide_eq_true room
                    let kept : Engine :=
                      { cleared with outputs := (cleared.outputs.insert image).2 }
                    have grown := markOutput_outline kept target.id frame
                    rw [insert_outline cleared image, same] at grown
                    dsimp only
                    rw [retire_outline, roomy,
                      Device.createTarget_made outcome ((retire_plain _ _).usable usable)]
                    exact congrArg _ grown.symm

/-! ## Submission -/

@[simp] theorem submit_outline (engine : Engine) (frame : FrameSeq) :
    (engine.submit frame).2.outline = engine.outline := by
  have canvas := (engine.submit_plain frame).canvas
  have issued := (engine.submit_settles frame).1
  have same : (engine.submit frame).2.outline =
      { engine.outline with
        issued := (engine.submit frame).2.progress.lastIssued
        canvas := (engine.submit frame).2.device.canvas } := by
    unfold submit
    cases engine.strategy.submit engine.device engine.progress frame with
    | mk result rest => cases result <;> rfl
  rw [same, canvas, issued]
  rfl

/-- On a device that stays usable, a frame fails only if its target or a source was refused. -/
theorem render_outline {request : FrameRequest} {plan : FramePlan} {slot : OutputSlot}
    (usable : (engine.render request frame plan slot).2.device.lost = false)
    (unrefused : Unrefused (engine.render request frame plan slot).1) :
    ((engine.render request frame plan slot).1.map FrameOutput.status,
        (engine.render request frame plan slot).2.outline) =
      (.ok ⟨frame, engine.contexts.active, plan.draws.length, plan.skipped, slot.isCached⟩,
        { engine.outline with
          canvas := engine.device.canvas.draw engine.contexts.current slot.handle
            (plan.draws.map (·.source)) }) := by
  unfold render at usable unrefused ⊢
  cases outcome : Recording.ofDraws engine.device engine.contexts.current slot.handle
      request.display plan.draws with
  | error failure =>
      obtain ⟨error, device⟩ := failure
      rw [outcome] at usable unrefused
      have dropped := (Deals.dropFrame { engine with device } error).trans (.retire _ slot.owned)
      rcases Recording.ofDraws_failed outcome with ⟨-, lost⟩ | ⟨cause, invalid⟩
      · exact absurd (lost.symm.trans (dropped.usable usable)) (by simp)
      · exact absurd invalid (unrefused cause)
  | ok recording =>
      let drawn : Engine := { engine with device := recording.device }
      have settled := ((drawn.retire slot.owned).submit_settles frame).2
      have same := (drawn.retire slot.owned).submit_outline frame
      have kept := congrArg Outline.contexts same
      rw [outcome] at usable unrefused
      dsimp only at usable unrefused ⊢
      cases final : (drawn.retire slot.owned).submit frame with
      | mk answer after =>
          rw [final] at usable unrefused settled same kept
          cases answer with
          | error error =>
              obtain ⟨_, failed⟩ := settled usable
              cases failed
          | ok fence =>
              have accepted : NoneRejected recording.rejected :=
                fun layer member => unrefused layer (List.mem_append_right _ member)
              have draws := Recording.ofDraws_draws outcome accepted
              have contexts : after.contexts = engine.contexts := kept
              have outlined : after.outline =
                  { engine.outline with canvas := recording.device.canvas } := by
                rw [same, retire_outline]
                rfl
              have status : (⟨frame, after.contexts.active, recording.drawn,
                  plan.skipped ++ recording.rejected, slot.isCached⟩ : FrameStatus) =
                  ⟨frame, engine.contexts.active, plan.draws.length, plan.skipped,
                    slot.isCached⟩ := by
                rw [contexts, draws.drawn, draws.rejected, List.append_nil, List.length_map,
                  Nat.zero_add]
              rw [draws.canvas] at outlined
              exact congr (congrArg Prod.mk (congrArg Except.ok status)) outlined

/-! ## Whole frames -/

theorem dropFrame_outline (engine : Engine) (error : EngineError) :
    ((engine.dropFrame error).1.map FrameOutput.status, (engine.dropFrame error).2.outline) =
      (.error error, engine.outline) := by
  unfold dropFrame noteFailure
  cases error.isFatal <;> rfl

theorem finishFrame_outline {request : FrameRequest} {plan : FramePlan}
    (usable : (finishFrame request frame plan).2.device.lost = false)
    (unrefused : Unrefused (finishFrame request frame plan).1) :
    Outline.finishFrame request frame plan.sketch =
      ((finishFrame request frame plan).1.map FrameOutput.status,
        (finishFrame request frame plan).2.outline) := by
  have evicted : plan.sketch.outline.evict plan.sketch.active =
      (plan.engine.evicted plan.active).outline := (evicted_outline plan.engine plan.active).symm
  have targeted := @targetFor_outline (plan.engine.evicted plan.active) frame request.target
    request.usesOutputCache
  unfold Outline.finishFrame
  unfold finishFrame at usable unrefused ⊢
  rw [evicted]
  cases outcome : (plan.engine.evicted plan.active).targetFor request.target frame
      request.usesOutputCache with
  | mk result after =>
      rw [outcome] at usable unrefused targeted
      cases result with
      | error error =>
          rw [targeted ((Deals.dropFrame after error).usable usable)]
          exact (dropFrame_outline after error).symm
      | ok slot =>
          obtain ⟨_, deals, -⟩ := after.render_composes request frame plan slot
          rw [targeted (deals.usable usable), render_outline usable unrefused]
          simp only [Except.map, OutputSlot.summary, FramePlan.sketch, List.length_map]
          rfl

theorem compose_outline {request : FrameRequest}
    (foretold : Waits.Foretold (fun wait => signals (wait + 1))
      ((FramePlan.start engine.begun).waits engine.begun.progress.lastIssued
        request.layers.zipIdx))
    (usable : (engine.compose request).2.device.lost = false)
    (unrefused : Unrefused (engine.compose request).1) :
    engine.outline.compose signals request =
      ((engine.compose request).1.map FrameOutput.status, (engine.compose request).2.outline) := by
  have sketched := @FramePlan.lookAll_sketch engine.begun engine.begun.progress.lastIssued signals
    request.layers foretold
  rw [compose_eq] at usable unrefused ⊢
  cases outcome : FramePlan.lookAll engine.begun engine.begun.progress.lastIssued
      request.layers with
  | error after =>
      rw [outcome] at usable sketched
      obtain ⟨_, same, -⟩ := sketched ((Deals.dropFrame after .contextLost).usable usable)
      cases same
  | ok plan =>
      rw [outcome] at usable unrefused sketched
      obtain ⟨_, deals, -⟩ :=
        finishFrame_composes request engine.begun.progress.lastIssued plan
      obtain ⟨_, same, sketch⟩ := sketched (deals.usable usable)
      cases same
      refine .trans ?_ (finishFrame_outline usable unrefused)
      rw [sketch]
      rfl

theorem collect_outline (engine : Engine) : engine.collect.outline = engine.outline :=
  outline_of_plain engine.collect_plain

theorem emptyCaches_outline (engine : Engine) :
    engine.emptyCaches.outline = { engine.outline with textures := [], outputs := [] } := by
  simp only [emptyCaches, retire_outline]
  simp [outline, TextureCache.drain, TextureCache.releaseUnless, OutputCache.drain, limit]

theorem switchTo_outline (alive : engine.lost = false) {mode : Mode}
    (usable : (engine.switchTo mode).device.lost = false) :
    (engine.switchTo mode).outline = engine.outline.switchTo mode ∧
      (engine.switchTo mode).lost = false := by
  have outlined : engine.outline.switchTo mode =
    if engine.contexts.active = mode ∨ ¬engine.contexts.has mode then engine.outline
    else
      { engine.outline with
        textures := [], outputs := [], contexts := engine.contexts.activate mode } := rfl
  rw [outlined]
  unfold switchTo at usable ⊢
  by_cases stays : engine.contexts.active = mode ∨ ¬engine.contexts.has mode = true
  · rw [if_pos stays, if_pos (stays.imp_right .inr)]
    exact ⟨rfl, alive⟩
  · have goes : ¬(engine.contexts.active = mode ∨ engine.lost = true ∨
        ¬engine.contexts.has mode = true) := by simpa [alive] using stays
    rw [if_neg goes] at usable
    rw [if_neg stays, if_neg goes]
    have failed := @Device.finish_failed engine.device
    have plain := Device.Plain.finish engine.device
    cases outcome : engine.device.finish with
    | mk drained device =>
        rw [outcome] at usable failed plain
        cases drained with
        | false => exact absurd ((failed rfl).symm.trans usable) (by simp)
        | true =>
            let idle : Engine := { engine with device, progress := engine.progress.markIdle }
            have same : idle.outline = engine.outline := outline_of_plain plain
            have kept : idle.emptyCaches.collect.lost = false := alive
            have emptied : idle.emptyCaches.collect.outline =
                { engine.outline with textures := [], outputs := [] } := by
              rw [collect_outline, emptyCaches_outline, same]
            refine ⟨?_, kept⟩
            exact congrArg (fun outline : Outline =>
              { outline with contexts := engine.contexts.activate mode }) emptied

/-- A frame on a device that stays usable does to the outline what the outline would do itself. -/
theorem draw_outline (alive : engine.lost = false) {request : FrameRequest}
    (foretold : Waits.Foretold signals (engine.waits request))
    (usable : (engine.draw request).2.device.lost = false)
    (unrefused : Unrefused (engine.draw request).1) :
    engine.outline.draw signals request =
      ((engine.draw request).1.map FrameOutput.status, (engine.draw request).2.outline) := by
  have awaited := awaitAny_outline engine request.inputFence
  have aliveStill : (engine.awaitAny request.inputFence).2.lost = engine.lost := by
    rw [awaitAny_eq]
  rw [alive] at aliveStill
  unfold waits at foretold
  unfold draw at usable unrefused ⊢
  unfold Outline.draw
  simp only [alive, Bool.false_eq_true, if_false] at foretold usable unrefused ⊢
  cases outcome : engine.awaitAny request.inputFence with
  | mk signaled waited =>
      rw [outcome] at awaited aliveStill foretold usable unrefused
      dsimp only at awaited aliveStill
      rw [← awaited]
      cases signaled with
      | false =>
          rw [foretold.head _ rfl]
          rfl
      | true =>
          rw [foretold.head _ rfl]
          have later := foretold.tail
          obtain ⟨_, deals, -⟩ := (waited.switchTo request.mode).compose_composes request
          dsimp only at usable unrefused later ⊢
          have switchedUsable : (waited.switchTo request.mode).device.lost = false := by
            split at usable
            · exact usable
            · split at usable
              · exact usable
              · exact deals.usable usable
          obtain ⟨switched, switchedAlive⟩ := switchTo_outline aliveStill switchedUsable
          have active : (waited.outline.switchTo request.mode).contexts.active =
              (waited.switchTo request.mode).contexts.active := by
            rw [← switched]
            rfl
          have notLost : ¬(waited.switchTo request.mode).lost = true := by simp [switchedAlive]
          rw [if_neg notLost] at usable unrefused ⊢
          by_cases refused : (waited.switchTo request.mode).contexts.active ≠ request.mode
          · rw [if_pos refused]
            rw [if_pos rfl, if_neg (by rw [active]; exact refused), ← switched]
            rfl
          · rw [if_neg refused] at usable unrefused ⊢
            rw [if_neg (by simp [switchedAlive, refused])] at later
            rw [if_pos rfl, if_pos (by rw [active]; exact not_not.mp refused), ← switched]
            exact compose_outline later usable unrefused

end Engine

end Compositor
