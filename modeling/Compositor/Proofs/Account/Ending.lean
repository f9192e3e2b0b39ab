import Compositor.Proofs.Account.Composition
import Compositor.Proofs.Account.Orderly

/-!
# What the end of a frame leaves alone

Once its layers are planned, a frame makes its target, records, gives up a target that it owns and
submits. None of this concerns the textures that it samples.
-/

set_option autoImplicit false

namespace Compositor

variable {engine : Engine} {frame : FrameSeq}

/-! ## What the end of a frame leaves alone -/

theorem Device.destroyImage_findLive? (device : Device) {mode : Mode} {handle other : ImageHandle}
    (apart : other ≠ handle) :
    (device.destroyImage mode handle).findLive? other = device.findLive? other := by
  have live := (arrive_steps device .destroyImage).extends.live
  have here : (device.arrive .destroyImage).findLive? other = device.findLive? other := by
    rw [findLive?, live, findLive?]
  rw [← here]
  unfold destroyImage acceptDestroy release
  split
  · rfl
  · rw [findLive?, findLive?]
    refine (List.find?_filter ..).trans ?_
    congr 1
    funext image
    by_cases own : image.handle = other
    · simp [own, apart]
    · simp [own]

namespace Engine

/-- Retiring images destroys no other one. -/
theorem retire_findLive? {images : List Image} {handle : ImageHandle}
    (apart : ∀ image ∈ images, image.handle ≠ handle) :
    (engine.retire images).device.findLive? handle = engine.device.findLive? handle := by
  induction images generalizing engine with
  | nil => rfl
  | cons image images ih =>
      have first : (engine.retire [image]).device.findLive? handle =
          engine.device.findLive? handle := by
        by_cases complete : engine.progress.isComplete image.lastUsed = true
        · rw [retire_done complete]
          dsimp only
          unfold Contexts.destroy
          split
          · exact Device.destroyImage_findLive? _ (apart image List.mem_cons_self).symm
          · rfl
        · rw [retire_used complete]
      rw [retire_cons, ← first]
      exact ih fun other member => apart other (List.mem_cons_of_mem _ member)

end Engine

theorem Strategy.submitDrained_live (device : Device) (progress : Progress) (frame : FrameSeq) :
    (submitDrained device progress frame).2.2.live = device.live := by
  have finished := (Device.finish_steps device).extends.live
  cases drained : device.finish.1 with
  | false =>
      rw [submitDrained_failed progress frame drained]
      exact finished
  | true =>
      rw [submitDrained_done progress frame drained]
      exact finished

theorem Strategy.submit_live (strategy : Strategy) (device : Device) (progress : Progress)
    (frame : FrameSeq) : (strategy.submit device progress frame).2.2.live = device.live := by
  have flushed : device.flush.2.live = device.live :=
    ((Device.acceptFlush_flushes _).live).trans (Device.arrive_steps device .flush).extends.live
  unfold submit
  cases outcome : device.flush with
  | mk fence after =>
      rw [outcome] at flushed
      cases strategy with
      | blockingFinish => exact (submitDrained_live after progress frame).trans flushed
      | fenceGated =>
          cases fence with
          | some fence => exact flushed
          | none =>
              have checked := (Device.checkLost_steps after).extends.live.trans flushed
              dsimp only
              cases asked : after.checkLost with
              | mk lost known =>
                  rw [asked] at checked
                  cases lost with
                  | true => exact checked
                  | false => exact (submitDrained_live known progress frame).trans checked

namespace Engine

/-- A submission concerns no image. -/
structure Spares (before after : Engine) : Prop where
  contexts : after.contexts = before.contexts
  textures : after.textures = before.textures
  outputs : after.outputs = before.outputs
  live : after.device.live = before.device.live

theorem submit_spares (engine : Engine) (frame : FrameSeq) :
    engine.Spares (engine.submit frame).2 := by
  have live := engine.strategy.submit_live engine.device engine.progress frame
  unfold submit
  cases outcome : engine.strategy.submit engine.device engine.progress frame with
  | mk result rest =>
      rw [outcome] at live
      cases result <;> exact ⟨rfl, rfl, rfl, live⟩

/-! ## The target -/

/-- The target of a frame: either one that is kept by then, or a new one that nobody keeps. -/
inductive Aims (engine : Engine) (target : Buffer) : OutputSlot → Engine → Prop where
  | cached {image : Image} {handle : ImageHandle} {after : Engine} :
      image ∈ after.outputs.entries → image.buffer = target.id → image.handle = handle →
      Aims engine target (.cached handle) after
  | transient {image : Image} {after : Engine} :
      image.handle = ⟨engine.device.issued + 1⟩ →
      after.outputs.entries.Sublist engine.outputs.entries →
      Aims engine target (.transient image) after

theorem targetFor_aims {target : Buffer} {usesOutputCache : Bool} {slot : OutputSlot}
    {after : Engine} (given : engine.targetFor target frame usesOutputCache = (.ok slot, after)) :
    engine.Aims target slot after := by
  cases usesOutputCache with
  | false =>
      simp only [targetFor, Bool.false_eq_true, if_false] at given
      cases outcome : engine.device.createTarget engine.contexts.current target engine.limit with
      | mk result device =>
          rw [outcome] at given
          cases result with
          | error error => cases given
          | ok made =>
              obtain ⟨rfl, -⟩ := Device.createTarget_fresh outcome
              cases given
              exact .transient rfl (.refl _)
  | true =>
      simp only [targetFor, if_true] at given
      cases hit : engine.outputs.hit? target.id engine.contexts.active with
      | some image =>
          obtain ⟨member, buffer, -⟩ := OutputCache.hit?_some hit
          rw [OutputCache.getOrCreate_hit hit] at given
          cases given
          have marked := OutputCache.mem_markUsed member frame
          rw [buffer] at marked
          exact .cached marked buffer rfl
      | none =>
          cases outcome : engine.device.createTarget engine.contexts.current target engine.limit with
          | mk result device =>
              cases result with
              | error error =>
                  rw [OutputCache.getOrCreate_refused hit outcome] at given
                  cases given
              | ok image =>
                  obtain ⟨fresh, -⟩ := Device.createTarget_fresh outcome
                  by_cases room : engine.outputs.capacity = 0
                  · rw [OutputCache.getOrCreate_transient hit outcome room] at given
                    cases given
                    exact .transient (by rw [fresh]; rfl)
                      (engine.outputs.invalidate_sublist target.id)
                  · rw [OutputCache.getOrCreate_cached hit outcome room] at given
                    cases given
                    have buffer : image.buffer = target.id := by
                      rw [fresh]
                      rfl
                    have kept := OutputCache.mem_insert (engine.outputs.invalidate target.id).2
                      image room
                    have marked := OutputCache.mem_markUsed kept frame
                    rw [buffer] at marked
                    exact .cached marked buffer rfl

/-! ## All stages -/

/-- The eviction spares the textures that the layers sample. -/
theorem evicted_handle? {active : List BufferId} {buffer : BufferId} (named : buffer ∈ active)
    (resident : buffer ∈ engine.stock) :
    (engine.evicted active).handle? buffer = engine.handle? buffer := by
  obtain ⟨handle, found⟩ := handle?_of_mem_stock resident
  obtain ⟨image, cached, rfl⟩ := Option.map_eq_some_iff.mp found
  have kept : (engine.textures.evictStale active).2.find? buffer = some image :=
    TextureCache.releaseUnless_find? cached fun other own => by simpa [own] using named
  rw [found]
  exact congrArg (Option.map Image.handle) kept

/-- No texture has a handle that was not issued yet. -/
theorem Orderly.handle?_issued (orderly : engine.Orderly) (usable : engine.device.lost = false)
    {buffer : BufferId} {handle : ImageHandle} (found : engine.handle? buffer = some handle) :
    handle.number ≤ engine.device.issued := by
  obtain ⟨image, cached, rfl⟩ := Option.map_eq_some_iff.mp found
  exact (orderly usable).textureHandles image.asLive
    (List.mem_map.mpr ⟨image, List.mem_of_find?_eq_some cached, rfl⟩)

/-- What the rest of a frame, from a planned engine over one with a target to the final one, left
alone. -/
structure Leaves (planned : Engine) (active : List BufferId) (targeted : Engine)
    (recorded : Device) (last : Engine) : Prop where
  targeting : planned.Deals 0 targeted
  targetUsable : targeted.device.lost = false
  contexts : last.contexts = targeted.contexts
  outputs : last.outputs = targeted.outputs
  draws : last.device.draws = recorded.draws
  textures : last.textures.entries.Sublist (planned.evicted active).textures.entries
  sampled : ∀ buffer ∈ active, buffer ∈ planned.stock →
    last.handle? buffer = planned.handle? buffer
  live : ∀ handle : ImageHandle, handle.number ≤ planned.device.issued →
    last.device.findLive? handle = targeted.device.findLive? handle

theorem leaves_of_stages {active : List BufferId} {request : FrameRequest} {slot : OutputSlot}
    {targeted last : Engine} {draws : List PlannedDraw} {recording : Recording} {fence : Fence}
    (given : (engine.evicted active).targetFor request.target frame request.usesOutputCache =
      (.ok slot, targeted))
    (recorded : Recording.ofDraws targeted.device targeted.contexts.current slot.handle
      request.display draws = .ok recording)
    (submitted : ({ targeted with device := recording.device }.retire slot.owned).submit frame =
      (.ok fence, last)) : engine.Leaves active targeted recording.device last := by
  have targeting := (Deals.evicted engine active).trans
    (.targetFor _ request.target frame request.usesOutputCache)
  have bypasses := (targetFor_concluded (engine.evicted active) request.target frame
    request.usesOutputCache).bypasses
  have recordingCalm := Recording.ofDraws_calm targeted.device targeted.contexts.current slot.handle
    request.display draws
  have retiring := retire_plain { targeted with device := recording.device } slot.owned
  have submitting := submit_plain ({ targeted with device := recording.device }.retire slot.owned) frame
  have spares := submit_spares ({ targeted with device := recording.device }.retire slot.owned) frame
  have live := (Recording.ofDraws_accounts recorded).live
  rw [given] at targeting bypasses
  rw [recorded] at recordingCalm
  rw [submitted] at submitting spares
  have textures : last.textures = (engine.evicted active).textures :=
    spares.textures.trans bypasses.textures
  refine ⟨targeting, ?_, spares.contexts, spares.outputs, submitting.draws.trans retiring.draws, ?_,
    fun buffer named resident => ?_, fun handle issued => ?_⟩
  · exact recordingCalm.usable (retiring.usable (submitting.usable (submit_usable submitted)))
  · rw [textures]
  · rw [handle?, textures]
    exact evicted_handle? named resident
  · have kept : ∀ image ∈ slot.owned, image.handle ≠ handle := by
      cases targetFor_aims given with
      | cached =>
          intro other member
          cases member
      | transient fresh _ =>
          intro other member same
          rw [List.mem_singleton.mp member] at same
          have grown := (engine.evicted_calm active).issued
          rw [← same, fresh] at issued
          exact absurd (Nat.lt_of_lt_of_le (Nat.lt_succ_self _) issued) (Nat.not_lt.mpr grown)
    have retired : (({ targeted with device := recording.device } : Engine).retire
        slot.owned).device.findLive? handle = recording.device.findLive? handle :=
      retire_findLive? kept
    rw [Device.findLive?, spares.live, ← Device.findLive?, retired]
    exact congrArg (List.find? _) live

end Engine

end Compositor
