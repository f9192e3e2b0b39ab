import Compositor.Proofs.Calm
import Compositor.Proofs.Exposure
import Compositor.Proofs.Outline.Operations
import Compositor.Proofs.Reachable

/-!
# What outlines keep

What holds of the outline of a new engine, and is kept by each thing that an engine can do to its
outline, holds of every engine as long as its device is usable, whatever other users of the device do.
-/

set_option autoImplicit false

namespace Compositor

/-- More images were made. -/
structure Canvas.Grows (before after : Canvas) : Prop where
  issued : before.issued ≤ after.issued
  created : before.created ⊆ after.created

/-- What holds of new outlines, and is kept by all that happens to outlines. -/
structure Outline.Closed (holds : Outline → Prop) : Prop where
  created : ∀ {outline : Outline}, outline.contexts.active = .normal → outline.textures = [] →
    outline.outputs = [] → holds outline
  issued : ∀ {outline : Outline} (issued : FrameSeq), holds outline → holds { outline with issued }
  canvas : ∀ {outline : Outline} {canvas : Canvas}, holds outline → outline.canvas.Grows canvas →
    holds { outline with canvas }
  unbind : ∀ {outline : Outline} (buffer : BufferId), holds outline → holds (outline.unbind buffer)
  invalidate : ∀ {outline : Outline} (buffer : BufferId), holds outline →
    holds (outline.invalidate buffer)
  evict : ∀ {outline : Outline} (active : List BufferId), holds outline →
    holds (outline.evict active)
  bindTexture : ∀ {outline : Outline} (buffer : Buffer), holds outline →
    holds (outline.bindTexture buffer).2
  switchTo : ∀ {outline : Outline} (mode : Mode), holds outline → holds (outline.switchTo mode)
  targetFor : ∀ {outline : Outline} (target : Buffer) (usesOutputCache : Bool), holds outline →
    holds (outline.targetFor target usesOutputCache).2

namespace Outline.Closed

variable {holds : Outline → Prop}

theorem textureFor (closed : Closed holds) {outline : Outline} (start : holds outline)
    (buffer : Buffer) : holds (outline.textureFor buffer).2 := by
  unfold Outline.textureFor
  split
  · exact start
  · exact closed.bindTexture buffer start

theorem look (closed : Closed holds) (signals : Nat → Bool) {sketch : Sketch}
    (start : holds sketch.outline) (index : Nat) (layer : Layer) :
    holds (sketch.look signals index layer).outline := by
  unfold Sketch.look
  split
  · exact start
  · rename_i buffer _
    have textured := closed.textureFor start buffer
    cases outcome : sketch.outline.textureFor buffer with
    | mk result after =>
        rw [outcome] at textured
        cases result with
        | error cause => exact textured
        | ok handle =>
            dsimp only
            split <;> exact textured

theorem lookAll (closed : Closed holds) (signals : Nat → Bool) {outline : Outline}
    (start : holds outline) (layers : List Layer) :
    holds (Sketch.lookAll signals outline layers).outline := by
  refine List.foldlRecOn (motive := fun sketch : Sketch => holds sketch.outline)
    layers.zipIdx _ start ?_
  intro sketch held entry _
  exact closed.look signals held entry.2 entry.1

end Outline.Closed

/-! ## Engines -/

/-- Whatever the waits come to, planning on a device that stays usable is told by its outline. -/
theorem FramePlan.lookAll_sketched {engine : Engine} {frame : FrameSeq} {layers : List Layer}
    (usable : (reached (lookAll engine frame layers)).device.lost = false) :
    ∃ signals plan, lookAll engine frame layers = .ok plan ∧
      plan.sketch = .lookAll signals engine.outline layers := by
  let waits := (start engine).waits frame layers.zipIdx
  refine ⟨fun wait => waits[wait - 1]?.join.getD true, lookAll_sketch ?_ usable⟩
  intro index outcome ends
  have known : waits[index]? = some (some outcome) := ends
  simp [known]

theorem FramePlan.lookAll_lost {engine after : Engine} {frame : FrameSeq} {layers : List Layer}
    (looked : lookAll engine frame layers = .error after) : after.device.lost = true := by
  cases lost : after.device.lost with
  | true => rfl
  | false =>
      have ends : (reached (lookAll engine frame layers)).device.lost = false := by
        rw [looked]
        exact lost
      obtain ⟨_, plan, planned, -⟩ := lookAll_sketched ends
      cases looked.symm.trans planned

/-- Images were made and destroyed, and nothing else changed that an outline tells of its device. -/
theorem Device.Calls.grows {before after : Device} (calls : Calls before after) :
    before.canvas.Grows after.canvas := by
  refine ⟨calls.calm.issued, ?_⟩
  obtain ⟨added, events⟩ := calls.effects.events
  unfold Device.canvas
  rw [events]
  exact History.created_subset_append added _

theorem Device.Meddled.grows {before after : Device} (meddled : before.Meddled after) :
    before.canvas.Grows after.canvas := by
  refine ⟨meddled.issued.symm.le, ?_⟩
  obtain ⟨added, events⟩ := meddled.events
  unfold Device.canvas
  rw [events]
  exact History.created_subset_append added _

namespace Engine

/-- As long as the device is usable, this holds of the outline. -/
def Outlined (holds : Outline → Prop) (engine : Engine) : Prop :=
  engine.device.lost = false → holds engine.outline

variable {engine after : Engine} {holds : Outline → Prop}

namespace Outlined

variable (closed : Outline.Closed holds)

/-- Nothing of the outline changed. -/
theorem same (start : engine.Outlined holds) (outline : after.outline = engine.outline)
    (usable : after.device.lost = false → engine.device.lost = false) : after.Outlined holds := by
  intro healthy
  rw [outline]
  exact start (usable healthy)

theorem awaitAny (start : engine.Outlined holds) (fence : Option Fence) :
    (engine.awaitAny fence).2.Outlined holds :=
  start.same (engine.awaitAny_outline fence) (engine.awaitAny_plain fence).usable

include closed

/-- Nothing but the device changed in what the outline tells, and images were only made. -/
theorem onDevice (start : engine.Outlined holds) {device : Device}
    (grows : engine.device.canvas.Grows device.canvas)
    (lost : engine.device.lost = true → device.lost = true) :
    ({ engine with device } : Engine).Outlined holds := by
  intro usable
  have before : engine.device.lost = false := by
    cases gone : engine.device.lost with
    | false => rfl
    | true => exact absurd ((lost gone).symm.trans usable) (by simp)
  have grown : engine.outline.canvas.Grows device.canvas := grows
  exact closed.canvas (start before) grown

theorem create {device : Device} {capabilities : Capabilities} {options : EngineOptions}
    {order : ReleaseOrder} (created : create device capabilities options order = .ok engine) :
    engine.Outlined holds := by
  obtain ⟨-, rfl⟩ := create_eq created
  exact fun _ => closed.created rfl rfl rfl

theorem switchTo (start : engine.Outlined holds) (alive : engine.lost = false) (mode : Mode) :
    (engine.switchTo mode).Outlined holds := by
  intro usable
  rw [(switchTo_outline alive usable).1]
  exact closed.switchTo mode (start ((engine.switchTo_plain mode).usable usable))

theorem begun (start : engine.Outlined holds) : engine.begun.Outlined holds :=
  fun usable => closed.issued engine.begun.progress.lastIssued (start usable)

theorem lookAll (start : engine.Outlined holds) {frame : FrameSeq} {layers : List Layer}
    {plan : FramePlan} (looked : FramePlan.lookAll engine frame layers = .ok plan) :
    plan.engine.Outlined holds := by
  intro usable
  have deals := FramePlan.looks_deal frame layers.zipIdx (.start engine)
  have ends : (FramePlan.reached (FramePlan.lookAll engine frame layers)).device.lost = false := by
    rw [looked]
    exact usable
  obtain ⟨signals, next, same, sketch⟩ := FramePlan.lookAll_sketched ends
  cases looked.symm.trans same
  have kept := closed.lookAll signals (start (deals.usable ends)) layers
  rw [← sketch] at kept
  exact kept

theorem evicted (start : engine.Outlined holds) (active : List BufferId) :
    (engine.evicted active).Outlined holds := by
  intro usable
  rw [evicted_outline]
  exact closed.evict active (start ((Deals.evicted engine active).usable usable))

theorem targetFor (start : engine.Outlined holds) (target : Buffer) (frame : FrameSeq)
    (usesOutputCache : Bool) :
    (engine.targetFor target frame usesOutputCache).2.Outlined holds := by
  intro usable
  have same : (engine.outline.targetFor target usesOutputCache).2 =
      (engine.targetFor target frame usesOutputCache).2.outline :=
    congrArg Prod.snd (targetFor_outline usable)
  rw [← same]
  exact closed.targetFor target usesOutputCache
    (start ((Deals.targetFor engine target frame usesOutputCache).usable usable))

omit closed in
theorem dropFrame (start : engine.Outlined holds) (error : EngineError) :
    (engine.dropFrame error).2.Outlined holds :=
  start.same (congrArg Prod.snd (engine.dropFrame_outline error))
    (Deals.dropFrame engine error).usable

theorem render (start : engine.Outlined holds) (request : FrameRequest) (frame : FrameSeq)
    (plan : FramePlan) (slot : OutputSlot) :
    (engine.render request frame plan slot).2.Outlined holds := by
  have calls := Recording.ofDraws_calls engine.device engine.contexts.current slot.handle
    request.display plan.draws
  unfold Engine.render
  cases outcome : Recording.ofDraws engine.device engine.contexts.current slot.handle
      request.display plan.draws with
  | error failure =>
      obtain ⟨error, device⟩ := failure
      rw [outcome] at calls
      have dropped := (start.onDevice closed calls.grows calls.calm.lost).dropFrame error
      exact dropped.same (retire_outline _ _) (retire_plain _ _).usable
  | ok recording =>
      rw [outcome] at calls
      let drawn : Engine := { engine with device := recording.device }
      have recorded : drawn.Outlined holds := start.onDevice closed calls.grows calls.calm.lost
      have submitted : ((drawn.retire slot.owned).submit frame).2.Outlined holds :=
        recorded.same ((submit_outline _ frame).trans (retire_outline _ _)) fun usable =>
          (drawn.retire_plain slot.owned).usable ((submit_plain _ frame).usable usable)
      dsimp only
      cases final : (drawn.retire slot.owned).submit frame with
      | mk answer after =>
          rw [final] at submitted
          cases answer <;> exact submitted

theorem compose (start : engine.Outlined holds) (request : FrameRequest) :
    (engine.compose request).2.Outlined holds := by
  rw [compose_eq]
  cases outcome : FramePlan.lookAll engine.begun engine.begun.progress.lastIssued
      request.layers with
  | error after =>
      have lost : after.Outlined holds := fun usable =>
        absurd ((FramePlan.lookAll_lost outcome).symm.trans usable) (by simp)
      exact lost.dropFrame .contextLost
  | ok plan =>
      have planned := (start.begun closed).lookAll closed outcome
      have targeted := (planned.evicted closed plan.active).targetFor closed request.target
        engine.begun.progress.lastIssued request.usesOutputCache
      dsimp only
      unfold finishFrame
      cases given : (plan.engine.evicted plan.active).targetFor request.target
          engine.begun.progress.lastIssued request.usesOutputCache with
      | mk answer after =>
          rw [given] at targeted
          cases answer with
          | error error => exact targeted.dropFrame error
          | ok slot => exact targeted.render closed request _ plan slot

theorem draw (start : engine.Outlined holds) (request : FrameRequest) :
    (engine.draw request).2.Outlined holds := by
  have waiting := start.awaitAny request.inputFence
  have same := engine.awaitAny_eq request.inputFence
  unfold Engine.draw
  split
  · exact start
  · rename_i alive
    have alive : engine.lost = false := by simpa using alive
    cases outcome : engine.awaitAny request.inputFence with
    | mk signaled waited =>
        rw [outcome] at waiting same
        have aliveStill : waited.lost = false := by
          dsimp only at same
          rw [same]
          exact alive
        cases signaled with
        | false => exact waiting
        | true =>
            have switched := waiting.switchTo closed aliveStill request.mode
            dsimp only
            split
            · exact switched
            · split
              · exact switched
              · exact switched.compose closed request

/-! ### Operations -/

theorem bind (start : engine.Outlined holds) (buffer : Buffer) :
    (engine.bind buffer).2.Outlined holds := by
  intro usable
  have before := start ((Deals.bind engine buffer).usable usable)
  cases lost : engine.lost with
  | true =>
      rw [Engine.bind, if_pos lost]
      exact before
  | false =>
      have bound := closed.bindTexture buffer before
      have same : (engine.outline.bind buffer).2 = (engine.bind buffer).2.outline :=
        congrArg Prod.snd (bind_outline lost usable).1
      rw [← same]
      exact bound

theorem setProtected (start : engine.Outlined holds) (wantsSecure : Bool) :
    (engine.setProtected wantsSecure).2.Outlined holds := by
  cases lost : engine.lost with
  | true =>
      have stays : engine.switchTo (.ofProtected wantsSecure) = engine := if_pos (.inr (.inl lost))
      have kept : (engine.switchTo (.ofProtected wantsSecure)).Outlined holds := by rwa [stays]
      exact kept
  | false => exact start.switchTo closed lost _

theorem flush (start : engine.Outlined holds) : engine.flush.2.Outlined holds := by
  unfold Engine.flush
  split
  · exact start
  · have begun : ({ engine with progress := engine.progress.begin } : Engine).Outlined holds :=
      fun usable => closed.issued engine.progress.begin.lastIssued (start usable)
    exact begun.same (submit_outline _ _) (submit_plain _ _).usable

omit closed in
theorem finish (start : engine.Outlined holds) : engine.finish.2.Outlined holds := by
  intro usable
  have before := start (engine.finish_plain.usable usable)
  cases lost : engine.lost with
  | true =>
      rw [Engine.finish, if_pos lost]
      exact before
  | false =>
      rw [(finish_outline lost usable).2]
      exact before

theorem operate {action : Action} {result : Outcome × Engine} (start : engine.Outlined holds)
    (operated : Session.operate engine action = some result) : result.2.Outlined holds := by
  cases action with
  | draw request =>
      cases operated
      exact start.draw closed request
  | bind buffer =>
      cases operated
      exact start.bind closed buffer
  | unbind buffer =>
      cases operated
      intro usable
      rw [unbind_outlined]
      exact closed.unbind buffer (start ((engine.unbind_plain buffer).usable usable))
  | invalidate buffer =>
      cases operated
      intro usable
      rw [invalidate_outlined]
      exact closed.invalidate buffer (start ((engine.invalidate_plain buffer).usable usable))
  | setProtected wantsSecure =>
      cases operated
      exact start.setProtected closed wantsSecure
  | flush =>
      cases operated
      exact start.flush closed
  | finish =>
      cases operated
      exact start.finish
  | cleanup =>
      cases operated
      exact start.same engine.cleanup_outline engine.cleanup_plain.usable
  | await fence =>
      cases operated
      exact start.awaitAny (some fence)
  | watchTracer elapsed =>
      cases operated
      exact start
  | _ => cases operated

/-- What outlines keep holds of engines in any company. -/
theorem told : Told (fun _ => True) fun _ engine => engine.Outlined holds where
  created := fun _ created => .create closed created
  operated := fun start operated => start.operate closed operated
  meddled := fun start meddled => start.onDevice closed meddled.grows meddled.lost

end Outlined

end Engine

end Compositor
