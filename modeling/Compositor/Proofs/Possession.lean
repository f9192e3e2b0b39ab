import Compositor.Proofs.Reachable

/-!
# Possession of images

What the invariants say about the images of a session between its actions: the engine holds exactly
the live ones, none is forgotten or held twice, and no context is handed a handle that it does not
have at that moment.
-/

set_option autoImplicit false

namespace Compositor

namespace Device

/-- Every image that was created is live or was destroyed, exactly once. -/
structure Accounted (device : Device) : Prop where
  /-- No handle was issued twice. -/
  distinct : ((History.created device.events).map (·.handle)).Nodup
  balance : ((History.created device.events).map (·.handle)).Perm
    (device.live.map (·.handle) ++ device.destroyed)
  live_iff : ∀ image, image ∈ device.live ↔
    image ∈ History.created device.events ∧ image.handle ∉ device.destroyed

theorem Coherent.accounted {device : Device} (coherent : device.Coherent) : device.Accounted where
  distinct := coherent.created.nodup_iff.mpr device.issuedHandles_nodup
  balance := by
    rw [destroyed_eq]
    exact coherent.created.trans (coherent.handles.symm.trans
      (.append_left _ (List.reverse_perm _).symm))
  live_iff := fun image => by
    rw [destroyed_eq, List.mem_reverse, History.mem_destroyed, History.mem_created]
    exact coherent.live_iff image

theorem Coherent.misuses_eq {device : Device} (coherent : device.Coherent) :
    device.misuses = [] := by
  rw [misuses, history, eventsSince, List.drop_zero, List.filterMap_eq_nil_iff]
  intro event member
  rw [List.mem_reverse] at member
  obtain ⟨later, earlier, split⟩ := List.append_of_mem member
  have proper := History.always_iff.mp coherent.proper later event earlier split
  cases event with
  | misused misuse => exact absurd proper id
  | _ => rfl

end Device

namespace Engine

/-- An engine holds exactly the live images of its device. -/
structure Possesses (engine : Engine) : Prop where
  live : (engine.owned.map Image.asLive).Perm engine.device.live
  /-- No handle is held twice, in one place or in two. -/
  once : (engine.owned.map (·.handle)).Nodup
  /-- Each texture is stored under its own buffer. -/
  textures : ∀ image ∈ engine.textures.entries,
    image.kind = .texture ∧ engine.textures.find? image.buffer = some image
  outputs : ∀ image ∈ engine.outputs.entries, image.kind = .output
  /-- There is at most one target for a buffer. -/
  targets : (engine.outputs.entries.map (·.buffer)).Nodup

end Engine

theorem find?_of_mem {images : List Image} (distinct : (images.map (·.buffer)).Nodup)
    {image : Image} (member : image ∈ images) :
    images.find? (·.buffer == image.buffer) = some image := by
  have split := find?_filter_perm distinct image.buffer
  have found := split.mem_iff.mpr member
  rcases List.mem_append.mp found with here | elsewhere
  · exact Option.mem_toList.mp here
  · have other := (List.mem_filter.mp elsewhere).2
    simp at other

theorem Moment.Rested.possesses {engine : Engine} {recorded : List ImageHandle}
    (rested : Moment.Rested ⟨engine, [], recorded⟩) : engine.Possesses := by
  have held : Moment.held ⟨engine, [], recorded⟩ = engine.owned := List.append_nil _
  have shelved := rested.owned.shelved
  refine ⟨?_, ?_, fun image member => ⟨shelved.textureKinds image member, ?_⟩,
    shelved.outputKinds, shelved.outputBuffers⟩
  · rw [← held]
    exact rested.owned.live
  · rw [← held]
    exact rested.owned.handles_nodup
  · exact find?_of_mem shelved.textureBuffers member

/-- Nothing that was handed to a context for a frame was refused. -/
def Outcome.Unrefused : Outcome → Prop
  | .frame result => Compositor.Unrefused result
  | _ => True

namespace Session

theorem script_unrefused {session : Session} {action : Action} {result : Outcome × Session}
    (scripted : session.script action = some result) : result.1.Unrefused := by
  cases action with
  | createFence | settleFence | signalNext | signalAll | rejectImports | allowImports | lose
  | scheduleLoss =>
      cases scripted
      exact trivial
  | _ => cases scripted

theorem operate_unrefused {engine : Engine} {action : Action} {result : Outcome × Engine}
    (operated : operate engine action = some result) {recorded : List ImageHandle}
    (rested : Moment.Rested ⟨engine, [], recorded⟩) : result.1.Unrefused := by
  cases action with
  | draw request =>
      cases operated
      exact (Engine.draw_ends rested request).2
  | bind | unbind | invalidate | setProtected | flush | finish | cleanup | await | watchTracer =>
      cases operated
      exact trivial
  | _ => cases operated

theorem step_unrefused {session : Session} (sound : session.Sound) (action : Action) :
    (session.step action).1.Unrefused := by
  have stepped := session.step_stepped action
  generalize session.step action = result at stepped
  cases stepped with
  | started => exact trivial
  | stopped =>
      dsimp only
      split <;> exact trivial
  | scripted scripted => exact script_unrefused scripted
  | absent => exact trivial
  | operated occupied operated =>
      obtain ⟨_, rested⟩ := sound.rested occupied
      exact operate_unrefused operated rested
  | requested =>
      cases action <;> exact trivial

/-- After any actions whatsoever, every image that was ever created is accounted for, and an engine
holds exactly the images that are live. Without an engine none is. -/
theorem images_owned_exactly (options : DeviceOptions) (capabilities : Capabilities)
    (order : ReleaseOrder) (actions : List Action) :
    let final := ((Session.new (.new options) capabilities order).run actions).2
    final.device.Accounted ∧ (∀ engine ∈ final.engine?, engine.Possesses) ∧
      (final.engine? = none → final.device.live = []) := by
  intro final
  have sound : final.Sound := run_sound (new_sound options capabilities order) actions
  refine ⟨sound.coherent.accounted, fun engine occupied => ?_, sound.live_eq_nil⟩
  obtain ⟨_, rested⟩ := sound.rested occupied
  exact rested.possesses

/-- After any actions whatsoever, nothing was misused, and whatever a context was handed for
destruction, as a target or for a draw, it had at that moment. No frame fails and no layer is left
out because a context refused an image. -/
theorem handles_never_misused (options : DeviceOptions) (capabilities : Capabilities)
    (order : ReleaseOrder) (actions : List Action) :
    let final := ((Session.new (.new options) capabilities order).run actions).2
    final.device.misuses = [] ∧
      (∀ later mode use handles earlier,
        final.device.events = later ++ .handed mode use handles :: earlier →
          ∀ handle ∈ handles, History.Holds mode handle earlier) ∧
      ∀ outcome ∈ ((Session.new (.new options) capabilities order).run actions).1,
        outcome.Unrefused := by
  intro final
  have sound : final.Sound := run_sound (new_sound options capabilities order) actions
  refine ⟨sound.coherent.misuses_eq, fun later mode use handles earlier split handle member => ?_,
    fun outcome member => ?_⟩
  · have proper := History.always_iff.mp sound.coherent.proper later _ earlier split
    exact (proper handle member).1
  · obtain ⟨before, action, same⟩ := run_outcomes _ actions outcome member
    rw [same]
    exact step_unrefused (run_sound (new_sound options capabilities order) before) action

end Session

end Compositor
