import Compositor.Proofs.Containment
import Compositor.Proofs.Settlement
import Compositor.Proofs.Tickets

/-!
# Taking an engine down

Before an engine goes, the requests that are waiting are applied. Then the device is drained, and
what is left of the images is destroyed, be the device lost or not. So neither an image nor a
submission outlives its engine.
-/

set_option autoImplicit false

namespace Compositor

/-! ## Images -/

/-- The event asks a context to destroy an image with this handle. -/
def DeviceEvent.condemns (handle : ImageHandle) : DeviceEvent → Bool
  | .handed _ .destroy handles => handles.contains handle
  | _ => false

/-- An image was destroyed once, and of all contexts only its own was asked to, once. -/
def LiveImage.DestroyedOnce (image : LiveImage) (events : History) : Prop :=
  events.filter (DeviceEvent.condemns image.handle) =
      [.handed image.mode .destroy [image.handle]] ∧
    (History.destroyed events).count image.handle = 1

namespace History

theorem condemned_iff {handle : ImageHandle} {events : History} :
    Condemned handle events ↔ ∃ event ∈ events, event.condemns handle = true := by
  constructor
  · intro condemned
    obtain ⟨mode, handles, member, inside⟩ := condemned
    exact ⟨_, member, by simpa [DeviceEvent.condemns] using inside⟩
  · intro condemns
    obtain ⟨event, member, same⟩ := condemns
    cases event with
    | handed mode use handles =>
        cases use with
        | destroy => exact ⟨mode, handles, member, by simpa [DeviceEvent.condemns] using same⟩
        | beginFrame | draw => cases same
    | _ => cases same

/-- Whoever was asked to destroy an image is not asked again. -/
theorem condemns_last {handle : ImageHandle} {events later earlier : History} {event : DeviceEvent}
    (proper : Always DeviceEvent.Proper events) (split : events = later ++ event :: earlier)
    (condemns : event.condemns handle = true) :
    events.filter (DeviceEvent.condemns handle) = [event] := by
  have unasked : ∀ (late early : History) (other : DeviceEvent), events = late ++ other :: early →
      other.condemns handle = true → ¬Condemned handle early := by
    intro late early other same asks
    have usable := always_iff.mp proper late other early same
    cases other with
    | handed mode use handles =>
        cases use with
        | destroy => exact (usable handle (by simpa [DeviceEvent.condemns] using asks)).2
        | beginFrame | draw => cases asks
    | _ => cases asks
  have before : earlier.filter (DeviceEvent.condemns handle) = [] := by
    rw [List.filter_eq_nil_iff]
    exact fun other member asks =>
      unasked later earlier event split condemns (condemned_iff.mpr ⟨other, member, asks⟩)
  have after : later.filter (DeviceEvent.condemns handle) = [] := by
    rw [List.filter_eq_nil_iff]
    intro other member asks
    obtain ⟨late, between, rfl⟩ := List.append_of_mem member
    refine unasked late (between ++ event :: earlier) other ?_ asks
      (condemned_iff.mpr ⟨event, by simp, condemns⟩)
    rw [split, List.append_assoc, List.cons_append]
  rw [split, List.filter_append, after, List.nil_append, List.filter_cons_of_pos condemns, before]

end History

theorem Device.Coherent.destroyedOnce {device : Device} (coherent : device.Coherent)
    (prompted : History.Always DeviceEvent.Prompted device.events) {image : LiveImage}
    (created : image ∈ History.created device.events) (live : device.live = []) :
    image.DestroyedOnce device.events := by
  have known := History.mem_created.mp created
  have gone : .destroyed image.handle ∈ device.events := by
    by_contra kept
    have present := (coherent.live_iff image).mpr ⟨known, kept⟩
    rw [live] at present
    cases present
  obtain ⟨later, earlier, split⟩ := List.append_of_mem gone
  obtain ⟨mode, rest, rfl⟩ := History.always_iff.mp prompted later _ earlier split
  have whole : device.events = (later ++ [.destroyed image.handle]) ++
      .handed mode .destroy [image.handle] :: rest := by
    rw [split, List.append_assoc, List.singleton_append]
  have usable := History.always_iff.mp coherent.proper _ _ _ whole image.handle List.mem_cons_self
  have owner : mode = image.mode := by
    obtain ⟨⟨other, otherCreated, same, rfl, -⟩, -⟩ := usable
    have otherKnown : .created other ∈ device.events := by
      rw [whole]
      exact List.mem_append_right _ (List.mem_cons_of_mem _ otherCreated)
    rw [coherent.created_unique otherKnown known same]
  refine ⟨?_, ?_⟩
  · rw [← owner]
    exact History.condemns_last coherent.proper whole (by simp [DeviceEvent.condemns])
  · have distinct := coherent.handles.nodup_iff.mpr device.issuedHandles_nodup
    rw [live, List.map_nil, List.nil_append] at distinct
    exact List.count_eq_one_of_mem distinct (History.mem_destroyed.mpr gone)

/-! ## Fences -/

namespace Device

variable {device : Device}

theorem arrive_pending (idle : device.pending = []) (call : ContextCall) :
    (device.arrive call).pending = [] := by
  unfold arrive
  dsimp only
  split
  · rfl
  · exact idle

theorem destroyImage_pending (idle : device.pending = []) (mode : Mode) (handle : ImageHandle) :
    (device.destroyImage mode handle).pending = [] := by
  have arrived := arrive_pending idle .destroyImage
  unfold destroyImage acceptDestroy release
  split <;> exact arrived

theorem Fenced.finish_pending (fenced : device.Fenced) : device.finish.2.pending = [] := by
  have arrived := (arrive_steps device .finish).fenced fenced
  unfold Device.finish Device.acceptFinish
  split
  · rename_i lost
    exact arrived.idle lost
  · rfl

end Device

namespace Contexts

theorem destroy_pending (contexts : Contexts) {device : Device} (idle : device.pending = [])
    (image : Image) : (contexts.destroy device image).pending = [] := by
  unfold destroy
  split
  · exact Device.destroyImage_pending idle _ _
  · exact idle

theorem destroyAll_pending (contexts : Contexts) (images : List Image) {device : Device}
    (idle : device.pending = []) : (contexts.destroyAll device images).pending = [] := by
  induction images generalizing device with
  | nil => exact idle
  | cons image images ih => exact ih (contexts.destroy_pending idle image)

theorem finishAll_pending (contexts : Contexts) {device : Device} (fenced : device.Fenced) :
    (contexts.finishAll device).2.pending = [] := by
  rcases contexts.finishAll_eq device with same | same
  · rw [same]
    exact fenced.finish_pending
  · rw [same]
    exact ((Device.finish_steps device).fenced fenced).finish_pending

end Contexts

namespace Engine

theorem retire_pending {engine : Engine} (idle : engine.device.pending = [])
    (images : List Image) : (engine.retire images).device.pending = [] := by
  induction images generalizing engine with
  | nil => exact idle
  | cons image images ih =>
      rw [retire_cons]
      refine ih ?_
      simp only [retire, RetireQueue.retireAll, List.foldl_cons, List.foldl_nil,
        RetireQueue.retire]
      split
      · exact engine.contexts.destroy_pending idle image
      · exact idle

theorem teardown_pending {engine : Engine} (fenced : engine.device.Fenced) :
    engine.teardown.pending = [] := by
  have idle : engine.awaited.device.pending = [] := engine.contexts.finishAll_pending fenced
  have emptied : engine.awaited.emptyCaches.device.pending = [] := by
    let emptied : Engine := { engine.awaited with
      textures := engine.awaited.textures.drain.2
      outputs := engine.awaited.outputs.drain.2 }
    have same : emptied.device.pending = [] := idle
    exact retire_pending same _
  exact engine.contexts.destroyAll_pending _ emptied

end Engine

theorem ImageRequests.applyAll_effects {engine : Engine} {recorded : List ImageHandle}
    (rested : Moment.Rested ⟨engine, [], recorded⟩) (waiting : List (Ticket × ImageRequest)) :
    Device.Effects engine.device (applyAll waiting engine).2.device := by
  induction waiting generalizing engine recorded with
  | nil => exact .refl
  | cons entry rest ih =>
      obtain ⟨_, moves, applied⟩ := (entry.2.apply_leads rested).reaches.rested rested
      exact moves.effects.trans (ih applied)

/-- The fence that an operation of an engine gave to its caller. -/
def Outcome.given? : Outcome → Option Fence
  | .frame (.ok output) => some output.fence
  | .flushed (.ok given) => some given
  | _ => none

namespace Session

theorem operate_owes {engine after : Engine} {action : Action} {outcome : Outcome}
    (operated : operate engine action = some (outcome, after)) {recorded : List ImageHandle}
    (rested : Moment.Rested ⟨engine, [], recorded⟩) {fence : Fence}
    (given : outcome.given? = some fence) : after.device.Owes fence := by
  cases action with
  | draw request =>
      obtain ⟨_, _, _, ⟨_, _, reports⟩, -⟩ := Engine.draw_composes rested request
      cases drawn : engine.draw request with
      | mk result last =>
          rw [operate, drawn] at operated
          rw [drawn] at reports
          cases operated
          cases result with
          | error error => cases given
          | ok output =>
              cases given
              exact (reports output rfl).fence
  | flush =>
      cases flushed : engine.flush with
      | mk result last =>
          rw [operate, flushed] at operated
          cases operated
          cases result with
          | error error => cases given
          | ok fence =>
              cases given
              exact Engine.flush_owes flushed
  | bind | unbind | invalidate | setProtected | finish | cleanup | await | watchTracer =>
      cases operated
      cases given
  | _ => cases operated

theorem step_owes {session : Session} (sound : session.Sound) (action : Action) {fence : Fence}
    (given : (session.step action).1.given? = some fence) :
    (session.step action).2.device.Owes fence := by
  have stepped := session.step_stepped action
  generalize session.step action = result at stepped given
  cases stepped with
  | started => cases given
  | stopped =>
      dsimp only at given
      split at given <;> cases given
  | scripted scripted =>
      cases action with
      | createFence | settleFence | signalNext | signalAll | rejectImports | allowImports | lose
      | scheduleLoss =>
          cases scripted
          cases given
      | _ => cases scripted
  | absent => cases given
  | operated occupied operated =>
      obtain ⟨_, rested⟩ := sound.rested occupied
      exact operate_owes operated rested given
  | requested => cases action <;> cases given

/-- A device never forgets a fence that an engine gave. -/
theorem run_owes {session : Session} (sound : session.Sound) (actions : List Action) :
    ∀ outcome ∈ (session.run actions).1, ∀ fence ∈ outcome.given?,
      (session.run actions).2.device.Owes fence := by
  induction actions using List.reverseRecOn with
  | nil =>
      intro outcome member
      cases member
  | append_singleton actions action ih =>
      intro outcome member fence given
      have before := run_sound sound actions
      rw [run, List.foldl_append] at member ⊢
      rcases List.mem_append.mp member with old | new
      · exact (step_effects before action).owes (ih outcome old fence given)
      · rw [List.mem_singleton.mp new] at given
        exact step_owes before action given

/-! ## The end of an engine -/

/-- What is left of an engine once it was taken down. -/
structure LeavesNothing (session : Session) (engine : Engine) (after : Session) : Prop where
  requests : after.requests =
    { session.requests with
      waiting := []
      replies := session.requests.replies ++
        (ImageRequests.applyAll session.requests.waiting engine).1 }
  tenancy : after.tenancy =
    .vacant (ImageRequests.applyAll session.requests.waiting engine).2.teardown
  answered : ∀ entry ∈ session.requests.waiting, ∃ result,
    (entry.1, result) ∈ (ImageRequests.applyAll session.requests.waiting engine).1
  /-- Whoever waits for a request gets the reply to it. -/
  replies : ∀ ticket result,
    (ticket, result) ∈ (ImageRequests.applyAll session.requests.waiting engine).1 →
      (after.requests.collect ticket).1 = result
  live : after.device.live = []
  pending : after.device.pending = []
  images : ∀ image ∈ History.created after.device.events, image.DestroyedOnce after.device.events

theorem stop_served {session : Session} {engine : Engine}
    (occupied : session.engine? = some engine) :
    session.stop.requests =
        { session.requests with
          waiting := []
          replies := session.requests.replies ++
            (ImageRequests.applyAll session.requests.waiting engine).1 } ∧
      session.stop.tenancy =
        .vacant (ImageRequests.applyAll session.requests.waiting engine).2.teardown := by
  rw [stop, tenancy_of_engine? occupied]
  dsimp only
  rw [session.requests.serveAll_eq engine]
  exact ⟨rfl, rfl⟩

/-- Whenever an engine is taken down, the requests that were waiting are applied in order, and
afterwards no image is left, every image there ever was has been destroyed once by its own context,
and every fence that was ever given has settled. -/
theorem engine_leaves_nothing (options : DeviceOptions) (capabilities : Capabilities)
    (order : ReleaseOrder) (actions : List Action) :
    let session := ((Session.new (.new options) capabilities order).run actions).2
    ∀ engine ∈ session.engine?,
      session.LeavesNothing engine session.stop ∧
      ∀ outcome ∈ ((Session.new (.new options) capabilities order).run actions).1,
        ∀ fence ∈ outcome.given?,
          session.stop.device.fences.status fence = .signaled ∨
            session.stop.device.fences.status fence = .error := by
  intro session engine occupied
  have start := new_sound options capabilities order
  have sound : session.Sound := run_sound start actions
  have stopped : session.stop.Sound := step_sound session .stop sound
  have effects : Device.Effects _ session.device := run_effects start actions
  have stopping : Device.Effects session.device session.stop.device := stop_effects sound
  have fenced : session.device.Fenced := effects.fenced (.new options)
  have ticketed : session.stop.requests.Ticketed :=
    stop_ticketed (run_ticketed .empty actions)
  obtain ⟨_, rested⟩ := sound.rested occupied
  have served := stop_served occupied
  have live : session.stop.device.live = [] := stopped.live_eq_nil (by rw [engine?, served.2])
  have pending : session.stop.device.pending = [] := by
    rw [device, served.2]
    refine Engine.teardown_pending ?_
    rw [device_of_engine? occupied] at fenced
    exact (ImageRequests.applyAll_effects rested _).fenced fenced
  refine ⟨⟨served.1, served.2, fun entry waits => ?_, fun ticket result member => ?_, live, pending,
    fun image created => ?_⟩, fun outcome member fence given => ?_⟩
  · have ticket : entry.1 ∈ session.requests.waiting.map Prod.fst := List.mem_map_of_mem waits
    rw [← ImageRequests.applyAll_tickets _ engine] at ticket
    obtain ⟨reply, answers, same⟩ := List.mem_map.mp ticket
    exact ⟨reply.2, same ▸ answers⟩
  · refine ticketed.collect_eq ?_
    rw [served.1]
    exact List.mem_append_right _ member
  · have all : Device.Effects _ session.stop.device := effects.trans stopping
    exact stopped.coherent.destroyedOnce (all.prompted trivial) created live
  · have owes := stopping.owes (run_owes start actions outcome member fence given)
    have settled := owes.status (stopping.fenced fenced) pending
    cases status : session.stop.device.fences.status fence with
    | signaled => exact .inl rfl
    | error => exact .inr rfl
    | pending => exact absurd status settled

/-- A frame is in flight, a request waits, and the device is about to be lost. -/
private def leftInFlight : List Action :=
  [.start ⟨2, false, false, 3000, 3000⟩,
    .draw ⟨.ofSize 64 64, [.ofBuffer (.plain ⟨1⟩ 8 8) (.ofSize 8 8)], .plain ⟨2⟩ 64 64, true, none⟩,
    .submit (.cache (.plain ⟨3⟩ 8 8)), .scheduleLoss .destroyImage 1]

/-- The engine goes while its device is lost, and leaves nothing. -/
theorem engine_leaves_nothing_when_lost :
    let session := ((Session.new (.new ⟨true, true, false, 4096⟩)
      DeviceOptions.standard.capabilities .byArrival).run leftInFlight).2
    ∃ engine ∈ session.engine?,
      session.device.pending.length = 1 ∧ session.requests.waiting.length = 1 ∧
        session.stop.device.lost = true ∧ session.LeavesNothing engine session.stop := by
  intro session
  have busy : session.engine?.isSome = true ∧ session.device.pending.length = 1 ∧
      session.requests.waiting.length = 1 ∧ session.stop.device.lost = true := by decide
  obtain ⟨occupied, pending, waiting, lost⟩ := busy
  obtain ⟨engine, found⟩ := Option.isSome_iff_exists.mp occupied
  exact ⟨engine, found, pending, waiting, lost, (engine_leaves_nothing ⟨true, true, false, 4096⟩
    DeviceOptions.standard.capabilities .byArrival leftInFlight engine found).1⟩

end Session

end Compositor
