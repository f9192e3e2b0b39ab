import Compositor.Proofs.Account.Frame
import Compositor.Proofs.Promises

/-!
# What a submission covers

Draws wait at the device until a flush submits them. While the device is usable, no operation leaves
any behind: a frame flushes what it drew, or it drew nothing. So a finished frame submits its own
draws and no others, whatever became of the frames before it.
-/

set_option autoImplicit false

namespace Compositor

variable {engine after : Engine}

/-! ## Draws that wait -/

namespace History

/-- The draws that no flush has submitted, the latest one first. -/
def undelivered : History → List DrawRecord
  | [] => []
  | event :: earlier =>
    if event.isFlush then [] else event.draw?.toList ++ undelivered earlier

theorem undelivered_append {added events : History}
    (unflushed : ∀ event ∈ added, event.isFlush = false) :
    undelivered (added ++ events) =
      added.filterMap DeviceEvent.draw? ++ undelivered events := by
  induction added with
  | nil => rfl
  | cons event added ih =>
      have rest := ih fun event member => unflushed event (List.mem_cons_of_mem _ member)
      rw [List.cons_append, undelivered, unflushed event List.mem_cons_self, rest]
      cases drawn : event.draw? with
      | none => rw [List.filterMap_cons_none drawn]; rfl
      | some record => rw [List.filterMap_cons_some drawn]; rfl

/-- Without new draws, no draws come to wait. -/
theorem undelivered_drawless {added events : History}
    (drawless : added.filterMap DeviceEvent.draw? = []) (nothing : undelivered events = []) :
    undelivered (added ++ events) = [] := by
  induction added with
  | nil => exact nothing
  | cons event added ih =>
      have none_ := List.filterMap_eq_nil_iff.mp drawless
      have rest := ih (List.filterMap_eq_nil_iff.mpr fun event member =>
        none_ event (List.mem_cons_of_mem _ member))
      rw [List.cons_append, undelivered, none_ event List.mem_cons_self, rest]
      split <;> rfl

end History

namespace Device

variable {before middle after : Device}

/-- As long as the device is usable, no draw waits. -/
def Delivered (device : Device) : Prop :=
  device.lost = false → History.undelivered device.events = []

theorem Plain.delivered (plain : Plain before after) (delivered : before.Delivered) :
    after.Delivered := by
  intro usable
  obtain ⟨added, events, unproductive⟩ := plain.events
  rw [events]
  exact History.undelivered_drawless (Plain.drawless unproductive)
    (delivered (plain.usable usable))

theorem Dealings.delivered {limit : UInt32} {mode : Mode}
    (dealings : Dealings limit mode before 0 after) (delivered : before.Delivered) :
    after.Delivered := by
  intro usable
  obtain ⟨added, events, count, -⟩ := dealings.drawsIn
  rw [events]
  exact History.undelivered_drawless (List.length_eq_zero_iff.mp count)
    (delivered (dealings.usable usable))

theorem Meddled.delivered (meddled : before.Meddled after) (delivered : before.Delivered) :
    after.Delivered := by
  cases meddled with
  | release mode handle => exact (Plain.release before mode handle).delivered delivered
  | step step =>
      intro usable
      have extension := step.extends
      have usableBefore : before.lost = false := by
        by_contra lost
        exact absurd ((extension.lost (by simpa using lost)).symm.trans usable) (by simp)
      obtain ⟨added, events, inert⟩ := extension.events
      rw [events]
      refine History.undelivered_drawless ?_ (delivered usableBefore)
      exact List.filterMap_eq_nil_iff.mpr fun event member =>
        DeviceEvent.draw?_of_isInert (inert event member).1

/-- Calls between submissions submit nothing, so what they draw comes to wait. -/
theorem Calls.undelivered (calls : Calls before after)
    (nothing : History.undelivered before.events = []) :
    after.draws = before.draws ++ (History.undelivered after.events).reverse := by
  obtain ⟨added, events⟩ := calls.effects.events
  have counted := calls.calm.flushes
  rw [flushes, flushes, events, List.countP_append] at counted
  have unflushed : ∀ event ∈ added, event.isFlush = false := by
    intro event member
    have none_ : added.countP DeviceEvent.isFlush = 0 := by omega
    simpa using List.countP_eq_zero.mp none_ event member
  rw [draws_eq, draws_eq, events, List.filterMap_append, List.reverse_append,
    History.undelivered_append unflushed, nothing, List.append_nil]

/-! ## Flushes -/

/-- A flush gave `given`, and the events `since` came after it. -/
structure Flushed (before : Device) (given : Option Fence) (since : History) (after : Device) :
    Prop where
  events : ∃ arrived : History, after.events = since ++ .flushed given :: (arrived ++ before.events) ∧
    ∀ event ∈ arrived, event.isInert = true ∧ event.isFlush = false
  since : ∀ event ∈ since, event.isInert = true ∧ event.isFlush = false

theorem flush_flushed (device : Device) :
    ∃ since, device.Flushed device.flush.1 since device.flush.2 := by
  obtain ⟨arrived, arrives, quiet⟩ := (device.arrive_steps .flush).extends.events
  obtain ⟨since, events, inert⟩ := (acceptFlush_flushes (device.arrive .flush)).events
  refine ⟨since, ⟨arrived, ?_, quiet⟩, inert⟩
  rw [← arrives]
  exact events

namespace Flushed

variable {given : Option Fence} {since : History}

theorem extend (flushed : before.Flushed given since middle) (extension : Extends middle after) :
    ∃ later, before.Flushed given later after := by
  obtain ⟨arrived, events, quiet⟩ := flushed.events
  obtain ⟨added, told, inert⟩ := extension.events
  refine ⟨added ++ since, ⟨arrived, ?_, quiet⟩, fun event member => ?_⟩
  · rw [told, events, List.append_assoc]
  · rcases List.mem_append.mp member with late | early
    · exact inert event late
    · exact flushed.since event early

/-- A device that was drained after its latest flush says so. -/
theorem finished (flushed : before.Flushed given since after)
    (drained : History.Drained after.events) : .finished true ∈ since := by
  obtain ⟨arrived, events, -⟩ := flushed.events
  have quiet := flushed.since
  rw [events] at drained
  clear events flushed
  induction since with
  | nil =>
      rcases drained with finished | ⟨unflushed, -⟩
      · cases finished
      · cases unflushed
  | cons event since ih =>
      rcases drained with rfl | ⟨-, rest⟩
      · exact List.mem_cons_self
      · exact List.mem_cons_of_mem _
          (ih rest fun event member => quiet event (List.mem_cons_of_mem _ member))

/-- What waited was submitted by the flush. -/
theorem covers (flushed : before.Flushed given since after) : ∃ earlier,
    after.events = since ++ .flushed given :: earlier ∧
      History.undelivered earlier = History.undelivered before.events := by
  obtain ⟨arrived, events, quiet⟩ := flushed.events
  refine ⟨_, events, ?_⟩
  have drawless : arrived.filterMap DeviceEvent.draw? = [] :=
    List.filterMap_eq_nil_iff.mpr fun event member =>
      DeviceEvent.draw?_of_isInert (quiet event member).1
  rw [History.undelivered_append fun event member => (quiet event member).2, drawless,
    List.nil_append]

theorem delivered (flushed : before.Flushed given since after) : after.Delivered := by
  intro _
  obtain ⟨earlier, events, -⟩ := flushed.covers
  rw [events]
  refine History.undelivered_drawless ?_ rfl
  exact List.filterMap_eq_nil_iff.mpr fun event member =>
    DeviceEvent.draw?_of_isInert (flushed.since event member).1

end Flushed

/-- A submission flushed, and the fence that it gave, if any, is the one of the flush, or everything
had completed when it was given. -/
def Delivers (before : Device) (result : Except EngineError Fence) (after : Device) : Prop :=
  ∃ given since, before.Flushed given since after ∧ ∀ fence, result = .ok fence →
    given = some fence ∨ (.finished true ∈ since ∧ after.fences.isSignaled fence = true)

end Device

namespace Strategy

theorem submitDrained_delivers {before device : Device} {given : Option Fence} {since : History}
    (flushed : before.Flushed given since device) (progress : Progress) (frame : FrameSeq) :
    before.Delivers (submitDrained device progress frame).1
      (submitDrained device progress frame).2.2 := by
  obtain ⟨later, finished⟩ := flushed.extend device.finish_steps.extends
  cases drained : device.finish.1 with
  | false =>
      rw [submitDrained_failed progress frame drained]
      exact ⟨given, later, finished, nofun⟩
  | true =>
      rw [submitDrained_done progress frame drained]
      refine ⟨given, later, ⟨finished.events, finished.since⟩, fun fence same => ?_⟩
      cases same
      refine .inr ⟨finished.finished (Device.finish_drained drained), ?_⟩
      simp [Fences.isSignaled, Fences.status, Fences.create, Device.nextFence]

theorem submit_delivers (strategy : Strategy) (device : Device) (progress : Progress)
    (frame : FrameSeq) :
    device.Delivers (strategy.submit device progress frame).1
      (strategy.submit device progress frame).2.2 := by
  obtain ⟨since, flushed⟩ := device.flush_flushed
  unfold submit
  cases outcome : device.flush with
  | mk given after =>
      rw [outcome] at flushed
      cases strategy with
      | blockingFinish => exact submitDrained_delivers flushed progress frame
      | fenceGated =>
          cases given with
          | some fence =>
              exact ⟨some fence, since, flushed, fun other same => .inl (by cases same; rfl)⟩
          | none =>
              obtain ⟨later, checked⟩ := flushed.extend after.checkLost_steps.extends
              dsimp only
              cases asked : after.checkLost with
              | mk lost known =>
                  rw [asked] at checked
                  cases lost with
                  | true => exact ⟨none, later, checked, nofun⟩
                  | false => exact submitDrained_delivers checked progress frame

end Strategy

/-! ## Operations -/

namespace Engine

theorem submit_delivers (engine : Engine) (frame : FrameSeq) :
    engine.device.Delivers (engine.submit frame).1 (engine.submit frame).2.device := by
  have submitted := engine.strategy.submit_delivers engine.device engine.progress frame
  unfold submit
  cases outcome : engine.strategy.submit engine.device engine.progress frame with
  | mk result rest =>
      rw [outcome] at submitted
      cases result <;> exact submitted

theorem submit_delivered (engine : Engine) (frame : FrameSeq) :
    (engine.submit frame).2.device.Delivered := by
  obtain ⟨_, _, flushed, -⟩ := engine.submit_delivers frame
  exact flushed.delivered

theorem flush_delivered (delivered : engine.device.Delivered) :
    engine.flush.2.device.Delivered := by
  unfold flush
  split
  · exact delivered
  · exact submit_delivered _ _

theorem Deals.delivered (deals : Deals engine 0 after) (delivered : engine.device.Delivered) :
    after.device.Delivered := deals.dealings.delivered delivered

end Engine

/-- A recording that ends early lost the device, or it was refused its target. -/
theorem Recording.ofDraws_error {device after : Device} {mode : Mode} {target : ImageHandle}
    {display : Display} {draws : List PlannedDraw} {error : EngineError}
    (failed : ofDraws device mode target display draws = .error (error, after)) :
    after.lost = true ∨ Device.Plain device after := by
  have begun := Device.Plain.beginFrame device mode target display
  unfold ofDraws at failed
  cases outcome : device.beginFrame mode target display with
  | mk result first =>
      rw [outcome] at failed begun
      cases result with
      | error cause =>
          cases failed
          exact .inr begun
      | ok =>
          exact .inl (adds_failed failed).2

namespace Engine

/-- Recording either ends in a flush or drew nothing. -/
theorem render_delivered (delivered : engine.device.Delivered) (request : FrameRequest)
    (frame : FrameSeq) (plan : FramePlan) (slot : OutputSlot) :
    (engine.render request frame plan slot).2.device.Delivered := by
  unfold render
  cases outcome : Recording.ofDraws engine.device engine.contexts.current slot.handle
      request.display plan.draws with
  | error failure =>
      obtain ⟨error, device⟩ := failure
      let failed : Engine := { engine with device }
      have dropped := (Deals.dropFrame failed error).trans (.retire _ slot.owned)
      rcases Recording.ofDraws_error outcome with lost | plain
      · intro usable
        have kept : device.lost = false := dropped.usable usable
        exact absurd (lost.symm.trans kept) (by simp)
      · have recorded : failed.device.Delivered := plain.delivered delivered
        exact dropped.delivered recorded
  | ok recording =>
      let ready := { engine with device := recording.device }.retire slot.owned
      have submitted := ready.submit_delivered frame
      dsimp only
      cases final : ready.submit frame with
      | mk result after =>
          rw [final] at submitted
          cases result <;> exact submitted

theorem compose_delivered (delivered : engine.device.Delivered) (request : FrameRequest) :
    (engine.compose request).2.device.Delivered := by
  have begun : engine.begun.device.Delivered := delivered
  have looked := FramePlan.looks_deal engine.begun.progress.lastIssued request.layers.zipIdx
    (.start engine.begun)
  rw [← FramePlan.lookAll.eq_1] at looked
  rw [compose_eq]
  cases planned : FramePlan.lookAll engine.begun engine.begun.progress.lastIssued
      request.layers with
  | error last =>
      rw [planned] at looked
      exact (looked.trans (.dropFrame last .contextLost)).delivered begun
  | ok plan =>
      rw [planned] at looked
      have targeting := looked.trans ((Deals.evicted plan.engine plan.active).trans
        (.targetFor _ request.target engine.begun.progress.lastIssued request.usesOutputCache))
      dsimp only
      unfold finishFrame
      cases given : (plan.engine.evicted plan.active).targetFor request.target
          engine.begun.progress.lastIssued request.usesOutputCache with
      | mk answer targeted =>
          rw [given] at targeting
          cases answer with
          | error error => exact (targeting.trans (.dropFrame targeted error)).delivered begun
          | ok slot => exact render_delivered (targeting.delivered begun) request _ plan slot

theorem draw_delivered (delivered : engine.device.Delivered) (request : FrameRequest) :
    (engine.draw request).2.device.Delivered := by
  have waiting := (engine.awaitAny_plain request.inputFence).delivered delivered
  unfold draw
  split
  · exact delivered
  · cases outcome : engine.awaitAny request.inputFence with
    | mk signaled waited =>
        rw [outcome] at waiting
        have switched := (waited.switchTo_plain request.mode).delivered waiting
        cases signaled with
        | false => exact waiting
        | true =>
            dsimp only
            split
            · exact switched
            · split
              · exact switched
              · exact compose_delivered switched request

theorem operate_delivered {action : Action} {result : Outcome × Engine}
    (delivered : engine.device.Delivered)
    (operated : Session.operate engine action = some result) : result.2.device.Delivered := by
  cases action with
  | draw request =>
      cases operated
      exact draw_delivered delivered request
  | bind buffer =>
      cases operated
      exact (Deals.bind engine buffer).delivered delivered
  | unbind buffer =>
      cases operated
      exact (engine.unbind_plain buffer).delivered delivered
  | invalidate buffer =>
      cases operated
      exact (engine.invalidate_plain buffer).delivered delivered
  | setProtected wantsSecure =>
      cases operated
      exact (engine.switchTo_plain _).delivered delivered
  | flush =>
      cases operated
      exact flush_delivered delivered
  | finish =>
      cases operated
      exact engine.finish_plain.delivered delivered
  | cleanup =>
      cases operated
      exact engine.cleanup_plain.delivered delivered
  | await fence =>
      cases operated
      exact (Device.Plain.await engine.device fence).delivered delivered
  | watchTracer elapsed =>
      cases operated
      exact delivered
  | _ => cases operated

end Engine

/-- No operation leaves draws behind. -/
theorem Device.delivered_lasting : Lasting Delivered where
  meddled := fun delivered meddled => meddled.delivered delivered
  operated := fun delivered operated => Engine.operate_delivered delivered operated
  torn := fun delivered => (Engine.teardown_plain _).delivered delivered

/-! ## Finished frames -/

namespace Engine

variable {request : FrameRequest} {output : FrameOutput}

/-- What a finished frame drew into `target` was submitted at once by the flush that gave `given`,
which nothing but a wait or the end of other images followed. The fence of the frame is the one of
the flush, or everything had completed when it was given. -/
structure Covers (engine : Engine) (request : FrameRequest) (output : FrameOutput) (after : Engine)
    (target : ImageHandle) (given : Option Fence) (since earlier : History) : Prop where
  events : after.device.events = since ++ .flushed given :: earlier
  last : ∀ event ∈ since, event.isFlush = false ∧ event.draw? = none
  draws : (History.undelivered earlier).reverse =
    (Layer.tally (fun earlier _ layer =>
      ((engine.ready request).layerFate after earlier layer).source?) request.layers).map
      (⟨output.status.mode, target, ·⟩)
  fence : given = some output.fence ∨
    (.finished true ∈ since ∧ after.device.fences.isSignaled output.fence = true)

/-- What a composed frame submits is what it drew. -/
theorem Composition.submitted (composed : engine.Composition request output after)
    (delivered : engine.device.Delivered) : ∃ given since earlier,
      after.device.events = since ++ .flushed given :: earlier ∧
      (∀ event ∈ since, event.isFlush = false ∧ event.draw? = none) ∧
      after.device.draws = engine.device.draws ++ (History.undelivered earlier).reverse ∧
      (given = some output.fence ∨
        (.finished true ∈ since ∧ after.device.fences.isSignaled output.fence = true)) := by
  cases composed with
  | @staged plan slot targeted submitted recording fence planned given recorded final =>
      have leaves := leaves_of_stages given recorded final
      have looking := FramePlan.looks_deal engine.begun.progress.lastIssued request.layers.zipIdx
        (.start engine.begun)
      rw [← FramePlan.lookAll.eq_1, planned] at looking
      have targeting := looking.trans leaves.targeting
      have start : engine.begun.device.Delivered := delivered
      have nothing := targeting.delivered start leaves.targetUsable
      have recordingCalls := Recording.ofDraws_calls targeted.device targeted.contexts.current
        slot.handle request.display plan.draws
      rw [recorded] at recordingCalls
      let ready := { targeted with device := recording.device }.retire slot.owned
      have calls : Device.Calls targeted.device ready.device :=
        recordingCalls.trans (retire_calls { targeted with device := recording.device } slot.owned)
      have waits := calls.undelivered nothing
      obtain ⟨flushed, since, conveys, fenced⟩ :=
        ready.submit_delivers engine.begun.progress.lastIssued
      have submitting := ready.submit_plain engine.begun.progress.lastIssued
      rw [final] at conveys fenced submitting
      obtain ⟨earlier, events, same⟩ := conveys.covers
      refine ⟨flushed, since, earlier, events, fun event member => ?_, ?_, fenced fence rfl⟩
      · obtain ⟨inert, unflushed⟩ := conveys.since event member
        exact ⟨unflushed, DeviceEvent.draw?_of_isInert inert⟩
      · rw [same]
        refine submitting.draws.trans (waits.trans ?_)
        rw [targeting.dealings.draws]
        rfl

/-- A finished frame submits what its own layers drew, and nothing else. -/
theorem draw_covers (orderly : engine.Orderly) (delivered : engine.device.Delivered)
    (finished : engine.draw request = (.ok output, after)) :
    ∃ target given since earlier, engine.Covers request output after target given since earlier := by
  obtain ⟨-, -, -, composed⟩ := draw_composition finished
  have plain := engine.ready_plain request
  obtain ⟨given, since, earlier, events, last, draws, fence⟩ :=
    composed.submitted (plain.delivered delivered)
  obtain ⟨target, told, -⟩ := (draw_account orderly finished).drawn
  rw [plain.draws, told] at draws
  exact ⟨target, given, since, earlier, events, last, (List.append_cancel_left draws).symm, fence⟩

end Engine

end Compositor
