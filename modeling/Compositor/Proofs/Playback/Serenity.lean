import Compositor.Proofs.Calm
import Compositor.Proofs.Device.Pending

/-!
# Devices that nobody scripts

A device is lost by whoever scripts it: at once, at a call that was chosen for it, or by a fence that
is a tripwire. Where there is nothing of the kind, and the device signals its fences by itself, frames
and cleanups leave it so.
-/

set_option autoImplicit false

namespace Compositor

namespace Fences.Untrapped

variable {fences : Fences}

theorem create (untrapped : fences.Untrapped) (status : FenceStatus) :
    (fences.create .device status).2.Untrapped := by
  intro fence
  have known := untrapped fence
  unfold isTripwire origin? at known ⊢
  rw [Fences.create, Array.getElem?_push]
  split
  · rfl
  · exact known

theorem settleAll (untrapped : fences.Untrapped) (outcome : FenceStatus) (settled : List Fence) :
    (fences.settleAll outcome settled).Untrapped := by
  intro fence
  rw [isTripwire, settleAll_origin?]
  exact untrapped fence

end Fences.Untrapped

namespace Device

/-- The device is usable, nothing is set up that could lose it, and no fence waits to be told to
signal. -/
structure Serene (device : Device) : Prop where
  usable : device.lost = false
  unscheduled : device.schedule = []
  untrapped : device.fences.Untrapped
  prompt : device.options.autoSignal = true

namespace Serene

variable {device after : Device}

theorem new {options : DeviceOptions} (prompt : options.autoSignal = true) :
    (Device.new options).Serene :=
  ⟨rfl, rfl, Fences.empty_untrapped, prompt⟩

theorem calm (serene : device.Serene) (calm : Calm device after) : after.Serene := by
  have usable := (calm.kept serene.unscheduled serene.untrapped).trans serene.usable
  refine ⟨usable, calm.schedule serene.unscheduled, ?_, ?_⟩
  · rw [calm.fences usable]
    exact serene.untrapped
  · rw [calm.options]
    exact serene.prompt

theorem onFences (serene : device.Serene) {fences : Fences} (untrapped : fences.Untrapped)
    (pending : List Fence) (events : List DeviceEvent) :
    ({ device with fences, pending, events } : Device).Serene :=
  ⟨serene.usable, serene.unscheduled, untrapped, serene.prompt⟩

theorem flush (serene : device.Serene) : device.flush.2.Serene := by
  have arrived := serene.calm (.arrive device .flush)
  have created := arrived.untrapped.create .pending
  unfold Device.flush acceptFlush
  split
  · exact arrived.onFences arrived.untrapped _ _
  · dsimp only
    split
    · exact arrived.onFences (created.settleAll .signaled _) _ _
    · exact arrived.onFences created _ _

theorem finish (serene : device.Serene) :
    device.finish.1 = true ∧ device.finish.2.Serene := by
  have arrived := serene.calm (.arrive device .finish)
  unfold Device.finish acceptFinish
  rw [if_neg (by simp [arrived.usable])]
  exact ⟨rfl, arrived.onFences (arrived.untrapped.settleAll .signaled _) _ _⟩

end Serene

end Device

namespace Strategy

variable {device : Device}

theorem submitDrained_serene (serene : device.Serene) (progress : Progress) (frame : FrameSeq) :
    (submitDrained device progress frame).2.2.Serene := by
  obtain ⟨drained, finished⟩ := serene.finish
  rw [submitDrained_done progress frame drained]
  exact finished.onFences (finished.untrapped.create .signaled) _ _

theorem submit_serene (serene : device.Serene) (strategy : Strategy) (progress : Progress)
    (frame : FrameSeq) : (strategy.submit device progress frame).2.2.Serene := by
  have flushed := serene.flush
  unfold submit
  cases outcome : device.flush with
  | mk fence after =>
      rw [outcome] at flushed
      cases strategy with
      | blockingFinish => exact submitDrained_serene flushed progress frame
      | fenceGated =>
          cases fence with
          | some fence => exact flushed
          | none =>
              have checked := flushed.calm (.checkLost after)
              dsimp only
              cases asked : after.checkLost with
              | mk lost known =>
                  rw [asked] at checked
                  cases lost with
                  | true => exact checked
                  | false => exact submitDrained_serene checked progress frame

theorem cleanup_serene (serene : device.Serene) (strategy : Strategy) (progress : Progress) :
    (strategy.cleanup device progress).2.2.Serene := by
  have cleaned := strategy.cleanup_cleaned device progress
  generalize strategy.cleanup device progress = result at cleaned
  cases cleaned with
  | polled | kept => exact serene
  | drained _ finished | failed _ finished =>
      have after := serene.finish.2
      rw [finished] at after
      exact after

end Strategy

namespace Engine

variable {engine : Engine}

theorem submit_serene (serene : engine.device.Serene) (frame : FrameSeq) :
    (engine.submit frame).2.device.Serene := by
  have submitted := engine.strategy.submit_serene serene engine.progress frame
  unfold submit
  cases outcome : engine.strategy.submit engine.device engine.progress frame with
  | mk result rest =>
      rw [outcome] at submitted
      cases result <;> exact submitted

theorem cleanup_serene (serene : engine.device.Serene) : engine.cleanup.2.device.Serene := by
  have cleaned := engine.strategy.cleanup_serene serene engine.progress
  unfold cleanup
  cases outcome : engine.strategy.cleanup engine.device engine.progress with
  | mk result rest =>
      obtain ⟨progress, device⟩ := rest
      rw [outcome] at cleaned
      cases result <;> exact cleaned.calm (collect_calm { engine with progress, device })

theorem switchTo_serene (serene : engine.device.Serene) (mode : Mode) :
    (engine.switchTo mode).device.Serene := by
  obtain ⟨drained, finished⟩ := serene.finish
  unfold switchTo
  split
  · exact serene
  · cases outcome : engine.device.finish with
    | mk usable device =>
        rw [outcome] at drained finished
        cases drained
        let idle : Engine := { engine with device, progress := engine.progress.markIdle }
        exact finished.calm (idle.emptyCaches_calm.trans (collect_calm idle.emptyCaches))

theorem dropFrame_serene (serene : engine.device.Serene) (error : EngineError) :
    (engine.dropFrame error).2.device.Serene := by
  unfold dropFrame noteFailure
  split <;> exact serene

theorem render_serene (serene : engine.device.Serene) (request : FrameRequest) (frame : FrameSeq)
    (plan : FramePlan) (slot : OutputSlot) :
    (engine.render request frame plan slot).2.device.Serene := by
  have recorded := serene.calm (Recording.ofDraws_calm engine.device engine.contexts.current
    slot.handle request.display plan.draws)
  unfold render
  cases outcome : Recording.ofDraws engine.device engine.contexts.current slot.handle
      request.display plan.draws with
  | error failure =>
      obtain ⟨error, device⟩ := failure
      rw [outcome] at recorded
      have dropped := @dropFrame_serene { engine with device } recorded error
      exact dropped.calm (retire_calm _ slot.owned)
  | ok recording =>
      rw [outcome] at recorded
      let drawn : Engine := { engine with device := recording.device }
      have retired : (drawn.retire slot.owned).device.Serene :=
        recorded.calm (drawn.retire_calm slot.owned)
      have submitted := submit_serene retired frame
      dsimp only
      cases final : (drawn.retire slot.owned).submit frame with
      | mk result after =>
          rw [final] at submitted
          cases result <;> exact submitted

theorem compose_serene (serene : engine.device.Serene) (request : FrameRequest) :
    (engine.compose request).2.device.Serene := by
  have looked := FramePlan.looks_calm engine.begun.progress.lastIssued request.layers.zipIdx
    (.start engine.begun)
  have start : (FramePlan.start engine.begun).engine.device.Serene := serene
  rw [← FramePlan.lookAll.eq_1] at looked
  have planned := start.calm looked
  rw [compose_eq]
  cases outcome : FramePlan.lookAll engine.begun engine.begun.progress.lastIssued
      request.layers with
  | error after =>
      rw [outcome] at planned
      exact dropFrame_serene planned .contextLost
  | ok plan =>
      rw [outcome] at planned
      have targeted := planned.calm ((plan.engine.evicted_calm plan.active).trans
        (targetFor_calm _ request.target engine.begun.progress.lastIssued request.usesOutputCache))
      dsimp only
      unfold finishFrame
      cases given : (plan.engine.evicted plan.active).targetFor request.target
          engine.begun.progress.lastIssued request.usesOutputCache with
      | mk answer after =>
          rw [given] at targeted
          cases answer with
          | error error => exact dropFrame_serene targeted error
          | ok slot => exact render_serene targeted request _ plan slot

/-- A frame loses no device that nothing can lose. -/
theorem draw_serene (serene : engine.device.Serene) (request : FrameRequest) :
    (engine.draw request).2.device.Serene := by
  have waited := serene.calm (engine.awaitAny_calm request.inputFence)
  unfold draw
  split
  · exact serene
  · cases outcome : engine.awaitAny request.inputFence with
    | mk signaled after =>
        rw [outcome] at waited
        cases signaled with
        | false => exact waited
        | true =>
            have switched := switchTo_serene waited request.mode
            dsimp only
            split
            · exact switched
            · split
              · exact switched
              · exact compose_serene switched request

end Engine

end Compositor
