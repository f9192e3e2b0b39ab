import Compositor.Proofs.Endings
import Compositor.Proofs.Possession
import Mathlib.Data.List.TakeWhile

/-!
# What a lost engine does

An engine that is marked as lost neither makes images nor draws nor submits any more. It refuses
whatever would, and all that is left to do is to release images. Where it asks its fences, it takes
every submission for complete except the one that it was recording when the device was lost.
-/

set_option autoImplicit false

namespace Compositor

variable {engine : Engine} {hand : List Image} {recorded : List ImageHandle}

/-! ## Devices -/

namespace Device

/-- Nothing was made, drawn or flushed in between. -/
structure Wanes (before after : Device) : Prop where
  issued : after.issued = before.issued
  draws : after.draws = before.draws
  flushes : after.flushes = before.flushes

namespace Wanes

theorem refl (device : Device) : Wanes device device := ⟨rfl, rfl, rfl⟩

theorem trans {first second third : Device} (left : Wanes first second)
    (right : Wanes second third) : Wanes first third :=
  ⟨right.issued.trans left.issued, right.draws.trans left.draws,
    right.flushes.trans left.flushes⟩

theorem of_events {before after : Device} (issued : after.issued = before.issued)
    (added : History) (events : after.events = added ++ before.events)
    (barren : ∀ event ∈ added, event.draw? = none ∧ event.isFlush = false) :
    Wanes before after := by
  have undrawn : added.filterMap DeviceEvent.draw? = [] :=
    List.filterMap_eq_nil_iff.mpr fun event member => (barren event member).1
  have unflushed : added.countP DeviceEvent.isFlush = 0 :=
    List.countP_eq_zero.mpr fun event member => by simp [(barren event member).2]
  refine ⟨issued, ?_, ?_⟩
  · rw [draws_eq, draws_eq, events, List.filterMap_append, undrawn, List.nil_append]
  · unfold Device.flushes
    rw [events, List.countP_append, unflushed, Nat.zero_add]

theorem ofSteps {before after : Device} (steps : Steps before after) : Wanes before after := by
  have extension := steps.extends
  obtain ⟨added, events, inert⟩ := extension.events
  refine of_events extension.issued added events fun event member => ⟨?_, (inert event member).2⟩
  have quiet := (inert event member).1
  cases event <;> first | rfl | cases quiet

theorem acceptDestroy (device : Device) (mode : Mode) (handle : ImageHandle) :
    Wanes device (device.acceptDestroy mode handle) := by
  unfold Device.acceptDestroy release
  split
  · exact of_events rfl [.misused _, .handed mode .destroy [handle]] rfl
      (by simp [DeviceEvent.draw?, DeviceEvent.isFlush])
  · exact of_events rfl [.destroyed handle, .handed mode .destroy [handle]] rfl
      (by simp [DeviceEvent.draw?, DeviceEvent.isFlush])

end Wanes

end Device

namespace Contexts

theorem destroy_wanes (contexts : Contexts) (device : Device) (image : Image) :
    Device.Wanes device (contexts.destroy device image) := by
  unfold destroy
  split
  · exact (Device.Wanes.ofSteps (Device.arrive_steps device .destroyImage)).trans
      (.acceptDestroy _ _ _)
  · exact .refl device

theorem destroyAll_wanes (contexts : Contexts) (images : List Image) (device : Device) :
    Device.Wanes device (contexts.destroyAll device images) := by
  induction images generalizing device with
  | nil => exact .refl device
  | cons image images ih => exact (contexts.destroy_wanes device image).trans (ih _)

end Contexts

/-! ## Lost engines -/

namespace Engine

theorem retire_wanes (engine : Engine) (images : List Image) :
    Device.Wanes engine.device (engine.retire images).device := by
  induction images generalizing engine with
  | nil => exact .refl engine.device
  | cons image images ih =>
      have first : Device.Wanes engine.device (engine.retire [image]).device := by
        simp only [retire, RetireQueue.retireAll, List.foldl_cons, List.foldl_nil,
          RetireQueue.retire]
        split
        · exact engine.contexts.destroy_wanes engine.device image
        · exact .refl engine.device
      rw [retire_cons]
      exact first.trans (ih (engine.retire [image]))

/-- What becomes of a lost engine: it stays lost, and all that changes is what it still holds. -/
structure Spent (engine after : Engine) : Prop where
  lost : after.lost = true
  active : after.contexts.active = engine.contexts.active
  issued : after.progress.lastIssued = engine.progress.lastIssued
  drawn : after.framesDrawn = engine.framesDrawn
  device : Device.Wanes engine.device after.device
  textures : after.textures.entries.Sublist engine.textures.entries
  outputs : after.outputs.entries.Sublist engine.outputs.entries

namespace Spent

theorem refl (lost : engine.lost = true) : Spent engine engine :=
  ⟨lost, rfl, rfl, rfl, .refl _, List.Sublist.refl _, List.Sublist.refl _⟩

theorem trans {first second third : Engine} (left : Spent first second)
    (right : Spent second third) : Spent first third :=
  ⟨right.lost, right.active.trans left.active, right.issued.trans left.issued,
    right.drawn.trans left.drawn, left.device.trans right.device,
    right.textures.trans left.textures, right.outputs.trans left.outputs⟩

theorem onDevice (lost : engine.lost = true) {device : Device}
    (wanes : Device.Wanes engine.device device) : Spent engine { engine with device } :=
  ⟨lost, rfl, rfl, rfl, wanes, List.Sublist.refl _, List.Sublist.refl _⟩

theorem unbind (lost : engine.lost = true) (buffer : BufferId) :
    Spent engine (engine.unbind buffer) :=
  ⟨lost, rfl, rfl, rfl,
    retire_wanes { engine.poll with textures := (engine.poll.textures.unbind buffer).2 } _,
    engine.textures.unbind_sublist buffer, List.Sublist.refl _⟩

theorem invalidate (lost : engine.lost = true) (buffer : BufferId) :
    Spent engine (engine.invalidate buffer) :=
  ⟨lost, rfl, rfl, rfl,
    retire_wanes { engine.poll with outputs := (engine.poll.outputs.invalidate buffer).2 } _,
    List.Sublist.refl _, engine.outputs.invalidate_sublist buffer⟩

theorem cleanup (lost : engine.lost = true) : Spent engine engine.cleanup.2 := by
  have cleaned := engine.strategy.cleanup_cleaned engine.device engine.progress
  have finished : ∀ {drained : Bool} {after : Device}, engine.device.finish = (drained, after) →
      Device.Wanes engine.device after := by
    intro drained after outcome
    have steps := Device.finish_steps engine.device
    rw [outcome] at steps
    exact .ofSteps steps
  unfold Engine.cleanup
  generalize engine.strategy.cleanup engine.device engine.progress = result at cleaned
  cases cleaned with
  | polled | kept =>
      exact ⟨lost, rfl, rfl, rfl, engine.contexts.destroyAll_wanes _ _, List.Sublist.refl _,
        List.Sublist.refl _⟩
  | drained _ outcome =>
      exact ⟨lost, rfl, rfl, rfl, (finished outcome).trans (engine.contexts.destroyAll_wanes _ _),
        List.Sublist.refl _, List.Sublist.refl _⟩
  | failed _ outcome =>
      exact ⟨rfl, rfl, rfl, rfl, (finished outcome).trans (engine.contexts.destroyAll_wanes _ _),
        List.Sublist.refl _, List.Sublist.refl _⟩

end Spent

/-- The engine turns down whatever needs its device, and changes nothing. -/
structure Refuses (engine : Engine) : Prop where
  draw : ∀ request, engine.draw request = (.error .contextLost, engine)
  bind : ∀ buffer, engine.bind buffer = (.error .contextLost, engine)
  flush : engine.flush = (.error .contextLost, engine)
  finish : engine.finish = (false, engine)
  setProtected : ∀ wantsSecure,
    engine.setProtected wantsSecure = (engine.contexts.active.isSecure, engine)

theorem refuses (lost : engine.lost = true) : engine.Refuses where
  draw := fun request => by simp [draw, lost]
  bind := fun buffer => by simp [bind, lost]
  flush := by simp [flush, lost]
  finish := by simp [finish, lost]
  setProtected := fun wantsSecure => by simp [setProtected, switchTo, lost]

end Engine

/-! ## Releasing images -/

namespace Progress

variable {progress : Progress} {fences : Fences}

/-- Once every fence has its answer, nothing is unfinished but what is being recorded. -/
theorem poll_completes (bounded : progress.Bounded)
    (answered : ∀ entry ∈ progress.inFlight, fences.isPending entry.2 = false) {last : FrameSeq}
    (used : last ≤ progress.lastIssued) :
    last ≤ (progress.poll fences).completed ∨ progress.recording = some last := by
  have raised : progress.poll fences =
      ({ progress with inFlight := [] } : Progress).refresh := by
    rw [poll, List.dropWhile_eq_nil_iff.mpr]
    exact fun entry member => by simp [answered entry member]
  rw [raised]
  have mark := Nat.le_max_right progress.completed
    ({ progress with inFlight := [] } : Progress).watermark
  cases recording : progress.recording with
  | none =>
      have top : ({ progress with inFlight := [] } : Progress).watermark = progress.lastIssued := by
        simp [watermark, recording]
      rw [top] at mark
      refine .inl (Nat.le_trans used ?_)
      simp only [refresh]
      exact mark
  | some frame =>
      have latest := bounded.recording frame recording
      have top : ({ progress with inFlight := [] } : Progress).watermark = frame - 1 := by
        simp [watermark, recording]
      rw [top] at mark
      rcases Nat.lt_or_ge last frame with earlier | final
      · refine .inl (Nat.le_trans (Nat.le_sub_one_of_lt earlier) ?_)
        simp only [refresh]
        exact mark
      · exact .inr (congrArg some (Nat.le_antisymm final (latest ▸ used)))

end Progress

namespace Engine

/-- An image that was given up was destroyed, or the device is not known to be done with it. -/
def GaveUp (after : Engine) (image : Image) : Prop :=
  .destroyed image.handle ∈ after.device.events ∨
    (image ∈ after.retired.parked ∧ after.progress.isComplete image.lastUsed = false)

/-- An image that was given up was destroyed, unless its latest use is the submission that was being
recorded when the device was lost. -/
def Released (after : Engine) (image : Image) : Prop :=
  .destroyed image.handle ∈ after.device.events ∨
    (image ∈ after.retired.parked ∧ ∃ last ∈ image.lastUsed, after.progress.recording = some last)

/-- Every submission that the engine takes for unfinished has its answer. -/
def Answered (engine : Engine) : Prop :=
  ∀ entry ∈ engine.progress.inFlight, engine.device.fences.isPending entry.2 = false

theorem GaveUp.released {after : Engine} {image : Image} (gaveUp : after.GaveUp image)
    (known : ∀ last ∈ image.lastUsed,
      last ≤ after.progress.completed ∨ after.progress.recording = some last) :
    after.Released image := by
  refine gaveUp.imp_right fun waits => ⟨waits.1, ?_⟩
  cases used : image.lastUsed with
  | none => simp [used, Progress.isComplete] at waits
  | some last =>
      refine ⟨last, rfl, (known last used).resolve_left ?_⟩
      simpa [used, Progress.isComplete] using waits.2

section Releasing

variable (rested : Moment.Rested ⟨engine, [], recorded⟩) (lost : engine.lost = true)
  (answered : engine.Answered)

end Releasing

end Engine

end Compositor
