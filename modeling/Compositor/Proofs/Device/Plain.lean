import Compositor.Proofs.Device.Answers
import Compositor.Proofs.Device.Fences
import Compositor.RetireQueue

/-!
# Plain stretches of a device

Most of what an engine asks of a device neither makes an image nor draws: destroying, submitting,
draining and waiting. Such a stretch leaves alone how many images were issued and which imports are
rejected, and its events tell of no request, no creation and no draw. This holds whether or not the
device is lost on the way.
-/

set_option autoImplicit false

namespace Compositor

/-- Holds for the events of making images and drawing. -/
def DeviceEvent.isProductive : DeviceEvent → Bool
  | .requested .. | .created _ | .drawn _ => true
  | _ => false

namespace Device

/-- Nothing was requested, made or drawn in between. -/
structure Plain (before after : Device) : Prop where
  options : after.options = before.options
  issued : after.issued = before.issued
  rejecting : after.rejecting = before.rejecting
  lost : before.lost = true → after.lost = true
  events : ∃ added : History, after.events = added ++ before.events ∧
    ∀ event ∈ added, event.isProductive = false

namespace Plain

theorem refl (device : Device) : Plain device device := ⟨rfl, rfl, rfl, id, [], rfl, by simp⟩

theorem trans {first second third : Device} (left : Plain first second)
    (right : Plain second third) : Plain first third := by
  obtain ⟨before, beforeEq, beforePlain⟩ := left.events
  obtain ⟨after, afterEq, afterPlain⟩ := right.events
  refine ⟨right.options.trans left.options, right.issued.trans left.issued,
    right.rejecting.trans left.rejecting, right.lost ∘ left.lost, after ++ before, ?_, ?_⟩
  · rw [afterEq, beforeEq, List.append_assoc]
  · intro event member
    rcases List.mem_append.mp member with late | early
    · exact afterPlain event late
    · exact beforePlain event early

theorem usable {before after : Device} (plain : Plain before after)
    (usable : after.lost = false) : before.lost = false := by
  cases lost : before.lost with
  | false => rfl
  | true => exact absurd ((plain.lost lost).symm.trans usable) (by simp)

/-- One event was added. -/
theorem told {before after : Device} (event : DeviceEvent)
    (options : after.options = before.options) (issued : after.issued = before.issued)
    (rejecting : after.rejecting = before.rejecting) (lost : after.lost = before.lost)
    (events : after.events = event :: before.events) (plain : event.isProductive = false) :
    Plain before after :=
  ⟨options, issued, rejecting, lost.trans, [event], events, by simpa using plain⟩

theorem untold {before after : Device} (options : after.options = before.options)
    (issued : after.issued = before.issued) (rejecting : after.rejecting = before.rejecting)
    (lost : after.lost = before.lost) (events : after.events = before.events) :
    Plain before after :=
  ⟨options, issued, rejecting, lost.trans, [], events, by simp⟩

variable (device : Device)

theorem log {event : DeviceEvent} (plain : event.isProductive = false) :
    Plain device (device.log event) := told event rfl rfl rfl rfl rfl plain

theorem settle (outcome : FenceStatus) (fences : List Fence) :
    Plain device (device.settle outcome fences) := told _ rfl rfl rfl rfl rfl rfl

theorem lose : Plain device device.lose :=
  ⟨rfl, rfl, rfl, fun _ => rfl, [.lost, .settled .error device.pending], rfl,
    by simp [DeviceEvent.isProductive]⟩

theorem signalAll : Plain device device.signalAll := told _ rfl rfl rfl rfl rfl rfl

theorem signalNext : Plain device device.signalNext.2 := by
  unfold Device.signalNext
  split
  · exact refl device
  · exact told _ rfl rfl rfl rfl rfl rfl

theorem settleFence (outcome : FenceStatus) (fence : Fence) :
    Plain device (device.settleFence outcome fence) := untold rfl rfl rfl rfl rfl

theorem createFence (origin : FenceOrigin) (status : FenceStatus) :
    Plain device (device.createFence origin status).2 := untold rfl rfl rfl rfl rfl

theorem scheduleLoss (call : ContextCall) (passing : Nat) :
    Plain device (device.scheduleLoss call passing) := untold rfl rfl rfl rfl rfl

theorem await (fence : Fence) : Plain device (device.await fence).2 := by
  unfold Device.await
  dsimp only
  split
  · exact lose device
  · exact refl device

/-! ## Context calls -/

theorem arrive (call : ContextCall) : Plain device (device.arrive call) := by
  have counted : Plain device (device.countDown call) := untold rfl rfl rfl rfl rfl
  unfold Device.arrive
  dsimp only
  split
  · exact counted.trans (lose _)
  · exact counted

theorem checkLost : Plain device device.checkLost.2 := arrive device .checkLost

theorem release (mode : Mode) (handle : ImageHandle) :
    Plain device (device.release mode handle) := by
  unfold Device.release
  split
  · exact log device rfl
  · exact told _ rfl rfl rfl rfl rfl rfl

theorem destroyImage (mode : Mode) (handle : ImageHandle) :
    Plain device (device.destroyImage mode handle) := by
  have handed : Plain (device.arrive .destroyImage)
      ((device.arrive .destroyImage).log (.handed mode .destroy [handle])) := log _ rfl
  exact (arrive device .destroyImage).trans (handed.trans (release _ mode handle))

theorem ofFlushes {before after : Device} {fence : Option Fence}
    (flushes : Flushes before fence after) : Plain before after := by
  cases flushes with
  | unfenced => exact log before rfl
  | signaled =>
      have opened : Plain before before.opened := told (.flushed _) rfl rfl rfl rfl rfl rfl
      exact opened.trans (settle _ _ _)
  | waiting => exact told (.flushed _) rfl rfl rfl rfl rfl rfl

theorem flush : Plain device device.flush.2 :=
  (arrive device .flush).trans (ofFlushes (acceptFlush_flushes _))

theorem acceptFinish : Plain device device.acceptFinish.2 := by
  unfold Device.acceptFinish
  split
  · exact log device rfl
  · exact (log device rfl).trans (signalAll _)

theorem finish : Plain device device.finish.2 := (arrive device .finish).trans (acceptFinish _)

/-- Commands are plain if they record nothing productive. -/
theorem ofUse {before : Device} {mode : Mode} {use : ImageUse} {handles : List ImageHandle}
    {found : Option Misuse} {refusal : EngineError} {event : DeviceEvent}
    {answered : Except EngineError Unit × Device}
    (answers : before.UseAnswered mode use handles found refusal event answered)
    (plain : event.isProductive = false) : Plain before answered.2 := by
  have handed : Plain before (before.log (.handed mode use handles)) := log before rfl
  cases answers with
  | lost => exact handed
  | misused => exact handed.trans (log _ rfl)
  | done => exact handed.trans (log _ plain)

theorem beginFrame (mode : Mode) (target : ImageHandle) (display : Display) :
    Plain device (device.beginFrame mode target display).2 :=
  (arrive device .beginFrame).trans (ofUse (acceptBegin_answered _ mode target) rfl)

end Plain

end Device

namespace Contexts

variable (contexts : Contexts)

theorem destroy_plain (device : Device) (image : Image) :
    Device.Plain device (contexts.destroy device image) := by
  unfold destroy
  split
  · exact .destroyImage device _ _
  · exact .refl device

theorem destroyAll_plain (images : List Image) (device : Device) :
    Device.Plain device (contexts.destroyAll device images) := by
  induction images generalizing device with
  | nil => exact .refl device
  | cons image images ih => exact (contexts.destroy_plain device image).trans (ih _)

end Contexts

end Compositor
