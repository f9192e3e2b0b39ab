import Compositor.Device.Context

/-!
# What a device answers

A request for an image is granted, unless the device is lost or rejects imports of the buffer.
Beginning a frame and drawing go the same way: the device answers that it is lost, or that an image
was misused, or it does as it is told. All that is known of an answer follows from these cases.
-/

set_option autoImplicit false

namespace Compositor.Device

/-- What comes of a request for an image. -/
inductive ImageAnswered (device : Device) (mode : Mode) (kind : ImageKind)
    (request : ImportRequest) : Except BindError ImageHandle × Device → Prop where
  | lost : device.lost = true →
      ImageAnswered device mode kind request
        (.error .contextLost, device.log (.requested mode kind request))
  | rejected : device.lost = false → request.buffer.id ∈ device.rejecting →
      ImageAnswered device mode kind request
        (.error (.importFailed request.buffer.id (rejection kind)),
          device.log (.requested mode kind request))
  | made : device.lost = false → request.buffer.id ∉ device.rejecting →
      ImageAnswered device mode kind request
        (.ok ⟨device.issued + 1⟩,
          ((device.log (.requested mode kind request)).issue mode kind request.buffer.id).2)

/-- What comes of the use of images in a command, which is recorded as `event` if nothing was found
against it. -/
inductive UseAnswered (device : Device) (mode : Mode) (use : ImageUse)
    (handles : List ImageHandle) (found : Option Misuse) (refusal : EngineError)
    (event : DeviceEvent) : Except EngineError Unit × Device → Prop where
  | lost : device.lost = true →
      UseAnswered device mode use handles found refusal event
        (.error .contextLost, device.log (.handed mode use handles))
  | misused {misuse : Misuse} : device.lost = false → found = some misuse →
      UseAnswered device mode use handles found refusal event
        (.error refusal, (device.log (.handed mode use handles)).log (.misused misuse))
  | done : device.lost = false → found = none →
      UseAnswered device mode use handles found refusal event
        (.ok (), (device.log (.handed mode use handles)).log event)

theorem answer_answered (device : Device) (mode : Mode) (kind : ImageKind)
    (request : ImportRequest) :
    device.ImageAnswered mode kind request (device.answer mode kind request) := by
  fun_cases answer device mode kind request with
  | case1 asked lost => exact .lost lost
  | case2 asked usable rejected => exact .rejected (eq_false_of_ne_true usable) rejected
  | case3 asked usable wanted handle after issued =>
      cases issued
      exact .made (eq_false_of_ne_true usable) wanted

theorem acceptBegin_answered (device : Device) (mode : Mode) (target : ImageHandle) :
    device.UseAnswered mode .beginFrame [target] (device.misuse? mode .beginFrame target)
      (.validation .targetNotLive) (.began mode target) (device.acceptBegin mode target) := by
  fun_cases acceptBegin device mode target with
  | case1 handed lost => exact .lost lost
  | case2 handed usable misuse found => exact .misused (eq_false_of_ne_true usable) found
  | case3 handed usable free => exact .done (eq_false_of_ne_true usable) free

/-- Of the images of a draw, only the one to sample is looked at. -/
theorem acceptDraw_answered (device : Device) (mode : Mode) (target : ImageHandle)
    (source : Option ImageHandle) :
    device.UseAnswered mode .draw (target :: source.toList)
      (source.bind (device.misuse? mode .draw)) (.validation .sourceNotLive)
      (.drawn ⟨mode, target, source⟩) (device.acceptDraw mode target source) := by
  fun_cases acceptDraw device mode target source with
  | case1 handed lost => exact .lost lost
  | case2 handed usable misuse found => exact .misused (eq_false_of_ne_true usable) found
  | case3 handed usable free => exact .done (eq_false_of_ne_true usable) free

namespace ImageAnswered

variable {device : Device} {mode : Mode} {kind : ImageKind} {request : ImportRequest}
  {answered : Except BindError ImageHandle × Device}

theorem lost_eq (answers : device.ImageAnswered mode kind request answered) :
    answered.2.lost = device.lost := by
  cases answers <;> rfl

theorem pending_eq (answers : device.ImageAnswered mode kind request answered) :
    answered.2.pending = device.pending := by
  cases answers <;> rfl

end ImageAnswered

namespace UseAnswered

variable {device : Device} {mode : Mode} {use : ImageUse} {handles : List ImageHandle}
  {found : Option Misuse} {refusal : EngineError} {event : DeviceEvent}
  {answered : Except EngineError Unit × Device}

theorem live_eq
    (answers : device.UseAnswered mode use handles found refusal event answered) :
    answered.2.live = device.live := by
  cases answers <;> rfl

theorem pending_eq
    (answers : device.UseAnswered mode use handles found refusal event answered) :
    answered.2.pending = device.pending := by
  cases answers <;> rfl

end UseAnswered

end Compositor.Device
