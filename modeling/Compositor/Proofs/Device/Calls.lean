import Compositor.Proofs.Device.Calm
import Compositor.Proofs.Device.Pending

/-!
# Calls between submissions

Apart from submitting and draining, an engine asks of its device whether it is lost, has it make and
destroy images and record draws, and waits. A series of such calls is calm, and it is a series of
effects.
-/

set_option autoImplicit false

namespace Compositor.Device

/-- A call of a context that neither submits nor drains, or a wait. -/
inductive Call : Device → Device → Prop where
  | checkLost {device : Device} : Call device device.checkLost.2
  | importBuffer {device : Device} {mode : Mode} {request : ImportRequest} :
      Call device (device.importBuffer mode request).2
  | createOutputImage {device : Device} {mode : Mode} {request : ImportRequest} :
      Call device (device.createOutputImage mode request).2
  | destroyImage {device : Device} {mode : Mode} {handle : ImageHandle} :
      Call device (device.destroyImage mode handle)
  | beginFrame {device : Device} {mode : Mode} {target : ImageHandle} {display : Display} :
      Call device (device.beginFrame mode target display).2
  | drawLayer {device : Device} {mode : Mode} {target : ImageHandle}
      {source : Option ImageHandle} {layer : Layer} :
      Call device (device.drawLayer mode target source layer).2
  | await {device : Device} {fence : Fence} : Call device (device.await fence).2

abbrev Calls : Device → Device → Prop := Relation.ReflTransGen Call

theorem Call.calm {before after : Device} (call : Call before after) : Calm before after := by
  cases call with
  | checkLost => exact .checkLost before
  | importBuffer => exact (Calm.arrive before .importBuffer).trans (.answer _ _ _ _)
  | createOutputImage => exact (Calm.arrive before .createOutputImage).trans (.answer _ _ _ _)
  | destroyImage => exact .destroyImage before _ _
  | beginFrame => exact .beginFrame before _ _ _
  | drawLayer => exact .drawLayer before _ _ _ _
  | await => exact .await before _

/-! ## Calls as effects -/

theorem arrive_effects (device : Device) (call : ContextCall) :
    Effects device (device.arrive call) := .ofSteps (arrive_steps device call)

theorem ImageAnswered.effects {device : Device} {mode : Mode} {kind : ImageKind}
    {request : ImportRequest} {answered : Except BindError ImageHandle × Device}
    (answers : device.ImageAnswered mode kind request answered) :
    Effects device answered.2 := by
  have asked : Effects device (device.log (.requested mode kind request)) :=
    .single (.step .request)
  cases answers with
  | lost | rejected => exact asked
  | made => exact asked.tail .issue

theorem UseAnswered.effects {device : Device} {mode : Mode} {use : ImageUse}
    {handles : List ImageHandle} {found : Option Misuse} {refusal : EngineError}
    {event : DeviceEvent} {answered : Except EngineError Unit × Device}
    (answers : device.UseAnswered mode use handles found refusal event answered)
    (note : event.isNote = true) : Effects device answered.2 := by
  have handed : Effects device (device.log (.handed mode use handles)) := .single (.note rfl)
  cases answers with
  | lost => exact handed
  | misused => exact handed.tail (.note rfl)
  | done => exact handed.tail (.note note)

theorem Call.effects {before after : Device} (call : Call before after) :
    Effects before after := by
  cases call with
  | checkLost => exact arrive_effects before .checkLost
  | importBuffer =>
      exact (arrive_effects before .importBuffer).trans (answer_answered _ _ _ _).effects
  | createOutputImage =>
      exact (arrive_effects before .createOutputImage).trans (answer_answered _ _ _ _).effects
  | destroyImage => exact (arrive_effects before .destroyImage).tail .destroy
  | beginFrame =>
      exact (arrive_effects before .beginFrame).trans ((acceptBegin_answered _ _ _).effects rfl)
  | drawLayer =>
      exact (arrive_effects before .drawLayer).trans ((acceptDraw_answered _ _ _ _).effects rfl)
  | await => exact .ofSteps (await_steps before _)

namespace Calls

variable {before after : Device}

theorem calm (calls : Calls before after) : Calm before after := by
  induction calls with
  | refl => exact .refl before
  | tail _ call ih => exact ih.trans call.calm

theorem effects (calls : Calls before after) : Effects before after := by
  induction calls with
  | refl => exact .refl
  | tail _ call ih => exact ih.trans call.effects

/-! ## Making images -/

variable (device : Device)

theorem bindImage (mode : Mode) (buffer : Buffer) (limit : UInt32) :
    Calls device (device.bindImage mode buffer limit).2 := by
  have asked : Calls device device.checkLost.2 := .single .checkLost
  unfold Device.bindImage
  cases outcome : device.checkLost with
  | mk lost known =>
      rw [outcome] at asked
      cases lost with
      | true => exact asked
      | false =>
          dsimp only
          cases ImportRequest.check buffer mode limit with
          | error error => exact asked
          | ok request => exact asked.tail .importBuffer

theorem createTarget (mode : Mode) (buffer : Buffer) (limit : UInt32) :
    Calls device (device.createTarget mode buffer limit).2 := by
  have asked : Calls device device.checkLost.2 := .single .checkLost
  unfold Device.createTarget
  cases outcome : device.checkLost with
  | mk lost known =>
      rw [outcome] at asked
      cases lost with
      | true => exact asked
      | false =>
          dsimp only
          cases ImportRequest.check buffer mode limit with
          | error error => exact asked
          | ok request => exact asked.tail .createOutputImage

end Calls

end Compositor.Device
