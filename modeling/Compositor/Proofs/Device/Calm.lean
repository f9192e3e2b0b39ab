import Compositor.Proofs.Device.Dealings

/-!
# Calm stretches of a device

Between two submissions an engine makes and destroys images, records draws and waits. None of this
settles a fence as long as the device stays usable, and nothing but a scheduled loss or a tripwire
makes the device unusable.
-/

set_option autoImplicit false

namespace Compositor

namespace Fences

/-- No wait loses the device. -/
def Untrapped (fences : Fences) : Prop := ∀ fence, fences.isTripwire fence = false

theorem empty_untrapped : Untrapped .empty := fun _ => rfl

end Fences

namespace Device

/-- Nothing was submitted in between, and the device was not drained. -/
structure Calm (before after : Device) : Prop where
  options : after.options = before.options
  rejecting : after.rejecting = before.rejecting
  issued : before.issued ≤ after.issued
  flushes : after.flushes = before.flushes
  lost : before.lost = true → after.lost = true
  /-- As long as the device is usable, no fence settles. -/
  fences : after.lost = false → after.fences = before.fences
  schedule : before.schedule = [] → after.schedule = []
  /-- Only what was set up before can lose the device. -/
  kept : before.schedule = [] → before.fences.Untrapped → after.lost = before.lost

namespace Calm

theorem refl (device : Device) : Calm device device :=
  ⟨rfl, rfl, Nat.le_refl _, rfl, id, fun _ => rfl, id, fun _ _ => rfl⟩

theorem usable {before after : Device} (calm : Calm before after) (usable : after.lost = false) :
    before.lost = false := by
  cases lost : before.lost with
  | false => rfl
  | true => exact absurd ((calm.lost lost).symm.trans usable) (by simp)

theorem trans {first second third : Device} (left : Calm first second)
    (right : Calm second third) : Calm first third where
  options := right.options.trans left.options
  rejecting := right.rejecting.trans left.rejecting
  issued := Nat.le_trans left.issued right.issued
  flushes := right.flushes.trans left.flushes
  lost := right.lost ∘ left.lost
  fences := fun usable => (right.fences usable).trans (left.fences (right.usable usable))
  schedule := right.schedule ∘ left.schedule
  kept := fun nothing untrapped => by
    have kept := left.kept nothing untrapped
    cases lost : first.lost with
    | true => exact right.lost (left.lost lost)
    | false =>
        have usable : second.lost = false := kept.trans lost
        have same := left.fences usable
        exact (right.kept (left.schedule nothing) (same ▸ untrapped)).trans usable

/-- One event was added, and images may have come or gone. -/
theorem told {before after : Device} (event : DeviceEvent)
    (options : after.options = before.options) (rejecting : after.rejecting = before.rejecting)
    (issued : before.issued ≤ after.issued) (lost : after.lost = before.lost)
    (fences : after.fences = before.fences) (schedule : after.schedule = before.schedule)
    (events : after.events = event :: before.events) (quiet : event.isFlush = false) :
    Calm before after := by
  refine ⟨options, rejecting, issued, ?_, lost.trans, fun _ => fences, schedule.trans,
    fun _ _ => lost⟩
  rw [Device.flushes, events, List.countP_cons_of_neg (by simp [quiet])]
  rfl

variable (device : Device)

theorem log {event : DeviceEvent} (quiet : event.isFlush = false) :
    Calm device (device.log event) := told event rfl rfl (Nat.le_refl _) rfl rfl rfl rfl quiet

theorem lose_flushes : device.lose.flushes = device.flushes := by
  simp [Device.flushes, Device.lose, settle, Device.log, DeviceEvent.isFlush]

theorem arrive (call : ContextCall) : Calm device (device.arrive call) := by
  have rejecting := (Plain.arrive device call).rejecting
  have options := (Plain.arrive device call).options
  have issued := Nat.le_of_eq (Plain.arrive device call).issued.symm
  have lost := (Plain.arrive device call).lost
  unfold Device.arrive at rejecting options issued lost ⊢
  dsimp only at rejecting options issued lost ⊢
  split at rejecting
  · rename_i due
    rw [if_pos due] at options issued lost ⊢
    refine ⟨options, rejecting, issued, lose_flushes _, lost, nofun, ?_, ?_⟩
    · intro nothing
      simp [Device.lose, settle, Device.log, countDown, nothing]
    · intro nothing
      simp [lossDue, nothing] at due
  · rename_i later
    rw [if_neg later] at options issued lost ⊢
    refine ⟨options, rejecting, issued, rfl, lost, fun _ => rfl, ?_, fun _ _ => rfl⟩
    intro nothing
    simp [countDown, nothing]

theorem await (fence : Fence) : Calm device (device.await fence).2 := by
  unfold Device.await
  dsimp only
  split
  · rename_i trapped
    refine ⟨rfl, rfl, Nat.le_refl _, lose_flushes device, fun _ => rfl, nofun, ?_, ?_⟩
    · intro nothing
      simp [Device.lose, settle, Device.log, nothing]
    · intro _ untrapped
      rw [untrapped fence] at trapped
      cases trapped
  · exact refl device

theorem checkLost : Calm device device.checkLost.2 := arrive device .checkLost

theorem answer (mode : Mode) (kind : ImageKind) (request : ImportRequest) :
    Calm device (device.answer mode kind request).2 := by
  have asked : Calm device (device.log (.requested mode kind request)) := log device rfl
  have answers := answer_answered device mode kind request
  generalize device.answer mode kind request = answered at answers ⊢
  cases answers with
  | lost | rejected => exact asked
  | made => exact asked.trans (told _ rfl rfl (Nat.le_succ _) rfl rfl rfl rfl rfl)

theorem release (mode : Mode) (handle : ImageHandle) :
    Calm device (device.release mode handle) := by
  unfold Device.release
  split
  · exact log device rfl
  · exact told _ rfl rfl (Nat.le_refl _) rfl rfl rfl rfl rfl

theorem destroyImage (mode : Mode) (handle : ImageHandle) :
    Calm device (device.destroyImage mode handle) := by
  have handed : Calm device
      ((device.arrive .destroyImage).log (.handed mode .destroy [handle])) :=
    (arrive device .destroyImage).trans (log _ rfl)
  exact handed.trans (release _ mode handle)

theorem ofUse {before : Device} {mode : Mode} {use : ImageUse} {handles : List ImageHandle}
    {found : Option Misuse} {refusal : EngineError} {event : DeviceEvent}
    {answered : Except EngineError Unit × Device}
    (answers : before.UseAnswered mode use handles found refusal event answered)
    (quiet : event.isFlush = false) : Calm before answered.2 := by
  have handed : Calm before (before.log (.handed mode use handles)) := log before rfl
  cases answers with
  | lost => exact handed
  | misused => exact handed.trans (log _ rfl)
  | done => exact handed.trans (log _ quiet)

theorem beginFrame (mode : Mode) (target : ImageHandle) (display : Display) :
    Calm device (device.beginFrame mode target display).2 :=
  (arrive device .beginFrame).trans (ofUse (acceptBegin_answered _ mode target) rfl)

theorem drawLayer (mode : Mode) (target : ImageHandle) (source : Option ImageHandle)
    (layer : Layer) : Calm device (device.drawLayer mode target source layer).2 :=
  (arrive device .drawLayer).trans (ofUse (acceptDraw_answered _ mode target source) rfl)

end Calm

/-! ## New images -/

theorem answer_made {device after : Device} {mode : Mode} {kind : ImageKind}
    {request : ImportRequest} {handle : ImageHandle}
    (made : device.answer mode kind request = (.ok handle, after)) :
    handle = ⟨device.issued + 1⟩ ∧ after.issued = device.issued + 1 := by
  have answers := answer_answered device mode kind request
  rw [made] at answers
  cases answers with
  | made => exact ⟨rfl, rfl⟩

variable {device after : Device} {mode : Mode} {buffer : Buffer} {limit : UInt32} {image : Image}

/-- A texture has the next handle. -/
theorem bindImage_fresh (made : device.bindImage mode buffer limit = (.ok image, after)) :
    image = .fresh ⟨device.issued + 1⟩ buffer.id mode .texture ∧
      after.issued = device.issued + 1 := by
  have known := (Plain.checkLost device).issued
  unfold bindImage at made
  cases asked : device.checkLost with
  | mk lost usable =>
      rw [asked] at made known
      cases lost with
      | true => cases made
      | false =>
          have arrived := (Plain.arrive usable .importBuffer).issued.trans known
          cases checked : ImportRequest.check buffer mode limit with
          | error error =>
              rw [checked] at made
              cases made
          | ok request =>
              rw [checked] at made
              unfold importBuffer at made
              dsimp only at made
              cases answered : (usable.arrive .importBuffer).answer mode .texture request with
              | mk result last =>
                  rw [answered] at made
                  cases result with
                  | error error => cases made
                  | ok handle =>
                      obtain ⟨rfl, issued⟩ := answer_made answered
                      cases made
                      rw [arrived] at issued ⊢
                      exact ⟨rfl, issued⟩

/-- A target has the next handle. -/
theorem createTarget_fresh (made : device.createTarget mode buffer limit = (.ok image, after)) :
    image = .fresh ⟨device.issued + 1⟩ buffer.id mode .output ∧
      after.issued = device.issued + 1 := by
  have known := (Plain.checkLost device).issued
  unfold createTarget at made
  cases asked : device.checkLost with
  | mk lost usable =>
      rw [asked] at made known
      cases lost with
      | true => cases made
      | false =>
          have arrived := (Plain.arrive usable .createOutputImage).issued.trans known
          cases checked : ImportRequest.check buffer mode limit with
          | error error =>
              rw [checked] at made
              cases made
          | ok request =>
              rw [checked] at made
              unfold createOutputImage at made
              dsimp only at made
              cases answered : (usable.arrive .createOutputImage).answer mode .output
                  { request with protectedContent := mode.isSecure } with
              | mk result last =>
                  rw [answered] at made
                  cases result with
                  | error error => cases made
                  | ok handle =>
                      obtain ⟨rfl, issued⟩ := answer_made answered
                      cases made
                      rw [arrived] at issued ⊢
                      exact ⟨rfl, issued⟩

end Device

end Compositor
